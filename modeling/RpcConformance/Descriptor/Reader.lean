import RpcConformance.Descriptor.Basic
import RpcConformance.Json.Reader
import RpcConformance.Text.Blank

/-!
# Reading descriptors

Members may come in any order, and unknown ones are skipped. The lists and the minor version
may be left out; the other fields may not. Each record may also be written as a list of its
fields, and a protocol as an object whose only member has the value `null`.
-/

namespace RpcConformance.Descriptor

open Json

/-- The protocol of a name that has been read. -/
def protocolOf (name : String) (rest : List Char) : Except ReadError (Protocol × List Char) :=
  match Protocol.ofName? name with
  | some p => .ok (p, rest)
  | none => stop (.unknownName name (Protocol.all.map Protocol.name)) rest

/-- Reads a protocol that is written as an object, after the brace. -/
def readProtocolObject : Reader Protocol := fun cs =>
  match skipSpace cs with
  | [] => stop .endInValue []
  | '"' :: rest => do
    let (name, rest) ← readStringRest rest
    let (p, rest) ← protocolOf name rest
    let rest ← readColon rest
    let ((), rest) ← readNull rest
    match skipSpace rest with
    | [] => stop .endInObject []
    | '\x7d' :: rest => return (p, rest)
    | rest => stop .noValue rest
  | rest => stopPast .keyIsNoString rest

/-- Reads a protocol. -/
def readProtocol : Reader Protocol := fun cs =>
  match skipSpace cs with
  | [] => stop .endInValue []
  | '"' :: rest => do
    let (name, rest) ← readStringRest rest
    protocolOf name rest
  | '\x7b' :: rest => readProtocolObject rest
  | rest => stopPast .noValue rest

/-- What is said to be wanted where a record of a type is wanted. -/
def recordName (type : String) : String := "struct " ++ type

/-- What is said to be wanted where a list with the fields of a record is too short. -/
def fieldsName (type : String) (count : Nat) : String :=
  recordName type ++ " with " ++ Decimal.text count ++ " elements"

/-- The fields of a version that have been read. -/
structure VersionFields where
  major : Option Int := none
  minor : Option Int := none

def readVersionMember (f : VersionFields) (key : String) : Reader VersionFields :=
  if key = "major" then readField "major" f.major readInt32 fun i => { f with major := some i }
  else if key = "minor" then readField "minor" f.minor readInt32 fun i => { f with minor := some i }
  else skipFieldOf f

/-- The type of a version as faults name it. -/
def versionType : String := "HttpVersion"

def readVersion : Reader HttpVersion :=
  readRecord (recordName versionType)
    (fun cs => do
      let (major, rest) ← requireItem (fieldsName versionType 2) 0 readInt32 cs
      let (minor, rest) ← optionalItem 0 readInt32 rest
      return (⟨major, minor⟩, rest))
    (fun cs => do
      let (f, rest) ← readMembers readVersionMember (cs.length + 1) true {} cs
      let major ← require "major" f.major rest
      return (⟨major, f.minor.getD 0⟩, rest))

/-- The fields of a protocol entry that have been read. -/
structure SupportFields where
  protocol : Option Protocol := none
  httpVersions : Option (List HttpVersion) := none
  port : Option String := none

def readSupportMember (f : SupportFields) (key : String) : Reader SupportFields :=
  if key = "protocol" then
    readField "protocol" f.protocol readProtocol fun p => { f with protocol := some p }
  else if key = "httpVersions" then
    readField "httpVersions" f.httpVersions (readList readVersion)
      fun vs => { f with httpVersions := some vs }
  else if key = "port" then readField "port" f.port readString fun s => { f with port := some s }
  else skipFieldOf f

/-- The type of a protocol entry as faults name it. -/
def supportType : String := "ProtocolSupport"

/-- Reads a protocol entry. Where the versions are left out at the end of a list, so is the
port, which may not be. -/
def readSupport : Reader ServedProtocol :=
  readRecord (recordName supportType)
    (fun cs => do
      let wanted := fieldsName supportType 3
      let (protocol, rest) ← requireItem wanted 0 readProtocol cs
      let (versions, rest) ← optionalItem [] (readList readVersion) rest
      let (port, rest) ← requireItem wanted 2 readString rest
      return (⟨protocol, versions, port⟩, rest))
    (fun cs => do
      let (f, rest) ← readMembers readSupportMember (cs.length + 1) true {} cs
      let protocol ← require "protocol" f.protocol rest
      let port ← require "port" f.port rest
      return (⟨protocol, f.httpVersions.getD [], port⟩, rest))

/-- The fields of a descriptor that have been read. -/
structure DescriptorFields where
  host : Option String := none
  protocols : Option (List ServedProtocol) := none

def readDescriptorMember (f : DescriptorFields) (key : String) : Reader DescriptorFields :=
  if key = "host" then readField "host" f.host readString fun s => { f with host := some s }
  else if key = "protocols" then
    readField "protocols" f.protocols (readList readSupport)
      fun ps => { f with protocols := some ps }
  else skipFieldOf f

/-- The type of a descriptor as faults name it. -/
def descriptorType : String := "ServerMetadata"

def readDescriptor : Reader Descriptor :=
  readRecord (recordName descriptorType)
    (fun cs => do
      let (host, rest) ← requireItem (fieldsName descriptorType 2) 0 readString cs
      let (protocols, rest) ← optionalItem [] (readList readSupport) rest
      return (⟨host, protocols⟩, rest))
    (fun cs => do
      let (f, rest) ← readMembers readDescriptorMember (cs.length + 1) true {} cs
      let host ← require "host" f.host rest
      return (⟨host, f.protocols.getD []⟩, rest))

/-- Reads a whole text with nothing but white space after the descriptor. -/
def ofChars (cs : List Char) : Except ReadError Descriptor := do
  let (d, rest) ← readDescriptor cs
  match skipSpace rest with
  | [] => return d
  | rest => stopPast .trailingCharacters rest

/-- Reads a line, with white space of any kind around it. -/
def ofLine (line : String) : Except ReadError Descriptor := ofChars (Text.trim line.toList)

/-- What is said of a line that is no descriptor: the fault and its place, of which white space
around the line is no part. -/
def errorMessage (line : String) (e : ReadError) : String := e.message (Text.trim line.toList)

end RpcConformance.Descriptor
