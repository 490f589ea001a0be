import RpcConformance.Json.Value

/-!
# Server descriptors

A test server announces itself in one line of JSON: its host, and for each protocol that it
speaks the HTTP versions and the port. A minor version of zero is left out.
-/

namespace RpcConformance

/-- A protocol that a server may speak. -/
inductive Protocol
  | unspecified
  | connect
  | grpc
  | grpcWeb
deriving DecidableEq

namespace Protocol

def all : List Protocol := [unspecified, connect, grpc, grpcWeb]

/-- The name of a protocol in a descriptor. -/
def name : Protocol → String
  | unspecified => "PROTOCOL_UNSPECIFIED"
  | connect => "PROTOCOL_CONNECT"
  | grpc => "PROTOCOL_GRPC"
  | grpcWeb => "PROTOCOL_GRPC_WEB"

def ofName? (s : String) : Option Protocol := all.find? (·.name == s)

end Protocol

structure HttpVersion where
  major : Int
  minor : Int := 0
deriving DecidableEq

/-- How one protocol of a server is reached. The port is a text, as other servers write it. -/
structure ServedProtocol where
  protocol : Protocol
  httpVersions : List HttpVersion := []
  port : String
deriving DecidableEq

/-- What a server announces. -/
structure Descriptor where
  host : String
  protocols : List ServedProtocol := []
deriving DecidableEq

namespace Descriptor

/-- A server that speaks one protocol without encryption over HTTP/2. -/
def grpc (host : String) (port : Nat) : Descriptor :=
  ⟨host, [⟨.grpc, [⟨2, 0⟩], Decimal.text port⟩]⟩

def versionJson (v : HttpVersion) : Json :=
  .obj (("major", .int v.major) :: if v.minor = 0 then [] else [("minor", .int v.minor)])

def supportJson (s : ServedProtocol) : Json :=
  .obj [("protocol", .str s.protocol.name),
    ("httpVersions", .arr (s.httpVersions.map versionJson)), ("port", .str s.port)]

def toJson (d : Descriptor) : Json :=
  .obj [("host", .str d.host), ("protocols", .arr (d.protocols.map supportJson))]

/-- The descriptor as one line. -/
def line (d : Descriptor) : String := d.toJson.compactText

/-- The port of the first entry of a protocol, if it is one. -/
def portFor (d : Descriptor) (p : Protocol) : Option Nat :=
  (d.protocols.find? (·.protocol = p)).bind fun s => Decimal.unsigned? 16 s.port

end Descriptor

end RpcConformance
