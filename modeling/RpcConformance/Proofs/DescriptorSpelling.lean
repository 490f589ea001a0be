import RpcConformance.Descriptor.Reader
import RpcConformance.Proofs.RecordSpelling

/-!
# Descriptors are read by their content

Another server may write its descriptor in its own way: with the members of each object in any
order, with white space between the tokens, with members of its own whose values may be anything,
without the lists that are empty and with minor versions of zero.  `IsText` is the set of these
texts, which the line that this program writes is one of, and every one of them is read as the
descriptor.

The names of further members must spell a text.  The value of such a member may hold half of a
surrogate pair, since it is skipped, but its name is read before it is known to be of no use.

## Main results

* `spells_descriptor` — every text of a descriptor is read as that descriptor.
* `isText_line` — the line of a descriptor is one of them.
* `read_by_content` — so a descriptor is read by its content.
-/

namespace RpcConformance

open Json

/-! ## White space around a text -/

theorem Text.trim_append {before cs after : List Char} (hbefore : ∀ c ∈ before, isBlank c = true)
    (hafter : ∀ c ∈ after, isBlank c = true) (hfirst : ∀ c ∈ cs.head?, isBlank c = false)
    (hlast : ∀ c ∈ cs.getLast?, isBlank c = false) (hcs : cs ≠ []) :
    trim (before ++ cs ++ after) = cs := by
  have hstart (l : List Char) (hne : l ≠ []) (hl : ∀ c ∈ l.head?, isBlank c = false)
      (rest : List Char) : (l ++ rest).dropWhile isBlank = l ++ rest := by
    obtain ⟨c, l, rfl⟩ := List.exists_cons_of_ne_nil hne
    exact List.dropWhile_cons_of_neg (by rw [hl c rfl]; exact Bool.false_ne_true)
  have hreverse : (after.reverse ++ cs.reverse).dropWhile isBlank = cs.reverse := by
    rw [List.dropWhile_append_of_pos fun c hc => hafter c (List.mem_reverse.mp hc)]
    have := hstart cs.reverse (List.reverse_ne_nil_iff.mpr hcs)
      (fun c hc => hlast c (List.head?_reverse ▸ hc)) []
    rwa [List.append_nil] at this
  rw [trim, List.append_assoc, List.dropWhile_append_of_pos hbefore, hstart cs hcs hfirst,
    List.reverse_append, hreverse, List.reverse_reverse]

namespace Descriptor

/-- Every version has numbers of 32 bits. -/
def InRange (d : Descriptor) : Prop :=
  ∀ s ∈ d.protocols, ∀ v ∈ s.httpVersions, IsInt32 v.major ∧ IsInt32 v.minor

instance (d : Descriptor) : Decidable d.InRange :=
  inferInstanceAs
    (Decidable (∀ s ∈ d.protocols, ∀ v ∈ s.httpVersions, IsInt32 v.major ∧ IsInt32 v.minor))

/-! ## Texts -/

section Texts

variable (Admitted : List Char → Prop)

/-- The fields of a version. -/
def versionFields (v : HttpVersion) : List RecordField :=
  [⟨"major", (· = Decimal.signedDigits v.major), False⟩,
    ⟨"minor", (· = Decimal.signedDigits v.minor), v.minor = 0⟩]

def VersionText (text : List Char) (v : HttpVersion) : Prop :=
  RecordText Admitted (versionFields v) text

/-- The fields of a protocol entry. -/
def supportFields (s : ServedProtocol) : List RecordField :=
  [⟨"protocol", (Quotes · s.protocol.name), False⟩,
    ⟨"httpVersions", (ListText (VersionText Admitted) · s.httpVersions), s.httpVersions = []⟩,
    ⟨"port", (Quotes · s.port), False⟩]

def SupportText (text : List Char) (s : ServedProtocol) : Prop :=
  RecordText Admitted (supportFields Admitted s) text

/-- The fields of a descriptor. -/
def descriptorFields (d : Descriptor) : List RecordField :=
  [⟨"host", (Quotes · d.host), False⟩,
    ⟨"protocols", (ListText (SupportText Admitted) · d.protocols), d.protocols = []⟩]

/-- The text is one of the descriptor, with white space of any kind around it.  The objects in it
may have further members with the admitted names. -/
def IsText (d : Descriptor) (text : List Char) : Prop :=
  ∃ before body after, text = before ++ body ++ after ∧
    (∀ c ∈ before, Text.isBlank c = true) ∧ (∀ c ∈ after, Text.isBlank c = true) ∧
    RecordText Admitted (descriptorFields Admitted d) body

end Texts

/-! ## The form without white space -/

section Compact

variable {Admitted : List Char → Prop}

theorem versionText_compact (v : HttpVersion) :
    VersionText Admitted (versionJson v).compact v := by
  rw [versionJson]
  split
  · rename_i hzero
    refine recordText_compact ?_ (by simp) (by simp [versionFields, hzero])
    simp [WritesField, versionFields, compact]
  · refine recordText_compact ?_ (by simp) (by simp [versionFields])
    simp [WritesField, versionFields, compact]

theorem supportText_compact (s : ServedProtocol) :
    SupportText Admitted (supportJson s).compact s := by
  have hversions : ListText (VersionText Admitted)
      (Json.arr (s.httpVersions.map versionJson)).compact s.httpVersions :=
    listText_compact fun v _ => versionText_compact v
  refine recordText_compact ?_ (by simp) (by simp [supportFields])
  simpa [WritesField, supportFields, compact, quotes_string] using hversions

theorem recordText_toJson (d : Descriptor) :
    RecordText Admitted (descriptorFields Admitted d) d.toJson.compact := by
  have hprotocols : ListText (SupportText Admitted)
      (Json.arr (d.protocols.map supportJson)).compact d.protocols :=
    listText_compact fun s _ => supportText_compact s
  refine recordText_compact ?_ (by simp) (by simp [descriptorFields])
  simpa [WritesField, descriptorFields, compact, quotes_string] using hprotocols

/-- **The line of a descriptor is a text of it**, with white space of any kind around it. -/
theorem isText_line (d : Descriptor) {before after : List Char}
    (hbefore : ∀ c ∈ before, Text.isBlank c = true) (hafter : ∀ c ∈ after, Text.isBlank c = true) :
    d.IsText Admitted (before ++ d.line.toList ++ after) := by
  refine ⟨before, d.toJson.compact, after, ?_, hbefore, hafter, recordText_toJson d⟩
  rw [line, compactText, String.toList_ofList]

end Compact

/-! ## Reading -/

theorem protocolOf_name (p : Protocol) (rest : List Char) :
    protocolOf p.name rest = .ok (p, rest) := by
  cases p <;> rfl

theorem spells_protocol {text : List Char} {p : Protocol} (h : Quotes text p.name) :
    Spells readProtocol text p := by
  obtain ⟨body, rfl, hbody⟩ := h
  refine ⟨⟨'"', _, rfl, by decide, by decide⟩, ?_⟩
  intro cs rest hcs _
  rw [List.cons_append, List.append_assoc] at hcs
  rw [readProtocol, hcs]
  simp only [List.singleton_append, readStringRest_spelled hbody, bind, Except.bind]
  exact protocolOf_name p rest

/-- A field that was not seen has its default, so it is right where it may be left out. -/
theorem getD_seen {α : Type} {seen : Prop} [Decidable seen] {a default : α}
    (h : seen ∨ a = default) : (if seen then some a else none).getD default = a := by
  split_ifs with hseen
  · rfl
  · exact (h.resolve_left hseen).symm

/-- What has been read of a version when the given fields have been seen. -/
def versionState (v : HttpVersion) (seen : List String) : VersionFields where
  major := if "major" ∈ seen then some v.major else none
  minor := if "minor" ∈ seen then some v.minor else none

theorem reads_version {v : HttpVersion} (h : IsInt32 v.major ∧ IsInt32 v.minor) :
    ReadsFields readVersionMember (versionState v) (versionFields v) where
  field := by
    intro f seen text hf hseen hwrites
    obtain rfl | rfl : f = _ ∨ f = _ := by simpa [versionFields] using hf
    · obtain rfl : text = _ := hwrites
      exact .intro (if_pos rfl) (if_neg hseen) (spells_int h.1) (by simp [versionState])
    · obtain rfl : text = _ := hwrites
      have hother : "minor" ≠ "major" := by decide
      exact .intro ((if_neg hother).trans (if_pos rfl)) (if_neg hseen) (spells_int h.2)
        (by simp [versionState])
  further := by
    intro s key hkey
    obtain ⟨hmajor, hminor⟩ : key ≠ "major" ∧ key ≠ "minor" := by
      simpa [versionFields, eq_comm] using hkey
    rw [readVersionMember, if_neg hmajor, if_neg hminor]

theorem spells_version {text : List Char} {v : HttpVersion} (h : IsInt32 v.major ∧ IsInt32 v.minor)
    (htext : VersionText IsLegible text v) : Spells readVersion text v := by
  refine htext.spells (reads_version h) ?_
  intro keys cs rest hall hread
  obtain ⟨hmajor, hminor⟩ : "major" ∈ keys ∧ ("minor" ∈ keys ∨ v.minor = 0) := by
    simpa [versionFields] using hall
  have hdefault : (versionState v keys).minor.getD 0 = v.minor := getD_seen hminor
  have hfirst : (versionState v keys).major = some v.major := if_pos hmajor
  have hstart : versionState v [] = {} := rfl
  rw [hstart] at hread
  simp only [hread, bind, Except.bind, hfirst, require, hdefault, pure, Except.pure]

/-- What has been read of a protocol entry when the given fields have been seen. -/
def supportState (s : ServedProtocol) (seen : List String) : SupportFields where
  protocol := if "protocol" ∈ seen then some s.protocol else none
  httpVersions := if "httpVersions" ∈ seen then some s.httpVersions else none
  port := if "port" ∈ seen then some s.port else none

theorem reads_support {s : ServedProtocol}
    (h : ∀ v ∈ s.httpVersions, IsInt32 v.major ∧ IsInt32 v.minor) :
    ReadsFields readSupportMember (supportState s) (supportFields IsLegible s) where
  field := by
    intro f seen text hf hseen hwrites
    obtain rfl | rfl | rfl : f = _ ∨ f = _ ∨ f = _ := by simpa [supportFields] using hf
    · exact .intro (if_pos rfl) (if_neg hseen) (spells_protocol hwrites) (by simp [supportState])
    · have hversions : Spells (readList readVersion) text s.httpVersions :=
        hwrites.spells fun v hv _ => spells_version (h v hv)
      have hother : "httpVersions" ≠ "protocol" := by decide
      exact .intro ((if_neg hother).trans (if_pos rfl)) (if_neg hseen) hversions
        (by simp [supportState])
    · have hother : "port" ≠ "protocol" ∧ "port" ≠ "httpVersions" := by decide
      exact .intro ((if_neg hother.1).trans ((if_neg hother.2).trans (if_pos rfl)))
        (if_neg hseen) (spells_quotes hwrites) (by simp [supportState])
  further := by
    intro t key hkey
    obtain ⟨hprotocol, hversions, hport⟩ :
        key ≠ "protocol" ∧ key ≠ "httpVersions" ∧ key ≠ "port" := by
      simpa [supportFields, eq_comm] using hkey
    rw [readSupportMember, if_neg hprotocol, if_neg hversions, if_neg hport]

theorem spells_support {text : List Char} {s : ServedProtocol}
    (h : ∀ v ∈ s.httpVersions, IsInt32 v.major ∧ IsInt32 v.minor)
    (htext : SupportText IsLegible text s) : Spells readSupport text s := by
  refine htext.spells (reads_support h) ?_
  intro keys cs rest hall hread
  obtain ⟨hprotocol, hversions, hport⟩ :
      "protocol" ∈ keys ∧ ("httpVersions" ∈ keys ∨ s.httpVersions = []) ∧ "port" ∈ keys := by
    simpa [supportFields] using hall
  have hdefault : (supportState s keys).httpVersions.getD [] = s.httpVersions :=
    getD_seen hversions
  have hfirst : (supportState s keys).protocol = some s.protocol := if_pos hprotocol
  have hlast : (supportState s keys).port = some s.port := if_pos hport
  have hstart : supportState s [] = {} := rfl
  rw [hstart] at hread
  simp only [hread, bind, Except.bind, hfirst, hlast, require, hdefault, pure, Except.pure]

/-- What has been read of a descriptor when the given fields have been seen. -/
def descriptorState (d : Descriptor) (seen : List String) : DescriptorFields where
  host := if "host" ∈ seen then some d.host else none
  protocols := if "protocols" ∈ seen then some d.protocols else none

theorem reads_descriptor {d : Descriptor} (h : d.InRange) :
    ReadsFields readDescriptorMember (descriptorState d) (descriptorFields IsLegible d) where
  field := by
    intro f seen text hf hseen hwrites
    obtain rfl | rfl : f = _ ∨ f = _ := by simpa [descriptorFields] using hf
    · exact .intro (if_pos rfl) (if_neg hseen) (spells_quotes hwrites) (by simp [descriptorState])
    · have hprotocols : Spells (readList readSupport) text d.protocols :=
        hwrites.spells fun s hs _ => spells_support (h s hs)
      have hother : "protocols" ≠ "host" := by decide
      exact .intro ((if_neg hother).trans (if_pos rfl)) (if_neg hseen) hprotocols
        (by simp [descriptorState])
  further := by
    intro t key hkey
    obtain ⟨hhost, hprotocols⟩ : key ≠ "host" ∧ key ≠ "protocols" := by
      simpa [descriptorFields, eq_comm] using hkey
    rw [readDescriptorMember, if_neg hhost, if_neg hprotocols]

/-- **Every text of a descriptor is read as that descriptor.** -/
theorem spells_descriptor {text : List Char} {d : Descriptor} (h : d.InRange)
    (htext : RecordText IsLegible (descriptorFields IsLegible d) text) :
    Spells readDescriptor text d := by
  refine htext.spells (reads_descriptor h) ?_
  intro keys cs rest hall hread
  obtain ⟨hhost, hprotocols⟩ :
      "host" ∈ keys ∧ ("protocols" ∈ keys ∨ d.protocols = []) := by
    simpa [descriptorFields] using hall
  have hdefault : (descriptorState d keys).protocols.getD [] = d.protocols :=
    getD_seen hprotocols
  have hfirst : (descriptorState d keys).host = some d.host := if_pos hhost
  have hstart : descriptorState d [] = {} := rfl
  rw [hstart] at hread
  simp only [hread, bind, Except.bind, hfirst, require, hdefault, pure, Except.pure]

/-! ## Lines -/

/-- A record is no shorter without the white space around it. -/
theorem trim_recordText {Admitted : List Char → Prop} {fields : List RecordField}
    {before body after : List Char} (h : RecordText Admitted fields body)
    (hbefore : ∀ c ∈ before, Text.isBlank c = true) (hafter : ∀ c ∈ after, Text.isBlank c = true) :
    Text.trim (before ++ body ++ after) = body := by
  obtain ⟨inner, rfl⟩ := h.braces
  refine Text.trim_append hbefore hafter ?_ ?_ (List.cons_ne_nil _ _)
  · rintro c ⟨rfl⟩
    decide
  · rw [← List.cons_append, List.getLast?_concat]
    rintro c ⟨rfl⟩
    decide

theorem ofLine_of_isText {d : Descriptor} (h : d.InRange) {text : String}
    (htext : d.IsText IsLegible text.toList) : ofLine text = .ok d := by
  obtain ⟨before, body, after, hparts, hbefore, hafter, hrecord⟩ := htext
  have hstart : skipSpace body = body ++ [] := by
    obtain ⟨inner, rfl⟩ := hrecord.braces
    rw [List.append_nil, skipSpace_cons (by decide)]
  have hread := (spells_descriptor h hrecord).reads hstart nofun
  rw [ofLine, hparts, trim_recordText hrecord hbefore hafter, ofChars, hread]
  rfl

/-- **A descriptor is read by its content, not by its spelling.**  Its own line is one of its texts,
and all of them are read as the descriptor: those with the members of its objects in another order,
with further members whose names are legible and whose values are of any kind, with other white
space, without empty lists or with minor versions of zero. -/
theorem read_by_content {d : Descriptor} (h : d.InRange) :
    d.IsText IsLegible d.line.toList ∧
      ∀ text : String, d.IsText IsLegible text.toList → ofLine text = .ok d := by
  have hline : d.IsText IsLegible ([] ++ d.line.toList ++ []) := isText_line d nofun nofun
  rw [List.nil_append, List.append_nil] at hline
  exact ⟨hline, fun _ htext => ofLine_of_isText h htext⟩

/-- Half of a surrogate pair, as a string. -/
def loneSurrogate : List Char := ['"', '\\', 'u', 'd', '8', '0', '0', '"']

theorem isString_loneSurrogate : IsString loneSurrogate :=
  ⟨_, rfl, .code (.digits rfl rfl rfl rfl) .nil⟩

theorem not_quotes_loneSurrogate (s : String) : ¬ Quotes loneSurrogate s := by
  intro h
  cases h.read

def respelledDescriptor : Descriptor := ⟨"h", [⟨.grpc, [⟨2, 0⟩], "1"⟩]⟩

/-- The descriptor in another spelling: a further member stands first, and its value holds half of a
surrogate pair as a name and the end of an object in a string. -/
def respelledLine : String :=
  " \x7b \"x\" :[\x7b\"\\ud800\":-0.5\x7d, \"]\x7d\\\"\"],\"protocols\":[\x7b\"port\":\"1\"," ++
    "\"httpVersions\":[\x7b\"minor\":0,\"major\":2\x7d],\"protocol\":\"PROTOCOL_GRPC\"\x7d]," ++
    "\"host\":\"h\"\x7d"

theorem respelledLine_isRead :
    respelledDescriptor.InRange ∧ respelledDescriptor.IsText IsLegible respelledLine.toList ∧
      ofLine respelledLine = .ok respelledDescriptor := by
  have hone : Gap [' '] := List.forall_mem_singleton.mpr rfl
  have hzero : ['0'] = Decimal.signedDigits 0 := (Decimal.digits_of_lt (n := 0) (by decide)).symm
  have htwo : ['2'] = Decimal.signedDigits 2 := (Decimal.digits_of_lt (n := 2) (by decide)).symm
  have hversion : VersionText IsLegible _ ⟨2, 0⟩ :=
    ⟨_, ["minor", "major"], rfl,
      .field (.start Gap.nil) (List.mem_cons_of_mem _ List.mem_cons_self) (quotes_string "minor")
        Gap.nil Gap.nil hzero
        (.field (.comma Gap.nil Gap.nil) List.mem_cons_self (quotes_string "major")
          Gap.nil Gap.nil htwo (.done Gap.nil)),
      by decide, by simp [versionFields]⟩
  have hsupport : SupportText IsLegible _ ⟨.grpc, [⟨2, 0⟩], "1"⟩ :=
    ⟨_, ["port", "httpVersions", "protocol"], rfl,
      .field (.start Gap.nil) (List.mem_cons_of_mem _ (List.mem_cons_of_mem _ List.mem_cons_self))
        (quotes_string "port") Gap.nil Gap.nil (quotes_string "1")
        (.field (.comma Gap.nil Gap.nil) (List.mem_cons_of_mem _ List.mem_cons_self)
          (quotes_string "httpVersions") Gap.nil Gap.nil
          ⟨_, rfl, .more (.start Gap.nil) hversion (.done Gap.nil)⟩
          (.field (.comma Gap.nil Gap.nil) List.mem_cons_self (quotes_string "protocol")
            Gap.nil Gap.nil (quotes_string "PROTOCOL_GRPC") (.done Gap.nil))),
      by decide, by simp [supportFields]⟩
  have hdigit : IsDigits ['5'] := ⟨List.cons_ne_nil _ _, List.forall_mem_singleton.mpr rfl⟩
  have hnumber : IsNumber ['-', '0', '.', '5'] :=
    .negative ⟨['0'], ['.', '5'], [], rfl, .zero, .digits hdigit, .none⟩
  have hvalue : IsValue _ :=
    .list (.item (.start Gap.nil)
      (.object (.member (.start Gap.nil) isString_loneSurrogate Gap.nil Gap.nil (.number hnumber)
        (.membersEnd Gap.nil)))
      (.item (.comma Gap.nil hone) (.string (quotes_string "]\x7d\"").isString)
        (.itemsEnd Gap.nil)))
  have hunknown : ∀ f ∈ descriptorFields IsLegible respelledDescriptor, f.key ≠ "x" := by
    simp [descriptorFields]
  have hmembers : Members IsLegible (descriptorFields IsLegible respelledDescriptor) true _
      ["protocols", "host"] :=
    .further (.start hone) (isUnknown_legible_iff.mpr ⟨"x", quotes_string "x", hunknown⟩)
      hone Gap.nil hvalue
      (.field (.comma Gap.nil Gap.nil) (List.mem_cons_of_mem _ List.mem_cons_self)
        (quotes_string "protocols") Gap.nil Gap.nil
        ⟨_, rfl, .more (.start Gap.nil) hsupport (.done Gap.nil)⟩
        (.field (.comma Gap.nil Gap.nil) List.mem_cons_self (quotes_string "host")
          Gap.nil Gap.nil (quotes_string "h") (.done Gap.nil)))
  have hrange : respelledDescriptor.InRange := by decide
  have htext : respelledDescriptor.IsText IsLegible respelledLine.toList := by
    refine ⟨[' '], _, [], ?_, List.forall_mem_singleton.mpr rfl, nofun, _, _, rfl, hmembers,
      by decide, by simp [descriptorFields]⟩
    decide +kernel
  exact ⟨hrange, htext, (read_by_content hrange).2 respelledLine htext⟩

/-- A line with a further member that has no legible name. -/
def illegibleLine : String :=
  "\x7b\"host\":\"h\",\"protocols\":[],\"\\ud800\":null\x7d"

/-- Any string may be the name of a member of an object, but a further member whose name spells no
text is not skipped. -/
theorem illegibleLine_isRefused :
    (⟨"h", []⟩ : Descriptor).InRange ∧
      (⟨"h", []⟩ : Descriptor).IsText IsString illegibleLine.toList ∧
      ofLine illegibleLine = .error ⟨.brokenPair, 6⟩ := by
  refine ⟨by decide, ?_, rfl⟩
  have hmembers : Members IsString (descriptorFields IsString ⟨"h", []⟩) true _
      ["host", "protocols"] :=
    .field (.start Gap.nil) List.mem_cons_self (quotes_string "host") Gap.nil Gap.nil
      (quotes_string "h")
      (.field (.comma Gap.nil Gap.nil) (List.mem_cons_of_mem _ List.mem_cons_self)
        (quotes_string "protocols") Gap.nil Gap.nil ⟨_, rfl, .done Gap.nil⟩
        (.further (.comma Gap.nil Gap.nil)
          ⟨isString_loneSurrogate, fun f _ => not_quotes_loneSurrogate f.key⟩ Gap.nil Gap.nil
          (.word List.mem_cons_self) (.done Gap.nil)))
  exact ⟨[], _, [], rfl, nofun, nofun, _, _, rfl, hmembers, by decide, by simp [descriptorFields]⟩

end Descriptor

end RpcConformance
