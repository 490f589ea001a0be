import RpcConformance.Proofs.Delimiters
import RpcConformance.Proofs.HeaderText
import RpcConformance.Proofs.Numerals
import RpcConformance.Target

/-!
# Authorities with numeric addresses

The characters of a numeric address may all stand in an authority, so what keeps one from being
dialled can only be its colons: behind the last bracket there may be one, the one before the port.
An address of four numbers has none and may stand bare; any other has some and may stand only in
brackets.

## Main results

* `Target.fault?_bare` — a bare address can be dialled if it has no colon, and only then.
* `Target.fault?_bracketed` — an address in brackets can be dialled.
* `Target.machine_bare`, `Target.machine_bracketed`, `Target.dialledPort_eq` — what is dialled.
-/

namespace RpcConformance

/-- The characters of numeric addresses. -/
def addressChars : List Char :=
  ['0', '1', '2', '3', '4', '5', '6', '7', '8', '9', 'a', 'b', 'c', 'd', 'e', 'f', '.', ':']

/-- A text of the characters of numeric addresses. -/
def IsAddressText (cs : List Char) : Prop := ∀ c ∈ cs, c ∈ addressChars

instance (cs : List Char) : Decidable (IsAddressText cs) :=
  List.decidableBAll (· ∈ addressChars) cs

/-- A property is tested on the characters of addresses. -/
theorem of_addressChars {p : Char → Prop} [DecidablePred p]
    (h : addressChars.all (fun c => decide (p c)) = true) {c : Char} (hc : c ∈ addressChars) :
    p c :=
  of_decide_eq_true (List.all_eq_true.mp h c hc)

theorem IsAddressText.append {cs ds : List Char} (hcs : IsAddressText cs)
    (hds : IsAddressText ds) : IsAddressText (cs ++ ds) :=
  List.forall_mem_append.mpr ⟨hcs, hds⟩

theorem IsAddressText.notMem {cs : List Char} (h : IsAddressText cs) {d : Char}
    (hd : d ∉ addressChars) : d ∉ cs :=
  fun hmem => hd (h d hmem)

theorem colon_notMem_digits (n : Nat) : ':' ∉ Decimal.digits n :=
  Decimal.notMem_digits (by decide) n

theorem isAddressText_digits (n : Nat) : IsAddressText (Decimal.digits n) := by
  intro c hc
  have hdigit := Decimal.isDigit_of_mem_digits hc
  have hchar : Decimal.digitChar (Decimal.digitValue c) = c := by
    simp only [Decimal.isDigit, Bool.and_eq_true, decide_eq_true_eq] at hdigit
    have hcode : 48 + (c.toNat - 48) = c.toNat := by omega
    rw [Decimal.digitChar, Decimal.digitValue, hcode, Char.ofNat_toNat]
  have hall : ∀ d < 10, Decimal.digitChar d ∈ addressChars := by decide
  rw [← hchar]
  exact hall _ (Decimal.digitValue_lt hdigit)

theorem IsAddressText.ascii {cs : List Char} (h : IsAddressText cs) : ∀ c ∈ cs, c.toNat < 128 :=
  fun c hc => of_addressChars (p := fun c => c.toNat < 128) (by decide) (h c hc)

/-- No path, query or fragment starts in an address. -/
theorem IsAddressText.noPath {cs : List Char} (h : IsAddressText cs) :
    ∀ c ∈ cs, c ≠ '/' ∧ c ≠ '?' ∧ c ≠ '#' :=
  fun c hc => of_addressChars (p := fun c => c ≠ '/' ∧ c ≠ '?' ∧ c ≠ '#') (by decide) (h c hc)

/-- What holds of both brackets and of what stands between them. -/
theorem forall_brackets {cs : List Char} {p : Char → Prop} (hopen : p '[') (hclose : p ']')
    (hcs : ∀ c ∈ cs, p c) : ∀ c ∈ '[' :: cs ++ [']'], p c :=
  List.forall_mem_append.mpr
    ⟨List.forall_mem_cons.mpr ⟨hopen, hcs⟩, List.forall_mem_singleton.mpr hclose⟩

namespace Authority

/-! ## Characters that are taken -/

/-- The byte of an ASCII character. -/
def byte (c : Char) : UInt8 := UInt8.ofNat c.toNat

/-- No character of an address ends an authority. -/
theorem byte_notEnd {c : Char} (h : c ∈ addressChars) :
    ¬ (byte c = 0x2F ∨ byte c = 0x3F ∨ byte c = 0x23) :=
  of_addressChars (p := fun c => ¬ (byte c = 0x2F ∨ byte c = 0x3F ∨ byte c = 0x23)) (by decide) h

/-- What has been seen behind a further piece of an address. -/
def Seen.past (s : Seen) (cs : List Char) : Seen :=
  { s with
    colons := s.colons + cs.count ':', endsWithAt := false, length := s.length + cs.length }

theorem Seen.past_cons (s : Seen) (c : Char) (cs : List Char) :
    s.past (c :: cs) = (s.past [c]).past cs := by
  have hcolons : (c :: cs).count ':' = [c].count ':' + cs.count ':' := by
    rw [← List.singleton_append, List.count_append]
  simp only [Seen.past, hcolons, List.length_cons, List.length_nil]
  congr 1 <;> omega

/-- Every character of an address but the colon may stand anywhere in an authority. -/
theorem take_plain {c : Char} (h : c ∈ addressChars) (hcolon : c ≠ ':') (s : Seen) :
    s.take (byte c) = .ok (s.past [c]) := by
  obtain ⟨h₁, h₂, h₃, h₄, h₅, hplain⟩ :=
    of_addressChars (p := fun c => c ≠ ':' → byte c ≠ 0x3A ∧ byte c ≠ 0x5B ∧ byte c ≠ 0x5D ∧
      byte c ≠ 0x40 ∧ byte c ≠ 0x25 ∧ isPlain (byte c) = true) (by decide) h hcolon
  have hcount : [c].count ':' = 0 := List.count_cons_of_ne hcolon
  simp only [Seen.take, if_neg h₁, if_neg h₂, if_neg h₃, if_neg h₄, if_neg h₅, if_pos hplain,
    Seen.past, hcount]
  rfl

theorem take_colon (s : Seen) :
    s.take (byte ':') =
      if maxColons ≤ s.colons then .error .badAuthority else .ok (s.past [':']) :=
  rfl

/-- A piece of an address is taken unless it has too many colons. -/
theorem split_address {cs : List Char} (h : IsAddressText cs) {s : Seen}
    (hat : s.endsWithAt = false) (hcolons : s.colons ≤ maxColons) (rest : List UInt8) :
    split s (cs.map byte ++ rest) =
      if maxColons < s.colons + cs.count ':' then .error .badAuthority
      else split (s.past cs) rest := by
  induction cs generalizing s with
  | nil =>
      have hpast : s.past [] = s := by
        rw [Seen.past, ← hat]
        rfl
      rw [List.count_nil, Nat.add_zero, hpast, if_neg (Nat.not_lt.mpr hcolons)]
      rfl
  | cons c cs ih =>
      have hc := h c List.mem_cons_self
      have hcs : IsAddressText cs := fun d hd => h d (List.mem_cons_of_mem c hd)
      have hcount : s.colons + (c :: cs).count ':' = (s.past [c]).colons + cs.count ':' := by
        rw [← List.singleton_append, List.count_append, ← Nat.add_assoc]
        rfl
      rw [List.map_cons, List.cons_append, split, if_neg (byte_notEnd hc), Seen.past_cons, hcount]
      by_cases hcolon : c = ':'
      · subst hcolon
        have hone : (s.past [':']).colons = s.colons + 1 := rfl
        rw [take_colon]
        by_cases hfull : maxColons ≤ s.colons
        · rw [if_pos hfull, if_pos (by omega)]
        · rw [if_neg hfull]
          exact ih hcs rfl (by omega)
      · have hzero : (s.past [c]).colons = s.colons :=
          congrArg (s.colons + ·) (List.count_cons_of_ne hcolon)
        rw [take_plain hc hcolon]
        exact ih hcs rfl (by omega)

/-- A bare address and its port. -/
theorem split_bare {cs : List Char} (h : IsAddressText cs) :
    split {} (cs.map byte) =
      if maxColons < cs.count ':' then .error .badAuthority else .ok (Seen.past {} cs, []) := by
  have hsplit := split_address h (s := {}) rfl (Nat.zero_le _) []
  rw [List.append_nil] at hsplit
  rw [hsplit, Nat.zero_add]
  rfl

/-- An address in brackets and its port: the colons in the brackets are forgotten. -/
theorem split_bracketed {cs ds : List Char} (hcs : IsAddressText cs) (hds : IsAddressText ds)
    (hfew : cs.count ':' ≤ maxColons) (hport : ds.count ':' ≤ maxColons) :
    split {} (('[' :: cs ++ ']' :: ds).map byte) =
      .ok (Seen.past { opened := true, closed := true, length := 0 + 1 + cs.length + 1 } ds,
        []) := by
  have hopen : split {} (('[' :: cs ++ ']' :: ds).map byte) =
      split { opened := true, length := 1 } (cs.map byte ++ byte ']' :: ds.map byte) := by
    rw [List.map_append]
    rfl
  have hinner := split_address hcs (s := { opened := true, length := 1 }) rfl (Nat.zero_le _)
    (byte ']' :: ds.map byte)
  have houter := split_address hds
    (s := { opened := true, closed := true, length := 0 + 1 + cs.length + 1 }) rfl
    (Nat.zero_le _) []
  rw [if_neg (by rw [Nat.zero_add]; exact Nat.not_lt.mpr hfew)] at hinner
  rw [if_neg (by rw [Nat.zero_add]; exact Nat.not_lt.mpr hport), List.append_nil] at houter
  exact hopen.trans (hinner.trans houter)

/-- Behind the last bracket of an authority there is one colon at most. -/
theorem Seen.fault?_eq {s : Seen} (hbrackets : s.opened = s.closed) (hat : s.endsWithAt = false)
    (hpercent : s.percent = false) (hlength : s.length ≠ 0) :
    s.fault? = if 1 < s.colons then some .badAuthority else none := by
  have hbalanced : (s.opened != s.closed) = false := by rw [hbrackets, bne_self_eq_false]
  rw [Seen.fault?, hbalanced, hat, hpercent, if_neg hlength]
  by_cases hcolons : 1 < s.colons
  · rw [if_pos hcolons, decide_eq_true hcolons]
    rfl
  · rw [if_neg hcolons, decide_eq_false hcolons]
    rfl

end Authority

namespace Target

variable {c : Target}

/-! ## Which addresses can be dialled -/

/-- The host and the port, as they stand in the URI. -/
theorem toList_hostPort (c : Target) :
    (c.host ++ ":" ++ Decimal.text c.port).toList =
      c.host.toList ++ ':' :: Decimal.digits c.port := by
  have hport : (Decimal.text c.port).toList = Decimal.digits c.port := String.toList_ofList
  rw [String.toList_append, String.toList_append, hport, List.append_assoc]
  rfl

/-- An address leaves enough room for the port in a URI. -/
theorem uri_fits (hascii : ∀ d ∈ c.host.toList, d.toNat < 128) (hlength : c.host.toList.length ≤ 64)
    (hport : c.port < powerOfTwo 16) : (Utf8.encode c.uri).length ≤ maxUriLength := by
  have hdigits : (Decimal.digits c.port).length ≤ 5 := by
    have hlimit : powerOfTwo 16 = 65536 := by decide
    exact Decimal.length_digits_le (by decide) (by omega)
  have hlong : "http://".toList.length = 7 := rfl
  have hscheme : "http://".toList.all (fun d => decide (d.toNat < 128)) = true := by decide
  have hchars : c.uri.toList =
      "http://".toList ++ (c.host.toList ++ ':' :: Decimal.digits c.port) := by
    rw [← toList_hostPort, ← String.toList_append, uri, String.append_assoc, String.append_assoc,
      String.append_assoc]
  have hall : ∀ d ∈ c.uri.toList, d.toNat < 128 := by
    intro d hd
    rw [hchars, List.mem_append, List.mem_append, List.mem_cons] at hd
    rcases hd with hd | hd | rfl | hd
    · exact of_decide_eq_true (List.all_eq_true.mp hscheme d hd)
    · exact hascii d hd
    · decide
    · exact (isAddressText_digits c.port).ascii d hd
  have hlimit : maxUriLength = 65534 := rfl
  rw [HeaderValue.length_encode_ascii hall, hchars, List.length_append, List.length_append,
    List.length_cons, hlong]
  omega

/-- The fault of a URI is the fault of its authority where nothing stands behind that. -/
theorem fault?_of_split {seen : Authority.Seen} (hfits : (Utf8.encode c.uri).length ≤ maxUriLength)
    (h : Authority.split {} (Utf8.encode (c.host ++ ":" ++ Decimal.text c.port)) = .ok (seen, [])) :
    c.fault? = seen.fault? := by
  have hpath : Authority.isPathAndQuery [] = true := rfl
  rw [fault?, if_neg (Nat.not_lt.mpr hfits), h]
  simp only [hpath, if_true]
  cases seen.fault? <;> rfl

theorem isAddressText_port (port : Nat) : IsAddressText (':' :: Decimal.digits port) :=
  List.forall_mem_cons.mpr ⟨by decide, isAddressText_digits port⟩

/-- A port has one colon, the one before it. -/
theorem count_port (port : Nat) : (':' :: Decimal.digits port).count ':' = 1 := by
  rw [List.count_cons_self, List.count_eq_zero.mpr (colon_notMem_digits port)]

theorem encode_hostPort (h : ∀ d ∈ c.host.toList, d.toNat < 128) :
    Utf8.encode (c.host ++ ":" ++ Decimal.text c.port) =
      (c.host.toList ++ ':' :: Decimal.digits c.port).map Authority.byte := by
  have hall := List.forall_mem_append.mpr ⟨h, (isAddressText_port c.port).ascii⟩
  rw [HeaderValue.encode_ascii (by rw [toList_hostPort]; exact hall), toList_hostPort]
  rfl

/-- **A bare address can be dialled if it has no colon, and only then.** -/
theorem fault?_bare (h : IsAddressText c.host.toList) (hlength : c.host.toList.length ≤ 64)
    (hport : c.port < powerOfTwo 16) :
    c.fault? = if c.host.toList.count ':' = 0 then none else some .badAuthority := by
  have hfits := uri_fits h.ascii hlength hport
  have hcount : (c.host.toList ++ ':' :: Decimal.digits c.port).count ':' =
      c.host.toList.count ':' + 1 := by
    rw [List.count_append, count_port]
  have hsplit := Authority.split_bare (h.append (isAddressText_port c.port))
  rw [← encode_hostPort h.ascii, hcount] at hsplit
  by_cases hmany : Authority.maxColons < c.host.toList.count ':' + 1
  · have hsome : c.host.toList.count ':' ≠ 0 := by
      have hmax : Authority.maxColons = 8 := rfl
      omega
    rw [if_pos hmany] at hsplit
    rw [fault?, if_neg (Nat.not_lt.mpr hfits), hsplit, if_neg hsome]
  · have hlong : 0 + (c.host.toList ++ ':' :: Decimal.digits c.port).length ≠ 0 := by
      rw [List.length_append, List.length_cons]
      omega
    have hcolons : (Authority.Seen.past {} (c.host.toList ++ ':' :: Decimal.digits c.port)).colons =
        c.host.toList.count ':' + 1 := by
      show 0 + (c.host.toList ++ ':' :: Decimal.digits c.port).count ':' = _
      rw [hcount, Nat.zero_add]
    rw [if_neg hmany] at hsplit
    rw [fault?_of_split hfits hsplit, Authority.Seen.fault?_eq rfl rfl rfl hlong, hcolons]
    by_cases hsome : c.host.toList.count ':' = 0
    · rw [if_pos hsome, if_neg (by omega)]
    · rw [if_neg hsome, if_pos (by omega)]

/-- **An address in brackets can be dialled.** -/
theorem fault?_bracketed {text : List Char} (hhost : c.host.toList = '[' :: text ++ [']'])
    (h : IsAddressText text) (hlength : text.length ≤ 62)
    (hcolons : text.count ':' ≤ Authority.maxColons) (hport : c.port < powerOfTwo 16) :
    c.fault? = none := by
  have hascii : ∀ d ∈ c.host.toList, d.toNat < 128 :=
    hhost ▸ forall_brackets (by decide) (by decide) h.ascii
  have hfits : (Utf8.encode c.uri).length ≤ maxUriLength := by
    refine uri_fits hascii ?_ hport
    rw [hhost, List.length_append, List.length_cons, List.length_singleton]
    omega
  have hone : (':' :: Decimal.digits c.port).count ':' ≤ Authority.maxColons := by
    rw [count_port]
    decide
  have hsplit := Authority.split_bracketed h (isAddressText_port c.port) hcolons hone
  have hchars : '[' :: text ++ ']' :: ':' :: Decimal.digits c.port =
      c.host.toList ++ ':' :: Decimal.digits c.port := by
    rw [hhost, List.append_assoc]
    rfl
  rw [hchars, ← encode_hostPort hascii] at hsplit
  rw [fault?_of_split hfits hsplit, Authority.Seen.fault?_eq rfl rfl rfl (Nat.succ_ne_zero _)]
  refine if_neg ?_
  show ¬ 1 < 0 + (':' :: Decimal.digits c.port).count ':'
  rw [count_port]
  decide

/-! ## What is dialled -/

theorem afterLast_of_notMem {mark : Char} {cs : List Char} (h : mark ∉ cs) :
    afterLast mark cs = cs := by
  have hall := all_ne_of_notMem (mt List.mem_reverse.mp h)
  rw [afterLast, List.takeWhile_eq_self_iff.mpr hall, List.reverse_reverse]

theorem afterLast_append {mark : Char} {ds : List Char} (h : mark ∉ ds) (cs : List Char) :
    afterLast mark (cs ++ mark :: ds) = ds := by
  rw [afterLast, List.reverse_append, List.reverse_cons, List.append_assoc, List.singleton_append,
    takeWhile_ne_append (mt List.mem_reverse.mp h), List.reverse_reverse]

/-- A host without a path is followed by the port. -/
theorem authority_eq (h : ∀ d ∈ c.host.toList, d ≠ '/' ∧ d ≠ '?' ∧ d ≠ '#') :
    c.authority = c.host.toList ++ ':' :: Decimal.digits c.port := by
  have hall := List.forall_mem_append.mpr ⟨h, (isAddressText_port c.port).noPath⟩
  rw [authority, toList_hostPort, List.takeWhile_eq_self_iff.mpr]
  intro d hd
  obtain ⟨hslash, hmark, hsign⟩ := hall d hd
  simp only [hslash, hmark, hsign, ne_eq, not_false_eq_true, decide_true, Bool.and_self]

/-- **The port that is dialled** is the one after a host without a path. -/
theorem dialledPort_eq (h : ∀ d ∈ c.host.toList, d ≠ '/' ∧ d ≠ '?' ∧ d ≠ '#')
    (hport : c.port < powerOfTwo 16) : c.dialledPort = c.port := by
  have hauthority := authority_eq h
  have hcontains : c.authority.contains ':' = true := by
    rw [hauthority, List.contains_iff_mem]
    exact List.mem_append_right _ List.mem_cons_self
  have hread : Decimal.unsigned? 16 (String.ofList (Decimal.digits c.port)) = some c.port :=
    Decimal.unsigned?_text hport
  rw [dialledPort, if_pos hcontains, hauthority, afterLast_append (colon_notMem_digits c.port),
    hread]
  rfl

/-- **The machine that is dialled** is a bare address that has no colon. -/
theorem machine_bare (h : IsAddressText c.host.toList) (hcolon : ':' ∉ c.host.toList) :
    c.machine = c.host := by
  have hauthority := authority_eq h.noPath
  have htext := h.append (isAddressText_port c.port)
  have huser : afterLast '@' c.authority = c.authority :=
    afterLast_of_notMem (by rw [hauthority]; exact htext.notMem (by decide))
  have hlast : ∀ d ∈ c.host.toList.reverse, ¬ (d == ']') = true := fun d hd =>
    of_addressChars (p := fun d => ¬ (d == ']') = true) (by decide) (h d (List.mem_reverse.mp hd))
  have hstrip : c.host.toList.reverse.dropWhile (· == ']') = c.host.toList.reverse := by
    cases hcs : c.host.toList.reverse with
    | nil => rfl
    | cons d cs =>
        exact List.dropWhile_cons_of_neg (hlast d (by rw [hcs]; exact List.mem_cons_self))
  rw [machine, huser, hauthority]
  split
  · rename_i hbracket
    have hmem : '[' ∈ c.host.toList ++ ':' :: Decimal.digits c.port := by
      rw [hbracket]
      exact List.mem_cons_self
    exact absurd hmem (htext.notMem (by decide))
  · have hname : (c.host.toList ++ ':' :: Decimal.digits c.port).takeWhile (· ≠ ':') =
        c.host.toList := takeWhile_ne_append hcolon _
    simp only [hname, hstrip, List.reverse_reverse, String.ofList_toList]

/-- **The machine that is dialled** is an address in brackets. -/
theorem machine_bracketed {text : List Char} (hhost : c.host.toList = '[' :: text ++ [']'])
    (h : IsAddressText text) : c.machine = String.ofList text := by
  have hnoPath : ∀ d ∈ c.host.toList, d ≠ '/' ∧ d ≠ '?' ∧ d ≠ '#' :=
    hhost ▸ forall_brackets (by decide) (by decide) h.noPath
  have hnoUser : ∀ d ∈ c.host.toList, d ≠ '@' :=
    hhost ▸ forall_brackets (by decide) (by decide)
      fun _ hd heq => h.notMem (by decide) (heq ▸ hd)
  have hauthority := authority_eq hnoPath
  have huser : afterLast '@' c.authority = c.authority := by
    refine afterLast_of_notMem fun hmem => ?_
    rw [hauthority] at hmem
    rcases List.mem_append.mp hmem with hmem | hmem
    · exact hnoUser '@' hmem rfl
    · exact (isAddressText_port c.port).notMem (by decide) hmem
  have hclose : ']' ∉ text := h.notMem (by decide)
  rw [machine, huser, hauthority, hhost, List.append_assoc, List.cons_append]
  simp only [List.singleton_append, takeWhile_ne_append hclose]

end Target

end RpcConformance
