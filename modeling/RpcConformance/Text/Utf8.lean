/-!
# UTF-8

Strict reading accepts well-formed text only. Where reading fails, `flaw?` says at which byte
the first malformed sequence starts and how long it is, and `lossy` reads on, with one
replacement character for each malformed sequence. A text is cut by its bytes, but only where a
character ends.
-/

namespace RpcConformance.Utf8

/-- The bytes of a text. -/
def encode (s : String) : List UInt8 := s.toUTF8.data.toList

/-- Cuts a text after so many bytes, unless that is past its end or inside a character. -/
def cut? : List Char → Nat → Option (List Char × List Char)
  | cs, 0 => some ([], cs)
  | [], _ + 1 => none
  | c :: cs, n + 1 =>
    if c.utf8Size ≤ n + 1 then (cut? cs (n + 1 - c.utf8Size)).map fun r => (c :: r.1, r.2)
    else none

/-- Behind ASCII characters a text is cut at their number. -/
theorem cut?_ascii {front : List Char} (h : ∀ c ∈ front, c.toNat < 128) (rest : List Char) :
    cut? (front ++ rest) front.length = some (front, rest) := by
  induction front with
  | nil => cases rest <;> rfl
  | cons c front ih =>
      have hsize : c.utf8Size = 1 := Char.utf8Size_eq_one_iff.mpr
        (UInt32.le_iff_toNat_le.mpr (Nat.le_of_lt_succ (h c List.mem_cons_self)))
      have hrest := ih fun d hd => h d (List.mem_cons_of_mem c hd)
      rw [List.cons_append, List.length_cons, cut?, hsize, if_pos (Nat.le_add_left 1 _),
        Nat.add_sub_cancel, hrest]
      rfl

/-- Reads well-formed UTF-8. -/
def decode? (bytes : List UInt8) : Option String := String.fromUTF8? ⟨bytes.toArray⟩

/-- What the bytes start with. -/
inductive Step
  /-- A well-formed sequence of one character. -/
  | char (c : Char) (rest : List UInt8)
  /-- A malformed sequence of `length` bytes. -/
  | malformed (length : Nat) (rest : List UInt8)
  /-- The bytes end inside a sequence that is well formed so far. -/
  | cut

/-- A byte that continues a sequence. -/
def isContinuation (b : UInt8) : Bool := 0x80 ≤ b && b ≤ 0xBF

/-- The payload of a continuation byte. -/
def low (b : UInt8) : Nat := b.toNat % 64

/-- The second bytes that may follow a first byte of a sequence of three bytes: those that
give no overlong form and no surrogate. -/
def secondOfThree (a b : UInt8) : Bool :=
  if a == 0xE0 then 0xA0 ≤ b && b ≤ 0xBF
  else if a == 0xED then 0x80 ≤ b && b ≤ 0x9F
  else isContinuation b

/-- The second bytes that may follow a first byte of a sequence of four bytes: those that
give no overlong form and nothing past the last character. -/
def secondOfFour (a b : UInt8) : Bool :=
  if a == 0xF0 then 0x90 ≤ b && b ≤ 0xBF
  else if a == 0xF4 then 0x80 ≤ b && b ≤ 0x8F
  else isContinuation b

/-- Looks at the sequence that nonempty bytes start with. -/
def step (a : UInt8) (rest : List UInt8) : Step :=
  if a < 0x80 then .char (Char.ofNat a.toNat) rest
  else if 0xC2 ≤ a && a ≤ 0xDF then
    match rest with
    | [] => .cut
    | b :: rest' =>
      if isContinuation b then .char (Char.ofNat (a.toNat % 32 * 64 + low b)) rest'
      else .malformed 1 rest
  else if 0xE0 ≤ a && a ≤ 0xEF then
    match rest with
    | [] => .cut
    | b :: rest' =>
      if !secondOfThree a b then .malformed 1 rest
      else match rest' with
        | [] => .cut
        | c :: rest'' =>
          if isContinuation c then
            .char (Char.ofNat ((a.toNat % 16 * 64 + low b) * 64 + low c)) rest''
          else .malformed 2 rest'
  else if 0xF0 ≤ a && a ≤ 0xF4 then
    match rest with
    | [] => .cut
    | b :: rest' =>
      if !secondOfFour a b then .malformed 1 rest
      else match rest' with
        | [] => .cut
        | c :: rest'' =>
          if !isContinuation c then .malformed 2 rest'
          else match rest'' with
            | [] => .cut
            | d :: rest''' =>
              if isContinuation d then
                .char (Char.ofNat (((a.toNat % 8 * 64 + low b) * 64 + low c) * 64 + low d)) rest'''
              else .malformed 3 rest''
  else .malformed 1 rest

/-- The first malformed place of a text. -/
structure Flaw where
  /-- The byte at which it starts. -/
  index : Nat
  /-- Its length, absent where the bytes end too early. -/
  length : Option Nat
deriving DecidableEq

namespace Flaw

def message (f : Flaw) : String :=
  let index := f.index
  match f.length with
  | some length => s!"invalid utf-8 sequence of {length} bytes from index {index}"
  | none => s!"incomplete utf-8 byte sequence from index {index}"

end Flaw

/-- Looks for the first malformed place in bytes of which `at` have been read. -/
def flawFrom? : Nat → Nat → List UInt8 → Option Flaw
  | 0, _, _ => none
  | _ + 1, _, [] => none
  | fuel + 1, index, a :: rest =>
    match step a rest with
    | .char _ rest' => flawFrom? fuel (index + (rest.length + 1 - rest'.length)) rest'
    | .malformed n _ => some ⟨index, some n⟩
    | .cut => some ⟨index, none⟩

/-- The first malformed place, absent exactly where the bytes are well formed. -/
def flaw? (bytes : List UInt8) : Option Flaw := flawFrom? bytes.length 0 bytes

/-- The character that stands for a malformed sequence. -/
def replacement : Char := Char.ofNat 0xFFFD

def lossyChars : Nat → List UInt8 → List Char
  | 0, _ => []
  | _ + 1, [] => []
  | fuel + 1, a :: rest =>
    match step a rest with
    | .char c rest' => c :: lossyChars fuel rest'
    | .malformed _ rest' => replacement :: lossyChars fuel rest'
    | .cut => [replacement]

/-- Reads any bytes; each malformed sequence becomes one replacement character. -/
def lossy (bytes : List UInt8) : String := String.ofList (lossyChars bytes.length bytes)

end RpcConformance.Utf8
