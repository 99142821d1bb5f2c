/-!
# Text from bytes

A file is bytes, and its text is what they say in UTF-8. Bytes that say nothing
are kept as gaps, so that a fault in one field of a file is a fault of that field
and not of the whole. A sequence is taken only in its shortest form, only up to
the last code point, and not for a surrogate.
-/

namespace TableVerbs.Text

/-- A character of a file, or a byte that belongs to none. -/
abbrev Glyph := Option Char

/-- Whether a byte continues a sequence. -/
def isContinuation (b : UInt8) : Bool := 0x80 ≤ b && b < 0xC0

/-- The six bits that a continuing byte carries. -/
def payload (b : UInt8) : Nat := b.toNat % 64

/-- A code point with a least value for its length, as a character. -/
def scalar? (least n : Nat) : Option Char :=
  if h : n.isValidChar ∧ least ≤ n then some (Char.ofNatAux n h.1) else none

/-- The character of two, three or four bytes. -/
def sequence? : List UInt8 → Option Char
  | [a, b] =>
    if 0xC0 ≤ a && a < 0xE0 && isContinuation b
    then scalar? 0x80 (a.toNat % 32 * 64 + payload b) else none
  | [a, b, c] =>
    if 0xE0 ≤ a && a < 0xF0 && isContinuation b && isContinuation c
    then scalar? 0x800 ((a.toNat % 16 * 64 + payload b) * 64 + payload c) else none
  | [a, b, c, d] =>
    if 0xF0 ≤ a && a < 0xF8 && isContinuation b && isContinuation c && isContinuation d
    then scalar? 0x10000 (((a.toNat % 8 * 64 + payload b) * 64 + payload c) * 64 + payload d)
    else none
  | _ => none

/-- The characters of a file. -/
def decode : List UInt8 → List Glyph
  | [] => []
  | a :: rest =>
    if a < 0x80 then some (Char.ofNat a.toNat) :: decode rest
    else
      match (sequence? (a :: rest.take 1)), (sequence? (a :: rest.take 2)),
          (sequence? (a :: rest.take 3)) with
      | some c, _, _ => some c :: decode (rest.drop 1)
      | none, some c, _ => some c :: decode (rest.drop 2)
      | none, none, some c => some c :: decode (rest.drop 3)
      | none, none, none => none :: decode rest
termination_by bytes => bytes.length
decreasing_by
  all_goals
    simp only [List.length_drop, List.length_cons]
    omega

/-- The characters of a text. -/
def glyphs (s : String) : List Glyph := s.toList.map some

end TableVerbs.Text
