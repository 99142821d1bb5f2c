import TableVerbs.Text.Utf8

/-!
# Records

A file of records has one record on a line and commas between its fields. A
field in double quotes may hold commas, line ends and quotes, the quotes twice.
Reading is lenient: a quote inside a field that does not start with one is a
character like any other, text after a closing quote goes on as plain text, an
open quote reaches to the end of the file, and empty lines are skipped. A line
ends at a line feed or a carriage return.

Writing quotes exactly the fields that need it. A record that would leave its
line empty is written as an empty quoted field, since an empty line is no record.
-/

namespace TableVerbs.Csv

open Text (Glyph)

/-- The mark between fields. -/
def comma : Char := ','

/-- The mark around fields. -/
def quote : Char := '\x22'

/-- The characters that end a line. -/
def endsLine (c : Char) : Bool := c == '\n' || c == '\r'

/-! ## Writing -/

/-- Whether a field has to be quoted. -/
def needsQuotes (field : List Char) : Bool :=
  field.any fun c => c == comma || c == quote || endsLine c

/-- The characters of a field between quotes. -/
def doubled (field : List Char) : List Char :=
  field.flatMap fun c => if c = quote then [quote, quote] else [c]

/-- A field as it is written. -/
def writeField (field : List Char) : List Char :=
  if needsQuotes field then quote :: doubled field ++ [quote] else field

/-- A record as it is written, with the end of its line. -/
def writeRecord (record : List (List Char)) : List Char :=
  let line := [comma].intercalate (record.map writeField)
  (if line.isEmpty then [quote, quote] else line) ++ ['\n']

/-- Records as they are written. -/
def writeRecords (records : List (List (List Char))) : List Char := records.flatMap writeRecord

/-! ## Reading -/

/-- Whether plain text goes on: neither a comma nor the end of a line. -/
def isPlain (g : Glyph) : Bool :=
  match g with
  | some c => !(c == comma || endsLine c)
  | none => true

/-- The rest of a field that began with a quote, and what follows the field. -/
def quotedField : List Glyph → List Glyph × List Glyph
  | [] => ([], [])
  | some c :: rest =>
    if c = quote then
      match rest with
      | some d :: more =>
        if d = quote then
          let (field, r) := quotedField more
          (some quote :: field, r)
        else (rest.takeWhile isPlain, rest.dropWhile isPlain)
      | _ => (rest.takeWhile isPlain, rest.dropWhile isPlain)
    else
      let (field, r) := quotedField rest
      (some c :: field, r)
  | none :: rest =>
    let (field, r) := quotedField rest
    (none :: field, r)

/-- A field and what follows it. -/
def readField : List Glyph → List Glyph × List Glyph
  | some c :: rest =>
    if c = quote then quotedField rest
    else ((some c :: rest).takeWhile isPlain, (some c :: rest).dropWhile isPlain)
  | cs => (cs.takeWhile isPlain, cs.dropWhile isPlain)

theorem dropWhile_length_le (p : α → Bool) (xs : List α) :
    (xs.dropWhile p).length ≤ xs.length := (List.dropWhile_suffix p).length_le

theorem quotedField_length (cs : List Glyph) : (quotedField cs).2.length ≤ cs.length := by
  fun_induction quotedField cs with
  | case1 => simp
  | case2 d more ih => simp_all; omega
  | case3 d more h =>
      have := dropWhile_length_le isPlain (some d :: more)
      simp only [List.length_cons] at this ⊢
      omega
  | case4 rest _ =>
      have := dropWhile_length_le isPlain rest
      simp only [List.length_cons]
      omega
  | case5 => simp_all; omega
  | case6 => simp_all; omega

theorem readField_length (cs : List Glyph) : (readField cs).2.length ≤ cs.length := by
  unfold readField
  split
  · split
    · have := quotedField_length ‹_›
      simp only [List.length_cons]
      omega
    · exact dropWhile_length_le _ _
  · exact dropWhile_length_le _ _

/-- A record and what follows it, which is the end of its line or of the file. -/
def readRecord (cs : List Glyph) : List (List Glyph) × List Glyph :=
  match _h : readField cs with
  | (field, some ',' :: rest) =>
    let (fields, r) := readRecord rest
    (field :: fields, r)
  | (field, rest) => ([field], rest)
termination_by cs.length
decreasing_by
  have := readField_length cs
  rw [_h] at this
  simp only [List.length_cons] at this
  omega

/-- Whether a character ends a line. -/
def isLineEnd (g : Glyph) : Bool := g.any endsLine

theorem readRecord_length (cs : List Glyph) : (readRecord cs).2.length ≤ cs.length := by
  fun_induction readRecord cs with
  | case1 cs field rest h fields r hr ih =>
      have := readField_length cs
      rw [h] at this
      rw [hr] at ih
      simp only [List.length_cons] at this
      simp only at ih ⊢
      omega
  | case2 cs field rest _ h =>
      have := readField_length cs
      rw [h] at this
      exact this

/-- A record takes the character that it starts with. -/
theorem readRecord_cons_length {g : Glyph} {rest : List Glyph} (h : isLineEnd g = false) :
    (readRecord (g :: rest)).2.length ≤ rest.length := by
  by_cases hp : g ≠ some quote ∧ isPlain g = false
  · have hg : g = some ',' := by
      cases g with
      | none => simp [isPlain] at hp
      | some c => simp_all [isPlain, isLineEnd, comma]
    subst hg
    have hf : readField (some ',' :: rest) = ([], some ',' :: rest) := by
      simp [readField, quote, isPlain, comma]
    rw [readRecord]
    split
    · next hr =>
        rw [hf] at hr
        simp only [Prod.mk.injEq, List.cons.injEq, true_and] at hr
        rw [← hr.2]
        exact readRecord_length rest
    · next hn hr =>
        rw [hf] at hr
        simp only [Prod.mk.injEq] at hr
        exact absurd hr.2.symm (hn _)
  · have hf : (readField (g :: rest)).2.length ≤ rest.length := by
      by_cases hq : g = some quote
      · subst hq
        simpa [readField] using quotedField_length rest
      · have hpl : isPlain g = true := by simpa [hq] using hp
        have hd : readField (g :: rest) =
            ((g :: rest).takeWhile isPlain, (g :: rest).dropWhile isPlain) := by
          cases g with
          | none => rfl
          | some c =>
              have : c ≠ quote := fun e => hq (e ▸ rfl)
              simp [readField, this]
        rw [hd, List.dropWhile_cons_of_pos hpl]
        exact dropWhile_length_le _ _
    rw [readRecord]
    split
    · next hr =>
        rw [hr] at hf
        have := readRecord_length ‹_›
        simp only [List.length_cons] at hf
        simp only
        omega
    · next hr =>
        rw [hr] at hf
        exact hf

/-- The records of a file. -/
def readRecords (cs : List Glyph) : List (List (List Glyph)) :=
  match cs with
  | [] => []
  | g :: rest =>
    if _h : isLineEnd g then readRecords rest
    else
      (readRecord (g :: rest)).1 :: readRecords (readRecord (g :: rest)).2
termination_by cs.length
decreasing_by
  · simp
  · have : (readRecord (g :: rest)).2.length ≤ rest.length :=
      readRecord_cons_length (by simpa using _h)
    simp only [List.length_cons]
    omega

end TableVerbs.Csv
