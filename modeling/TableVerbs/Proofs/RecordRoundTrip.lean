import TableVerbs.Csv.Record

/-!
# Records are read back as they were written

A field is written so that it ends where its reader stops: without quotes it holds
no comma and no line end, and with quotes around it the only single quote is the
last one. So one field, read off the text of a record, leaves what stands behind it,
and the same goes for one record and the text of all.

A record has to have a field. One that has none is written as an empty quoted field,
and that is read back as a record of one.
-/

namespace TableVerbs.Csv

open Text (Glyph)

/-- What a field may be followed by. -/
def EndsField (rest : List Glyph) : Prop := ∀ g ∈ rest.head?, isPlain g = false

theorem endsField_comma (rest : List Glyph) : EndsField (some comma :: rest) := by
  rintro _ ⟨⟩
  rfl

theorem endsField_lineFeed (rest : List Glyph) : EndsField (some '\n' :: rest) := by
  rintro _ ⟨⟩
  rfl

theorem takeWhile_plain {front rest : List Glyph} (h : ∀ g ∈ front, isPlain g = true)
    (hrest : EndsField rest) :
    (front ++ rest).takeWhile isPlain = front ∧ (front ++ rest).dropWhile isPlain = rest := by
  rw [List.takeWhile_append_of_pos h, List.dropWhile_append_of_pos h]
  cases rest with
  | nil => exact ⟨List.append_nil front, rfl⟩
  | cons g rest =>
      have hg := hrest g rfl
      simp [hg]

theorem doubled_cons (c : Char) (cs : List Char) :
    doubled (c :: cs) = (if c = quote then [quote, quote] else [c]) ++ doubled cs := rfl

theorem quotedField_closed {rest : List Glyph} (hrest : EndsField rest) :
    quotedField (some quote :: rest) = ([], rest) := by
  obtain ⟨htake, hdrop⟩ : rest.takeWhile isPlain = [] ∧ rest.dropWhile isPlain = rest :=
    @takeWhile_plain [] rest (fun _ h => by cases h) hrest
  rw [quotedField.eq_def]
  simp only [if_true]
  split
  next d more =>
    have hd : d ≠ quote := by
      rintro rfl
      cases hrest _ rfl
    rw [if_neg hd, htake, hdrop]
  next => rw [htake, hdrop]

theorem quotedField_quote (rest : List Glyph) :
    quotedField (some quote :: some quote :: rest) =
      (some quote :: (quotedField rest).1, (quotedField rest).2) := by
  rw [quotedField]
  simp only [if_true]

theorem quotedField_other {c : Char} (hc : c ≠ quote) (rest : List Glyph) :
    quotedField (some c :: rest) = (some c :: (quotedField rest).1, (quotedField rest).2) := by
  rw [quotedField.eq_def]
  simp only [if_neg hc]

/-- A field in quotes ends at the first quote that stands alone. -/
theorem quotedField_doubled (field : List Char) {rest : List Glyph} (hrest : EndsField rest) :
    quotedField ((doubled field).map some ++ some quote :: rest) = (field.map some, rest) := by
  induction field with
  | nil => exact quotedField_closed hrest
  | cons c cs ih =>
      rw [doubled_cons]
      by_cases hc : c = quote
      · rw [if_pos hc, hc]
        show quotedField (some quote :: some quote :: ((doubled cs).map some ++ _)) = _
        rw [quotedField_quote, ih]
        rfl
      · rw [if_neg hc]
        show quotedField (some c :: ((doubled cs).map some ++ _)) = _
        rw [quotedField_other hc, ih]
        rfl

theorem isPlain_of_bare {field : List Char} (h : needsQuotes field = false) :
    ∀ g ∈ field.map some, isPlain g = true := by
  intro g hg
  obtain ⟨c, hc, rfl⟩ := List.mem_map.mp hg
  have hnone := List.any_eq_false.mp h c hc
  simp only [Bool.or_eq_true, not_or] at hnone
  simp [isPlain, hnone.1.1, hnone.2]

/-- A field is read back, and what follows is left. -/
theorem readField_writeField (field : List Char) {rest : List Glyph} (hrest : EndsField rest) :
    readField ((writeField field).map some ++ rest) = (field.map some, rest) := by
  rw [writeField]
  split
  next =>
    rw [List.cons_append, List.map_cons, List.map_append, List.cons_append, List.append_assoc]
    show quotedField ((doubled field).map some ++ some quote :: rest) = _
    exact quotedField_doubled field hrest
  next hbare =>
    have hplain := takeWhile_plain (isPlain_of_bare (Bool.eq_false_iff.mpr hbare)) hrest
    have hfirst : ∀ rest', field.map some ++ rest ≠ some quote :: rest' := by
      intro rest' heq
      cases field with
      | nil =>
          rw [List.map_nil, List.nil_append] at heq
          cases hrest (some quote) (heq ▸ rfl)
      | cons c cs =>
          have hc : c = quote := Option.some.inj (List.cons.inj heq).1
          exact hbare (by rw [needsQuotes, List.any_cons, hc]; rfl)
    rw [readField.eq_def]
    split
    next c more heq =>
      have hc : c ≠ quote := by
        rintro rfl
        exact hfirst more heq
      rw [if_neg hc, ← heq, hplain.1, hplain.2]
    next => rw [hplain.1, hplain.2]

/-! ## One record -/

/-- The fields of a record, with commas between them. -/
def joined (record : List (List Char)) : List Char := [comma].intercalate (record.map writeField)

theorem joined_cons_cons (f g : List Char) (rest : List (List Char)) :
    joined (f :: g :: rest) = writeField f ++ comma :: joined (g :: rest) := by
  rw [joined, List.map_cons, List.map_cons, List.intercalate_cons_cons]
  simp [joined]

theorem joined_singleton (f : List Char) : joined [f] = writeField f := by
  simp [joined]

theorem readRecord_more {cs field rest : List Glyph}
    (h : readField cs = (field, some ',' :: rest)) :
    readRecord cs = (field :: (readRecord rest).1, (readRecord rest).2) := by
  rw [readRecord]
  split
  next heq =>
    rw [h] at heq
    cases heq
    rfl
  next hother heq =>
    rw [h] at heq
    cases heq
    exact absurd rfl (hother _)

theorem readRecord_last {cs field rest : List Glyph} (h : readField cs = (field, rest))
    (hrest : rest.head? ≠ some (some ',')) : readRecord cs = ([field], rest) := by
  rw [readRecord]
  split
  next heq =>
    rw [h] at heq
    cases heq
    exact absurd rfl hrest
  next heq =>
    rw [h] at heq
    cases heq
    rfl

/-- A record is read back, and the end of its line is left. -/
theorem readRecord_joined {record : List (List Char)} (hne : record ≠ []) (rest : List Glyph) :
    readRecord ((joined record).map some ++ some '\n' :: rest) =
      (record.map (·.map some), some '\n' :: rest) := by
  induction record with
  | nil => exact absurd rfl hne
  | cons f more ih =>
      cases more with
      | nil =>
          rw [joined_singleton, readRecord_last (readField_writeField f (endsField_lineFeed rest))]
          · rfl
          · simp
      | cons g more =>
          have hrest := ih (List.cons_ne_nil g more)
          rw [joined_cons_cons, List.map_append, List.append_assoc]
          have hfield := readField_writeField f
            (endsField_comma ((joined (g :: more)).map some ++ some '\n' :: rest))
          rw [List.map_cons, List.cons_append, readRecord_more hfield, hrest]
          rfl

/-- What stands on a record's line, which is never nothing. -/
def line (record : List (List Char)) : List Char :=
  if (joined record).isEmpty then [quote, quote] else joined record

theorem writeRecord_eq (record : List (List Char)) : writeRecord record = line record ++ ['\n'] :=
  rfl

theorem writeField_ne_nil {field : List Char} (h : field ≠ []) : writeField field ≠ [] := by
  rw [writeField]
  split
  next => exact List.cons_ne_nil _ _
  next => exact h

theorem eq_of_joined_nil {record : List (List Char)} (hne : record ≠ [])
    (h : joined record = []) : record = [[]] := by
  match record with
  | [] => exact absurd rfl hne
  | [f] =>
      rw [joined_singleton] at h
      by_cases hf : f = []
      · rw [hf]
      · exact absurd h (writeField_ne_nil hf)
  | f :: g :: rest =>
      rw [joined_cons_cons] at h
      exact absurd h (List.append_ne_nil_of_right_ne_nil _ (List.cons_ne_nil _ _))

theorem readRecord_line {record : List (List Char)} (hne : record ≠ []) (rest : List Glyph) :
    readRecord ((line record).map some ++ some '\n' :: rest) =
      (record.map (·.map some), some '\n' :: rest) := by
  rw [line]
  split
  next hnil =>
    rw [eq_of_joined_nil hne (List.isEmpty_iff.mp hnil)]
    exact readRecord_last (quotedField_closed (endsField_lineFeed rest)) (by simp)
  next => exact readRecord_joined hne rest

theorem writeField_head (field : List Char) :
    ∀ c ∈ (writeField field).head?, c = quote ∨ c ∈ field.head? ∧ endsLine c = false := by
  rw [writeField]
  split
  next =>
    rintro _ ⟨⟩
    exact .inl rfl
  next hbare =>
    intro c hc
    have hplain := isPlain_of_bare (Bool.eq_false_iff.mpr hbare) (some c)
      (List.mem_map_of_mem (List.mem_of_mem_head? hc))
    rw [isPlain, Bool.not_eq_true', Bool.or_eq_false_iff] at hplain
    exact .inr ⟨hc, hplain.2⟩

/-- A record's line begins with a mark or with the first character of its first field. -/
theorem line_head (record : List (List Char)) :
    ∃ c cs, line record = c :: cs ∧
      (c = quote ∨ c = comma ∨ (∃ f ∈ record.head?, c ∈ f.head?) ∧ endsLine c = false) := by
  have hjoined : ∀ c ∈ (joined record).head?,
      c = quote ∨ c = comma ∨ (∃ f ∈ record.head?, c ∈ f.head?) ∧ endsLine c = false := by
    match record with
    | [] => exact fun _ h => by cases h
    | [f] =>
        rw [joined_singleton]
        intro c hc
        exact (writeField_head f c hc).imp_right fun h => .inr ⟨⟨f, rfl, h.1⟩, h.2⟩
    | f :: g :: rest =>
        rw [joined_cons_cons]
        intro c hc
        cases hf : writeField f with
        | nil =>
            rw [hf] at hc
            cases hc
            exact .inr (.inl rfl)
        | cons d ds =>
            rw [hf] at hc
            exact (writeField_head f c (hf ▸ hc)).imp_right fun h => .inr ⟨⟨f, rfl, h.1⟩, h.2⟩
  rw [line]
  split
  next => exact ⟨quote, [quote], rfl, .inl rfl⟩
  next hne =>
    cases hline : joined record with
    | nil => exact absurd (List.isEmpty_iff.mpr hline) hne
    | cons c cs => exact ⟨c, cs, rfl, hjoined c (hline ▸ rfl)⟩

/-! ## All records -/

theorem readRecords_writeRecord {record : List (List Char)} (hne : record ≠ [])
    (rest : List Glyph) :
    readRecords ((writeRecord record).map some ++ rest) =
      record.map (·.map some) :: readRecords rest := by
  have hread := readRecord_line hne rest
  have hskip : readRecords (some '\n' :: rest) = readRecords rest := by
    rw [readRecords]
    exact dif_pos rfl
  obtain ⟨c, cs, hline, hhead⟩ := line_head record
  have hc : endsLine c = false := by
    rcases hhead with rfl | rfl | ⟨_, hc⟩
    · rfl
    · rfl
    · exact hc
  rw [writeRecord_eq, List.map_append, List.append_assoc]
  rw [hline, List.map_cons, List.cons_append] at hread ⊢
  rw [readRecords, dif_neg (by rw [isLineEnd, Option.any_some, hc]; decide)]
  show (readRecord (some c :: (cs.map some ++ some '\n' :: rest))).1 ::
    readRecords (readRecord (some c :: (cs.map some ++ some '\n' :: rest))).2 = _
  rw [hread, hskip]

/-- Records that have fields are read back as they were written. -/
theorem readRecords_writeRecords {records : List (List (List Char))}
    (hne : ∀ record ∈ records, record ≠ []) :
    readRecords ((writeRecords records).map some) =
      records.map fun record => record.map fun field => field.map some := by
  induction records with
  | nil => rw [writeRecords, List.flatMap_nil, List.map_nil, readRecords, List.map_nil]
  | cons record rest ih =>
      obtain ⟨hrecord, hrest⟩ := List.forall_mem_cons.mp hne
      rw [writeRecords, List.flatMap_cons, List.map_append, readRecords_writeRecord hrecord,
        ← writeRecords, ih hrest, List.map_cons]

end TableVerbs.Csv
