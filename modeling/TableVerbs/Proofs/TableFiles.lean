import TableVerbs.Csv
import TableVerbs.Proofs.FloatTexts
import TableVerbs.Proofs.RecordRoundTrip
import TableVerbs.Proofs.Rectangular
import TableVerbs.Proofs.Utf8Text

/-!
# Tables are read back from their files

A file holds the names of a table and the texts of its cells. The records are read back
as they were written, so what is left of a column are its texts, and it comes back as
what these show. For integers and truth values that is the column itself, and for texts
it is unless they look like one of the others.

For floats it need not be. A whole number is written without a point, and the column is
typed by all of its texts together. So one value that is no integer, be it a half, an
infinity or a number beyond 64 bits, makes the column one of floats again, and without
one it becomes a column of integers.
-/

namespace TableVerbs

namespace Table

theorem fault?_of_fits {length : Nat} {columns : List (String × Column)}
    (hlengths : ∀ c ∈ columns, c.2.length = length) (hnames : (columns.map Prod.fst).Nodup)
    {seen : List String} (hseen : ∀ c ∈ columns, c.1 ∉ seen) :
    fault? length seen columns = none := by
  induction columns generalizing seen with
  | nil => rfl
  | cons c rest ih =>
      obtain ⟨name, c⟩ := c
      obtain ⟨hlen, hlengths⟩ := List.forall_mem_cons.mp hlengths
      obtain ⟨hnew, hseen⟩ := List.forall_mem_cons.mp hseen
      obtain ⟨hname, hnames⟩ := List.nodup_cons.mp hnames
      rw [fault?, if_neg (not_not.mpr hlen), if_neg hnew]
      refine ih hlengths hnames fun d hd hmem => ?_
      rcases List.mem_cons.mp hmem with hsame | hmem
      · have hd : d.1 ∈ rest.map Prod.fst := List.mem_map_of_mem hd
        exact hname (hsame ▸ hd)
      · exact hseen d hd hmem

/-- Columns of one length with different names make a table. -/
theorem ofColumns_eq_ok {n : Nat} {columns : List (String × Column)} (hne : columns ≠ [])
    (hlengths : ∀ c ∈ columns, c.2.length = n) (hnames : (columns.map Prod.fst).Nodup) :
    ofColumns columns = .ok ⟨columns, List.range n⟩ := by
  obtain ⟨first, rest, rfl⟩ := List.exists_cons_of_ne_nil hne
  have hfirst : first.2.length = n := hlengths first List.mem_cons_self
  have hlength : (((first :: rest).head?.map fun c => c.2.length).getD 0) = n := hfirst
  simp only [ofColumns, hlength]
  rw [fault?_of_fits hlengths hnames fun _ _ => List.not_mem_nil]

end Table

namespace Csv

open Text (Glyph)

/-! ## Fields of a file -/

/-- A text as a field of a file. -/
def asField (s : String) : List Glyph := s.toList.map some

theorem fieldTexts_asField (record : List String) :
    fieldTexts (record.map asField) = .ok record := by
  rw [fieldTexts, List.mapM_map]
  refine (mapM_eq_map fun s _ => ?_).trans (congrArg Except.ok (List.map_id record))
  have hchars : (asField s).mapM id = some s.toList :=
    mapM_eq_some (by rw [asField, List.map_id])
  rw [Function.comp_apply, hchars]
  exact congrArg Except.ok String.ofList_toList

theorem readRows_asField {width : Nat} {records : List (List String)}
    (h : ∀ record ∈ records, record.length = width) :
    readRows width (records.map fun record => record.map asField) = .ok records := by
  have hrecord : ∀ record ∈ records, (if (record.map asField).length ≠ width then
      .error (.recordLength width (record.map asField).length)
      else fieldTexts (record.map asField)) = .ok (id record) := by
    intro record hrecord
    rw [if_neg, fieldTexts_asField, id]
    rw [List.length_map, h record hrecord]
    exact not_not.mpr rfl
  rw [readRows, List.mapM_map]
  exact (mapM_eq_map hrecord).trans (congrArg Except.ok (List.map_id records))

/-! ## Rows of a table -/

section

variable {t : Table}

theorem rowTexts_eq (t : Table) :
    rowTexts t = (List.range t.rows).map fun row =>
      t.columns.map fun c : String × Column => (texts c.2)[row]?.getD "" := by
  simp only [rowTexts, List.map_map]
  refine List.map_congr_left fun row _ => List.map_congr_left fun c _ => ?_
  show ((c.2.cells[row]?).map Cell.text).getD "" = (texts c.2)[row]?.getD ""
  rw [texts, List.getElem?_map]

/-- The fields at one position of all rows are the texts of the column there. -/
theorem fieldsAt_rowTexts (hlen : t.Rectangular) {i : Nat} (hi : i < t.columns.length) :
    fieldsAt (rowTexts t) i = texts t.columns[i].2 := by
  have hcount : (texts t.columns[i].2).length = t.rows :=
    (length_texts _).trans (hlen _ (List.getElem_mem hi))
  have hfield : ∀ row : Nat,
      (t.columns.map fun c : String × Column => (texts c.2)[row]?.getD "")[i]? =
      some ((texts t.columns[i].2)[row]?.getD "") := by
    intro row
    rw [List.getElem?_map, List.getElem?_eq_getElem hi]
    rfl
  rw [fieldsAt, rowTexts_eq, List.filterMap_map]
  simp only [Function.comp_def, hfield]
  rw [← Function.comp_def some, List.filterMap_eq_map]
  refine List.ext_getElem (by rw [List.length_map, List.length_range, hcount]) fun row _ hrow => ?_
  rw [List.getElem_map, List.getElem_range, List.getElem?_eq_getElem hrow, Option.getD_some]

/-- What a column is read back as. -/
def reread (c : Column) : Column := typed (texts c)

theorem toTable_rowTexts (wf : t.WellFormed) (hne : t.columns ≠ []) :
    toTable t.names (rowTexts t) =
      .ok ⟨t.columns.map fun c => (c.1, reread c.2), List.range t.rows⟩ := by
  have hcolumns : (t.names.zipIdx.map fun p => (p.1, typed (fieldsAt (rowTexts t) p.2))) =
      t.columns.map fun c => (c.1, reread c.2) := by
    refine List.ext_getElem (by simp [Table.names]) fun i hi hi' => ?_
    have hcolumn : i < t.columns.length := by rwa [List.length_map] at hi'
    simp only [List.getElem_map, List.getElem_zipIdx, Nat.zero_add, Table.names,
      fieldsAt_rowTexts wf.lengths hcolumn, reread]
  refine (congrArg Table.ofColumns hcolumns).trans ?_
  refine Table.ofColumns_eq_ok (mt List.map_eq_nil_iff.mp hne) ?_ ?_
  · intro c hc
    obtain ⟨d, hd, rfl⟩ := List.mem_map.mp hc
    exact (length_typed _).trans ((length_texts _).trans (wf.lengths d hd))
  · rw [List.map_map]
    exact wf.names_nodup

/-! ## Whole files -/

theorem withoutMark_of_head {cs : List Glyph} (h : cs.head? ≠ some (some byteOrderMark)) :
    withoutMark cs = cs := by
  rw [withoutMark.eq_def]
  split
  next c rest =>
    have hc : c ≠ byteOrderMark := fun heq => h (heq ▸ rfl)
    exact if_neg hc
  next => rfl

/-- The text of a table begins with a mark of byte order only where its first name does. -/
theorem head?_write (hmark : ∀ name ∈ t.names.head?, name.toList.head? ≠ some byteOrderMark) :
    (write t).toList.head? ≠ some byteOrderMark := by
  obtain ⟨c, cs, hline, hhead⟩ := line_head (t.names.map String.toList)
  rw [write, String.toList_ofList, List.map_cons, writeRecords, List.flatMap_cons, writeRecord_eq,
    hline]
  show some c ≠ some byteOrderMark
  rintro ⟨⟩
  rcases hhead with hc | hc | ⟨⟨f, hf, hc⟩, _⟩
  · cases hc
  · cases hc
  · rw [List.head?_map] at hf
    obtain ⟨name, hname, rfl⟩ := Option.map_eq_some_iff.mp hf
    exact hmark name hname hc

/-- The records that were written are the ones that are read. -/
def ReadsBack (t : Table) : Prop :=
  readRecords (withoutMark (Text.glyphs (write t))) =
    (t.names :: rowTexts t).map fun record => record.map asField

theorem length_rowTexts : ∀ record ∈ rowTexts t, record.length = t.names.length := by
  intro record hrecord
  rw [rowTexts_eq] at hrecord
  obtain ⟨row, _, rfl⟩ := List.mem_map.mp hrecord
  rw [List.length_map, Table.names, List.length_map]

/-- They are if there are columns and the file does not begin with a mark of byte order. -/
theorem readsBack_of_unmarked (hne : t.columns ≠ [])
    (hmark : ∀ name ∈ t.names.head?, name.toList.head? ≠ some byteOrderMark) : ReadsBack t := by
  have hglyphs : withoutMark (Text.glyphs (write t)) = Text.glyphs (write t) := by
    refine withoutMark_of_head fun h => head?_write hmark ?_
    rw [Text.glyphs, List.head?_map] at h
    obtain ⟨c, hc, hsome⟩ := Option.map_eq_some_iff.mp h
    rw [hc, Option.some.inj hsome]
  have hnames : t.names.length ≠ 0 := by
    rw [Table.names, List.length_map]
    exact mt List.length_eq_zero_iff.mp hne
  have hfields : ∀ record ∈ t.names :: rowTexts t, record ≠ [] :=
    List.forall_mem_cons.mpr ⟨mt List.length_eq_zero_iff.mpr hnames, fun record hrecord =>
      mt List.length_eq_zero_iff.mpr (length_rowTexts record hrecord ▸ hnames)⟩
  rw [ReadsBack, hglyphs, Text.glyphs, write, String.toList_ofList, readRecords_writeRecords,
    List.map_map]
  · refine List.map_congr_left fun record _ => ?_
    show (record.map String.toList).map _ = record.map asField
    rw [List.map_map]
    rfl
  · intro record hrecord
    obtain ⟨texts, htexts, rfl⟩ := List.mem_map.mp hrecord
    exact mt List.map_eq_nil_iff.mp (hfields texts htexts)

/-- A table is read back from its file with its names, its columns typed by what their texts
show, and new labels. -/
theorem readBytes_write (wf : t.WellFormed) (hne : t.columns ≠ []) (h : ReadsBack t) :
    readBytes (some (Text.bytes (write t))) =
      .ok ⟨t.columns.map fun c => (c.1, reread c.2), List.range t.rows⟩ := by
  rw [ReadsBack, List.map_cons] at h
  rw [readBytes, Text.decode_bytes, read, h]
  simp only [fieldTexts_asField, List.length_map, readRows_asField length_rowTexts]
  exact toTable_rowTexts wf hne

end

/-! ## Columns that show their type -/

/-- Whether the texts of a column are read as values of its own type. Texts are if one of
them is no number and one no truth value. -/
def ShowsType : Column → Prop
  | .ints _ | .bools _ => True
  | .floats _ => False
  | .strs xs => (∃ s ∈ xs, floatField? s = none) ∧ ∃ s ∈ xs, boolField? s = none

theorem reread_of_showsType {c : Column} (hne : 0 < c.length) (h : ShowsType c) :
    reread c = c := by
  cases c with
  | ints xs => exact typed_texts_ints xs
  | floats xs => cases h
  | bools xs => exact typed_texts_bools (List.ne_nil_of_length_pos hne)
  | strs xs =>
      obtain ⟨⟨s, hs, hfloat⟩, ⟨s', hs', hbool⟩⟩ := h
      rw [reread, texts_strs]
      exact typed_strs hs hfloat hs' hbool

/-- A table of integers, truth values and texts is read back as it was written, with new
labels. Texts have to show that they are neither numbers nor truth values, one of them for
each, and they may hold anything else. -/
theorem read_shown {t : Table} (wf : t.WellFormed) (hne : t.columns ≠ []) (hrows : 0 < t.rows)
    (hmark : ∀ name ∈ t.names.head?, name.toList.head? ≠ some byteOrderMark)
    (hshow : ∀ c ∈ t.columns, ShowsType c.2) :
    ∃ text, writeTo true t = .ok text ∧
      readBytes (some (Text.bytes text)) = .ok t.relabelled := by
  refine ⟨write t, rfl, ?_⟩
  have hcolumns : (t.columns.map fun c => (c.1, reread c.2)) = t.columns := by
    refine (List.map_congr_left fun c hc => ?_).trans (List.map_id _)
    rw [reread_of_showsType (wf.lengths c hc ▸ hrows) (hshow c hc)]
    rfl
  rw [readBytes_write wf hne (readsBack_of_unmarked hne hmark), hcolumns]
  rfl

/-- Commas, quotes, line ends and blanks in the texts, and a name of nothing. -/
theorem read_shown_quoted :
    ∃ text, writeTo true ⟨[("", .strs ["a,b", " \x22x\x22\n"]), ("n", .ints [-7, 12]),
        ("ok", .bools [true, false])], [4, 9]⟩ = .ok text ∧
      readBytes (some (Text.bytes text)) = .ok ⟨[("", .strs ["a,b", " \x22x\x22\n"]),
        ("n", .ints [-7, 12]), ("ok", .bools [true, false])], [0, 1]⟩ := by
  have hfloat : floatField? "a,b" = none := by
    rw [floatField?]
    decide +kernel
  have hbool : boolField? "a,b" = none := by
    rw [boolField?]
    decide +kernel
  refine read_shown ⟨by decide, by decide⟩ (by decide) (by decide) (by decide) ?_
  intro c hc
  simp only [List.mem_cons, List.not_mem_nil, or_false] at hc
  rcases hc with rfl | rfl | rfl
  · exact ⟨⟨"a,b", by decide, hfloat⟩, ⟨"a,b", by decide, hbool⟩⟩
  · trivial
  · trivial

/-! ## Columns of floats -/

theorem floatFields_texts {xs : List Float} (h : ∀ x ∈ xs, DisplaysFaithfully x) :
    (texts (.floats xs)).map floatField? = xs.map some := by
  show ((xs.map Cell.float).map Cell.text).map floatField? = xs.map some
  rw [List.map_map, List.map_map]
  exact List.map_congr_left fun x hx => floatField?_text (h x hx)

/-- A column of floats is read back as one if a value in it is no integer of 64 bits. -/
theorem reread_floats {xs : List Float} (h : ∀ x ∈ xs, DisplaysFaithfully x)
    (hsome : ∃ x ∈ xs, ¬ Decimal.FitsInteger x) : reread (.floats xs) = .floats xs := by
  obtain ⟨x, hx, hfits⟩ := hsome
  have hint : intField? (Cell.float x).text = none := by
    rw [← Option.not_isSome_iff_eq_none, Option.isSome_iff_exists, intField?_text_iff (h x hx)]
    exact hfits
  have hmem : (Cell.float x).text ∈ texts (.floats xs) :=
    List.mem_map_of_mem (List.mem_map_of_mem hx)
  exact typed_floats hmem hint (floatFields_texts h)

/-- Otherwise it is read back as a column of the integers that its texts show. -/
theorem reread_wholeFloats {xs : List Float} (h : ∀ x ∈ xs, DisplaysFaithfully x)
    (hall : ∀ x ∈ xs, Decimal.FitsInteger x) :
    ∃ vs : List Int64, xs.map (fun x => intField? (Cell.float x).text) = vs.map some ∧
      reread (.floats xs) = .ints vs := by
  obtain ⟨vs, hvs⟩ :=
    exists_map_some fun x hx => (intField?_text_iff (h x hx)).mpr (hall x hx)
  refine ⟨vs, hvs, typed_ints ?_⟩
  rw [← hvs]
  show ((xs.map Cell.float).map Cell.text).map intField? = _
  rw [List.map_map, List.map_map]
  rfl

/-- A file of floats is read, and every column of floats is found in its place and under its
name. It comes back with the same values, infinities and NaN among them, unless all of its
values are whole numbers that fit 64 bits: the type of a column is not written, so then it
comes back as one of the integers that its texts show. -/
theorem read_floats {t : Table} (wf : t.WellFormed) (hne : t.columns ≠ [])
    (hrecords : ReadsBack t)
    (hfloats : ∀ c ∈ t.columns, ∀ xs, c.2 = .floats xs → ∀ x ∈ xs, DisplaysFaithfully x) :
    ∃ text u, writeTo true t = .ok text ∧ readBytes (some (Text.bytes text)) = .ok u ∧
      u.names = t.names ∧ u.labels = List.range t.rows ∧
      ∀ (i : Nat) (name : String) (xs : List Float), t.columns[i]? = some (name, .floats xs) →
        ((∃ x ∈ xs, ¬ Decimal.FitsInteger x) → u.columns[i]? = some (name, .floats xs)) ∧
        ((∀ x ∈ xs, Decimal.FitsInteger x) → ∃ vs : List Int64,
          xs.map (fun x => intField? (Cell.float x).text) = vs.map some ∧
          u.columns[i]? = some (name, .ints vs)) := by
  refine ⟨write t, _, rfl, readBytes_write wf hne hrecords, ?_, rfl, fun i name xs hi => ?_⟩
  · show (t.columns.map fun c => (c.1, reread c.2)).map Prod.fst = t.columns.map Prod.fst
    rw [List.map_map]
    rfl
  · have hdisplay := hfloats (name, .floats xs) (List.mem_of_getElem? hi) xs rfl
    have hcolumn : (t.columns.map fun c => (c.1, reread c.2))[i]? =
        some (name, reread (.floats xs)) := by
      rw [List.getElem?_map, hi]
      rfl
    refine ⟨fun hsome => ?_, fun hall => ?_⟩
    · rw [hcolumn, reread_floats hdisplay hsome]
    · obtain ⟨vs, hvs, hreread⟩ := reread_wholeFloats hdisplay hall
      exact ⟨vs, hvs, by rw [hcolumn, hreread]⟩

/-- Two columns of floats, one of them of whole numbers. -/
def halfAndWhole : Table := ⟨[("x", .floats [1.0, 0.5]), ("y", .floats [2.0, -3.0])], [0, 1]⟩

/-- A half keeps its column one of floats, and a column of whole numbers becomes one of
integers. -/
theorem read_floats_half :
    ∃ text u, writeTo true halfAndWhole = .ok text ∧ readBytes (some (Text.bytes text)) = .ok u ∧
      u.columns[0]? = some ("x", .floats [1.0, 0.5]) ∧
      ∃ vs : List Int64, u.columns[1]? = some ("y", .ints vs) := by
  have hfaithful : ∀ x ∈ [1.0, 0.5, 2.0, -3.0], DisplaysFaithfully x := by
    have hread : ∀ x ∈ [1.0, 0.5, 2.0, -3.0],
        Decimal.readFloat? (Decimal.Layout.cell.write x).toList = some x := by decide +kernel
    exact fun x hx _ _ => hread x hx
  obtain ⟨hone, hhalf, htwo, hthree⟩ : DisplaysFaithfully 1.0 ∧ DisplaysFaithfully 0.5 ∧
      DisplaysFaithfully 2.0 ∧ DisplaysFaithfully (-3.0) := by
    simpa using hfaithful
  have hfloats : ∀ c ∈ halfAndWhole.columns, ∀ xs, c.2 = .floats xs → ∀ x ∈ xs,
      DisplaysFaithfully x := by
    refine List.forall_mem_cons.mpr ⟨?_, List.forall_mem_singleton.mpr ?_⟩
    · rintro _ ⟨⟩
      exact List.forall_mem_cons.mpr ⟨hone, List.forall_mem_singleton.mpr hhalf⟩
    · rintro _ ⟨⟩
      exact List.forall_mem_cons.mpr ⟨htwo, List.forall_mem_singleton.mpr hthree⟩
  have hplaces : ¬ Decimal.FitsInteger 0.5 := by
    rw [← intField?_text_iff hhalf, ← Option.isSome_iff_exists, intField?]
    decide +kernel
  have hwhole : ∀ x ∈ [2.0, -3.0], Decimal.FitsInteger x := by
    refine List.forall_mem_cons.mpr ⟨?_, List.forall_mem_singleton.mpr ?_⟩
    · rw [← intField?_text_iff htwo, ← Option.isSome_iff_exists, intField?]
      decide +kernel
    · rw [← intField?_text_iff hthree, ← Option.isSome_iff_exists, intField?]
      decide +kernel
  obtain ⟨text, u, htext, hu, _, _, hcolumns⟩ :=
    @read_floats halfAndWhole ⟨by decide, by decide⟩ (List.cons_ne_nil _ _)
      (readsBack_of_unmarked (List.cons_ne_nil _ _) (by decide)) hfloats
  refine ⟨text, u, htext, hu, ?_, ?_⟩
  · have hmem : 0.5 ∈ [1.0, 0.5] := List.mem_cons_of_mem _ List.mem_cons_self
    exact (hcolumns 0 "x" [1.0, 0.5] rfl).1 ⟨0.5, hmem, hplaces⟩
  · obtain ⟨vs, _, hvs⟩ := (hcolumns 1 "y" [2.0, -3.0] rfl).2 hwhole
    exact ⟨vs, hvs⟩

/-- Not every column of floats comes back as one: the text of 1.0 is that of 1. -/
theorem not_read_floats :
    ¬ ∀ t : Table, t.WellFormed → t.columns ≠ [] → 0 < t.rows → ReadsBack t →
      (∀ c ∈ t.columns, ∀ xs, c.2 = .floats xs → ∀ x ∈ xs, DisplaysFaithfully x) →
      ∃ text u, writeTo true t = .ok text ∧ readBytes (some (Text.bytes text)) = .ok u ∧
        ∀ (i : Nat) (name : String) (xs : List Float), t.columns[i]? = some (name, .floats xs) →
          u.columns[i]? = some (name, .floats xs) := by
  intro h
  have wf : Table.WellFormed ⟨[("x", .floats [1.0])], [0]⟩ := ⟨by decide, by decide⟩
  have hback : ReadsBack ⟨[("x", .floats [1.0])], [0]⟩ :=
    readsBack_of_unmarked (List.cons_ne_nil _ _) (by decide)
  have hone : DisplaysFaithfully 1.0 := fun _ _ => by decide +kernel
  have hreread : reread (.floats [1.0]) = .ints [1] := by
    refine typed_ints ?_
    show [intField? (Cell.float 1.0).text] = [some 1]
    rw [intField?]
    decide +kernel
  obtain ⟨text, u, htext, hu, hcolumns⟩ := h _ wf (List.cons_ne_nil _ _) (by decide) hback (by
    refine List.forall_mem_singleton.mpr ?_
    rintro _ ⟨⟩
    exact List.forall_mem_singleton.mpr hone)
  cases htext
  rw [readBytes_write wf (List.cons_ne_nil _ _) hback] at hu
  cases hu
  have hfirst := hcolumns 0 "x" [1.0] rfl
  rw [List.map_singleton, hreread] at hfirst
  cases hfirst

end Csv

end TableVerbs
