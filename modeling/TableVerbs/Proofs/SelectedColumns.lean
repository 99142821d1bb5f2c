import TableVerbs.Proofs.NewColumns
import TableVerbs.Proofs.WellFormedDataset
import TableVerbs.Session

/-!
# A selection and its inversion

A selection takes the columns whose names meet one of its criteria, and the keys
with them; inverted, it takes the columns that are left. Both go through the columns
in order, so together they have every column of the dataset once. The keys are all
on one side: there the dataset stays grouped as it is, and on the other it is plain.

What was selected is selected again as a whole, though for two reasons. On the side
of the keys the second selection has the same keys as the first. On the other side
it has none, and asks less of a name than the first one did; but a name that did not
meet what was asked together with the keys does not meet it without them.
-/

namespace TableVerbs

/-- The columns that a mask made of their names marks. -/
theorem Table.selectMask_map (p : String → Bool) (t : Table) :
    t.selectMask (t.names.map p) = .ok ⟨t.columns.filter fun c => p c.1, t.labels⟩ := by
  have hmask : t.names.map p = t.columns.map fun c => p c.1 := List.map_map
  rw [hmask, selectMask, if_neg (not_not.mpr (List.length_map _))]
  exact congrArg (fun columns => Except.ok (Table.mk columns t.labels)) (marked_map _ t.columns)

namespace Selection

variable {s : Selection} {pattern : Option Pattern} {d : Dataset} {name : String}

/-! ## What a selection asks of a name -/

/-- A name meets a selection if it meets one of its criteria. -/
inductive Meets (s : Selection) (pattern : Option Pattern) (name : String) : Prop where
  /-- It is one of the names. -/
  | named (h : name ∈ s.names)
  /-- It begins with the text that is given for it, which is not empty. -/
  | starts {part : String} (hpart : s.startsWith = some part) (hne : part ≠ "")
      (h : part.toList <+: name.toList)
  /-- It ends with the text that is given for it, which is not empty. -/
  | ends {part : String} (hpart : s.endsWith = some part) (hne : part ≠ "")
      (h : part.toList <:+ name.toList)
  /-- The text that is given for it, which is not empty, is in it. -/
  | contains {part : String} (hpart : s.contains = some part) (hne : part ≠ "")
      (h : part.toList <:+: name.toList)
  /-- It begins with a match of the pattern. -/
  | matched {p : Pattern} (hp : pattern = some p) (h : p.startsOn name = true)

/-- What a selection takes of a dataset, if it is not inverted: names that meet it,
and the keys. -/
def Takes (s : Selection) (pattern : Option Pattern) (d : Dataset) (name : String) : Prop :=
  s.Meets pattern name ∨ name ∈ d.keys

theorem occurs_iff {part text : List Char} : occurs part text = true ↔ part <:+: text := by
  induction text with
  | nil => rw [occurs, List.isEmpty_iff, List.infix_nil]
  | cons c rest ih =>
      rw [occurs, Bool.or_eq_true, List.isPrefixOf_iff_prefix, ih, List.infix_cons_iff]

theorem criterion_eq_some {given : Option String} {part : String} :
    criterion given = some part ↔ given = some part ∧ part ≠ "" := by
  cases given with
  | none => simp [criterion]
  | some text =>
      rw [criterion]
      split
      · next hempty =>
          rw [String.isEmpty_iff] at hempty
          subst hempty
          constructor
          · intro h
            cases h
          · rintro ⟨h, hne⟩
            cases h
            exact absurd rfl hne
      · next hempty =>
          rw [String.isEmpty_iff] at hempty
          refine ⟨fun h => ⟨h, ?_⟩, And.left⟩
          cases h
          exact hempty

theorem covers_iff : s.covers pattern d.keys name = true ↔ s.Takes pattern d name := by
  simp only [covers, Bool.or_eq_true, Option.any_eq_true, criterion_eq_some, List.contains_iff_mem,
    List.isPrefixOf_iff_prefix, List.isSuffixOf_iff_suffix, occurs_iff]
  constructor
  · rintro (((((h | ⟨_, ⟨hpart, hne⟩, h⟩) | ⟨_, ⟨hpart, hne⟩, h⟩) | ⟨_, ⟨hpart, hne⟩, h⟩) |
      ⟨_, hp, h⟩) | h)
    · exact .inl (.named h)
    · exact .inl (.starts hpart hne h)
    · exact .inl (.ends hpart hne h)
    · exact .inl (.contains hpart hne h)
    · exact .inl (.matched hp h)
    · exact .inr h
  · rintro ((h | ⟨hpart, hne, h⟩ | ⟨hpart, hne, h⟩ | ⟨hpart, hne, h⟩ | ⟨hp, h⟩) | h)
    · exact .inl (.inl (.inl (.inl (.inl h))))
    · exact .inl (.inl (.inl (.inl (.inr ⟨_, ⟨hpart, hne⟩, h⟩))))
    · exact .inl (.inl (.inl (.inr ⟨_, ⟨hpart, hne⟩, h⟩)))
    · exact .inl (.inl (.inr ⟨_, ⟨hpart, hne⟩, h⟩))
    · exact .inl (.inr ⟨_, hp, h⟩)
    · exact .inr h

instance : Decidable (s.Takes pattern d name) := decidable_of_iff _ covers_iff

/-! ## What is selected -/

/-- The table of the columns that a selection takes or, with `drop`, of the others. -/
def part (s : Selection) (pattern : Option Pattern) (drop : Bool) (d : Dataset) : Table :=
  ⟨d.table.columns.filter fun c => decide (s.Takes pattern d c.1) != drop, d.table.labels⟩

theorem mem_names_part {drop : Bool} : name ∈ (s.part pattern drop d).names ↔
    name ∈ d.table.names ∧ decide (s.Takes pattern d name) ≠ drop := by
  simp only [part, Table.names, List.mem_map, List.mem_filter, bne_iff_ne]
  constructor
  · rintro ⟨c, ⟨hc, htakes⟩, rfl⟩
    exact ⟨⟨c, hc, rfl⟩, htakes⟩
  · rintro ⟨⟨c, hc, rfl⟩, htakes⟩
    exact ⟨c, ⟨hc, htakes⟩, rfl⟩

theorem run_eq (hpattern : s.pattern? = .ok pattern) (drop : Bool) (d : Dataset) :
    { s with drop := drop }.run d = .ok (d.retag (s.part pattern drop d)) := by
  have hcovers : ∀ name, { s with drop := drop }.covers pattern d.keys name =
      decide (s.Takes pattern d name) := fun name =>
    Bool.eq_iff_iff.mpr ((covers_iff (s := s)).trans decide_eq_true_iff.symm)
  replace hpattern : { s with drop := drop }.pattern? = .ok pattern := hpattern
  rw [run, hpattern]
  simp only [hcovers]
  exact congrArg (Except.map d.retag)
    (Table.selectMask_map (fun name => decide (s.Takes pattern d name) != drop) d.table)

theorem keys_taken (hd : d.Regular) {k : String} (hk : k ∈ d.keys) :
    k ∈ (s.part pattern false d).names :=
  mem_names_part.mpr ⟨hd.keys_mem k hk, by simp [Takes, hk]⟩

theorem keys_dropped {k : String} (hk : k ∈ d.keys) : k ∉ (s.part pattern true d).names :=
  fun h => (mem_names_part.mp h).2 (decide_eq_true (.inr hk))

theorem run_take (hpattern : s.pattern? = .ok pattern) (hd : d.Regular) :
    { s with drop := false }.run d = .ok (d.withTable (s.part pattern false d)) := by
  rw [run_eq hpattern, hd.retag_of_keys fun _ hk => keys_taken hd hk]

theorem run_drop (hpattern : s.pattern? = .ok pattern) (d : Dataset) :
    { s with drop := true }.run d = .ok (.plain (s.part pattern true d)) := by
  rw [run_eq hpattern, Dataset.retag_eq_plain fun _ => keys_dropped]

/-! ## Selecting it again -/

theorem part_self {drop : Bool}
    (h : ∀ name ∈ d.table.names, decide (s.Takes pattern d name) ≠ drop) :
    s.part pattern drop d = d.table := by
  have hall : d.table.columns.filter (fun c => decide (s.Takes pattern d c.1) != drop) =
      d.table.columns :=
    List.filter_eq_self.mpr fun c hc => bne_iff_ne.mpr (h c.1 (List.mem_map_of_mem hc))
  rw [part, hall]

theorem run_take_again (hpattern : s.pattern? = .ok pattern) (hd : d.Regular) :
    { s with drop := false }.run (d.withTable (s.part pattern false d)) =
      .ok (d.withTable (s.part pattern false d)) := by
  have htaken : (d.withTable (s.part pattern false d)).Regular := by
    refine hd.withTable (fun c hc => ?_) fun k hk => keys_taken hd hk
    exact hd.rectangular c (List.mem_filter.mp hc).1
  rw [run_take hpattern htaken, part_self, Dataset.withTable_self]
  intro name hname
  rw [Dataset.table_withTable] at hname
  -- the keys are the same as before
  have hsame : s.Takes pattern (d.withTable (s.part pattern false d)) name ↔
      s.Takes pattern d name := by
    simp only [Takes, Dataset.keys_withTable]
  simp only [hsame]
  exact (mem_names_part.mp hname).2

theorem run_drop_again (hpattern : s.pattern? = .ok pattern) (d : Dataset) :
    { s with drop := true }.run (.plain (s.part pattern true d)) =
      .ok (.plain (s.part pattern true d)) := by
  rw [run_drop hpattern, part_self]
  · rfl
  · intro name hname htakes
    refine (mem_names_part.mp hname).2 (decide_eq_true ?_)
    -- there are no keys any more, so the name meets a criterion
    exact .inl ((of_decide_eq_true htakes).resolve_right (List.not_mem_nil))

/-- The two parts of a dataset: `taken` has the columns that a selection takes and stays
grouped as it was, and `others` has the other columns and is plain. -/
structure Splits (s : Selection) (pattern : Option Pattern) (d taken others : Dataset) :
    Prop where
  taken_table : taken.table =
    ⟨d.table.columns.filter fun c => s.Takes pattern d c.1, d.table.labels⟩
  others_table : others.table =
    ⟨d.table.columns.filter fun c => ¬ s.Takes pattern d c.1, d.table.labels⟩
  keys_taken : ∀ k ∈ d.keys, k ∈ taken.table.names
  keys_others : ∀ k ∈ d.keys, k ∉ others.table.names
  taken_keys : taken.keys = d.keys
  taken_isGrouped : taken.isGrouped = d.isGrouped
  others_plain : others = .plain others.table

theorem splits_parts (hd : d.Regular) : s.Splits pattern d
    (d.withTable (s.part pattern false d)) (.plain (s.part pattern true d)) where
  taken_table := by
    rw [Dataset.table_withTable, part]
    simp only [Bool.bne_false]
  others_table := by
    show s.part pattern true d = _
    rw [part]
    simp only [Bool.bne_true, decide_not]
  keys_taken := by
    rw [Dataset.table_withTable]
    exact fun _ hk => keys_taken hd hk
  keys_others := fun _ hk => keys_dropped hk
  taken_keys := Dataset.keys_withTable _
  taken_isGrouped := Dataset.isGrouped_withTable _
  others_plain := rfl

end Selection

/-- A selection with a good pattern and its inversion split the columns of a dataset, in
their order and with their data. The keys all go with the selection, and each of the two
parts, selected once more as before, stays as it is. -/
theorem Session.select_splits (s : Session) (defaults : Options) {d : Dataset} (hd : d.Regular)
    {selection : Selection} {pattern : Option Pattern}
    (hpattern : selection.pattern? = .ok pattern) :
    ∃ taken others,
      (s.apply defaults d (.select { selection with drop := false })).outcome =
        .ok (.data taken) ∧
      (s.apply defaults d (.select { selection with drop := true })).outcome =
        .ok (.data others) ∧
      selection.Splits pattern d taken others ∧
      (s.apply defaults taken (.select { selection with drop := false })).outcome =
        .ok (.data taken) ∧
      (s.apply defaults others (.select { selection with drop := true })).outcome =
        .ok (.data others) := by
  have hselect : ∀ d selection, (s.apply defaults d (.select selection)).outcome =
      (selection.run d).map .data := fun _ _ => rfl
  simp only [hselect]
  refine ⟨_, _, ?_, ?_, Selection.splits_parts hd, ?_, ?_⟩
  · rw [Selection.run_take hpattern hd]
    rfl
  · rw [Selection.run_drop hpattern d]
    rfl
  · rw [Selection.run_take_again hpattern hd]
    rfl
  · rw [Selection.run_drop_again hpattern d]
    rfl

/-- The key of grouped rows goes with the columns that match a pattern. -/
theorem Session.select_splits_keyed :
    ∃ pattern taken,
      Selection.Splits ⟨[], none, none, none, some "a.", false⟩ pattern
        (.grouped ⟨⟨[("ab", .ints [1]), ("k", .ints [2]), ("ba", .ints [3])], [5]⟩, ["k"]⟩)
        taken (.plain ⟨[("ba", .ints [3])], [5]⟩) ∧
      (Session.apply ⟨none, .empty, fun _ => [], .inTurn⟩ .standard taken
        (.select ⟨[], none, none, none, some "a.", false⟩)).outcome = .ok (.data taken) := by
  obtain ⟨pattern, hpattern⟩ :
    ∃ p, (Selection.mk [] none none none (some "a.") false).pattern? = .ok p := ⟨_, rfl⟩
  have hregular : Dataset.Regular (.grouped
      ⟨⟨[("ab", .ints [1]), ("k", .ints [2]), ("ba", .ints [3])], [5]⟩, ["k"]⟩) :=
    ⟨by unfold Table.Rectangular; decide, by decide, by decide, by decide⟩
  have hdropped : (Session.apply ⟨none, .empty, fun _ => [], .inTurn⟩ .standard
      (.grouped ⟨⟨[("ab", .ints [1]), ("k", .ints [2]), ("ba", .ints [3])], [5]⟩, ["k"]⟩)
      (.select ⟨[], none, none, none, some "a.", true⟩)).outcome =
        .ok (.data (.plain ⟨[("ba", .ints [3])], [5]⟩)) := rfl
  obtain ⟨taken, others, _, hothers, hsplits, hagain, _⟩ :=
    Session.select_splits ⟨none, .empty, fun _ => [], .inTurn⟩ .standard hregular hpattern
  cases hothers.symm.trans hdropped
  exact ⟨pattern, taken, hsplits, hagain⟩

end TableVerbs
