import TableVerbs.Proofs.Picking
import TableVerbs.Proofs.StackLength
import TableVerbs.Table.Stack

/-!
# What a stack holds

A stack is settled by two things that can be read off its parts: the type that
the parts come to, and the cells of the parts one after another, each taken over
into that type. A stack succeeds exactly if there is such a type.

When all parts are picked from one column, as they are when groups are put back
together, the special rules have no say. An empty part decides nothing and a part
of missing values is one of floats, so the type is the column's own, and taking a
cell over into its own type changes nothing.
-/

namespace TableVerbs

theorem ok_eq_ok_iff {α : Type} {a b : α} :
    (Except.ok a : Except Error α) = .ok b ↔ some a = some b := by
  rw [Except.ok.injEq, Option.some.injEq]

/-- A cell as one of another type: truth values and numbers as floats, and
anything as a text. -/
def Cell.promote (type : CellType) (v : Cell) : Cell :=
  match type with
  | .float => (v.float?.map .float).getD .missing
  | .str => .str v.text
  | .int | .bool => v

theorem Cell.promote_self (v : Cell) : v.promote v.type = v := by
  cases v <;> rfl

theorem Cell.map_promote_of_type {vals : List Cell} {type : CellType}
    (h : ∀ v ∈ vals, v.type = type) : vals.map (Cell.promote type) = vals := by
  refine (List.map_congr_left fun v hv => ?_).trans (List.map_id _)
  rw [← h v hv]
  exact v.promote_self

namespace Column

theorem ext_cells {c d : Column} (htype : c.type = d.type) (hcells : c.cells = d.cells) :
    c = d := by
  cases c with
  | ints xs =>
      cases d with
      | ints ys =>
          exact congrArg ints (List.map_injective_iff.mpr (fun _ _ h => Cell.int.inj h) hcells)
      | floats ys | bools ys | strs ys => cases htype
  | floats xs =>
      cases d with
      | floats ys =>
          exact congrArg floats (List.map_injective_iff.mpr (fun _ _ h => Cell.float.inj h) hcells)
      | ints ys | bools ys | strs ys => cases htype
  | bools xs =>
      cases d with
      | bools ys =>
          exact congrArg bools (List.map_injective_iff.mpr (fun _ _ h => Cell.bool.inj h) hcells)
      | ints ys | floats ys | strs ys => cases htype
  | strs xs =>
      cases d with
      | strs ys =>
          exact congrArg strs (List.map_injective_iff.mpr (fun _ _ h => Cell.str.inj h) hcells)
      | ints ys | floats ys | bools ys => cases htype

/-! ## The type of a stack -/

/-- The type in which some types meet. -/
def commonType? (types : List CellType) : Option CellType :=
  if types.all (· == .int) then some .int
  else if types.all fun t => t == .int || t == .float then some .float
  else if types.all (· == .bool) then some .bool
  else if types.all (· == .str) then some .str
  else none

theorem all_uniform {α : Type} {xs : List α} {a : α} (hne : xs ≠ []) (h : ∀ x ∈ xs, x = a)
    (test : α → Bool) : xs.all test = test a := by
  rw [Bool.eq_iff_iff, List.all_eq_true]
  refine ⟨fun ht => ?_, fun ht x hmem => by rwa [h x hmem]⟩
  obtain ⟨x, hx⟩ := List.exists_mem_of_ne_nil xs hne
  rw [← h x hx]
  exact ht x hx

theorem commonType?_replicate {types : List CellType} {type : CellType} (hne : types ≠ [])
    (h : ∀ t ∈ types, t = type) : commonType? types = some type := by
  simp only [commonType?, all_uniform hne h]
  cases type <;> rfl

theorem widens_commonType? {types : List CellType} {type : CellType}
    (h : commonType? types = some type) : ∀ t ∈ types, Widens t type := by
  intro t ht
  have hall : ∀ {test : CellType → Bool}, types.all test = true → test t = true :=
    fun hall => List.all_eq_true.mp hall t ht
  simp only [commonType?] at h
  split at h
  · next hint => cases h; exact .inl (beq_iff_eq.mp (hall hint))
  split at h
  · next hnumber =>
      cases h
      have := hall hnumber
      cases t with
      | int => exact .inr ⟨rfl, rfl⟩
      | float => exact .inl rfl
      | bool | str => cases this
  split at h
  · next hbool => cases h; exact .inl (beq_iff_eq.mp (hall hbool))
  split at h
  · next hstr => cases h; exact .inl (beq_iff_eq.mp (hall hstr))
  · cases h

/-- Types meet in that of floats only where it is among them. -/
theorem float_mem_of_commonType? {types : List CellType} (h : commonType? types = some .float) :
    .float ∈ types := by
  simp only [commonType?] at h
  split at h
  · cases h
  next hint =>
    split at h
    next hnumber =>
      obtain ⟨t, ht, hother⟩ : ∃ t ∈ types, ¬(t == .int) = true := by
        by_contra hnone
        exact hint (List.all_eq_true.mpr fun t ht => by_contra fun h => hnone ⟨t, ht, h⟩)
      have hfloat := List.all_eq_true.mp hnumber t ht
      cases t with
      | int => exact absurd rfl hother
      | float => exact ht
      | bool | str => cases hfloat
    next =>
      split at h
      · cases h
      · split at h <;> cases h

/-- Joining types one after another finds the type in which they meet. -/
theorem foldlM_joinTypes {types : List CellType} {start type : CellType} :
    types.foldlM joinTypes start = .ok type ↔ commonType? (start :: types) = some type := by
  induction types generalizing start with
  | nil =>
      rw [commonType?_replicate (List.cons_ne_nil _ _) fun t ht => List.mem_singleton.mp ht]
      exact ok_eq_ok_iff
  | cons next rest ih =>
      rw [List.foldlM_cons]
      cases hjoin : joinTypes start next with
      | ok joined =>
          have hsame : commonType? (joined :: rest) = commonType? (start :: next :: rest) := by
            cases start <;> cases next <;> cases hjoin <;> simp [commonType?]
          rw [← hsame]
          exact ih
      | error e =>
          have hnone : commonType? (start :: next :: rest) = none := by
            cases start <;> cases next <;> cases hjoin <;> simp [commonType?]
          rw [hnone]
          exact ⟨fun h => (by cases h), fun h => (by cases h)⟩

/-- The type of a stack: that in which the deciding parts meet, or that of floats
if values are missing, unless it is that of texts. -/
def stackedType? (parts : List Column) : Option CellType :=
  (commonType? ((deciding parts).map type)).map fun joined =>
    if (nonEmpty parts).any isMissing && joined != .str then .float else joined

theorem stackType_eq_ok {parts : List Column} (hne : nonEmpty parts ≠ []) {first : Column}
    (hfirst : (deciding parts ++ nonEmpty parts ++ parts).head? = some first)
    {type : CellType} :
    stackType first parts = .ok type ↔ stackedType? parts = some type := by
  cases hdeciding : deciding parts with
  | nil =>
      -- nothing decides, so the first part with values is missing, and so is the type
      rw [hdeciding] at hfirst
      obtain ⟨p, rest, hparts⟩ := List.exists_cons_of_ne_nil hne
      have hp : first = p := by
        rw [hparts] at hfirst
        exact (Option.some.inj hfirst).symm
      have hmissing : p.isMissing = true := by
        by_contra hnot
        have hmem : p ∈ deciding parts :=
          List.mem_filter.mpr ⟨hparts ▸ List.mem_cons_self, by simpa using hnot⟩
        rw [hdeciding] at hmem
        cases hmem
      have hany : (nonEmpty parts).any isMissing = true :=
        List.any_eq_true.mpr ⟨p, hparts ▸ List.mem_cons_self, hmissing⟩
      have htype : first.type = .float := hp ▸ type_of_isMissing hmissing
      rw [stackType, stackedType?, hdeciding, hany, htype]
      exact ok_eq_ok_iff
  | cons d rest =>
      have hd : first = d := by
        rw [hdeciding] at hfirst
        exact (Option.some.inj hfirst).symm
      have htwice : commonType? (d.type :: d.type :: rest.map Column.type) =
          commonType? (d.type :: rest.map Column.type) := by
        have hall : ∀ test : CellType → Bool,
            (d.type :: d.type :: rest.map Column.type).all test =
              (d.type :: rest.map Column.type).all test := by
          intro test
          rw [List.all_cons, List.all_cons, ← Bool.and_assoc, Bool.and_self]
        simp only [commonType?, hall]
      rw [stackType, stackedType?, hdeciding, ← List.foldlM_map, List.map_cons, hd]
      cases hfold : (d.type :: rest.map Column.type).foldlM joinTypes d.type with
      | ok joined =>
          rw [← htwice, foldlM_joinTypes.mp hfold]
          exact ok_eq_ok_iff
      | error e =>
          cases hcommon : commonType? (d.type :: rest.map Column.type) with
          | none => exact ⟨fun h => (by cases h), fun h => (by cases h)⟩
          | some joined =>
              rw [foldlM_joinTypes.mpr (htwice.trans hcommon)] at hfold
              cases hfold

/-! ## The cells of a stack -/

theorem exists_first {parts : List Column} (hne : nonEmpty parts ≠ []) :
    ∃ first, (deciding parts ++ nonEmpty parts ++ parts).head? = some first := by
  refine Option.isSome_iff_exists.mp (List.isSome_head?.mpr ?_)
  simp [hne]

/-- What a part with values can be, under the type of the stack. -/
theorem part_of_stackedType? {parts : List Column} {type : CellType}
    (h : stackedType? parts = some type) {c : Column} (hc : c ∈ nonEmpty parts) :
    c.type = type ∨ c.isMissing = true ∧ type = .str ∨
      type = .float ∧ (c.type = .int ∧ (∃ q ∈ nonEmpty parts, q.type = .float) ∨
        c.type = .bool ∧ ∃ q ∈ nonEmpty parts, q.isMissing = true) := by
  obtain ⟨joined, hjoined, htype⟩ := Option.map_eq_some_iff.mp h
  cases hmissing : c.isMissing with
  | true =>
      have hany : (nonEmpty parts).any isMissing = true := List.any_eq_true.mpr ⟨c, hc, hmissing⟩
      rw [hany, Bool.true_and] at htype
      split at htype
      · exact .inl ((type_of_isMissing hmissing).trans htype)
      next hstr => exact .inr (.inl ⟨rfl, htype ▸ of_not_not fun hne => hstr (bne_iff_ne.mpr hne)⟩)
  | false =>
      have hdecides : c ∈ deciding parts :=
        List.mem_filter.mpr ⟨hc, by rw [hmissing]; rfl⟩
      have hwidens := widens_commonType? hjoined c.type (List.mem_map_of_mem hdecides)
      split at htype
      next hfloat =>
        obtain ⟨hany, hnot⟩ := Bool.and_eq_true_iff.mp hfloat
        obtain ⟨q, hq, hqmissing⟩ := List.any_eq_true.mp hany
        have hqtype := type_of_isMissing hqmissing
        subst htype
        rcases hwidens with hsame | ⟨hint, _⟩
        · cases hctype : c.type with
          | int => exact .inr (.inr ⟨rfl, .inl ⟨rfl, q, hq, hqtype⟩⟩)
          | bool => exact .inr (.inr ⟨rfl, .inr ⟨rfl, q, hq, hqmissing⟩⟩)
          | float => exact .inl rfl
          | str =>
              rw [← hsame, hctype] at hnot
              cases hnot
        · exact .inr (.inr ⟨rfl, .inl ⟨hint, q, hq, hqtype⟩⟩)
      next =>
        subst htype
        rcases hwidens with hsame | ⟨hint, rfl⟩
        · exact .inl hsame
        · obtain ⟨q, hq, hqtype⟩ := List.mem_map.mp (float_mem_of_commonType? hjoined)
          exact .inr (.inr ⟨rfl, .inl ⟨hint, q, (List.mem_filter.mp hq).1, hqtype⟩⟩)

theorem readable_of_stackedType? {parts : List Column} {type : CellType}
    (h : stackedType? parts = some type) {c : Column} (hc : c ∈ nonEmpty parts) :
    c.Readable type ∧ (type = .float → c.type ≠ .str) := by
  rcases part_of_stackedType? h hc with rfl | ⟨hmissing, rfl⟩ | ⟨rfl, hnumber⟩
  · refine ⟨?_, fun hfloat hstr => by rw [hstr] at hfloat; cases hfloat⟩
    cases htype : c.type with
    | int | bool => exact htype
    | str => exact .inl htype
    | float => exact trivial
  · exact ⟨.inr (type_of_isMissing hmissing), fun h => by cases h⟩
  · refine ⟨trivial, fun _ hstr => ?_⟩
    rw [hstr] at hnumber
    rcases hnumber with ⟨h, _⟩ | ⟨h, _⟩ <;> cases h

theorem map_ints? {c : Column} (h : c.type = .int) :
    (ints? c).map Cell.int = c.cells.map (Cell.promote .int) := by
  cases c with
  | ints xs =>
      rw [cells, List.map_map]
      rfl
  | floats xs | bools xs | strs xs => cases h

theorem map_bools? {c : Column} (h : c.type = .bool) :
    (bools? c).map Cell.bool = c.cells.map (Cell.promote .bool) := by
  cases c with
  | bools xs =>
      rw [cells, List.map_map]
      rfl
  | ints xs | floats xs | strs xs => cases h

theorem map_texts? {c : Column} (h : c.type = .str ∨ c.type = .float) :
    (texts? c).map Cell.str = c.cells.map (Cell.promote .str) := by
  cases c with
  | strs xs =>
      rw [cells, List.map_map]
      rfl
  | floats xs =>
      rw [cells, texts?, List.map_map, List.map_map]
      rfl
  | ints xs | bools xs => rcases h with h | h <;> cases h

theorem map_toFloats {c : Column} (h : c.type ≠ .str) :
    ∃ xs, c.toFloats = .ok xs ∧ xs.map Cell.float = c.cells.map (Cell.promote .float) := by
  cases c with
  | ints xs =>
      refine ⟨_, rfl, ?_⟩
      rw [cells, List.map_map, List.map_map]
      rfl
  | floats xs =>
      refine ⟨_, rfl, ?_⟩
      rw [cells, List.map_map]
      rfl
  | bools xs =>
      refine ⟨_, rfl, ?_⟩
      rw [cells, List.map_map, List.map_map]
      rfl
  | strs xs => exact absurd rfl h

/-- Parts that can be read as a type are read as it, cell by cell. -/
theorem gatherAs_eq_ok {type : CellType} {parts : List Column}
    (h : ∀ p ∈ parts, p.Readable type ∧ (type = .float → p.type ≠ .str)) :
    ∃ c, gatherAs type parts = .ok c ∧ c.type = type ∧
      c.cells = parts.flatMap fun p => p.cells.map (Cell.promote type) := by
  have hparts : ∀ {f : Column → List Cell},
      (∀ p ∈ parts, f p = p.cells.map (Cell.promote type)) →
        parts.flatMap f = parts.flatMap fun p => p.cells.map (Cell.promote type) := by
    intro f hf
    rw [List.flatMap_def, List.flatMap_def, List.map_congr_left hf]
  cases type with
  | int =>
      refine ⟨_, rfl, rfl, ?_⟩
      rw [cells, List.map_flatMap]
      exact hparts fun p hp => map_ints? (h p hp).1
  | bool =>
      refine ⟨_, rfl, rfl, ?_⟩
      rw [cells, List.map_flatMap]
      exact hparts fun p hp => map_bools? (h p hp).1
  | str =>
      refine ⟨_, rfl, rfl, ?_⟩
      rw [cells, List.map_flatMap]
      exact hparts fun p hp => map_texts? (h p hp).1
  | float =>
      have hfloats : ∀ p ∈ parts, ∃ xs, p.toFloats = .ok xs ∧
          xs.map Cell.float = p.cells.map (Cell.promote .float) :=
        fun p hp => map_toFloats ((h p hp).2 rfl)
      obtain ⟨xss, hxss⟩ := mapM_succeeds.mpr fun p hp => (hfloats p hp).imp fun _ hxs => hxs.1
      refine ⟨.floats xss.flatten, by rw [gatherAs, hxss], rfl, ?_⟩
      have hall := mapM_eq_ok.mp hxss
      clear hxss h hparts
      rw [cells]
      induction hall with
      | nil => rfl
      | @cons p xs ps xss hp _ ih =>
          obtain ⟨hp', hrest⟩ := List.forall_mem_cons.mp hfloats
          obtain ⟨xs', hxs', hcells⟩ := hp'
          rw [hp] at hxs'
          cases hxs'
          rw [List.flatten_cons, List.map_append, ih hrest, hcells]
          rfl

theorem flatMap_nonEmpty (parts : List Column) (f : Cell → Cell) :
    (nonEmpty parts).flatMap (fun p => p.cells.map f) = parts.flatMap fun p => p.cells.map f := by
  induction parts with
  | nil => rfl
  | cons p rest ih =>
      rw [nonEmpty] at ih ⊢
      by_cases h : p.length = 0
      · have hnil : p.cells = [] := by
          rw [← List.length_eq_zero_iff, length_cells, h]
        rw [List.filter_cons_of_neg (by simpa using h), ih, List.flatMap_cons, hnil]
        rfl
      · rw [List.filter_cons_of_pos (by simpa using h), List.flatMap_cons, List.flatMap_cons, ih]

/-- Parts with values that come to a type have a stack, the column of that type
with their cells. -/
theorem exists_stack {parts : List Column} (hne : nonEmpty parts ≠ []) {type : CellType}
    (h : stackedType? parts = some type) :
    ∃ c, stack parts = .ok c ∧ c.type = type ∧
      c.cells = parts.flatMap fun p => p.cells.map (Cell.promote type) := by
  obtain ⟨first, hfirst⟩ := exists_first hne
  obtain ⟨c, hc, htype, hcells⟩ := gatherAs_eq_ok fun p hp => readable_of_stackedType? h hp
  rw [flatMap_nonEmpty] at hcells
  refine ⟨c, ?_, htype, hcells⟩
  simp only [stack, hfirst, (stackType_eq_ok hne hfirst).mpr h]
  exact hc

theorem exists_stackedType? {parts : List Column} (hne : nonEmpty parts ≠ []) {c : Column}
    (h : stack parts = .ok c) : ∃ type, stackedType? parts = some type := by
  obtain ⟨first, hfirst⟩ := exists_first hne
  simp only [stack, hfirst] at h
  split at h
  · cases h
  next type htype => exact ⟨type, (stackType_eq_ok hne hfirst).mp htype⟩

/-- A stack of parts with values succeeds exactly if they come to a type. -/
theorem stack_eq_ok {parts : List Column} (hne : nonEmpty parts ≠ []) {c : Column} :
    stack parts = .ok c ↔ stackedType? parts = some c.type ∧
      c.cells = parts.flatMap fun p => p.cells.map (Cell.promote c.type) := by
  constructor
  · intro h
    obtain ⟨type, htype⟩ := exists_stackedType? hne h
    obtain ⟨d, hd, rfl, hcells⟩ := exists_stack hne htype
    rw [h] at hd
    cases hd
    exact ⟨htype, hcells⟩
  · rintro ⟨htype, hcells⟩
    obtain ⟨d, hd, hdtype, hdcells⟩ := exists_stack hne htype
    rw [hd, ext_cells hdtype (hdcells.trans hcells.symm)]

/-- A stack of parts without values is without values, of the first part's type. -/
theorem stack_of_empty {p : Column} {rest : List Column} (h : nonEmpty (p :: rest) = []) :
    stack (p :: rest) = .ok (empty p.type) := by
  have hdeciding : deciding (p :: rest) = [] := by
    rw [deciding, h]
    rfl
  simp only [stack, stackType, hdeciding, h]
  cases p <;> rfl

/-! ## Parts of one column -/

theorem type_of_mem_nonEmpty_take {c : Column} {picks : List (List Nat)} {p : Column}
    (h : p ∈ nonEmpty (picks.map fun positions => c.take positions)) : p.type = c.type := by
  obtain ⟨positions, _, rfl⟩ := List.mem_map.mp (List.mem_filter.mp h).1
  exact type_take positions c

theorem stackedType?_take {c : Column} {picks : List (List Nat)}
    (hne : nonEmpty (picks.map fun positions => c.take positions) ≠ []) :
    stackedType? (picks.map fun positions => c.take positions) = some c.type := by
  have hmissing : (nonEmpty (picks.map fun positions => c.take positions)).any isMissing = true →
      c.type = .float := by
    intro hany
    obtain ⟨p, hp, hp'⟩ := List.any_eq_true.mp hany
    rw [← type_of_mem_nonEmpty_take hp]
    exact type_of_isMissing hp'
  cases hdeciding : deciding (picks.map fun positions => c.take positions) with
  | nil =>
      have hany :
          (nonEmpty (picks.map fun positions => c.take positions)).any isMissing = true := by
        obtain ⟨p, hp⟩ := List.exists_mem_of_ne_nil _ hne
        refine List.any_eq_true.mpr ⟨p, hp, ?_⟩
        simpa using List.filter_eq_nil_iff.mp hdeciding p hp
      rw [stackedType?, hdeciding, hany, hmissing hany]
      rfl
  | cons d rest =>
      have hsame : ∀ t ∈ (d :: rest).map Column.type, t = c.type := by
        intro t ht
        obtain ⟨p, hp, rfl⟩ := List.mem_map.mp ht
        rw [← hdeciding] at hp
        exact type_of_mem_nonEmpty_take (List.mem_filter.mp hp).1
      rw [stackedType?, hdeciding, commonType?_replicate (by simp) hsame, Option.map_some]
      cases hany : (nonEmpty (picks.map fun positions => c.take positions)).any isMissing with
      | false => rfl
      | true =>
          rw [hmissing hany]
          rfl

theorem cells_take_flatten (c : Column) (picks : List (List Nat)) :
    (c.take picks.flatten).cells = picks.flatMap fun positions => (c.take positions).cells := by
  simp only [cells_take, pick, List.filterMap_flatten]
  rfl

/-- Picks of one column, put end to end, are one pick of it. -/
theorem stack_take {c : Column} {picks : List (List Nat)} (hne : picks ≠ []) :
    stack (picks.map fun positions => c.take positions) = .ok (c.take picks.flatten) := by
  by_cases hvalues : nonEmpty (picks.map fun positions => c.take positions) = []
  · obtain ⟨first, rest, rfl⟩ := List.exists_cons_of_ne_nil hne
    rw [List.map_cons, stack_of_empty hvalues, type_take]
    refine congrArg Except.ok (ext_cells ?_ ?_)
    · rw [type_take]
      cases c.type <;> rfl
    · have hnone := flatMap_nonEmpty (((first :: rest).map fun positions => c.take positions)) id
      rw [hvalues] at hnone
      simp only [List.map_id, List.flatMap_map] at hnone
      rw [cells_take_flatten, ← hnone]
      cases c.type <;> rfl
  · refine (stack_eq_ok hvalues).mpr ⟨?_, ?_⟩
    · rw [stackedType?_take hvalues, type_take]
    · rw [cells_take_flatten, List.flatMap_map, type_take, List.flatMap_def, List.flatMap_def]
      refine congrArg List.flatten (List.map_congr_left fun positions _ => ?_)
      refine (Cell.map_promote_of_type fun v hv => ?_).symm
      exact (type_of_mem_cells hv).trans (type_take positions c)

end Column

end TableVerbs
