import TableVerbs.Column.Stack
import TableVerbs.Proofs.Success

/-!
# Stacking loses no value

A stack reads every part as one type, and what a part cannot be read as is
silently nothing: the integers of a column of texts are no integers at all. So
that a stack has as many values as its parts together is a matter of types. The
type that is chosen is one that every deciding part goes over to, either by
being of it or by being integers among floats. The other parts with values are
missing ones, hence floats, and they turn integers and truth values into
floats as well; only for texts they are read as they are.
-/

namespace TableVerbs.Column

/-- Whether a type is another or goes over to it, as integers do to floats. -/
def Widens (a b : CellType) : Prop := a = b ∨ (a = .int ∧ b = .float)

theorem Widens.trans {a b c : CellType} (hab : Widens a b) (hbc : Widens b c) : Widens a c := by
  rcases hab with rfl | ⟨rfl, rfl⟩
  · exact hbc
  · rcases hbc with rfl | ⟨h, _⟩
    · exact .inr ⟨rfl, rfl⟩
    · cases h

theorem widens_joinTypes {a b c : CellType} (h : joinTypes a b = .ok c) :
    Widens a c ∧ Widens b c := by
  unfold joinTypes at h
  split at h
  · next hab =>
      cases h
      exact ⟨.inl rfl, .inl hab.symm⟩
  · split at h
    · cases h; exact ⟨.inr ⟨rfl, rfl⟩, .inl rfl⟩
    · cases h; exact ⟨.inl rfl, .inr ⟨rfl, rfl⟩⟩
    · cases h

/-- The joined type of some parts is one that all of them go over to. -/
theorem widens_foldlM {parts : List Column} {start type : CellType}
    (h : parts.foldlM (fun t c => joinTypes t c.type) start = .ok type) :
    Widens start type ∧ ∀ c ∈ parts, Widens c.type type := by
  induction parts generalizing start with
  | nil =>
      cases h
      exact ⟨.inl rfl, fun _ hc => by cases hc⟩
  | cons c rest ih =>
      rw [List.foldlM_cons] at h
      cases hjoin : joinTypes start c.type with
      | error e =>
          rw [hjoin] at h
          cases h
      | ok next =>
          rw [hjoin] at h
          obtain ⟨hnext, hrest⟩ := ih h
          obtain ⟨hstart, hc⟩ := widens_joinTypes hjoin
          exact ⟨hstart.trans hnext, List.forall_mem_cons.mpr ⟨hc.trans hnext, hrest⟩⟩

theorem type_of_isMissing {c : Column} (h : c.isMissing = true) : c.type = .float := by
  cases c with
  | floats xs => rfl
  | ints xs | bools xs | strs xs => cases h

/-- Whether a part can be read as a type without losing values. -/
def Readable (c : Column) : CellType → Prop
  | .int => c.type = .int
  | .bool => c.type = .bool
  | .str => c.type = .str ∨ c.type = .float
  | .float => True

/-- Every part with values can be read as the type of the stack. -/
theorem readable_of_stackType {first : Column} {parts : List Column} {type : CellType}
    (h : stackType first parts = .ok type) {c : Column} (hc : c ∈ nonEmpty parts) :
    c.Readable type := by
  rw [stackType] at h
  split at h
  · cases h
  next joined hjoined =>
    have hwidens := (widens_foldlM hjoined).2
    have hpart : c.isMissing = false → Widens c.type joined := by
      intro hmissing
      refine hwidens c (List.mem_filter.mpr ⟨hc, ?_⟩)
      rw [hmissing]
      rfl
    cases h
    split
    · exact trivial
    next hkept =>
      cases hmissing : c.isMissing with
      | true =>
          -- a missing part leaves no other choice than texts
          have hstr : joined = .str := by
            by_contra hne
            refine hkept ?_
            rw [Bool.and_eq_true, List.any_eq_true]
            exact ⟨⟨c, hc, hmissing⟩, bne_iff_ne.mpr hne⟩
          subst hstr
          exact .inr (type_of_isMissing hmissing)
      | false =>
          rcases hpart hmissing with heq | ⟨_, rfl⟩
          · subst heq
            cases htype : c.type with
            | int | bool => exact htype
            | str => exact .inl htype
            | float => exact trivial
          · exact trivial

theorem length_toFloats {c : Column} {xs : List Float} (h : c.toFloats = .ok xs) :
    xs.length = c.length := by
  cases c with
  | ints ys => cases h; exact List.length_map _
  | floats ys => cases h; rfl
  | bools ys => cases h; exact List.length_map _
  | strs ys => cases h

theorem length_ints? {c : Column} (h : c.Readable .int) : (ints? c).length = c.length := by
  cases c with
  | ints xs => rfl
  | floats xs | bools xs | strs xs => cases h

theorem length_bools? {c : Column} (h : c.Readable .bool) : (bools? c).length = c.length := by
  cases c with
  | bools xs => rfl
  | ints xs | floats xs | strs xs => cases h

theorem length_texts? {c : Column} (h : c.Readable .str) : (texts? c).length = c.length := by
  cases c with
  | strs xs => rfl
  | floats xs => exact List.length_map _
  | ints xs | bools xs => rcases h with h | h <;> cases h

theorem length_flatMap_parts {α : Type} {f : Column → List α} {parts : List Column}
    (h : ∀ p ∈ parts, (f p).length = p.length) :
    (parts.flatMap f).length = totalSize length parts := by
  induction parts with
  | nil => rfl
  | cons p rest ih =>
      obtain ⟨hp, hrest⟩ := List.forall_mem_cons.mp h
      rw [List.flatMap_cons, List.length_append, hp, ih hrest, totalSize]

theorem length_gatherAs {type : CellType} {parts : List Column} {c : Column}
    (hread : ∀ p ∈ parts, p.Readable type) (h : gatherAs type parts = .ok c) :
    c.length = totalSize length parts := by
  cases type with
  | int => cases h; exact length_flatMap_parts fun p hp => length_ints? (hread p hp)
  | bool => cases h; exact length_flatMap_parts fun p hp => length_bools? (hread p hp)
  | str => cases h; exact length_flatMap_parts fun p hp => length_texts? (hread p hp)
  | float =>
      rw [gatherAs] at h
      split at h
      · cases h
      next xss hxss =>
        cases h
        show xss.flatten.length = _
        have hall := mapM_eq_ok.mp hxss
        clear hxss hread
        induction hall with
        | nil => rfl
        | cons hx _ ih =>
            rw [List.flatten_cons, List.length_append, length_toFloats hx, ih, totalSize]

theorem totalSize_nonEmpty (parts : List Column) :
    totalSize length (nonEmpty parts) = totalSize length parts := by
  induction parts with
  | nil => rfl
  | cons c rest ih =>
      rw [nonEmpty] at ih ⊢
      by_cases h : c.length = 0
      · rw [List.filter_cons_of_neg (by simpa using h), ih, totalSize, h, Nat.zero_add]
      · rw [List.filter_cons_of_pos (by simpa using h), totalSize, totalSize, ih]

/-- A stack has as many values as its parts together. -/
theorem length_stack {parts : List Column} {c : Column} (h : stack parts = .ok c) :
    c.length = totalSize length parts := by
  rw [stack] at h
  split at h
  · next hnone =>
      have hparts : parts = [] :=
        (List.append_eq_nil_iff.mp (List.head?_eq_none_iff.mp hnone)).2
      cases h
      rw [hparts]
      rfl
  · split at h
    · cases h
    next type htype =>
      rw [← totalSize_nonEmpty]
      exact length_gatherAs (fun p hp => readable_of_stackType htype hp) h

end TableVerbs.Column
