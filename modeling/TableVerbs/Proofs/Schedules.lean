import TableVerbs.Proofs.Success
import TableVerbs.Verb.PerGroup

/-!
# Groups side by side

Groups can be worked on one after the other or side by side. Either way all of them
have to succeed, and their results are put together in the order of the keys, so a
schedule has a say only where the work has failed already: in which of the failures
counts. What one schedule leads to, every other one leads to as well, through all
functions that work on groups. `SameResult` is how two outcomes then compare.
-/

namespace TableVerbs

/-- Two outcomes that are the same result or both failures, and the same failure
as well if the condition holds. -/
structure SameResult {α : Type} (condition : Prop) (a b : Except Error α) : Prop where
  result : a.toOption = b.toOption
  failure : condition → a = b

namespace SameResult

variable {α : Type} {condition : Prop} {a b : Except Error α}

theorem refl (a : Except Error α) : SameResult condition a a := ⟨rfl, fun _ => rfl⟩

theorem of_ok (hab : ∀ x, a = .ok x → b = .ok x) (hba : ∀ x, b = .ok x → a = .ok x)
    (failure : condition → a = b) : SameResult condition a b := by
  refine ⟨?_, failure⟩
  cases ha : a with
  | ok x => rw [hab x ha]
  | error e =>
      cases hb : b with
      | ok x => cases ha.symm.trans (hba x hb)
      | error e' => rfl

theorem ok_or_error (h : SameResult condition a b) :
    (∃ x, a = .ok x ∧ b = .ok x) ∨
      ∃ e e', a = .error e ∧ b = .error e' ∧ (condition → e = e') := by
  cases a with
  | ok x =>
      cases b with
      | ok y =>
          cases h.result
          exact .inl ⟨x, rfl, rfl⟩
      | error e => cases h.result
  | error e =>
      cases b with
      | ok y => cases h.result
      | error e' =>
          exact .inr ⟨e, e', rfl, rfl, fun hc => Except.error.inj (h.failure hc)⟩

theorem map {β : Type} (h : SameResult condition a b) (f : α → β) :
    SameResult condition (a.map f) (b.map f) := by
  obtain ⟨x, rfl, rfl⟩ | ⟨e, e', rfl, rfl, he⟩ := h.ok_or_error
  · exact refl _
  · exact ⟨rfl, fun hc => congrArg Except.error (he hc)⟩

end SameResult

/-! ## Every schedule -/

namespace Schedule

variable {α β : Type} {schedule : Schedule}

theorem collect_ok_cons {a : α} {outcomes : List (Except Error α)} :
    schedule.collect (.ok a :: outcomes) = (schedule.collect outcomes).map (a :: ·) := by
  have hfailures : failures (.ok a :: outcomes) = failures outcomes := rfl
  rw [collect, collect, hfailures]
  cases failures outcomes <;> rfl

/-- There are results exactly if there is one for each. -/
theorem collect_eq_ok {f : β → Except Error α} {xs : List β} {results : List α} :
    schedule.collect (xs.map f) = .ok results ↔ xs.mapM f = .ok results := by
  induction xs generalizing results with
  | nil => exact Iff.rfl
  | cons x xs ih =>
      rw [List.map_cons, List.mapM_cons]
      cases f x with
      | error e => exact iff_of_false nofun nofun
      | ok a =>
          show _ ↔ (xs.mapM f).bind (fun rest => .ok (a :: rest)) = .ok results
          rw [collect_ok_cons, map_eq_ok, bind_eq_ok]
          simp only [ih, Except.ok.injEq]

end Schedule

variable {schedule : Schedule} (schedule' : Schedule)

theorem Grouped.mapPartitions_reschedule {g : Grouped} {f : Partition → Except Error Table}
    {t : Table} (h : g.mapPartitions f schedule = .ok t) :
    g.mapPartitions f schedule' = .ok t := by
  rw [mapPartitions] at h ⊢
  cases hpartitions : g.partitions with
  | error e =>
      rw [hpartitions] at h
      cases h
  | ok partitions =>
      rw [hpartitions] at h
      cases partitions with
      | nil => exact h
      | cons p rest =>
          simp only at h ⊢
          split at h
          · cases h
          · next tables htables =>
              rw [Schedule.collect_eq_ok.mpr (Schedule.collect_eq_ok.mp htables)]
              exact h

namespace Dataset

variable {d out : Dataset}

theorem summarize_reschedule {scope : Scope} {columns : List NewColumn}
    (h : d.summarize schedule scope columns = .ok out) :
    d.summarize schedule' scope columns = .ok out := by
  cases d with
  | plain t => exact h
  | grouped g =>
      obtain ⟨t, ht, rfl⟩ := map_eq_ok.mp h
      exact map_eq_ok.mpr ⟨t, Grouped.mapPartitions_reschedule schedule' ht, rfl⟩

theorem compute_reschedule {c : Computation} (h : d.compute schedule c = .ok out) :
    d.compute schedule' c = .ok out := by
  cases d with
  | plain t => exact h
  | grouped g =>
      simp only [compute] at h ⊢
      split at h
      · cases h
      · next t ht =>
          rw [Grouped.mapPartitions_reschedule schedule' ht]
          exact h

theorem perGroup_reschedule {f : Table → Table} (h : d.perGroup schedule f = .ok out) :
    d.perGroup schedule' f = .ok out := by
  cases d with
  | plain t => exact h
  | grouped g =>
      rw [perGroup] at h ⊢
      split at h
      · next hrows =>
          rw [if_pos hrows]
          exact h
      · next hrows =>
          rw [if_neg hrows]
          split at h
          · cases h
          · next t ht =>
              rw [Grouped.mapPartitions_reschedule schedule' ht]
              exact h

end Dataset

end TableVerbs
