import TableVerbs.Proofs.NewColumns
import TableVerbs.Proofs.Schedules
import TableVerbs.Session

/-!
# In place or on a copy

A session decides whether the verbs that change columns change the input
itself. This file says what the decision can be seen by. Not by the result:
that is the same either way. Only by the input afterwards, and there only in
one of two states, the one before the verb and the one that the verb's change
leads to when it is completed.

The states in between exist. Columns are set one after another, and an edit
that fails at the third has set two. What rules them out is the order of work:
everything that can fail is computed and checked before the first column is
set, so an edit that has begun is completed. `Edit.AllOrNothing` names this,
and each of the editing verbs has it for its own reason: renaming and grouping
replace the dataset in one step, and setting columns cannot fail once their
lengths are right.

Removing duplicates is the one verb that goes on after its edit. It may still
fail then, and the columns that it computed stay set.

The other decision of a session, to work on groups side by side, shows even less.
No result depends on it and no input, and a failure only if there are others and
the schedule lets another one count than the first.
-/

namespace TableVerbs

/-! ## Edits -/

/-- An edit that fails on a dataset only by leaving it as it was. -/
def Edit.AllOrNothing (edit : Edit) (d : Dataset) : Prop :=
  ∀ e, (edit d).2 = .error e → (edit d).1 = d

theorem Edit.atOnce_allOrNothing (f : Dataset → Except Error Dataset) (d : Dataset) :
    (Edit.atOnce f).AllOrNothing d := by
  intro e h
  simp only [Edit.atOnce] at h ⊢
  split at h
  · cases h
  · rfl

theorem Edit.setColumns_allOrNothing {values : List (String × Column)} {d : Dataset}
    (h : ∀ v ∈ values, v.2.length = d.table.rows) : (Edit.setColumns values).AllOrNothing d := by
  intro e he
  rw [Edit.setColumns_completes h] at he
  cases he

/-! ## One change, run twice -/

/-- How two runs on one dataset compare, the first on a copy and the second in
place: the results are the same, the copy leaves the dataset as it was before,
and the change in place leaves it as `after`. -/
structure Applied.Agree {α : Type} (copied written : Applied α) (before after : Dataset) :
    Prop where
  outcome : written.outcome = copied.outcome
  copied_input : copied.input = before
  written_input : written.input = after

/-- The result, or the dataset as it was if there is none. -/
def Applied.resultOr (a : Applied Dataset) (d : Dataset) : Dataset := a.outcome.toOption.getD d

theorem Applied.agree_untouched {α : Type} (d : Dataset) (outcome : Except Error α) :
    Applied.Agree (.untouched d outcome) (.untouched d outcome) d d :=
  ⟨rfl, rfl, rfl⟩

/-- Reading the results differently does not set the runs apart. -/
theorem Applied.Agree.map {α β : Type} {copied written : Applied α} {before after : Dataset}
    (h : Applied.Agree copied written before after) (f : α → β) :
    Applied.Agree (copied.map f) (written.map f) before after :=
  ⟨congrArg (Except.map f) h.outcome, h.copied_input, h.written_input⟩

/-- Nor does going on with them, even into a failure. -/
theorem Applied.Agree.bind {α β : Type} {copied written : Applied α} {before after : Dataset}
    (h : Applied.Agree copied written before after) (f : α → Except Error β) :
    Applied.Agree (copied.bind f) (written.bind f) before after := by
  obtain ⟨hout, hcopied, hwritten⟩ := h
  simp only [Applied.bind]
  rw [hout]
  cases copied.outcome <;> exact ⟨rfl, hcopied, hwritten⟩

theorem Edit.agree_run {edit : Edit} {d : Dataset} (h : edit.AllOrNothing d) :
    Applied.Agree (edit.run false d) (edit.run true d) d ((edit.run false d).resultOr d) := by
  refine ⟨rfl, rfl, ?_⟩
  show (edit d).1 = ((edit d).2.map fun _ => (edit d).1).toOption.getD d
  cases hd : (edit d).2 with
  | error e => exact h e hd
  | ok _ => rfl

theorem Dataset.agree_rename (mapping : List (String × String)) (d : Dataset) :
    let run := fun inPlace => (Edit.atOnce (Dataset.rename mapping)).run inPlace d
    Applied.Agree (run false) (run true) d ((run false).resultOr d) :=
  Edit.agree_run (Edit.atOnce_allOrNothing _ d)

theorem Dataset.agree_mutate (scope : Scope) (columns : List NewColumn) (d : Dataset) :
    let run := fun inPlace => d.mutate inPlace scope columns
    Applied.Agree (run false) (run true) d ((run false).resultOr d) := by
  simp only [Dataset.mutate]
  split
  · exact Applied.agree_untouched d _
  · next hvalues => exact Edit.agree_run (Edit.setColumns_allOrNothing (evalColumns_length hvalues))

theorem Dataset.agree_regroup (scope : Scope) (keys : List String) (newColumns : List NewColumn)
    (d : Dataset) :
    let run := fun inPlace => d.regroup inPlace scope keys newColumns
    Applied.Agree (run false) (run true) d ((run false).resultOr d) := by
  simp only [Dataset.regroup]
  split
  · exact Applied.agree_untouched d _
  · exact Edit.agree_run (Edit.atOnce_allOrNothing _ d)

/-- Removing duplicates edits the dataset by its new columns and by nothing
else, whatever becomes of it afterwards. -/
theorem Distinct.agree_run (spec : Distinct) (scope : Scope) (d : Dataset) :
    Applied.Agree (spec.run false scope d) (spec.run true scope d) d
      (if spec.newColumns = [] then d else (d.mutate false scope spec.newColumns).resultOr d) := by
  refine Applied.Agree.bind ?_ _
  simp only [List.isEmpty_iff]
  split
  · exact Applied.agree_untouched d _
  · exact Dataset.agree_mutate scope spec.newColumns d

/-! ## Verbs -/

namespace Session

/-- The session with other options. -/
def under (s : Session) (options : Options) : Session := { s with options := some options }

/-- The dataset that a verb gives when it is run on a copy, or the dataset it is
run on if it gives none. -/
def copied (s : Session) (d : Dataset) (verb : Verb) : Dataset :=
  match ((s.under ⟨false, false⟩).apply .standard d verb).outcome with
  | .ok (.data out) => out
  | _ => d

/-- What a verb leaves of its input in a session that works in place, told by
what verbs give on a copy. -/
def leaves (s : Session) (d : Dataset) (verb : Verb) : Dataset :=
  match verb with
  | .mutate _ | .rename _ | .groupBy .. => s.copied d verb
  | .distinct spec =>
    if spec.newColumns = [] then d else s.copied d (.mutate spec.newColumns)
  | .select _ | .transmute _ | .arrange _ | .ungroup | .groupIndices .. | .summarize _
  | .query _ | .compute _ | .head _ | .tail _ | .sample _ => d

theorem copied_of_map {s : Session} {d : Dataset} {verb : Verb} {a : Applied Dataset}
    (h : (s.under ⟨false, false⟩).apply .standard d verb = a.map .data) :
    s.copied d verb = a.resultOr d := by
  simp only [copied, h, Applied.map, Applied.resultOr]
  cases a.outcome <;> rfl

/-- Verb by verb, a run in place agrees with one on a copy. -/
theorem agree_apply (s : Session) (defaults : Options) (parallel : Bool) (d : Dataset)
    (verb : Verb) :
    Applied.Agree ((s.under ⟨false, parallel⟩).apply defaults d verb)
      ((s.under ⟨true, parallel⟩).apply defaults d verb) d (s.leaves d verb) := by
  cases verb with
  | select | transmute | arrange | ungroup | groupIndices | summarize | query | compute
  | head | tail | sample => exact Applied.agree_untouched d _
  | rename mapping =>
      rw [leaves, copied_of_map rfl]
      exact (Dataset.agree_rename mapping d).map Output.data
  | mutate columns =>
      rw [leaves, copied_of_map rfl]
      exact (Dataset.agree_mutate s.scope columns d).map Output.data
  | groupBy keys newColumns =>
      rw [leaves, copied_of_map rfl]
      exact (Dataset.agree_regroup s.scope keys newColumns d).map Output.data
  | distinct spec =>
      rw [leaves, copied_of_map rfl]
      exact (Distinct.agree_run spec s.scope d).map Output.data

theorem scheduleUnder_congr (s : Session) (defaults : Options) (inPlace : Bool) {p q : Bool}
    (h : p = q ∨ s.chance.schedule = .inTurn) :
    (s.under ⟨inPlace, p⟩).scheduleUnder defaults =
      (s.under ⟨inPlace, q⟩).scheduleUnder defaults := by
  rcases h with rfl | hturn
  · rfl
  · show (if p then s.chance.schedule else Schedule.inTurn) =
      if q then s.chance.schedule else Schedule.inTurn
    rw [hturn, ite_self, ite_self]

/-- Verb by verb, groups that are worked on side by side come to what they come to
otherwise. -/
theorem sameResult_apply (s : Session) (defaults : Options) (inPlace p q : Bool) (d : Dataset)
    (verb : Verb) :
    SameResult (p = q ∨ s.chance.schedule = .inTurn)
      ((s.under ⟨inPlace, q⟩).apply defaults d verb).outcome
      ((s.under ⟨inPlace, p⟩).apply defaults d verb).outcome := by
  -- only verbs on groups ask for a schedule
  have hgroups : ∀ run : Schedule → Except Error Dataset,
      (∀ schedule schedule' out, run schedule = .ok out → run schedule' = .ok out) →
      SameResult (p = q ∨ s.chance.schedule = .inTurn)
        ((run ((s.under ⟨inPlace, q⟩).scheduleUnder defaults)).map Output.data)
        ((run ((s.under ⟨inPlace, p⟩).scheduleUnder defaults)).map Output.data) := by
    intro run hrun
    refine (SameResult.of_ok (hrun _ _) (hrun _ _) fun h => ?_).map Output.data
    rw [s.scheduleUnder_congr defaults inPlace h]
  cases verb with
  | summarize columns =>
      exact hgroups (fun schedule => d.summarize schedule s.scope columns)
        fun _ _ _ => Dataset.summarize_reschedule _
  | compute computation =>
      exact hgroups (fun schedule => d.compute schedule computation)
        fun _ _ _ => Dataset.compute_reschedule _
  | head n =>
      exact hgroups (fun schedule => d.head schedule n)
        fun _ _ _ => Dataset.perGroup_reschedule _
  | tail n =>
      exact hgroups (fun schedule => d.tail schedule n)
        fun _ _ _ => Dataset.perGroup_reschedule _
  | select | rename | mutate | transmute | distinct | arrange | groupBy | ungroup
  | groupIndices | query | sample => exact .refl _

theorem sameResult_inPlace (s : Session) (defaults : Options) (p q : Bool) (d : Dataset)
    (verb : Verb) :
    SameResult (p = q ∨ s.chance.schedule = .inTurn)
      ((s.under ⟨true, q⟩).apply defaults d verb).outcome
      ((s.under ⟨false, p⟩).apply defaults d verb).outcome := by
  rw [(s.agree_apply defaults q d verb).outcome]
  exact s.sameResult_apply defaults false p q d verb

/-- Working in place changes no outcome, whether groups are worked on in turn or side
by side. It changes the input only where a verb edits it, and then into what the edit
gives on a copy. Between groups in turn and side by side the result is the same as
well, and so is the failure if the schedule is that of groups in turn. -/
theorem apply_inPlace (s : Session) (defaults : Options) (p q : Bool) (d : Dataset)
    (verb : Verb) :
    let copied := (s.under ⟨false, p⟩).apply defaults d verb
    let written := (s.under ⟨true, q⟩).apply defaults d verb
    (p = q ∨ s.chance.schedule = .inTurn → written.outcome = copied.outcome) ∧
      written.outcome.toOption = copied.outcome.toOption ∧
      copied.input = d ∧ written.input = s.leaves d verb := by
  intro copied written
  have h := s.sameResult_inPlace defaults p q d verb
  exact ⟨h.failure, h.result, (s.agree_apply defaults p d verb).copied_input,
    (s.agree_apply defaults q d verb).written_input⟩

/-- Two groups fail side by side and the later failure counts, in place as on a copy. -/
theorem apply_inPlace_side_by_side :
    let s : Session := ⟨none, .empty, fun _ => [], fun n => .last n⟩
    let d : Dataset := .grouped ⟨⟨[("k", .ints [1, 2])], [0, 1]⟩, ["k"]⟩
    let verb : Verb := .compute (.table fun t =>
      .error (.raised (if t.labels = [0] then .value else .type) "failed"))
    let written := (s.under ⟨true, true⟩).apply .standard d verb
    written.outcome = .error (.raised .type "failed") ∧ written.input = d := by
  intro s d verb written
  have hcopied : ((s.under ⟨false, true⟩).apply .standard d verb).outcome =
      .error (.raised .type "failed") := rfl
  obtain ⟨hsame, _, _, hinput⟩ := s.apply_inPlace .standard true true d verb
  exact ⟨(hsame (.inl rfl)).trans hcopied, hinput⟩

end Session

end TableVerbs
