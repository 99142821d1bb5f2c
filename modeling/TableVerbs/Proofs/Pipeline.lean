import TableVerbs.Proofs.InPlace

/-!
# Verbs in a row

Verbs run in a row are verbs run one by one, each on the dataset that the one
before gave, and no more than that. `Session.InTurn` says it by rules, one for
each way in which a row can end or go on; the rules follow the verbs and know
nothing of how they are run together.

What a row leaves of the caller's dataset is a matter of places. There are two
of them, the caller's own and one for what was given last, and a verb that works
in place writes to the place that it reads from. The second place is filled by
the first verb and read by all others, so whatever these write, on success or
half way into a failure, the caller does not get to see. `Places.run` keeps the
account of both places, and the row is shown to agree with it.
-/

namespace TableVerbs

namespace Session

variable {s : Session} {defaults : Options}

/-! ## One after another -/

/-- What some verbs, run one by one from a dataset, come to. -/
inductive InTurn (s : Session) (defaults : Options) :
    Dataset → List Verb → Except Error Output → Prop where
  /-- No verbs give the dataset itself. -/
  | nothing {d : Dataset} : InTurn s defaults d [] (.ok (.data d))
  /-- The first failure ends the row. -/
  | failure {d : Dataset} {verb : Verb} {rest : List Verb} {e : Error}
      (h : (s.apply defaults d verb).outcome = .error e) :
      InTurn s defaults d (verb :: rest) (.error e)
  /-- The last verb may give anything. -/
  | last {d : Dataset} {verb : Verb} {out : Output}
      (h : (s.apply defaults d verb).outcome = .ok out) : InTurn s defaults d [verb] (.ok out)
  /-- The dataset that a verb gives is the next one's. -/
  | next {d d' : Dataset} {verb verb' : Verb} {rest : List Verb} {r : Except Error Output}
      (h : (s.apply defaults d verb).outcome = .ok (.data d'))
      (hrest : InTurn s defaults d' (verb' :: rest) r) :
      InTurn s defaults d (verb :: verb' :: rest) r
  /-- Labels are nothing to go on with. -/
  | labels {d : Dataset} {keys : List String} {newColumns : List NewColumn} {verb : Verb}
      {rest : List Verb} {labels : List Nat}
      (h : (s.apply defaults d (.groupIndices keys newColumns)).outcome = .ok (.labels labels)) :
      InTurn s defaults d (.groupIndices keys newColumns :: verb :: rest) (.error .labelsNotTable)

/-- Labels come from numbering the rows, and every other verb gives a dataset. -/
theorem eq_groupIndices_of_labels {d : Dataset} {verb : Verb} {labels : List Nat}
    (h : (s.apply defaults d verb).outcome = .ok (.labels labels)) :
    ∃ keys newColumns, verb = .groupIndices keys newColumns := by
  cases verb with
  | groupIndices keys newColumns => exact ⟨keys, newColumns, rfl⟩
  | ungroup => cases h
  | select _ | rename _ | mutate _ | transmute _ | distinct _ | arrange _ | groupBy _ _
  | summarize _ | query _ | compute _ | head _ | tail _ | sample _ =>
      obtain ⟨_, _, hout⟩ := map_eq_ok.mp h
      cases hout

/-- What a row leaves of the caller's dataset is what its first verb leaves. -/
theorem pipe_input (d : Dataset) (verb : Verb) (rest : List Verb) :
    (s.pipe defaults d (verb :: rest)).input = (s.apply defaults d verb).input := by
  simp only [pipe, Applied.bind]
  split <;> rfl

theorem pipe_failure {d : Dataset} {verb : Verb} {e : Error}
    (h : (s.apply defaults d verb).outcome = .error e) (rest : List Verb) :
    (s.pipe defaults d (verb :: rest)).outcome = .error e := by
  simp only [pipe, Applied.bind, h]

theorem pipe_singleton (d : Dataset) (verb : Verb) :
    (s.pipe defaults d [verb]).outcome = (s.apply defaults d verb).outcome := by
  simp only [pipe, Applied.bind]
  cases (s.apply defaults d verb).outcome <;> rfl

/-- How a row goes on after its first verb, if it does. -/
theorem pipe_cons_cons (d : Dataset) (verb verb' : Verb) (rest : List Verb) :
    (s.pipe defaults d (verb :: verb' :: rest)).outcome =
      match (s.apply defaults d verb).outcome with
      | .error e => .error e
      | .ok (.labels _) => .error .labelsNotTable
      | .ok (.data d') => (s.pipe defaults d' (verb' :: rest)).outcome := by
  simp only [pipe, Applied.bind]
  cases (s.apply defaults d verb).outcome with
  | error e => rfl
  | ok out =>
      cases out with
      | labels labels => rfl
      | data d' =>
          simp only [followUp, Output.toDataset]
          cases (s.apply defaults d' verb').outcome <;> rfl

theorem inTurn_pipe (d : Dataset) (verbs : List Verb) :
    s.InTurn defaults d verbs (s.pipe defaults d verbs).outcome := by
  induction verbs generalizing d with
  | nil => exact .nothing
  | cons verb rest ih =>
      cases hout : (s.apply defaults d verb).outcome with
      | error e =>
          rw [pipe_failure hout]
          exact .failure hout
      | ok out =>
          cases rest with
          | nil =>
              rw [pipe_singleton, hout]
              exact .last hout
          | cons verb' rest =>
              rw [pipe_cons_cons, hout]
              cases out with
              | data d' => exact .next hout (ih d')
              | labels labels =>
                  obtain ⟨keys, newColumns, rfl⟩ := eq_groupIndices_of_labels hout
                  exact .labels hout

/-- Verbs run one by one come to one thing only, which is what the row comes to. -/
theorem InTurn.pipe_eq {d : Dataset} {verbs : List Verb} {r : Except Error Output}
    (h : s.InTurn defaults d verbs r) : (s.pipe defaults d verbs).outcome = r := by
  induction h with
  | nothing => rfl
  | failure h => exact pipe_failure h _
  | last h => rw [pipe_singleton, h]
  | next h _ ih =>
      rw [pipe_cons_cons, h]
      exact ih
  | labels h => rw [pipe_cons_cons, h]

/-! ## One row after another -/

/-- A row that goes on with a verb goes on from what the row so far gives. -/
theorem pipe_append (d : Dataset) (verbs : List Verb) (verb : Verb) (rest : List Verb) :
    (s.pipe defaults d (verbs ++ verb :: rest)).outcome =
      match (s.pipe defaults d verbs).outcome with
      | .error e => .error e
      | .ok (.labels _) => .error .labelsNotTable
      | .ok (.data d') => (s.pipe defaults d' (verb :: rest)).outcome := by
  induction verbs generalizing d with
  | nil => rfl
  | cons first verbs ih =>
      cases verbs with
      | nil => rw [List.singleton_append, pipe_cons_cons, pipe_singleton]
      | cons second verbs =>
          rw [List.cons_append, List.cons_append, pipe_cons_cons, pipe_cons_cons]
          cases (s.apply defaults d first).outcome with
          | error e => rfl
          | ok out =>
              cases out with
              | labels labels => rfl
              | data d' => exact ih d'

end Session

/-! ## Places -/

/-- The places that hold datasets during a row: the caller's, and that of the
dataset given last, empty before the first verb is done. -/
structure Places where
  caller : Dataset
  current : Option Dataset

namespace Places

variable {s : Session} {defaults : Options}

/-- The dataset that the next verb reads. -/
def read (places : Places) : Dataset := places.current.getD places.caller

/-- Writes to the place that the next verb reads. -/
def write (places : Places) (d : Dataset) : Places :=
  match places.current with
  | none => { places with caller := d }
  | some _ => { places with current := some d }

/-- Runs verbs in a row on places. Each verb first leaves its input as it does,
in the place where it was; what it gives, unless it is the last, then takes the
second place. -/
def run (s : Session) (defaults : Options) : Places → List Verb → Except Error Output × Places
  | places, [] => (.ok (.data places.read), places)
  | places, verb :: rest =>
    let applied := s.apply defaults places.read verb
    let left := places.write applied.input
    match applied.outcome with
    | .error e => (.error e, left)
    | .ok out =>
      if rest.isEmpty then (.ok out, left)
      else
        match out.toDataset with
        | .error e => (.error e, left)
        | .ok d => run s defaults { left with current := some d } rest

theorem caller_write {places : Places} (h : places.current ≠ none) (d : Dataset) :
    (places.write d).caller = places.caller := by
  obtain ⟨c, hc⟩ := Option.ne_none_iff_exists'.mp h
  rw [write, hc]

/-- Once the second place is filled the caller's is not written to. -/
theorem caller_run {places : Places} (h : places.current ≠ none) (verbs : List Verb) :
    (places.run s defaults verbs).2.caller = places.caller := by
  induction verbs generalizing places with
  | nil => rfl
  | cons verb rest ih =>
      have hleft := caller_write h (s.apply defaults places.read verb).input
      rw [run]
      -- three ways to end with this verb, and one to go on
      split
      · exact hleft
      split
      · exact hleft
      split
      · exact hleft
      · exact (ih (Option.some_ne_none _)).trans hleft

theorem run_outcome (places : Places) (verbs : List Verb) :
    (places.run s defaults verbs).1 = (s.pipe defaults places.read verbs).outcome := by
  induction verbs generalizing places with
  | nil => rfl
  | cons verb rest ih =>
      rw [run]
      cases rest with
      | nil =>
          rw [Session.pipe_singleton]
          cases (s.apply defaults places.read verb).outcome <;> rfl
      | cons verb' rest =>
          rw [Session.pipe_cons_cons]
          cases (s.apply defaults places.read verb).outcome with
          | error e => rfl
          | ok out =>
              cases out with
              | labels labels => rfl
              | data d => exact ih _

/-- Verbs in a row do what they do on places. -/
theorem pipe_eq_run (d : Dataset) (verbs : List Verb) :
    s.pipe defaults d verbs =
      ⟨((Places.mk d none).run s defaults verbs).1,
        ((Places.mk d none).run s defaults verbs).2.caller⟩ := by
  have hout := @run_outcome s defaults ⟨d, none⟩ verbs
  have hinput : (s.pipe defaults d verbs).input =
      ((Places.mk d none).run s defaults verbs).2.caller := by
    cases verbs with
    | nil => rfl
    | cons verb rest =>
        rw [Session.pipe_input, run]
        -- the row ends with the first verb, or that verb has filled the second place
        split
        · rfl
        split
        · rfl
        split
        · rfl
        · rw [caller_run]
          · rfl
          · exact Option.some_ne_none _
  rw [hout, ← hinput]
  rfl

end Places

namespace Session

/-! ## The row as a whole -/

/-- Sessions that come to the same result verb by verb come to it in a row as well. -/
theorem sameResult_pipe {s s' : Session} {condition : Prop}
    (h : ∀ d verb, SameResult condition (s.apply defaults d verb).outcome
      (s'.apply defaults d verb).outcome) (d : Dataset) (verbs : List Verb) :
    SameResult condition (s.pipe defaults d verbs).outcome
      (s'.pipe defaults d verbs).outcome := by
  induction verbs generalizing d with
  | nil => exact .refl _
  | cons verb rest ih =>
      cases rest with
      | nil =>
          rw [pipe_singleton, pipe_singleton]
          exact h d verb
      | cons verb' rest =>
          rw [pipe_cons_cons, pipe_cons_cons]
          obtain ⟨out, hout, hout'⟩ | ⟨e, e', he, he', hsame⟩ := (h d verb).ok_or_error
          · rw [hout, hout']
            cases out with
            | labels labels => exact .refl _
            | data d' => exact ih d'
          · rw [he, he']
            exact ⟨rfl, fun hc => congrArg Except.error (hsame hc)⟩

/-- A row of verbs is its verbs run one by one. It does on the two places what
the verbs do there, so that the caller's dataset is left as the first verb leaves
it; it can be cut before any of its verbs; and of working in place it shows
nothing but that first verb's edit, whether or not groups are worked on side by
side. -/
theorem pipe_in_turn (s : Session) (defaults : Options) (d : Dataset) (verbs : List Verb) :
    (∀ r, (s.pipe defaults d verbs).outcome = r ↔ s.InTurn defaults d verbs r) ∧
    (s.pipe defaults d verbs =
      ⟨((Places.mk d none).run s defaults verbs).1,
        ((Places.mk d none).run s defaults verbs).2.caller⟩) ∧
    ((s.pipe defaults d verbs).input = match verbs with
      | [] => d
      | first :: _ => (s.apply defaults d first).input) ∧
    (∀ verb rest, (s.pipe defaults d (verbs ++ verb :: rest)).outcome =
      match (s.pipe defaults d verbs).outcome with
      | .error e => .error e
      | .ok (.labels _) => .error .labelsNotTable
      | .ok (.data d') => (s.pipe defaults d' (verb :: rest)).outcome) ∧
    ∀ p q,
      let copied := (s.under ⟨false, p⟩).pipe defaults d verbs
      let written := (s.under ⟨true, q⟩).pipe defaults d verbs
      (p = q ∨ s.chance.schedule = .inTurn → written.outcome = copied.outcome) ∧
        written.outcome.toOption = copied.outcome.toOption ∧ copied.input = d := by
  refine ⟨fun r => ⟨fun h => h ▸ inTurn_pipe d verbs, InTurn.pipe_eq⟩, Places.pipe_eq_run d verbs,
    ?_, pipe_append d verbs, fun p q => ?_⟩
  · cases verbs with
    | nil => rfl
    | cons verb rest => exact pipe_input d verb rest
  · have hsame := sameResult_pipe (s.sameResult_inPlace defaults p q) d verbs
    refine ⟨hsame.failure, hsame.result, ?_⟩
    cases verbs with
    | nil => rfl
    | cons verb rest =>
        rw [pipe_input]
        exact (s.agree_apply defaults p d verb).copied_input

/-- A row that ends with two groups that fail side by side, the later of which counts. -/
theorem pipe_in_turn_side_by_side :
    let s : Session := ⟨none, .empty, fun _ => [], fun n => .last n⟩
    let d : Dataset := .plain ⟨[("k", .ints [1, 2])], [0, 1]⟩
    let verbs : List Verb := [.groupBy ["k"] [], .compute (.table fun t =>
      .error (.raised (if t.labels = [0] then .value else .type) "failed"))]
    ((s.under ⟨true, true⟩).pipe .standard d verbs).outcome =
      .error (.raised .type "failed") := by
  intro s d verbs
  have hcopied : ((s.under ⟨false, true⟩).pipe .standard d verbs).outcome =
      .error (.raised .type "failed") := rfl
  obtain ⟨_, _, _, _, hmodes⟩ := s.pipe_in_turn .standard d verbs
  exact ((hmodes true true).1 (.inl rfl)).trans hcopied

end Session

end TableVerbs
