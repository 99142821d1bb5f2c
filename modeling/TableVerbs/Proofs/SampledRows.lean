import TableVerbs.Proofs.Picking
import TableVerbs.Proofs.Positions
import TableVerbs.Table.Generator

/-!
# A sample is what was asked for

There are four ways to draw, and each of them can be asked for something that
it cannot do: positions of a table without rows, more different positions than
there are, a weighted position where nothing has a weight. A sample checks what
it asks for beforehand, so what has to be shown is that the checks are the
right ones. What passes them is a request that the generator can answer, and
then there are as many positions as asked for, different ones where they are
not put back, and none of weight zero.

One case is let through that cannot be answered. With putting back and without
weights nothing is checked at all, and where there are no rows, no rows are
drawn, however many were asked for.
-/

namespace TableVerbs

namespace Generator

variable {State : Type} {g : Generator State}

theorem length_drawEach (draw : State → Nat × State) (n : Nat) (state : State) :
    (drawEach draw n state).length = n := by
  induction n generalizing state with
  | zero => rfl
  | succ n ih => simp [drawEach, ih]

/-- What holds of every draw holds of all draws in a row. -/
theorem forall_mem_drawEach {holds : Nat → Prop} {draw : State → Nat × State}
    (h : ∀ state, holds (draw state).1) (n : Nat) (state : State) :
    ∀ p ∈ drawEach draw n state, holds p := by
  induction n generalizing state with
  | zero => intro p hp; cases hp
  | succ n ih =>
      intro p hp
      rcases List.mem_cons.mp hp with rfl | hp
      · exact h state
      · exact ih (draw state).2 p hp

end Generator

/-! ## Requests and their answers -/

namespace DrawRequest

variable {r : DrawRequest}

/-- The weights of a request are weights, one for each position. -/
def Weighed (r : DrawRequest) : Prop :=
  ∀ ws, r.weights = some ws → ws.length = r.population ∧ ws.all Sample.isWeight = true

/-- The positions are what the request asks for. -/
structure Answered (r : DrawRequest) (positions : List Nat) : Prop where
  length : positions.length = r.amount
  bounds : ∀ p ∈ positions, p < r.population
  nodup : r.replace = false → positions.Nodup
  weighs : ∀ ws, r.weights = some ws → ∀ p ∈ positions, Generator.Weighs ws p

theorem lt_of_weighs {ws : List Float} (hlen : ws.length = r.population) {p : Nat}
    (h : Generator.Weighs ws p) : p < r.population := by
  obtain ⟨w, hw, _⟩ := h
  rw [← hlen]
  exact (List.getElem?_eq_some_iff.mp hw).1

theorem exists_positive {ws : List Float} (h : (ws.countP fun w => 0.0 < w) ≠ 0) :
    ∃ w ∈ ws, 0.0 < w := by
  obtain ⟨w, hw, hpositive⟩ := List.countP_pos_iff.mp (Nat.pos_of_ne_zero h)
  exact ⟨w, hw, of_decide_eq_true hpositive⟩

/-- A generator answers every request that can be answered. -/
theorem answered_draws {State : Type} {g : Generator State} (hg : g.Sound) (hr : r.Possible)
    (hweighed : r.Weighed) : r.Answered (g.draws r) := by
  have heligible : r.replace = true → r.eligible.length ≠ 0 := by
    intro hreplace hnone
    rw [Possible, if_pos hreplace] at hr
    exact hr (List.length_eq_zero_iff.mp hnone)
  have henough : r.replace = false → r.amount ≤ r.eligible.length := by
    intro hreplace
    rwa [Possible, hreplace, if_neg Bool.false_ne_true] at hr
  cases hweights : r.weights with
  | none =>
      have hcount := length_eligible_uniform hweights
      cases hreplace : r.replace with
      | true =>
          have hdraws : g.draws r =
              Generator.drawEach (g.position r.population) r.amount (g.start r.seed) := by
            simp only [Generator.draws, hweights, hreplace]
          have hpopulation : 0 < r.population := by
            have := heligible hreplace
            omega
          rw [hdraws]
          refine ⟨Generator.length_drawEach _ _ _, ?_, ?_, ?_⟩
          · exact Generator.forall_mem_drawEach (fun state => hg.position _ state hpopulation) _ _
          · simp [hreplace]
          · simp [hweights]
      | false =>
          have hdraws : g.draws r = g.positions r.population r.amount (g.start r.seed) := by
            simp only [Generator.draws, hweights, hreplace]
          have hamount : r.amount ≤ r.population := hcount ▸ henough hreplace
          obtain ⟨hlength, hnodup, hbounds⟩ := hg.positions _ _ (g.start r.seed) hamount
          rw [hdraws]
          exact ⟨hlength, hbounds, fun _ => hnodup, by simp [hweights]⟩
  | some ws =>
      obtain ⟨hlen, hall⟩ := hweighed ws hweights
      have hcount := length_eligible_weighted hweights hlen
      cases hreplace : r.replace with
      | true =>
          have hdraws : g.draws r =
              Generator.drawEach (g.weighted ws) r.amount (g.start r.seed) := by
            simp only [Generator.draws, hweights, hreplace]
          have hpositive := exists_positive (hcount ▸ heligible hreplace)
          have hweighs : ∀ p ∈ g.draws r, Generator.Weighs ws p := by
            rw [hdraws]
            exact Generator.forall_mem_drawEach (fun state => hg.weighted _ state hall hpositive) _ _
          refine ⟨?_, fun p hp => lt_of_weighs hlen (hweighs p hp), ?_, ?_⟩
          · rw [hdraws, Generator.length_drawEach]
          · simp [hreplace]
          · simpa [hweights] using hweighs
      | false =>
          have hdraws : g.draws r = g.weightedPositions ws r.amount (g.start r.seed) := by
            simp only [Generator.draws, hweights, hreplace]
          obtain ⟨hlength, hnodup, hweighs⟩ :=
            hg.weightedPositions ws _ (g.start r.seed) hall (hcount ▸ henough hreplace)
          rw [hdraws]
          refine ⟨hlength, fun p hp => lt_of_weighs hlen (hweighs p hp), fun _ => hnodup, ?_⟩
          simpa [hweights] using hweighs

end DrawRequest

/-! ## What a sample asks for -/

namespace Sample

variable {s : Sample} {rows amount : Nat}

/-- Weights without a fault are one for each row. -/
theorem weighed_of_weightFault? {ws : List Float} (h : s.weightFault? rows amount ws = none) :
    ws.length = rows ∧ ws.all isWeight = true := by
  rw [weightFault?] at h
  split_ifs at h with hlength hbad <;> simp_all

/-- Without rows and by weight, nothing can be drawn with putting back. -/
theorem amount_eq_zero_of_weightFault? {ws : List Float}
    (h : s.weightFault? 0 amount ws = none) (hreplace : s.replace = true) : amount = 0 := by
  obtain ⟨hlength, _⟩ := weighed_of_weightFault? h
  obtain rfl := List.length_eq_zero_iff.mp hlength
  simpa [weightFault?, hreplace] using h

/-- The positions of a sample are what it asks for. With putting back and without weights
there is no knowing how many that are if there are no rows. -/
theorem positions_answered {State : Type} {g : Generator State} (hg : g.Sound) {t : Table}
    {positions : List Nat} (h : s.positions g.draws t = .ok positions) :
    ∃ amount weights, s.amount t.rows = .ok amount ∧ s.weightsOn t = .ok weights ∧
      (∀ p ∈ positions, p < t.rows) ∧
      (t.rows ≠ 0 ∨ s.replace = false ∨ weights ≠ none → positions.length = amount) ∧
      (s.replace = false → positions.Nodup) ∧
      ∀ ws, weights = some ws → ∀ p ∈ positions, Generator.Weighs ws p := by
  obtain ⟨amount, weights, hamount, hweights, hfew, hfault, hpositions⟩ := positions_eq_ok h
  have henough : s.replace = false → amount ≤ t.rows :=
    fun hreplace => Nat.le_of_not_lt fun hmore => hfew ⟨hreplace, hmore⟩
  refine ⟨amount, weights, hamount, hweights, ?_⟩
  rcases hpositions with ⟨hnone, rfl⟩ | ⟨hpositive, hrows, rfl⟩
  · refine ⟨by simp, fun hcase => ?_, fun _ => List.nodup_nil, by simp⟩
    rcases hnone with rfl | hrows
    · rfl
    · rcases hcase with hsome | hreplace | hweighted
      · exact absurd hrows hsome
      · have := henough hreplace
        rw [List.length_nil]
        omega
      · obtain ⟨ws, rfl⟩ := Option.ne_none_iff_exists'.mp hweighted
        rw [hrows] at hfault
        cases hreplace : s.replace with
        | true => exact (amount_eq_zero_of_weightFault? hfault hreplace).symm
        | false =>
            have := henough hreplace
            rw [List.length_nil]
            omega
  · have hweighed : DrawRequest.Weighed ⟨s.seed, t.rows, amount, s.replace, weights⟩ := by
      intro ws hws
      cases hws
      exact weighed_of_weightFault? hfault
    obtain ⟨hlength, hbounds, hnodup, hweighs⟩ :=
      DrawRequest.answered_draws hg (possible_of_checks hrows hpositive hfew hfault) hweighed
    exact ⟨hbounds, fun _ => hlength, hnodup, hweighs⟩

end Sample

theorem Sample.weights_ne_none {s : Sample} {t : Table} {weights : Option (List Float)}
    (h : s.weightsOn t = .ok weights) (hsome : s.weights ≠ none) : weights ≠ none := by
  rw [weightsOn] at h
  split at h
  · next hnone => exact absurd hnone hsome
  · cases h
    simp
  · split at h
    · cases h
    · obtain ⟨ws, _, rfl⟩ := map_eq_ok.mp h
      simp

/-- The rows of a sample are rows of the table with their labels, as many as were asked
for, be it by number or by share; no row comes twice unless it is put back, and none has
a weight of zero. Only where rows of an empty table are asked for with putting back and
without weights is their number not met: then there are none. -/
theorem Table.sample_answers {State : Type} {g : Generator State} (hg : g.Sound) {t : Table}
    {s : Sample} {out : Table} (h : t.sample s g.draws = .ok out) :
    ∃ positions, out = t.gather positions ∧ out.rows = positions.length ∧
      (∀ p ∈ positions, p < t.rows) ∧
      (t.rows ≠ 0 ∨ s.replace = false ∨ s.weights ≠ none →
        (∀ n, s.size = .rows n → positions.length = n) ∧
        ∀ f, s.size = .share f →
          positions.length = (f * Float.ofNat t.rows).round.toUInt64.toNat) ∧
      (s.replace = false → positions.Nodup) ∧
      ∀ ws, s.weightsOn t = .ok (some ws) → ∀ p ∈ positions, Generator.Weighs ws p := by
  obtain ⟨positions, hpositions, rfl⟩ := map_eq_ok.mp h
  obtain ⟨amount, weights, hamount, hweights, hbounds, hlength, hnodup, hweighs⟩ :=
    Sample.positions_answered hg hpositions
  refine ⟨positions, rfl, rows_gather hbounds, hbounds, fun hcase => ?_, hnodup, ?_⟩
  · have hmet : positions.length = amount :=
      hlength (hcase.imp_right fun h => h.imp_right (Sample.weights_ne_none hweights))
    rw [hmet]
    constructor
    · intro n hsize
      simp only [Sample.amount, hsize, Except.ok.injEq] at hamount
      exact hamount.symm
    · intro f hsize
      simp only [Sample.amount, hsize] at hamount
      split at hamount
      · cases hamount
        rfl
      · cases hamount
  · intro ws hws
    rw [hweights] at hws
    exact hweighs ws (Except.ok.inj hws)

/-! ## A generator without chance -/

/-- The generator that draws the first positions that may be drawn at all. -/
def Generator.first : Generator Unit where
  start := fun _ => ()
  position := fun _ state => (0, state)
  positions := fun _ amount _ => List.range amount
  weighted := fun ws state => (ws.findIdx fun w => 0.0 < w, state)
  weightedPositions := fun ws amount _ =>
    (DrawRequest.eligible ⟨none, ws.length, amount, false, some ws⟩).take amount

theorem Generator.sound_first : Generator.first.Sound where
  position := fun _ _ hn => hn
  positions := by
    intro n amount state hamount
    refine ⟨List.length_range, List.nodup_range, fun p hp => ?_⟩
    exact Nat.lt_of_lt_of_le (List.mem_range.mp hp) hamount
  weighted := by
    intro ws state _ hpositive
    have hfound : (ws.findIdx fun w => 0.0 < w) < ws.length := by
      obtain ⟨w, hw, hw'⟩ := hpositive
      exact List.findIdx_lt_length_of_exists ⟨w, hw, decide_eq_true hw'⟩
    refine ⟨_, List.getElem?_eq_getElem hfound, ?_⟩
    exact of_decide_eq_true (@List.findIdx_getElem _ _ ws hfound)
  weightedPositions := by
    intro ws amount state _ hamount
    have hcount := @DrawRequest.length_eligible_weighted
      ⟨none, ws.length, amount, false, some ws⟩ ws rfl rfl
    refine ⟨?_, ?_, ?_⟩
    · show (List.take amount _).length = amount
      rw [List.length_take, hcount]
      omega
    · exact (List.nodup_range.filter _).sublist (List.take_sublist _ _)
    · intro p hp
      obtain ⟨_, hany⟩ := List.mem_filter.mp (List.mem_of_mem_take hp)
      obtain ⟨w, hw, hpositive⟩ := (Option.any_eq_true _ _).mp hany
      exact ⟨w, hw, of_decide_eq_true hpositive⟩

/-- The only row that has a weight, drawn twice. -/
theorem Table.sample_answers_twice :
    ∃ positions, (⟨[("v", .ints [20, 20])], [6, 6]⟩ : Table) =
        Table.gather positions ⟨[("v", .ints [10, 20, 30])], [5, 6, 7]⟩ ∧
      positions.length = 2 ∧ ∀ p ∈ positions, Generator.Weighs [0.0, 1.5, 0.0] p := by
  have hdrawn : Table.sample ⟨.rows 2, true, some (.values [0.0, 1.5, 0.0]), none⟩
      Generator.first.draws ⟨[("v", .ints [10, 20, 30])], [5, 6, 7]⟩ =
        .ok ⟨[("v", .ints [20, 20])], [6, 6]⟩ := by decide +kernel
  obtain ⟨positions, hrows, _, _, hlength, _, hweighs⟩ :=
    Table.sample_answers Generator.sound_first hdrawn
  exact ⟨positions, hrows, (hlength (.inl (by decide))).1 2 rfl, hweighs _ rfl⟩

/-- Three rows are asked for, and none come. -/
theorem Table.sample_short :
    ∃ out, Table.sample ⟨.rows 3, true, none, none⟩ Generator.first.draws
      ⟨[("x", .ints [])], []⟩ = .ok out ∧ out.rows = 0 :=
  ⟨⟨[("x", .ints [])], []⟩, rfl, rfl⟩

end TableVerbs
