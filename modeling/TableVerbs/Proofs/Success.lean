import Mathlib.Data.List.Forall2
import TableVerbs.Error

/-!
# When a computation succeeds

Nearly everything in the library may fail, and nearly every proof about it
starts by asking what a success was made of. A mapped result succeeds when the
result did; a list of computations succeeds when each of them does, and then
the results stand in the places of what they were computed from. The last
point is the one that carries: it is what `Forall₂` says, and a list lemma
takes over from there.
-/

namespace TableVerbs

variable {α β : Type}

theorem map_eq_ok {f : α → β} {x : Except Error α} {b : β} :
    x.map f = .ok b ↔ ∃ a, x = .ok a ∧ f a = b := by
  cases x with
  | error e => simp [Except.map]
  | ok a => simp [Except.map]

theorem map_eq_error {f : α → β} {x : Except Error α} {e : Error} :
    x.map f = .error e ↔ x = .error e := by
  cases x <;> simp [Except.map]

theorem fails_iff {x : Except Error α} : (∃ e, x = .error e) ↔ ¬ ∃ a, x = .ok a := by
  cases x <;> simp

theorem bind_eq_ok {f : α → Except Error β} {x : Except Error α} {b : β} :
    x.bind f = .ok b ↔ ∃ a, x = .ok a ∧ f a = .ok b := by
  cases x with
  | error e => simp [Except.bind]
  | ok a => simp [Except.bind]

/-- A list of computations succeeds with the results of its members. -/
theorem mapM_eq_ok {f : α → Except Error β} {xs : List α} {ys : List β} :
    xs.mapM f = .ok ys ↔ List.Forall₂ (fun x y => f x = .ok y) xs ys := by
  induction xs generalizing ys with
  | nil =>
      rw [List.mapM_nil, List.forall₂_nil_left_iff]
      exact ⟨fun h => by cases h; rfl, fun h => by rw [h]; rfl⟩
  | cons x xs ih =>
      rw [List.mapM_cons, List.forall₂_cons_left_iff]
      cases hx : f x with
      | error e => simp [bind, Except.bind]
      | ok y =>
          cases hxs : xs.mapM f with
          | error e =>
              constructor
              · intro h
                cases h
              · rintro ⟨y', ys', _, hall, _⟩
                rw [← ih, hxs] at hall
                cases hall
          | ok ys' =>
              constructor
              · intro h
                cases h
                exact ⟨y, ys', rfl, ih.mp hxs, rfl⟩
              · rintro ⟨y'', ys'', hy, hall, rfl⟩
                rw [← ih, hxs] at hall
                cases hy
                cases hall
                rfl

/-- A list of computations succeeds when all of its members do. -/
theorem mapM_succeeds {f : α → Except Error β} {xs : List α} :
    (∃ ys, xs.mapM f = .ok ys) ↔ ∀ x ∈ xs, ∃ y, f x = .ok y := by
  simp only [mapM_eq_ok]
  induction xs with
  | nil => simp
  | cons x xs ih =>
      simp only [List.forall₂_cons_left_iff, List.forall_mem_cons, ← ih]
      constructor
      · rintro ⟨_, y, ys, hy, hys, rfl⟩
        exact ⟨⟨y, hy⟩, ys, hys⟩
      · rintro ⟨⟨y, hy⟩, ys, hys⟩
        exact ⟨y :: ys, y, ys, hy, hys, rfl⟩

/-- A list of computations fails as the first of its members that does. -/
theorem mapM_eq_error {f : α → Except Error β} {xs : List α} {e : Error} :
    xs.mapM f = .error e ↔ ∃ before x after, xs = before ++ x :: after ∧
      (∀ y ∈ before, ∃ z, f y = .ok z) ∧ f x = .error e := by
  constructor
  · intro h
    induction xs with
    | nil => cases h
    | cons x xs ih =>
        rw [List.mapM_cons] at h
        cases hx : f x with
        | error e' =>
            rw [hx] at h
            cases h
            exact ⟨[], x, xs, rfl, List.forall_mem_nil _, hx⟩
        | ok z =>
            cases hxs : xs.mapM f with
            | ok zs =>
                rw [hx, hxs] at h
                cases h
            | error e' =>
                rw [hx, hxs] at h
                cases h
                obtain ⟨before, y, after, rfl, hbefore, hy⟩ := ih hxs
                exact ⟨x :: before, y, after, rfl,
                  List.forall_mem_cons.mpr ⟨⟨z, hx⟩, hbefore⟩, hy⟩
  · rintro ⟨before, x, after, rfl, hbefore, hx⟩
    obtain ⟨zs, hzs⟩ := mapM_succeeds.mpr hbefore
    rw [List.mapM_append, List.mapM_cons, hzs, hx]
    rfl

theorem mapM_eq_map {f : α → Except Error β} {g : α → β} {xs : List α}
    (h : ∀ x ∈ xs, f x = .ok (g x)) : xs.mapM f = .ok (xs.map g) := by
  rw [mapM_eq_ok, List.forall₂_map_right_iff, List.forall₂_same]
  exact h

theorem mapM_length {f : α → Except Error β} {xs : List α} {ys : List β}
    (h : xs.mapM f = .ok ys) : ys.length = xs.length :=
  (mapM_eq_ok.mp h).length_eq.symm

theorem mapM_append_eq_ok {f : α → Except Error β} {xs xs' : List α} {zs : List β} :
    (xs ++ xs').mapM f = .ok zs ↔
      ∃ ys ys', xs.mapM f = .ok ys ∧ xs'.mapM f = .ok ys' ∧ ys ++ ys' = zs := by
  rw [List.mapM_append]
  cases xs.mapM f with
  | error e => simp [bind, Except.bind]
  | ok ys =>
      cases xs'.mapM f with
      | error e => simp [bind, Except.bind]
      | ok ys' => simp [bind, Except.bind, pure, Except.pure]

/-- Results that carry what they were computed from. -/
theorem map_fst_of_mapM {f : α → Except Error β} {xs : List α} {ys : List (α × β)}
    (h : xs.mapM (fun x => (f x).map fun y => (x, y)) = .ok ys) : ys.map Prod.fst = xs := by
  have hall := mapM_eq_ok.mp h
  clear h
  induction hall with
  | nil => rfl
  | cons hx _ ih =>
      obtain ⟨y, _, rfl⟩ := map_eq_ok.mp hx
      rw [List.map_cons, ih]

/-- Results under the names that stand at what they are computed from. -/
theorem mapM_named_eq_ok {f : α → Except Error β} {items : List (String × α)}
    {values : List (String × β)} :
    items.mapM (fun item => (f item.2).map fun y => (item.1, y)) = .ok values ↔
      List.Forall₂ (fun item v => item.1 = v.1 ∧ f item.2 = .ok v.2) items values := by
  have hvalue : ∀ (item : String × α) (v : String × β),
      (f item.2).map (fun y => (item.1, y)) = .ok v ↔ item.1 = v.1 ∧ f item.2 = .ok v.2 := by
    intro item v
    rw [map_eq_ok]
    constructor
    · rintro ⟨y, hy, rfl⟩
      exact ⟨rfl, hy⟩
    · rintro ⟨hname, hy⟩
      exact ⟨v.2, hy, Prod.ext hname rfl⟩
  rw [mapM_eq_ok]
  exact ⟨fun h => h.imp fun item v => (hvalue item v).mp,
    fun h => h.imp fun item v => (hvalue item v).mpr⟩

/-- Where each result is computed from, member by member. -/
theorem mem_of_mapM {f : α → Except Error β} {xs : List α} {ys : List β}
    (h : xs.mapM f = .ok ys) {y : β} (hy : y ∈ ys) : ∃ x ∈ xs, f x = .ok y := by
  have hall := mapM_eq_ok.mp h
  clear h
  induction hall with
  | nil => cases hy
  | cons hxy _ ih =>
      rcases List.mem_cons.mp hy with rfl | hy
      · exact ⟨_, List.mem_cons_self, hxy⟩
      · obtain ⟨x, hx, hfx⟩ := ih hy
        exact ⟨x, List.mem_cons_of_mem _ hx, hfx⟩

end TableVerbs
