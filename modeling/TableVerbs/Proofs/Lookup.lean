import Mathlib.Data.List.Forall2
import Mathlib.Data.List.Nodup

/-!
# What is found under a name

Named items are looked up from the front, where the first item of a name is found,
and also from the back, where values that are set one after another have the value
that counts.
-/

namespace TableVerbs

variable {α β : Type}

theorem lookup_cons_if (name n : String) (x : α) (items : List (String × α)) :
    ((n, x) :: items).lookup name = if name = n then some x else items.lookup name := by
  rw [List.lookup_cons]
  by_cases h : name = n
  · simp [h]
  · simp [h, beq_eq_false_iff_ne.mpr h]

theorem lookup_map (f : α → β) (items : List (String × α)) (name : String) :
    (items.map fun item => (item.1, f item.2)).lookup name = (items.lookup name).map f := by
  induction items with
  | nil => rfl
  | cons item rest ih =>
      rw [List.map_cons, lookup_cons_if, lookup_cons_if, ih]
      split <;> rfl

theorem lookup_self (f : String → α) {names : List String} {name : String} (h : name ∈ names) :
    (names.map fun n => (n, f n)).lookup name = some (f name) := by
  induction names with
  | nil => cases h
  | cons n rest ih =>
      rw [List.map_cons, lookup_cons_if]
      split
      · next hsame => rw [hsame]
      · next hother => exact ih ((List.mem_cons.mp h).resolve_left hother)

theorem exists_lookup_reverse {items : List (String × α)} {name : String}
    (h : name ∈ items.map Prod.fst) : ∃ x, items.reverse.lookup name = some x := by
  obtain ⟨item, hitem, rfl⟩ := List.mem_map.mp h
  exact Option.isSome_iff_exists.mp (List.lookup_isSome_iff.mpr
    ⟨item, List.mem_reverse.mpr hitem, beq_self_eq_true item.1⟩)

theorem mem_of_lookup {items : List (String × α)} {name : String} {x : α}
    (h : items.lookup name = some x) : (name, x) ∈ items := by
  obtain ⟨before, after, hsplit, _⟩ := List.lookup_eq_some_iff.mp h
  rw [hsplit]
  exact List.mem_append_right _ List.mem_cons_self

theorem mem_of_lookup_reverse {items : List (String × α)} {name : String} {x : α}
    (h : items.reverse.lookup name = some x) : (name, x) ∈ items :=
  List.mem_reverse.mp (mem_of_lookup h)

/-- Where no name occurs twice, an item is found wherever it stands. -/
theorem lookup_eq_some_iff_mem {items : List (String × α)} (h : (items.map Prod.fst).Nodup)
    {name : String} {x : α} : items.lookup name = some x ↔ (name, x) ∈ items := by
  refine ⟨mem_of_lookup, fun hmem => ?_⟩
  obtain ⟨y, hy⟩ := Option.isSome_iff_exists.mp (List.lookup_isSome_iff.mpr
    ⟨(name, x), hmem, beq_self_eq_true name⟩)
  have hsame : (name, y) = (name, x) := List.inj_on_of_nodup_map h (mem_of_lookup hy) hmem rfl
  rw [hy, (Prod.mk.inj hsame).2]

/-- Items of different names are what is found under their names. -/
theorem eq_map_of_lookup {items : List (String × α)} (hnodup : (items.map Prod.fst).Nodup)
    {f : String → α} (h : ∀ name ∈ items.map Prod.fst, items.lookup name = some (f name)) :
    items = (items.map Prod.fst).map fun name => (name, f name) := by
  have hvalue : ∀ item ∈ items, item = (item.1, f item.1) := by
    intro item hitem
    have hfound := (lookup_eq_some_iff_mem hnodup).mpr hitem
    rw [h item.1 (List.mem_map_of_mem hitem)] at hfound
    exact Prod.ext rfl (Option.some.inj hfound).symm
  rw [List.map_map]
  exact (List.map_id items).symm.trans (List.map_congr_left hvalue)

theorem lookup_perm {items items' : List (String × α)} (h : items.Perm items')
    (hnodup : (items.map Prod.fst).Nodup) (name : String) :
    items.lookup name = items'.lookup name := by
  refine Option.ext fun x => ?_
  rw [lookup_eq_some_iff_mem hnodup, lookup_eq_some_iff_mem ((h.map Prod.fst).nodup hnodup),
    h.mem_iff]

theorem map_fst_forall₂ {xs : List (String × α)} {ys : List (String × β)}
    (h : List.Forall₂ (fun x y => x.1 = y.1) xs ys) : ys.map Prod.fst = xs.map Prod.fst := by
  induction h with
  | nil => rfl
  | cons hxy _ ih => rw [List.map_cons, List.map_cons, hxy, ih]

/-- Items that correspond, name by name, are found together. -/
theorem lookup_forall₂ {R : α → β → Prop} {xs : List (String × α)} {ys : List (String × β)}
    (h : List.Forall₂ (fun x y => x.1 = y.1 ∧ R x.2 y.2) xs ys) {name : String} {x : α}
    (hx : xs.lookup name = some x) : ∃ y, ys.lookup name = some y ∧ R x y := by
  induction h with
  | nil => cases hx
  | @cons item item' _ _ hitem _ ih =>
      obtain ⟨n, a⟩ := item
      obtain ⟨_, b⟩ := item'
      obtain ⟨rfl, hR⟩ := hitem
      rw [lookup_cons_if] at hx ⊢
      by_cases hn : name = n
      · rw [if_pos hn] at hx ⊢
        cases hx
        exact ⟨b, rfl, hR⟩
      · rw [if_neg hn] at hx ⊢
        exact ih hx

end TableVerbs
