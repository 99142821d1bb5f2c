import Mathlib.Data.List.Induction
import TableVerbs.Proofs.DirectLabels

/-!
# Columns are assigned all at once

Columns are set one after another, each in place of the first column of its name or
behind all others, and still no column shows in which order that was done. Setting
one of them leaves every other column where it stands, so what is found under a name
in the end is what was set last for it; and a name that is new goes behind the names
that are there, which it does once. `Table.Assigned` is what this comes to, and all
that is said about orders is said of it.
-/

namespace TableVerbs

namespace Table

variable {t t' t'' : Table} {values values' : List (String × Column)}

/-- A column stays where it stands, unless it is the first one of the name that is set. -/
theorem getElem?_putColumn {name : String} {d : Column} {columns : List (String × Column)}
    {i : Nat} {c : String × Column} (hc : columns[i]? = some c)
    (h : c.1 ≠ name ∨ name ∈ (columns.map Prod.fst).take i) :
    (putColumn name d columns)[i]? = some c := by
  induction columns generalizing i with
  | nil => cases hc
  | cons e rest ih =>
      obtain ⟨n, e⟩ := e
      rw [putColumn]
      by_cases hn : n = name
      · rw [if_pos hn]
        cases i with
        | zero =>
            cases hc
            rcases h with hne | hbefore
            · exact absurd hn hne
            · cases hbefore
        | succ i => exact hc
      · rw [if_neg hn]
        cases i with
        | zero => exact hc
        | succ i =>
            refine ih hc (h.imp_right fun hbefore => ?_)
            exact (List.mem_cons.mp hbefore).resolve_left (Ne.symm hn)

theorem setColumns_append (values values' : List (String × Column)) (t : Table) :
    t.setColumns (values ++ values') = (t.setColumns values).bind (setColumns values') := by
  induction values generalizing t with
  | nil => rfl
  | cons v rest ih =>
      rw [List.cons_append, setColumns, setColumns]
      cases t.setColumn v.1 v.2 with
      | error e => rfl
      | ok u => exact ih u

theorem setColumns_snoc {name : String} {c : Column}
    (h : t.setColumns (values ++ [(name, c)]) = .ok t') :
    ∃ u, t.setColumns values = .ok u ∧ t' = ⟨putColumn name c u.columns, u.labels⟩ := by
  rw [setColumns_append] at h
  obtain ⟨u, hu, hlast⟩ := bind_eq_ok.mp h
  obtain ⟨_, hput⟩ := setColumns_cons.mp hlast
  cases hput
  exact ⟨u, hu, rfl⟩

theorem names_setColumns (h : t.setColumns values = .ok t') :
    t'.names = t.names ++ (withoutRepeats (values.map Prod.fst)).filter (· ∉ t.names) := by
  induction values using List.reverseRecOn generalizing t' with
  | nil =>
      cases h
      exact (List.append_nil _).symm
  | append_singleton values v ih =>
      obtain ⟨name, c⟩ := v
      obtain ⟨u, hu, rfl⟩ := setColumns_snoc h
      have hnames := ih hu
      show (putColumn name c u.columns).map Prod.fst = _
      rw [names_putColumn, List.map_append, List.map_singleton, withoutRepeats_snoc]
      show (if name ∈ u.names then u.names else u.names ++ [name]) = _
      have hmem : name ∈ u.names ↔ name ∈ t.names ∨ name ∈ values.map Prod.fst := by
        rw [hnames, List.mem_append, List.mem_filter, mem_withoutRepeats]
        by_cases hold : name ∈ t.names <;> simp [hold]
      by_cases hset : name ∈ values.map Prod.fst
      · rw [if_pos (hmem.mpr (.inr hset)), if_pos hset, hnames]
      · rw [if_neg hset, List.filter_append, ← List.append_assoc, ← hnames]
        by_cases hold : name ∈ t.names
        · rw [if_pos (hmem.mpr (.inl hold))]
          simp [hold]
        · rw [if_neg fun hname => (hmem.mp hname).elim hold hset]
          simp [hold]

theorem lt_of_column {i : Nat} {c : String × Column} (hc : t.columns[i]? = some c) :
    i < t.names.length := by
  rw [names, List.length_map]
  exact (List.getElem?_eq_some_iff.mp hc).1

theorem getElem?_setColumns (h : t.setColumns values = .ok t') {i : Nat} {c : String × Column}
    (hc : t.columns[i]? = some c) (hset : c.1 ∉ values.map Prod.fst ∨ c.1 ∈ t.names.take i) :
    t'.columns[i]? = some c := by
  induction values using List.reverseRecOn generalizing t' with
  | nil =>
      cases h
      exact hc
  | append_singleton values v ih =>
      obtain ⟨name, d⟩ := v
      obtain ⟨u, hu, rfl⟩ := setColumns_snoc h
      rw [List.map_append, List.mem_append, not_or] at hset
      refine getElem?_putColumn (ih hu (hset.imp_left And.left)) ?_
      show c.1 ≠ name ∨ name ∈ u.names.take i
      rw [names_setColumns hu, List.take_append_of_le_length (Nat.le_of_lt (lt_of_column hc))]
      by_cases hname : c.1 = name
      · exact .inr (hname ▸ hset.resolve_left fun hfree => hfree.2 (List.mem_singleton.mpr hname))
      · exact .inl hname

/-- What a table becomes when values are assigned to names at once: names that are
new come last, in the order in which they first occur, and every column that is not the
first one of an assigned name stands where it stood. -/
structure Assigned (t : Table) (values : List (String × Column)) (t' : Table) : Prop where
  labels : t'.labels = t.labels
  names : t'.names = t.names ++ (withoutRepeats (values.map Prod.fst)).filter (· ∉ t.names)
  found : ∀ name, t'.find? name = (values.reverse.lookup name).or (t.find? name)
  others : ∀ i c, t.columns[i]? = some c →
    (c.1 ∉ values.map Prod.fst ∨ c.1 ∈ t.names.take i) → t'.columns[i]? = some c

/-- Columns set one after another are assigned at once. -/
theorem assigned_setColumns (h : t.setColumns values = .ok t') : t.Assigned values t' :=
  ⟨labels_setColumns h, names_setColumns h, find?_setColumns h,
    fun _ _ => getElem?_setColumns h⟩

theorem Assigned.take_names (h : t.Assigned values t') {i : Nat} (hi : i ≤ t.names.length) :
    t'.names.take i = t.names.take i := by
  rw [h.names, List.take_append_of_le_length hi]

/-! ## The order of the values -/

/-- The first column of a name is the one that is found. -/
theorem getElem?_first {i : Nat} {name : String} (hname : t.names[i]? = some name)
    (hfirst : name ∉ t.names.take i) :
    t.columns[i]? = (t.find? name).map fun c => (name, c) := by
  obtain ⟨columns, labels⟩ := t
  show columns[i]? = (columns.lookup name).map fun c => (name, c)
  replace hname : (columns.map Prod.fst)[i]? = some name := hname
  replace hfirst : name ∉ (columns.map Prod.fst).take i := hfirst
  induction columns generalizing i with
  | nil => cases hname
  | cons d rest ih =>
      obtain ⟨n, d⟩ := d
      rw [lookup_cons_if]
      cases i with
      | zero =>
          cases hname
          rw [if_pos rfl]
          rfl
      | succ i =>
          rw [List.map_cons, List.take_succ_cons, List.mem_cons, not_or] at hfirst
          rw [if_neg hfirst.1]
          exact ih hname hfirst.2

theorem Assigned.getElem?_first (h : t.Assigned values t') {i : Nat} {c : String × Column}
    (hc : t.columns[i]? = some c) (hfirst : c.1 ∉ t.names.take i) :
    t'.columns[i]? = (t'.find? c.1).map fun d => (c.1, d) := by
  have hi := lt_of_column hc
  refine Table.getElem?_first ?_ ?_
  · rw [h.names, List.getElem?_append_left hi, Table.names, List.getElem?_map, hc]
    rfl
  · rw [h.take_names (Nat.le_of_lt hi)]
    exact hfirst

/-- The names that are new. -/
def fresh (t : Table) (values : List (String × Column)) : List String :=
  (withoutRepeats (values.map Prod.fst)).filter (· ∉ t.names)

theorem nodup_fresh : (t.fresh values).Nodup := (nodup_withoutRepeats _).filter _

/-- In front stand the columns that were there, under their names, and behind them those
of the new names. -/
theorem Assigned.names_split (h : t.Assigned values t') :
    (t'.columns.take t.columns.length).map Prod.fst = t.names ∧
      (t'.columns.drop t.columns.length).map Prod.fst = t.fresh values := by
  have hlength : t.names.length = t.columns.length := List.length_map _
  have hnames : t'.columns.map Prod.fst = t.names ++ t.fresh values := h.names
  rw [List.map_take, List.map_drop, hnames, ← hlength]
  exact ⟨List.take_left, List.drop_left⟩

theorem Assigned.find?_fresh (h : t.Assigned values t') {name : String} (hname : name ∉ t.names) :
    t'.find? name = (t'.columns.drop t.columns.length).lookup name := by
  have hnone : (t'.columns.take t.columns.length).lookup name = none := by
    rw [List.lookup_eq_none_iff]
    intro c hc
    have hold : c.1 ∈ t.names := h.names_split.1 ▸ List.mem_map_of_mem hc
    exact bne_iff_ne.mpr fun hsame => hname (hsame ▸ hold)
  have hsplit := congrArg (List.lookup name)
    (List.take_append_drop t.columns.length t'.columns)
  rw [List.lookup_append, hnone, Option.none_or] at hsplit
  exact hsplit.symm

/-- The columns behind are what is found under the new names. -/
theorem Assigned.mem_drop (h : t.Assigned values t') {c : String × Column} :
    c ∈ t'.columns.drop t.columns.length ↔
      c.1 ∈ t.fresh values ∧ t'.find? c.1 = some c.2 := by
  have hnames := h.names_split.2
  have hnodup : ((t'.columns.drop t.columns.length).map Prod.fst).Nodup :=
    hnames.symm ▸ nodup_fresh
  have hfind : c.1 ∈ t.fresh values →
      (t'.find? c.1 = some c.2 ↔ c ∈ t'.columns.drop t.columns.length) := by
    intro hfresh
    rw [h.find?_fresh (of_decide_eq_true (List.mem_filter.mp hfresh).2),
      lookup_eq_some_iff_mem hnodup]
  constructor
  · intro hc
    have hfresh : c.1 ∈ t.fresh values := hnames ▸ List.mem_map_of_mem hc
    exact ⟨hfresh, (hfind hfresh).mpr hc⟩
  · rintro ⟨hfresh, hc⟩
    exact (hfind hfresh).mp hc

section

variable (h : t.Assigned values t') (h' : t.Assigned values' t'') (hperm : values.Perm values')
  (hnodup : (values.map Prod.fst).Nodup)

include h h' hperm hnodup

/-- Values of different names are found alike, in whatever order they are set. -/
theorem Assigned.found_perm (name : String) : t''.find? name = t'.find? name := by
  have hreverse : (values.reverse.map Prod.fst).Nodup := by
    rw [List.map_reverse]
    exact List.nodup_reverse.mpr hnodup
  have hsame : values.reverse.Perm values'.reverse :=
    (List.reverse_perm values).trans (hperm.trans (List.reverse_perm values').symm)
  rw [h.found, h'.found, lookup_perm hsame hreverse]

theorem Assigned.front_perm :
    t''.columns.take t.columns.length = t'.columns.take t.columns.length := by
  refine List.ext_getElem? fun i => ?_
  rw [List.getElem?_take, List.getElem?_take]
  split
  · next hi =>
      have hc := List.getElem?_eq_getElem hi
      by_cases hset : t.columns[i].1 ∉ values.map Prod.fst ∨ t.columns[i].1 ∈ t.names.take i
      · have hset' : t.columns[i].1 ∉ values'.map Prod.fst ∨ t.columns[i].1 ∈ t.names.take i :=
          hset.imp_left (mt (hperm.map Prod.fst).mem_iff.mpr)
        rw [h.others i _ hc hset, h'.others i _ hc hset']
      · obtain ⟨_, hfirst⟩ := not_or.mp hset
        rw [h.getElem?_first hc hfirst, h'.getElem?_first hc hfirst,
          h.found_perm h' hperm hnodup]
  · rfl

theorem Assigned.back_perm :
    (t''.columns.drop t.columns.length).Perm (t'.columns.drop t.columns.length) := by
  have hnodup' : ∀ {u vs}, t.Assigned vs u → (u.columns.drop t.columns.length).Nodup :=
    fun hu => List.Nodup.of_map Prod.fst (hu.names_split.2.symm ▸ nodup_fresh)
  refine (List.perm_ext_iff_of_nodup (hnodup' h') (hnodup' h)).mpr fun c => ?_
  have hfresh : c.1 ∈ t.fresh values' ↔ c.1 ∈ t.fresh values := by
    rw [fresh, fresh, List.mem_filter, List.mem_filter, mem_withoutRepeats, mem_withoutRepeats,
      (hperm.map Prod.fst).mem_iff]
  rw [h.mem_drop, h'.mem_drop, h.found_perm h' hperm hnodup, hfresh]

end

end Table

end TableVerbs
