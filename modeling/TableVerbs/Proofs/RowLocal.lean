import TableVerbs.Expr.Broadcast
import TableVerbs.Proofs.Picking
import TableVerbs.Proofs.ResultType

/-!
# Computing on some of the rows

A computation on a table is local to rows when doing it on some of the rows is
picking those rows from what it does on all of them. Said of a computation
that may fail, this has two directions: a success on all rows is a success on
every pick, and successes on picks that reach every row make a success on all.
The second is what says that rows fail on their own account.

`RowLocal` holds both directions for a family of picks, and it is kept by
running one computation after another. So it is proved once for each thing
that an operator is made of: applying a function to every cell, and making a
column of the results. Only the last looks at the rows together, as the type
of a column is inferred from all of its cells. It is local where the picks
cannot be told apart by the types that occur in them, which is what `Steady`
says. Cells of one type are steady under any pick, and any cells are under
picks that leave no row out.
-/

namespace TableVerbs

variable {α β γ : Type}

/-- A family of picks, none of them empty, that reaches every one of `n` rows and
nothing else. -/
structure Covers (picks : List Nat → Prop) (n : Nat) : Prop where
  bounds : ∀ p, picks p → ∀ i ∈ p, i < n
  nonempty : ∀ p, picks p → p ≠ []
  reaches : ∀ i < n, ∃ p, picks p ∧ i ∈ p

/-- What a computation does on the picked rows is picked from what it does on
all rows, `whole`; and it is done on all rows if it is on every pick. -/
structure RowLocal (picks : List Nat → Prop) (fits : β → Prop) (take : List Nat → β → β)
    (whole : Except Error β) (part : List Nat → Except Error β) : Prop where
  picked : ∀ v, whole = .ok v → fits v ∧ ∀ p, picks p → part p = .ok (take p v)
  covered : (∀ p, picks p → ∃ v, part p = .ok v) → ∃ v, whole = .ok v

section

variable {picks : List Nat → Prop} {n : Nat}

theorem Covers.exists_pick (hc : Covers picks n) (hn : 0 < n) : ∃ p, picks p := by
  obtain ⟨p, hp, _⟩ := hc.reaches 0 hn
  exact ⟨p, hp⟩

/-! ## One computation after another -/

section

variable {fits : β → Prop} {take : List Nat → β → β} {fits' : γ → Prop}
  {take' : List Nat → γ → γ}

theorem RowLocal.ok {v : β} (h : fits v) :
    RowLocal picks fits take (.ok v) fun p => .ok (take p v) where
  picked := by
    intro w hw
    cases hw
    exact ⟨h, fun _ _ => rfl⟩
  covered := fun _ => ⟨v, rfl⟩

theorem RowLocal.error (hp : ∃ p, picks p) {e : Error} {part : List Nat → Error} :
    RowLocal picks fits take (.error e) fun p => .error (part p) where
  picked := fun _ h => by cases h
  covered := by
    intro h
    obtain ⟨p, hp⟩ := hp
    obtain ⟨v, hv⟩ := h p hp
    cases hv

/-- Only what is done on the picks of the family matters. -/
theorem RowLocal.congr {whole : Except Error β} {part part' : List Nat → Except Error β}
    (h : RowLocal picks fits take whole part) (hpart : ∀ p, picks p → part' p = part p) :
    RowLocal picks fits take whole part' where
  picked := by
    intro v hv
    refine ⟨(h.picked v hv).1, fun p hp => ?_⟩
    rw [hpart p hp]
    exact (h.picked v hv).2 p hp
  covered := by
    intro hparts
    refine h.covered fun p hp => ?_
    rw [← hpart p hp]
    exact hparts p hp

theorem RowLocal.bind {whole : Except Error β} {part : List Nat → Except Error β}
    {next : β → Except Error γ} {next' : List Nat → β → Except Error γ}
    (h : RowLocal picks fits take whole part)
    (hnext : ∀ v, whole = .ok v → fits v →
      RowLocal picks fits' take' (next v) fun p => next' p (take p v)) :
    RowLocal picks fits' take' (whole.bind next) fun p => (part p).bind (next' p) where
  picked := by
    intro w hw
    cases hwhole : whole with
    | error e =>
        rw [hwhole] at hw
        cases hw
    | ok v =>
        rw [hwhole] at hw
        obtain ⟨hfits, hpart⟩ := h.picked v hwhole
        obtain ⟨hfits', hpart'⟩ := (hnext v hwhole hfits).picked w hw
        refine ⟨hfits', fun p hp => ?_⟩
        rw [hpart p hp]
        exact hpart' p hp
  covered := by
    intro hparts
    have hfirst : ∀ p, picks p → ∃ v, part p = .ok v := by
      intro p hp
      obtain ⟨w, hw⟩ := hparts p hp
      cases hv : part p with
      | error e =>
          rw [hv] at hw
          cases hw
      | ok v => exact ⟨v, rfl⟩
    obtain ⟨v, hv⟩ := h.covered hfirst
    obtain ⟨hfits, hpart⟩ := h.picked v hv
    rw [hv]
    refine (hnext v hv hfits).covered fun p hp => ?_
    have hw := hparts p hp
    rw [hpart p hp] at hw
    exact hw

theorem RowLocal.map {whole : Except Error β} {part : List Nat → Except Error β} {f : β → γ}
    {f' : List Nat → β → γ} (h : RowLocal picks fits take whole part)
    (hfits : ∀ v, fits v → fits' (f v)) (htake : ∀ p v, f' p (take p v) = take' p (f v)) :
    RowLocal picks fits' take' (whole.map f) fun p => (part p).map (f' p) where
  picked := by
    intro w hw
    obtain ⟨v, hv, rfl⟩ := map_eq_ok.mp hw
    obtain ⟨hfit, hpart⟩ := h.picked v hv
    refine ⟨hfits v hfit, fun p hp => ?_⟩
    rw [hpart p hp, ← htake]
    rfl
  covered := by
    intro hparts
    obtain ⟨v, hv⟩ := h.covered fun p hp => by
      obtain ⟨_, hw⟩ := hparts p hp
      obtain ⟨v, hv, _⟩ := map_eq_ok.mp hw
      exact ⟨v, hv⟩
    exact ⟨f v, map_eq_ok.mpr ⟨v, hv, rfl⟩⟩

end

/-! ## Every cell -/

/-- A function applied to every member of a list, one for each row. -/
theorem rowLocal_mapM (hc : Covers picks n) {f : α → Except Error β} {xs : List α}
    (hlen : xs.length = n) :
    RowLocal picks (fun ys => ys.length = n) pick (xs.mapM f) fun p => (pick p xs).mapM f where
  picked := by
    intro ys hys
    refine ⟨(mapM_length hys).trans hlen, fun p _ => ?_⟩
    exact mapM_eq_ok.mpr (pick_forall₂ (mapM_eq_ok.mp hys) p)
  covered := by
    intro hparts
    refine mapM_succeeds.mpr fun x hx => ?_
    obtain ⟨i, hi, rfl⟩ := List.mem_iff_getElem.mp hx
    obtain ⟨p, hp, hip⟩ := hc.reaches i (hlen ▸ hi)
    refine mapM_succeeds.mp (hparts p hp) _ ?_
    exact mem_pick.mpr ⟨i, hip, List.getElem?_eq_getElem hi⟩

/-! ## A column of the results -/

/-- Whatever is asked of the types of these cells, every pick answers as all of
them do. -/
def Steady (picks : List Nat → Prop) (cells : List Cell) : Prop :=
  ∀ p, picks p → ∀ test : CellType → Bool,
    (pick p cells).all (fun v => test v.type) = cells.all fun v => test v.type

theorem steady_of_type (hc : Covers picks n) {cells : List Cell} (hlen : cells.length = n)
    (h : ∃ type, ∀ v ∈ cells, v.type = type) : Steady picks cells := by
  intro p hp test
  obtain ⟨type, h⟩ := h
  obtain ⟨i, hi⟩ := List.exists_mem_of_ne_nil p (hc.nonempty p hp)
  have hi' : i < cells.length := hlen ▸ hc.bounds p hp i hi
  have hmem : cells[i] ∈ pick p cells := mem_pick.mpr ⟨i, hi, List.getElem?_eq_getElem hi'⟩
  rw [Column.all_of_type (List.ne_nil_of_mem hmem) fun v hv => h v (mem_of_mem_pick hv),
    Column.all_of_type (List.ne_nil_of_mem (List.getElem_mem hi')) h]

theorem steady_of_perm {cells : List Cell}
    (h : ∀ p, picks p → p.Perm (List.range cells.length)) : Steady picks cells := by
  intro p hp test
  rw [Bool.eq_iff_iff, List.all_eq_true, List.all_eq_true]
  exact ⟨fun hall v hv => hall v ((pick_perm (h p hp)).mem_iff.mpr hv),
    fun hall v hv => hall v ((pick_perm (h p hp)).mem_iff.mp hv)⟩

theorem Steady.common?_pick {cells : List Cell} (h : Steady picks cells) {p : List Nat}
    (hp : picks p) : Column.common? (pick p cells) = Column.common? cells := by
  have hint := h p hp (· == .int)
  have hnumber := h p hp fun type => type == .int || type == .float
  have hbool := h p hp (· == .bool)
  have hstr := h p hp (· == .str)
  have hisNumber : Column.isNumber = fun v : Cell => v.type == .int || v.type == .float := rfl
  simp only [Column.common?, hisNumber, hint, hnumber, hbool, hstr]

/-- Making a column of cells is local to rows where the picks are steady. -/
theorem rowLocal_collect (hc : Covers picks n) (hn : 0 < n) {cells : List Cell}
    (hlen : cells.length = n) (h : Steady picks cells) (otherwise : CellType) :
    RowLocal picks (fun c => c.length = n) Column.take (Column.collect otherwise cells)
      fun p => Column.collect otherwise (pick p cells) := by
  have hcollect : ∀ vs : List Cell, vs ≠ [] →
      Column.collect otherwise vs = Column.ofCells vs := by
    intro vs hvs
    rw [Column.collect, if_neg (by rwa [List.isEmpty_iff])]
  have hne : cells ≠ [] := List.ne_nil_of_length_pos (hlen ▸ hn)
  have hpart : ∀ p, picks p → pick p cells ≠ [] := by
    intro p hp
    refine List.ne_nil_of_length_pos ?_
    rw [length_pick (hlen ▸ hc.bounds p hp)]
    exact List.length_pos_iff.mpr (hc.nonempty p hp)
  rw [hcollect cells hne, Column.ofCells_eq hne]
  constructor
  · intro c hcol
    split at hcol
    · next type htype =>
        cases hcol
        have hfits := Column.fitsType_of_common? htype
        refine ⟨(Column.length_readAs hfits).trans hlen, fun p hp => ?_⟩
        rw [hcollect _ (hpart p hp), Column.ofCells_eq (hpart p hp), h.common?_pick hp, htype,
          ← Column.readAs_pick hfits]
    · cases hcol
  · intro hparts
    obtain ⟨p, hp⟩ := hc.exists_pick hn
    obtain ⟨c, hcol⟩ := hparts p hp
    rw [hcollect _ (hpart p hp), Column.ofCells_eq (hpart p hp), h.common?_pick hp] at hcol
    split at hcol
    · exact ⟨_, rfl⟩
    · cases hcol

/-- Applying a function to the members of a list and making a column of the
results. -/
theorem rowLocal_mapM_collect (hc : Covers picks n) (hn : 0 < n) {f : β → Except Error Cell}
    {xs : List β} (hlen : xs.length = n)
    (h : (∃ type, ∀ x ∈ xs, ∀ v, f x = .ok v → v.type = type) ∨
      ∀ p, picks p → p.Perm (List.range n)) (otherwise : CellType) :
    RowLocal picks (fun c => c.length = n) Column.take
      ((xs.mapM f).bind (Column.collect otherwise))
      fun p => ((pick p xs).mapM f).bind (Column.collect otherwise) := by
  refine (rowLocal_mapM hc hlen).bind fun cells hcells hfits => ?_
  refine rowLocal_collect hc hn hfits ?_ otherwise
  rcases h with ⟨type, htype⟩ | hperm
  · refine steady_of_type hc hfits ⟨type, fun v hv => ?_⟩
    obtain ⟨x, hx, hfx⟩ := mem_of_mapM hcells hv
    exact htype x hx v hfx
  · exact steady_of_perm fun p hp => hfits ▸ hperm p hp

end

end TableVerbs
