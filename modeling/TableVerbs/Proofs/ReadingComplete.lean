import TableVerbs.Proofs.GrammarShape
import TableVerbs.Proofs.ReadingSound

/-!
# What is written is read back

Every rendering of a tree is read as that tree, whatever follows it, as long as
what follows cannot belong to it. That proviso is all there is to the interplay
of the levels: an operator ends an operand of every tighter level, and a comma
or a closing parenthesis ends everything.

The induction is on how the tree was written. It runs into the grouping of
chains: the left operand of a link is on the level of the chain itself, so it
is read without the reader stopping behind it. A rendering is therefore said
to be read in two ways (`ReadAt`), as a whole and as the beginning of a chain,
and the second is what the step from a left operand to its link takes.
-/

namespace TableVerbs

namespace Parser

variable {l m : Level} {t : Token} {ts us rest : List Token} {x y : Expr}

/-! ## Where an operand ends -/

/-- What comes next, if anything, cannot continue an expression of the level. -/
def Stops (l : Level) (ts : List Token) : Prop :=
  ∀ t ∈ ts.head?, t ≠ .leftParen ∧ (1 ≤ l.rank → t ≠ .power) ∧
    ∀ m : Level, m.rank ≤ l.rank → m.operator? t = none

theorem Stops.tighten (h : Stops l ts) (hle : m.rank ≤ l.rank) : Stops m ts := by
  intro t ht
  obtain ⟨hparen, hpow, hop⟩ := h t ht
  exact ⟨hparen, fun hm => hpow (Nat.le_trans hm hle),
    fun k hk => hop k (Nat.le_trans hk hle)⟩

/-- No operators are joined on the level of signs. -/
theorem Stops.of_power (h : Stops .power ts) : Stops .sign ts := by
  intro t ht
  obtain ⟨hparen, hpow, hop⟩ := h t ht
  refine ⟨hparen, fun _ => hpow (by decide), fun m hm => ?_⟩
  by_cases hs : m = .sign
  · subst hs
    cases t <;> rfl
  · refine hop m ?_
    cases m <;> first | exact absurd rfl hs | decide | exact absurd hm (by decide)

theorem stops_nil (l : Level) : Stops l [] := by
  intro t ht
  cases ht

theorem stops_closing (l : Level) (ts : List Token) : Stops l (.rightParen :: ts) := by
  intro t ht
  cases ht
  exact ⟨by decide, fun _ => by decide, fun m _ => by cases m <;> rfl⟩

theorem stops_comma (l : Level) (ts : List Token) : Stops l (.comma :: ts) := by
  intro t ht
  cases ht
  exact ⟨by decide, fun _ => by decide, fun m _ => by cases m <;> rfl⟩

/-- An operator ends the operands of every tighter level. -/
theorem stops_operator {op : BinaryOp} (h : l.rank < op.level.rank) (ts : List Token) :
    Stops l (op.token :: ts) := by
  intro t ht
  cases ht
  refine ⟨?_, fun hl hpow => ?_, fun m hm => ?_⟩
  · intro hparen
    rcases op with (_ | _) | (_ | _) | (_ | _) <;> cases hparen
  · obtain rfl : op = .arithmetic .pow := BinaryOp.token_injective hpow
    exact absurd h (Nat.not_lt.mpr hl)
  · cases hop : m.operator? op.token with
    | none => rfl
    | some op' =>
        obtain ⟨hlevel, htoken, -, -⟩ := Level.operator?_eq_some hop
        obtain rfl := BinaryOp.token_injective htoken
        rw [hlevel] at h
        omega

/-! ## What no expression begins with -/

theorem read?_primary_sign (h : t = .not ∨ t = .minus ∨ t = .plus) (ts : List Token) :
    read? .primary (t :: ts) = none := by
  rcases h with rfl | rfl | rfl <;>
    exact read?_primary_none (by rintro (_ | _ | _ | _) ⟨⟩) (by rintro _ ⟨⟩) (by decide)

/-- A token that begins no primary begins no expression, unless it is a sign of
the level asked for or of a tighter one. -/
theorem read?_eq_none {l : Level} (h : read? .primary (t :: ts) = none)
    (hnot : t = .not → l.rank < Level.not.rank)
    (hsign : t = .minus ∨ t = .plus → l.rank < Level.sign.rank) : read? l (t :: ts) = none := by
  induction hn : l.rank using Nat.strongRecOn generalizing l with
  | ind n ih =>
      subst hn
      cases hl : l.operands? with
      | some m =>
          have hrank := Level.rank_of_operands? hl
          rw [read?_chain hl, ih m.rank (by omega) (fun ht => by have := hnot ht; omega)
            (fun ht => by have := hsign ht; omega) rfl]
          rfl
      | none =>
          cases l with
          | not =>
              rw [read?_not_of_ne fun ht => absurd (hnot ht) (Nat.lt_irrefl _)]
              exact ih Level.comparison.rank (by decide) (fun _ => by decide)
                (fun ht => absurd (hsign ht) (by decide)) rfl
          | sign =>
              rw [read?_sign_of_ne (fun ht => absurd (hsign (.inl ht)) (Nat.lt_irrefl _))
                (fun ht => absurd (hsign (.inr ht)) (Nat.lt_irrefl _))]
              exact ih Level.power.rank (by decide) (fun _ => by decide) (fun _ => by decide) rfl
          | power =>
              rw [read?_power, h]
              rfl
          | primary => exact h
          | or | and | comparison | sum | product => cases hl

/-- The token ahead of an expression that was read is none that its level
cannot begin with. -/
theorem head_ne_of_read? {r : List Token} (h : read? l ts = some (x, r))
    (hprimary : ∀ us, read? .primary (t :: us) = none)
    (hnot : t = .not → l.rank < Level.not.rank)
    (hsign : t = .minus ∨ t = .plus → l.rank < Level.sign.rank) :
    ∃ u us, ts = u :: us ∧ u ≠ t := by
  match ts with
  | [] => exact absurd (read?_shorter h) (Nat.not_lt_zero _)
  | u :: us =>
      refine ⟨u, us, rfl, ?_⟩
      rintro rfl
      rw [read?_eq_none (hprimary us) hnot hsign] at h
      cases h

/-! ## Two ways to be read -/

/-- The tokens are read as the expression, whatever follows them. -/
structure ReadAt (l : Level) (x : Expr) (ts : List Token) : Prop where
  /-- As a whole, in front of anything that cannot continue it. -/
  whole : ∀ rest, Stops l rest → read? l (ts ++ rest) = some (x, rest)
  /-- As the beginning of a chain, in front of its links. -/
  chained : ∀ m, l.operands? = some m → ∀ rest, Stops m rest →
    read? l (ts ++ rest) = links? l m x rest

theorem links?_of_stops (h : Stops l rest) : links? l m x rest = some (x, rest) := by
  cases rest with
  | nil => exact links?_nil
  | cons t rest => exact links?_stop ((h t rfl).2.2 l (Nat.le_refl _))

theorem exponent?_of_stops (h : Stops .power rest) : exponent? x rest = some (x, rest) := by
  rw [exponent?]
  rintro us rfl
  exact (h .power rfl).2.1 (by decide) rfl

/-- On a level without chains there is only one way. -/
theorem ReadAt.of_whole (hl : l.operands? = none)
    (h : ∀ rest, Stops l rest → read? l (ts ++ rest) = some (x, rest)) : ReadAt l x ts := by
  refine ⟨h, fun m hm => ?_⟩
  rw [hl] at hm
  cases hm

/-- On a level of chains the second way implies the first. -/
theorem ReadAt.of_chained (hl : l.operands? = some m)
    (h : ∀ rest, Stops m rest → read? l (ts ++ rest) = links? l m x rest) : ReadAt l x ts := by
  have hrank := Level.rank_of_operands? hl
  refine ⟨fun rest hrest => ?_, fun m' hm' => ?_⟩
  · rw [h rest (hrest.tighten (by omega)), links?_of_stops hrest]
  · obtain rfl : m = m' := Option.some.inj (hl.symm.trans hm')
    exact h

/-- An operand of a chain is a chain of its own. -/
theorem ReadAt.chain (h : ReadAt m x ts) (hl : l.operands? = some m) : ReadAt l x ts := by
  refine .of_chained hl fun rest hrest => ?_
  rw [read?_chain hl, h.whole rest hrest]
  rfl

theorem ReadAt.not (h : ReadAt .comparison x ts) : ReadAt .not x ts := by
  refine .of_whole rfl fun rest hrest => ?_
  have hx := h.whole rest (hrest.tighten (by decide))
  obtain ⟨u, us, hts, hu⟩ := head_ne_of_read? (t := .not) hx
    (fun us => read?_primary_sign (by decide) us)
    (fun _ => by decide) (by decide)
  rw [hts] at hx ⊢
  rw [read?_not_of_ne hu, hx]

theorem ReadAt.sign (h : ReadAt .power x ts) : ReadAt .sign x ts := by
  refine .of_whole rfl fun rest hrest => ?_
  have hx := h.whole rest (hrest.tighten (by decide))
  obtain ⟨u, us, hts, hm⟩ := head_ne_of_read? (t := .minus) hx
    (fun us => read?_primary_sign (by decide) us)
    (by decide) (fun _ => by decide)
  obtain ⟨v, vs, hts', hp⟩ := head_ne_of_read? (t := .plus) hx
    (fun us => read?_primary_sign (by decide) us)
    (by decide) (fun _ => by decide)
  rw [hts] at hx hts' ⊢
  cases hts'
  rw [read?_sign_of_ne hm hp, hx]

theorem ReadAt.power (h : ReadAt .primary x ts) : ReadAt .power x ts := by
  refine .of_whole rfl fun rest hrest => ?_
  rw [read?_power, h.whole rest (hrest.tighten (by decide))]
  exact exponent?_of_stops hrest

/-- What is read in a tighter place is read in a looser one. -/
theorem ReadAt.loosen {m : Level} (h : ReadAt l x ts) (hle : l.rank ≤ m.rank) : ReadAt m x ts := by
  induction hn : m.rank using Nat.strongRecOn generalizing m with
  | ind n ih =>
      subst hn
      by_cases he : l.rank = m.rank
      · obtain rfl : l = m := by cases l <;> cases m <;> first | rfl | cases he
        exact h
      have hlt : l.rank < m.rank := Nat.lt_of_le_of_ne hle he
      cases hm : m.operands? with
      | some k =>
          have hrank := Level.rank_of_operands? hm
          exact (ih k.rank (by omega) (by omega) rfl).chain hm
      | none =>
          cases m with
          | not => exact (@ih _ (by decide) .comparison (Nat.le_of_lt_succ hlt) rfl).not
          | sign => exact (@ih _ (by decide) .power (Nat.le_of_lt_succ hlt) rfl).sign
          | power => exact (@ih _ (by decide) .primary (Nat.le_of_lt_succ hlt) rfl).power
          | primary => exact absurd hlt (Nat.not_lt_zero _)
          | or | and | comparison | sum | product => cases hm

/-! ## Every rendering is read -/

theorem named?_of_stops {n : String} (h : Stops .primary rest) :
    named? n rest = some (.column n, rest) := by
  cases rest with
  | nil => exact named?_nil
  | cons t rest => exact named?_of_ne (h t rfl).1

/-- Arguments that are there do not begin with the closing parenthesis, by which
the reader tells a call without any. -/
theorem named?_call {n : String} {xs : List Expr}
    (h : arguments? ts = some (xs, .rightParen :: rest)) :
    named? n (.leftParen :: ts) = some (.call n xs, rest) := by
  have hhead : ts.head? ≠ some .rightParen := by
    rw [arguments?_eq, Option.bind_eq_some_iff] at h
    obtain ⟨⟨x, r⟩, hx, -⟩ := h
    obtain ⟨u, us, rfl, hu⟩ := head_ne_of_read? (t := .rightParen) hx
      (fun us => read?_primary_none (by rintro (_ | _ | _ | _) ⟨⟩) (by rintro _ ⟨⟩) (by decide))
      (by decide) (by decide)
    exact fun ht => hu (Option.some.inj ht)
  rw [named?_arguments hhead, closed?_eq_some.mpr h]
  rfl

mutual

theorem readAt_bare {x : Expr} {ts : List Token} (h : Bare x ts) : ReadAt x.level x ts := by
  match h with
  | .lit v => exact .of_whole rfl fun rest _ => read?_literal v
  | .column n =>
      refine .of_whole rfl fun rest hrest => ?_
      exact read?_name.trans (named?_of_stops hrest)
  | @Bare.call n xs us hargs =>
      refine .of_whole rfl fun rest _ => ?_
      show read? .primary (.name n :: .leftParen :: ((us ++ [.rightParen]) ++ rest)) = _
      rw [List.append_assoc, read?_name]
      by_cases hxs : xs = []
      · subst hxs
        cases hargs
        exact named?_empty
      · exact named?_call (arguments?_listed hargs hxs rest)
  | @Bare.unary .neg y us hx =>
      refine .of_whole rfl fun rest hrest => ?_
      have hread : read? .sign (us ++ rest) = _ := (readAt_operand hx).whole rest hrest
      show read? .sign (.minus :: (us ++ rest)) = _
      rw [read?_minus, hread]
      rfl
  | @Bare.unary .not y us hx =>
      refine .of_whole rfl fun rest hrest => ?_
      have hread : read? .not (us ++ rest) = _ := (readAt_operand hx).whole rest hrest
      show read? .not (.not :: (us ++ rest)) = _
      rw [read?_not, hread]
      rfl
  | @Bare.binary op y z us vs hy hz =>
      have hleft := readAt_operand hy
      have hright := readAt_operand hz
      by_cases hpow : op = .arithmetic .pow
      · subst hpow
        refine .of_whole rfl fun rest hrest => ?_
        have hbase : read? .primary (us ++ .power :: (vs ++ rest)) = _ :=
          hleft.whole _ (@stops_operator _ (.arithmetic .pow) (by decide) (vs ++ rest))
        have hexp : read? .sign (vs ++ rest) = _ := hright.whole rest hrest.of_power
        show read? .power (us ++ .power :: vs ++ rest) = _
        rw [List.append_assoc, List.cons_append, read?_power, hbase]
        show exponent? y (.power :: (vs ++ rest)) = _
        rw [exponent?, hexp]
        rfl
      · have hlevel : op.level ≠ .power := fun h => hpow (BinaryOp.eq_pow h)
        obtain ⟨-, -, hopl, hl⟩ := Level.operator?_eq_some (Level.operator?_token hlevel)
        have hrank := Level.rank_of_operands? hl
        rw [hopl] at hleft
        refine .of_chained hl fun rest hrest => ?_
        show read? op.level (us ++ op.token :: vs ++ rest) = _
        rw [List.append_assoc, List.cons_append]
        rw [hleft.chained op.rightLevel hl _ (stops_operator (by omega) _)]
        rw [links?_go (Level.operator?_token hlevel), hright.whole rest hrest]
        rfl

theorem readAt_operand {l : Level} {x : Expr} {ts : List Token} (h : Operand l x ts) :
    ReadAt l x ts := by
  match h with
  | .bare hl hx => exact (readAt_bare hx).loosen hl
  | @Operand.parens _ _ us hx =>
      have hprimary : ReadAt .primary x (.leftParen :: (us ++ [.rightParen])) := by
        refine .of_whole rfl fun rest _ => ?_
        have hread := (readAt_operand hx).whole _ (stops_closing .or rest)
        rw [List.cons_append, List.append_assoc, read?_parens, closed?_eq_some]
        exact hread
      exact hprimary.loosen (Nat.zero_le _)
  | @Operand.plus _ _ us hl hx =>
      have hsign : ReadAt .sign x (.plus :: us) := by
        refine .of_whole rfl fun rest hrest => ?_
        rw [List.cons_append, read?_plus]
        exact (readAt_operand hx).whole rest hrest
      exact hsign.loosen hl

theorem arguments?_listed {xs : List Expr} {ts : List Token} (h : Listed xs ts) (hne : xs ≠ [])
    (rest : List Token) :
    arguments? (ts ++ .rightParen :: rest) = some (xs, .rightParen :: rest) := by
  match h with
  | .none => exact absurd rfl hne
  | .last hx =>
      have hread := (readAt_operand hx).whole _ (stops_closing .or rest)
      rw [arguments?_eq, hread]
      rfl
  | @Listed.more x y ys us vs hx hys =>
      have hread := (readAt_operand hx).whole _ (stops_comma .or (vs ++ .rightParen :: rest))
      have hmore := arguments?_listed hys (List.cons_ne_nil y ys) rest
      rw [List.append_assoc, List.cons_append, arguments?_eq, hread]
      show further? x (.comma :: (vs ++ .rightParen :: rest)) = _
      rw [further?, hmore]
      rfl

end

/-! ## Whole lists of tokens -/

theorem expression_eq_ok {text : String} :
    expression ts text = .ok x ↔ read? .or ts = some (x, []) := by
  rw [expression, read?]
  by_cases hts : ts = []
  · subst hts
    rw [if_pos rfl]
    constructor
    · intro h
      cases h
    · intro h
      exact absurd (read?_shorter h) (Nat.lt_irrefl 0)
  · rw [if_neg hts]
    cases level .or ts with
    | error e => simp [plain]
    | ok r =>
        obtain ⟨y, us, hus⟩ := r
        cases us with
        | nil => simp [plain]
        | cons t us => simp [plain]

theorem expression_iff_rendering {text : String} :
    expression ts text = .ok x ↔ x.Rendering ts := by
  rw [expression_eq_ok]
  constructor
  · intro h
    obtain ⟨us, hts, hus⟩ := read?_sound h
    rw [List.append_nil] at hts
    rw [hts]
    exact hus
  · intro h
    have hread := (readAt_operand h).whole [] (stops_nil .or)
    rwa [List.append_nil] at hread

/-- What is read as an expression are the renderings of expressions and nothing
else. A rendering has one tree, and every tree has a rendering; all parentheses
of a rendering match, and its tokens alternate, so that operands never touch and
no comma is left over. -/
theorem expression_renderings (text : String) :
    (∀ ts x, expression ts text = .ok x ↔ x.Rendering ts) ∧
    (∀ ts (x y : Expr), x.Rendering ts → y.Rendering ts → x = y) ∧
    (∀ x : Expr, ∃ ts, x.Rendering ts) ∧
    ∀ ts x, expression ts text = .ok x →
      openParens 0 ts = some 0 ∧ ts.IsChain fun t u => t.mayPrecede u = true := by
  refine ⟨fun ts x => expression_iff_rendering, fun ts x y hx hy => ?_,
    exists_operand .or, fun ts x h => ?_⟩
  · have hread := (expression_iff_rendering.mpr hx : expression ts text = .ok x)
    exact Except.ok.inj (hread.symm.trans (expression_iff_rendering.mpr hy))
  · have hts := expression_iff_rendering.mp h
    have hopen := openParens_operand hts 0 []
    rw [List.append_nil] at hopen
    exact ⟨hopen, (alternating_operand hts).chain⟩

end Parser

end TableVerbs
