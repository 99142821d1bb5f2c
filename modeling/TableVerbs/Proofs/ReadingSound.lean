import TableVerbs.Proofs.Reading

/-!
# What is read is written there

Whenever the reader returns a tree, the tokens that it took are one way to write
that tree at the level that was asked for, and what it left over is what follows
them. The proof walks the same recursion as the reader. The one statement that
is not about a whole operand is that of a chain: its links extend a rendering
that was there before them, and each link makes the rendering so far the left
operand of the next.
-/

namespace TableVerbs.Parser

mutual

theorem read?_sound {l : Level} {ts rest : List Token} {x : Expr}
    (h : read? l ts = some (x, rest)) : ∃ us, ts = us ++ rest ∧ Operand l x us := by
  match hl : l.operands? with
  | some m =>
      rw [read?_chain hl, Option.bind_eq_some_iff] at h
      obtain ⟨⟨left, r⟩, hleft, hlinks⟩ := h
      have hrank := Level.rank_of_operands? hl
      have hshort := read?_shorter hleft
      obtain ⟨pre, rfl, hpre⟩ := read?_sound hleft
      obtain ⟨us, rfl, hx⟩ := links?_sound hl (hpre.loosen (by omega)) hlinks
      exact ⟨pre ++ us, by rw [List.append_assoc], hx⟩
  | none =>
      match ts with
      | [] => exact absurd (read?_shorter h) (Nat.not_lt_zero _)
      | t :: ts =>
          match l with
          | .not =>
              by_cases ht : t = .not
              · subst ht
                rw [read?_not, Option.map_eq_some_iff] at h
                obtain ⟨⟨y, r⟩, hy, he⟩ := h
                cases he
                obtain ⟨us, rfl, hus⟩ := read?_sound hy
                exact ⟨.not :: us, rfl, .bare (Nat.le_refl _) (.unary .not hus)⟩
              · rw [read?_not_of_ne ht] at h
                obtain ⟨us, hts, hus⟩ := read?_sound h
                exact ⟨us, hts, hus.loosen (by decide)⟩
          | .sign =>
              by_cases hm : t = .minus
              · subst hm
                rw [read?_minus, Option.map_eq_some_iff] at h
                obtain ⟨⟨y, r⟩, hy, he⟩ := h
                cases he
                obtain ⟨us, rfl, hus⟩ := read?_sound hy
                exact ⟨.minus :: us, rfl, .bare (Nat.le_refl _) (.unary .neg hus)⟩
              · by_cases hp : t = .plus
                · subst hp
                  rw [read?_plus] at h
                  obtain ⟨us, rfl, hus⟩ := read?_sound h
                  exact ⟨.plus :: us, rfl, .plus (Nat.le_refl _) hus⟩
                · rw [read?_sign_of_ne hm hp] at h
                  obtain ⟨us, hts, hus⟩ := read?_sound h
                  exact ⟨us, hts, hus.loosen (by decide)⟩
          | .power =>
              rw [read?_power, Option.bind_eq_some_iff] at h
              obtain ⟨⟨base, r⟩, hbase, hexp : exponent? base r = _⟩ := h
              have hshort := read?_shorter hbase
              obtain ⟨pre, hts, hpre⟩ := read?_sound hbase
              unfold exponent? at hexp
              split at hexp
              · next us =>
                  rw [Option.map_eq_some_iff] at hexp
                  obtain ⟨⟨y, r⟩, hy, he⟩ := hexp
                  cases he
                  simp only [List.length_cons] at hshort
                  obtain ⟨vs, rfl, hvs⟩ := read?_sound hy
                  refine ⟨pre ++ .power :: vs, by rw [hts]; simp, ?_⟩
                  exact .bare (Nat.le_refl _) (.binary (.arithmetic .pow) hpre hvs)
              · cases hexp
                exact ⟨pre, hts, hpre.loosen (by decide)⟩
          | .primary =>
              by_cases hlit : ∃ v, t = .ofCell v
              · obtain ⟨v, rfl⟩ := hlit
                rw [read?_literal] at h
                cases h
                exact ⟨[.ofCell v], rfl, .bare (Nat.le_refl _) (.lit v)⟩
              · by_cases hname : ∃ n, t = .name n
                · obtain ⟨n, rfl⟩ := hname
                  rw [read?_name] at h
                  obtain ⟨us, rfl, hus⟩ := named?_sound h
                  exact ⟨.name n :: us, rfl, hus⟩
                · by_cases hp : t = .leftParen
                  · subst hp
                    rw [read?_parens, closed?_eq_some] at h
                    obtain ⟨us, rfl, hus⟩ := read?_sound h
                    exact ⟨.leftParen :: (us ++ [.rightParen]), by simp, .parens _ hus⟩
                  · rw [read?_primary_none (not_exists.mp hlit) (not_exists.mp hname) hp] at h
                    cases h
termination_by (ts.length, l.rank)
decreasing_by
  all_goals first
    | exact Prod.Lex.right _ (by decide)
    | exact Prod.Lex.right _ (by omega)
    | exact Prod.Lex.left _ _ (by simp only [List.length_cons] at *; omega)

/-- The links of a chain extend what they hang on. -/
theorem links?_sound {l m : Level} {left x : Expr} {pre ts rest : List Token}
    (hl : l.operands? = some m) (hleft : Operand l left pre)
    (h : links? l m left ts = some (x, rest)) : ∃ us, ts = us ++ rest ∧ Operand l x (pre ++ us) := by
  match ts with
  | [] =>
      rw [links?_nil] at h
      cases h
      exact ⟨[], rfl, by rw [List.append_nil]; exact hleft⟩
  | t :: ts =>
      match ht : l.operator? t with
      | none =>
          rw [links?_stop ht] at h
          cases h
          exact ⟨[], rfl, by rw [List.append_nil]; exact hleft⟩
      | some op =>
          obtain ⟨hlevel, rfl, hopl, hopr⟩ := Level.operator?_eq_some ht
          obtain rfl : op.rightLevel = m := Option.some.inj (hopr.symm.trans hl)
          rw [links?_go ht, Option.bind_eq_some_iff] at h
          obtain ⟨⟨right, r⟩, hright, hlinks⟩ := h
          have hshort := read?_shorter hright
          obtain ⟨us, rfl, hus⟩ := read?_sound hright
          have hop : Operand l (.binary op left right) (pre ++ op.token :: us) := by
            refine .bare (Nat.le_of_eq (congrArg Level.rank hlevel)) (.binary op ?_ hus)
            rw [hopl]
            exact hleft
          obtain ⟨vs, rfl, hx⟩ := links?_sound hl hop hlinks
          refine ⟨op.token :: (us ++ vs), by simp, ?_⟩
          simpa using hx
termination_by (ts.length, 0)
decreasing_by
  all_goals first
    | exact Prod.Lex.right _ (by decide)
    | exact Prod.Lex.right _ (by omega)
    | exact Prod.Lex.left _ _ (by simp only [List.length_cons] at *; omega)

theorem named?_sound {n : String} {ts rest : List Token} {x : Expr}
    (h : named? n ts = some (x, rest)) :
    ∃ us, ts = us ++ rest ∧ Operand .primary x (.name n :: us) := by
  match ts with
  | [] =>
      rw [named?_nil] at h
      cases h
      exact ⟨[], rfl, .bare (Nat.le_refl _) (.column n)⟩
  | t :: ts =>
      by_cases ht : t = .leftParen
      · subst ht
        by_cases hr : ts.head? = some .rightParen
        · obtain ⟨us, rfl⟩ := List.head?_eq_some_iff.mp hr
          rw [named?_empty] at h
          cases h
          exact ⟨[.leftParen, .rightParen], rfl, .bare (Nat.le_refl _) (.call n .none)⟩
        · rw [named?_arguments hr, Option.map_eq_some_iff] at h
          obtain ⟨⟨xs, r⟩, hxs, he⟩ := h
          cases he
          rw [closed?_eq_some] at hxs
          obtain ⟨us, rfl, _, hus⟩ := arguments?_sound hxs
          refine ⟨.leftParen :: (us ++ [.rightParen]), by simp, ?_⟩
          exact .bare (Nat.le_refl _) (.call n hus)
      · rw [named?_of_ne ht] at h
        cases h
        exact ⟨[], rfl, .bare (Nat.le_refl _) (.column n)⟩
termination_by (ts.length, 0)
decreasing_by
  all_goals first
    | exact Prod.Lex.right _ (by decide)
    | exact Prod.Lex.right _ (by omega)
    | exact Prod.Lex.left _ _ (by simp only [List.length_cons] at *; omega)

theorem arguments?_sound {ts rest : List Token} {xs : List Expr}
    (h : arguments? ts = some (xs, rest)) : ∃ us, ts = us ++ rest ∧ xs ≠ [] ∧ Listed xs us := by
  rw [arguments?_eq, Option.bind_eq_some_iff] at h
  obtain ⟨⟨x, r⟩, hx, hfurther : further? x r = _⟩ := h
  have hshort := read?_shorter hx
  obtain ⟨us, hts, hus⟩ := read?_sound hx
  unfold further? at hfurther
  split at hfurther
  · rw [Option.map_eq_some_iff] at hfurther
    obtain ⟨⟨ys, r⟩, hys, he⟩ := hfurther
    cases he
    simp only [List.length_cons] at hshort
    obtain ⟨vs, rfl, hne, hvs⟩ := arguments?_sound hys
    obtain ⟨y, ys, rfl⟩ := List.exists_cons_of_ne_nil hne
    exact ⟨us ++ .comma :: vs, by rw [hts]; simp, by simp, .more hus hvs⟩
  · cases hfurther
    exact ⟨us, hts, by simp, .last hus⟩
termination_by (ts.length, 9)
decreasing_by
  all_goals first
    | exact Prod.Lex.right _ (by decide)
    | exact Prod.Lex.right _ (by omega)
    | exact Prod.Lex.left _ _ (by simp only [List.length_cons] at *; omega)

end

end TableVerbs.Parser
