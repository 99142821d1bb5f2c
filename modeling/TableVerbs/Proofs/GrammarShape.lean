import Mathlib.Data.List.Chain
import TableVerbs.Proofs.Grammar

/-!
# The shape of renderings

What can be told of a rendering without a tree. Its parentheses match, and its
tokens alternate: after a token that ends an operand comes something that can
stand behind an operand, and after any other token comes something that an
operand can begin with. So two operands never touch, no operator lacks its
right side, and no comma stands before a closing parenthesis. Every tree has a
rendering, so these are conditions on spellings and none on trees.
-/

namespace TableVerbs

/-! ## Matching parentheses -/

/-- The number of parentheses left open behind some tokens, `k` being open in
front of them; `none` if one is closed that was not open. -/
def openParens (k : Nat) : List Token → Option Nat
  | [] => some k
  | t :: ts =>
    if t = .leftParen then openParens (k + 1) ts
    else if t = .rightParen then if k = 0 then none else openParens (k - 1) ts
    else openParens k ts

theorem openParens_parens (k : Nat) {ts : List Token}
    (h : ∀ k rest, openParens k (ts ++ rest) = openParens k rest) (rest : List Token) :
    openParens k (.leftParen :: (ts ++ [.rightParen]) ++ rest) = openParens k rest := by
  rw [List.cons_append, List.append_assoc, openParens, if_pos rfl, h]
  rfl

theorem openParens_skip (k : Nat) {t : Token} (hl : t ≠ .leftParen) (hr : t ≠ .rightParen)
    (ts : List Token) : openParens k (t :: ts) = openParens k ts := by
  rw [openParens, if_neg hl, if_neg hr]

theorem BinaryOp.token_ne_paren (op : BinaryOp) :
    op.token ≠ .leftParen ∧ op.token ≠ .rightParen := by
  rcases op with (_ | _) | (_ | _) | (_ | _) <;> decide

mutual

theorem openParens_bare {x : Expr} {ts : List Token} (h : Bare x ts) (k : Nat)
    (rest : List Token) : openParens k (ts ++ rest) = openParens k rest := by
  match h with
  | .lit v => cases v <;> rfl
  | .column n => rfl
  | .call n hxs => exact openParens_parens k (openParens_listed hxs) rest
  | .unary .neg hx => exact openParens_operand hx k rest
  | .unary .not hx => exact openParens_operand hx k rest
  | @Bare.binary op x y ts us hx hy =>
      obtain ⟨hl, hr⟩ := op.token_ne_paren
      rw [List.append_assoc, openParens_operand hx, List.cons_append, openParens_skip k hl hr,
        openParens_operand hy]

theorem openParens_operand {l : Level} {x : Expr} {ts : List Token} (h : Operand l x ts) (k : Nat)
    (rest : List Token) : openParens k (ts ++ rest) = openParens k rest := by
  match h with
  | .bare _ hx => exact openParens_bare hx k rest
  | .parens _ hx => exact openParens_parens k (openParens_operand hx) rest
  | .plus _ hx => exact openParens_operand hx k rest

theorem openParens_listed {xs : List Expr} {ts : List Token} (h : Listed xs ts) (k : Nat)
    (rest : List Token) : openParens k (ts ++ rest) = openParens k rest := by
  match h with
  | .none => rfl
  | .last hx => exact openParens_operand hx k rest
  | .more hx hxs =>
      rw [List.append_assoc, openParens_operand hx]
      exact openParens_listed hxs k rest

end

/-! ## Alternation -/

namespace Token

/-- An operand can begin with the token. -/
def begins : Token → Bool
  | .int _ | .float _ | .str _ | .bool _ | .name _ | .leftParen | .minus | .plus | .not => true
  | _ => false

/-- An operand can end with the token. -/
def ends : Token → Bool
  | .int _ | .float _ | .str _ | .bool _ | .name _ | .rightParen => true
  | _ => false

/-- The token can stand behind an operand. -/
def follows : Token → Bool
  | .plus | .minus | .star | .slash | .doubleSlash | .percent | .power
  | .equal | .notEqual | .greater | .less | .greaterEqual | .lessEqual
  | .and | .or | .rightParen | .comma => true
  | _ => false

/-- The token is a name. -/
def isName : Token → Bool
  | .name _ => true
  | _ => false

/-- One token can stand before another. Only the parentheses of a call break the
alternation: they stand behind a name, and there may be nothing in them. -/
def mayPrecede (t u : Token) : Bool :=
  if t.ends then u.follows || (t.isName && u == .leftParen)
  else u.begins || (t == .leftParen && u == .rightParen)

end Token

/-- Tokens that begin and end as an operand does, and alternate in between. -/
structure Alternating (ts : List Token) : Prop where
  head : ∃ t ∈ ts.head?, t.begins = true
  last : ∃ t ∈ ts.getLast?, t.ends = true
  chain : ts.IsChain fun t u => Token.mayPrecede t u = true

theorem Alternating.single {t : Token} (hb : t.begins = true) (he : t.ends = true) :
    Alternating [t] :=
  ⟨⟨t, rfl, hb⟩, ⟨t, rfl, he⟩, .singleton t⟩

theorem Alternating.cons {t : Token} {ts : List Token} (h : Alternating ts)
    (hb : t.begins = true) (ht : ∀ u ∈ ts.head?, u.begins = true → t.mayPrecede u = true) :
    Alternating (t :: ts) := by
  obtain ⟨⟨u, hu, hub⟩, ⟨v, hv, hve⟩, hchain⟩ := h
  refine ⟨⟨t, rfl, hb⟩, ⟨v, ?_, hve⟩, List.isChain_cons.mpr ⟨fun w hw => ?_, hchain⟩⟩
  · rw [Option.mem_def] at hv ⊢
    rw [List.getLast?_cons, hv]
    rfl
  · obtain rfl : w = u := Option.mem_unique hw hu
    exact ht w hw hub

theorem Alternating.snoc {t : Token} {ts : List Token} (h : Alternating ts)
    (he : t.ends = true) (ht : ∀ u : Token, u.ends = true → u.mayPrecede t = true) :
    Alternating (ts ++ [t]) := by
  obtain ⟨⟨u, hu, hub⟩, ⟨v, hv, hve⟩, hchain⟩ := h
  refine ⟨⟨u, ?_, hub⟩, ⟨t, by simp, he⟩, List.isChain_append.mpr ⟨hchain, .singleton t, ?_⟩⟩
  · rw [Option.mem_def] at hu ⊢
    rw [List.head?_append, hu]
    rfl
  · intro w hw t' ht'
    obtain rfl : w = v := Option.mem_unique hw hv
    cases ht'
    exact ht w hve

/-- Two operands with something between them that may stand there. -/
theorem Alternating.join {t : Token} {ts us : List Token} (hts : Alternating ts)
    (hus : Alternating us) (hl : ∀ u : Token, u.ends = true → u.mayPrecede t = true)
    (hr : ∀ u : Token, u.begins = true → t.mayPrecede u = true) : Alternating (ts ++ t :: us) := by
  obtain ⟨⟨u, hu, hub⟩, ⟨v, hv, hve⟩, hchain⟩ := hts
  obtain ⟨⟨u', hu', hub'⟩, ⟨v', hv', hve'⟩, hchain'⟩ := hus
  refine ⟨⟨u, ?_, hub⟩, ⟨v', ?_, hve'⟩, List.isChain_append.mpr ⟨hchain, ?_, ?_⟩⟩
  · rw [Option.mem_def] at hu ⊢
    rw [List.head?_append, hu]
    rfl
  · rw [Option.mem_def] at hv' ⊢
    rw [List.getLast?_append, List.getLast?_cons, hv']
    rfl
  · refine List.isChain_cons.mpr ⟨fun w hw => ?_, hchain'⟩
    obtain rfl : w = u' := Option.mem_unique hw hu'
    exact hr w hub'
  · intro w hw t' ht'
    obtain rfl : w = v := Option.mem_unique hw hv
    cases ht'
    exact hl w hve

theorem mayPrecede_of_follows {t u : Token} (hu : u.follows = true) (ht : t.ends = true) :
    t.mayPrecede u = true := by
  rw [Token.mayPrecede, if_pos ht, hu, Bool.true_or]

theorem mayPrecede_of_begins {t u : Token} (ht : t.ends = false) (hu : u.begins = true) :
    t.mayPrecede u = true := by
  rw [Token.mayPrecede, if_neg (by rw [ht]; exact Bool.false_ne_true), hu, Bool.true_or]

theorem BinaryOp.token_follows (op : BinaryOp) :
    op.token.follows = true ∧ op.token.ends = false := by
  rcases op with (_ | _) | (_ | _) | (_ | _) <;> exact ⟨rfl, rfl⟩

theorem Alternating.empty : Alternating [.leftParen, .rightParen] :=
  ⟨⟨_, rfl, rfl⟩, ⟨_, rfl, rfl⟩, .cons_cons rfl (.singleton _)⟩

theorem Alternating.parens {ts : List Token} (h : Alternating ts) :
    Alternating (.leftParen :: (ts ++ [.rightParen])) := by
  have hsnoc := h.snoc (t := .rightParen) rfl fun _ => mayPrecede_of_follows rfl
  exact hsnoc.cons rfl fun _ _ => mayPrecede_of_begins rfl

mutual

theorem alternating_bare {x : Expr} {ts : List Token} (h : Bare x ts) : Alternating ts := by
  match h with
  | .lit v => cases v <;> exact .single rfl rfl
  | .column n => exact .single rfl rfl
  | @Bare.call n xs us hxs =>
      have hparens : Alternating (.leftParen :: (us ++ [.rightParen])) := by
        by_cases hne : xs = []
        · subst hne
          cases hxs
          exact .empty
        · exact (alternating_listed hxs hne).parens
      refine hparens.cons rfl fun u hu _ => ?_
      cases hu
      rfl
  | .unary .neg hx => exact (alternating_operand hx).cons rfl fun _ _ => mayPrecede_of_begins rfl
  | .unary .not hx => exact (alternating_operand hx).cons rfl fun _ _ => mayPrecede_of_begins rfl
  | .binary op hx hy =>
      obtain ⟨hf, he⟩ := op.token_follows
      exact (alternating_operand hx).join (alternating_operand hy)
        (fun _ => mayPrecede_of_follows hf) (fun _ => mayPrecede_of_begins he)

theorem alternating_operand {l : Level} {x : Expr} {ts : List Token} (h : Operand l x ts) :
    Alternating ts := by
  match h with
  | .bare _ hx => exact alternating_bare hx
  | .parens _ hx => exact (alternating_operand hx).parens
  | .plus _ hx => exact (alternating_operand hx).cons rfl fun _ _ => mayPrecede_of_begins rfl

theorem alternating_listed {xs : List Expr} {ts : List Token} (h : Listed xs ts) (hne : xs ≠ []) :
    Alternating ts := by
  match h with
  | .none => exact absurd rfl hne
  | .last hx => exact alternating_operand hx
  | .more hx hxs =>
      exact (alternating_operand hx).join (alternating_listed hxs (List.cons_ne_nil _ _))
        (fun _ => mayPrecede_of_follows rfl) (fun _ => mayPrecede_of_begins rfl)

end

/-! ## Every tree can be written -/

mutual

theorem exists_bare (x : Expr) : ∃ ts, Bare x ts := by
  match x with
  | .lit v => exact ⟨_, .lit v⟩
  | .column n => exact ⟨_, .column n⟩
  | .call n xs =>
      obtain ⟨ts, hts⟩ := exists_listed xs
      exact ⟨_, .call n hts⟩
  | .unary op x =>
      obtain ⟨ts, hts⟩ := exists_operand op.level x
      exact ⟨_, .unary op hts⟩
  | .binary op x y =>
      obtain ⟨ts, hts⟩ := exists_operand op.leftLevel x
      obtain ⟨us, hus⟩ := exists_operand op.rightLevel y
      exact ⟨_, .binary op hts hus⟩

theorem exists_operand (l : Level) (x : Expr) : ∃ ts, Operand l x ts := by
  obtain ⟨ts, hts⟩ := exists_bare x
  exact ⟨_, .parens l (.bare (by cases x.level <;> decide) hts)⟩

theorem exists_listed (xs : List Expr) : ∃ ts, Listed xs ts := by
  match xs with
  | [] => exact ⟨_, .none⟩
  | [x] =>
      obtain ⟨ts, hts⟩ := exists_operand .or x
      exact ⟨_, .last hts⟩
  | x :: y :: ys =>
      obtain ⟨ts, hts⟩ := exists_operand .or x
      obtain ⟨us, hus⟩ := exists_listed (y :: ys)
      exact ⟨_, .more hts hus⟩

end

end TableVerbs
