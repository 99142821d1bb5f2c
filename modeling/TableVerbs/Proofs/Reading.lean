import TableVerbs.Proofs.Grammar

/-!
# The reader without its proofs

The reader of expressions returns what is left of the tokens together with the
reason why it is shorter, which is what makes it terminate. A statement about
what it reads has no use for the reason and is hard to write down around it.
So each of its functions gets a plain twin here, which forgets the reason and
the wording of failures, and the twins get the equations that the functions
would have had.

Only this file looks into the reader; `ReadingSound.lean` and
`ReadingComplete.lean` work from the equations.
-/

namespace TableVerbs.Parser

variable {α : Type} {l m : Level} {n : String} {t : Token} {ts us rest : List Token} {x y : Expr}

/-- What was read and what is left, if reading succeeded. -/
def plain {P : List Token → Prop} :
    Except Error (α × { rest : List Token // P rest }) → Option (α × List Token)
  | .ok (x, ⟨rest, _⟩) => some (x, rest)
  | .error _ => none

/-- Reads an expression of a level. -/
def read? (l : Level) (ts : List Token) : Option (Expr × List Token) := plain (level l ts)

/-- Reads the links of a chain that has begun. -/
def links? (l m : Level) (left : Expr) (ts : List Token) : Option (Expr × List Token) :=
  plain (links l m left ts)

/-- Reads what follows a name. -/
def named? (n : String) (ts : List Token) : Option (Expr × List Token) := plain (named n ts)

/-- Reads arguments. -/
def arguments? (ts : List Token) : Option (List Expr × List Token) := plain (arguments ts)

/-- Reads a closing parenthesis. -/
def closing? (ts : List Token) : Option (List Token) :=
  match closing ts with
  | .ok r => some r.1
  | .error _ => none

/-- Reads a closing parenthesis behind something that was read. -/
def closed? (r : Option (α × List Token)) : Option (α × List Token) :=
  r.bind fun (x, rest) => (closing? rest).map (x, ·)

/-- Reads the exponent of a power, if there is one. -/
def exponent? (base : Expr) : List Token → Option (Expr × List Token)
  | .power :: rest => (read? .sign rest).map fun (e, r) => (.binary (.arithmetic .pow) base e, r)
  | rest => some (base, rest)

/-- Reads the arguments behind the first one. -/
def further? (x : Expr) : List Token → Option (List Expr × List Token)
  | .comma :: rest => (arguments? rest).map fun (xs, r) => (x :: xs, r)
  | rest => some ([x], rest)

theorem read?_shorter (h : read? l ts = some (x, rest)) : rest.length < ts.length := by
  unfold read? plain at h
  split at h
  · cases h; assumption
  · cases h

theorem closing?_eq_some : closing? ts = some rest ↔ ts = .rightParen :: rest := by
  cases ts with
  | nil => simp [closing?, closing]
  | cons t us =>
      rw [closing?, closing]
      by_cases ht : t = .rightParen
      · simp [ht]
      · simp [ht]

theorem closed?_eq_some {r : Option (α × List Token)} {a : α} :
    closed? r = some (a, rest) ↔ r = some (a, .rightParen :: rest) := by
  cases r with
  | none => simp [closed?]
  | some p =>
      obtain ⟨b, us⟩ := p
      simp only [closed?, Option.bind_some, Option.map_eq_some_iff, closing?_eq_some,
        Option.some.injEq, Prod.mk.injEq]
      constructor
      · rintro ⟨_, rfl, rfl, rfl⟩
        exact ⟨rfl, rfl⟩
      · rintro ⟨rfl, rfl⟩
        exact ⟨rest, rfl, rfl, rfl⟩

/-! ## Chains -/

theorem read?_chain (h : l.operands? = some m) :
    read? l ts = (read? m ts).bind fun (left, r) => links? l m left r := by
  have hchain : level l ts = chainOf l m ts := by
    cases l <;> cases h <;> rw [level]
  rw [read?, hchain, chainOf]
  cases hm : level m ts with
  | error e => simp [read?, hm, plain]
  | ok r =>
      obtain ⟨left, us, hus⟩ := r
      simp only [read?, hm, plain, Option.bind_some, links?]
      cases links l m left us with
      | error e => rfl
      | ok r => rfl

theorem links?_nil : links? l m x [] = some (x, []) := by
  rw [links?, links]
  rfl

theorem links?_stop (h : l.operator? t = none) : links? l m x (t :: ts) = some (x, t :: ts) := by
  rw [links?, links]
  simp only [h]
  rfl

theorem links?_go {op : BinaryOp} (h : l.operator? t = some op) :
    links? l m x (t :: ts) =
      (read? m ts).bind fun (right, r) => links? l m (.binary op x right) r := by
  rw [links?, links]
  simp only [h]
  cases hm : level m ts with
  | error e => simp [read?, hm, plain]
  | ok r =>
      obtain ⟨right, us, hus⟩ := r
      simp only [read?, hm, plain, Option.bind_some, links?]
      cases links l m (.binary op x right) us with
      | error e => rfl
      | ok r => rfl

/-! ## Signs -/

theorem read?_not :
    read? .not (.not :: ts) = (read? .not ts).map fun (x, r) => (.unary .not x, r) := by
  rw [read?, level, if_pos rfl, read?]
  cases level .not ts with
  | error e => rfl
  | ok r => rfl

theorem read?_not_of_ne (h : t ≠ .not) : read? .not (t :: ts) = read? .comparison (t :: ts) := by
  rw [read?, level, if_neg h, read?]

theorem read?_minus :
    read? .sign (.minus :: ts) = (read? .sign ts).map fun (x, r) => (.unary .neg x, r) := by
  rw [read?, level, if_pos rfl, read?]
  cases level .sign ts with
  | error e => rfl
  | ok r => rfl

theorem read?_plus : read? .sign (.plus :: ts) = read? .sign ts := by
  rw [read?, level, if_neg (by decide), if_pos rfl, read?]
  cases level .sign ts with
  | error e => rfl
  | ok r => rfl

theorem read?_sign_of_ne (hm : t ≠ .minus) (hp : t ≠ .plus) :
    read? .sign (t :: ts) = read? .power (t :: ts) := by
  rw [read?, level, if_neg hm, if_neg hp, read?]

/-! ## Powers -/

theorem read?_power :
    read? .power ts = (read? .primary ts).bind fun (base, r) => exponent? base r := by
  rw [read?, level]
  cases hp : level .primary ts with
  | error e => simp [read?, hp, plain]
  | ok r =>
      obtain ⟨base, us, hus⟩ := r
      simp only [read?, hp, plain, Option.bind_some]
      cases us with
      | nil => rfl
      | cons t us =>
          by_cases ht : t = .power
          · subst ht
            simp only [if_pos, exponent?, read?]
            cases level .sign us with
            | error e => rfl
            | ok r => rfl
          · simp only [if_neg ht]
            rw [exponent?]
            intro us' h
            cases h
            exact ht rfl

/-! ## Primaries -/

theorem read?_literal (v : Cell) : read? .primary (.ofCell v :: ts) = some (.lit v, ts) := by
  cases v <;> rw [read?, Token.ofCell, level] <;> rfl

theorem read?_name : read? .primary (.name n :: ts) = named? n ts := by
  rw [read?, level, named?]
  cases named n ts with
  | error e => rfl
  | ok r => rfl

theorem read?_parens : read? .primary (.leftParen :: ts) = closed? (read? .or ts) := by
  rw [read?, level, if_pos rfl, read?]
  · cases level .or ts with
    | error e => rfl
    | ok r =>
        obtain ⟨x, us, hus⟩ := r
        simp only [plain, closed?, Option.bind_some, closing?]
        cases closing us with
        | error e => rfl
        | ok r => rfl
  all_goals
    intro v h
    cases h

/-- Nothing else begins an operand. -/
theorem read?_primary_none (hl : ∀ v, t ≠ .ofCell v) (hn : ∀ n, t ≠ .name n)
    (hp : t ≠ .leftParen) : read? .primary (t :: ts) = none := by
  rw [read?, level, if_neg hp]
  · rfl
  · exact fun v h => hl (.int v) h
  · exact fun v h => hl (.float v) h
  · exact fun v h => hl (.str v) h
  · exact fun v h => hl (.bool v) h
  · exact hn

/-! ## Names and calls -/

theorem named?_nil : named? n [] = some (.column n, []) := by
  rw [named?, named]
  rfl

theorem named?_of_ne (h : t ≠ .leftParen) : named? n (t :: ts) = some (.column n, t :: ts) := by
  rw [named?, named, if_neg h]
  rfl

theorem named?_empty : named? n (.leftParen :: .rightParen :: ts) = some (.call n [], ts) := by
  rw [named?, named, if_pos rfl, if_pos List.head?_cons]
  rfl

theorem named?_arguments (h : ts.head? ≠ some .rightParen) :
    named? n (.leftParen :: ts) =
      (closed? (arguments? ts)).map fun (xs, r) => (.call n xs, r) := by
  rw [named?, named, if_pos rfl, if_neg h, arguments?]
  cases arguments ts with
  | error e => rfl
  | ok r =>
      obtain ⟨xs, us, hus⟩ := r
      simp only [plain, closed?, Option.bind_some, closing?]
      cases closing us with
      | error e => rfl
      | ok r => rfl

theorem arguments?_eq :
    arguments? ts = (read? .or ts).bind fun (x, r) => further? x r := by
  rw [arguments?, arguments]
  cases hx : level .or ts with
  | error e => simp [read?, hx, plain]
  | ok r =>
      obtain ⟨x, us, hus⟩ := r
      simp only [read?, hx, plain, Option.bind_some]
      cases us with
      | nil => rfl
      | cons t us =>
          by_cases ht : t = .comma
          · subst ht
            simp only [if_pos, further?, arguments?]
            cases arguments us with
            | error e => rfl
            | ok r => rfl
          · simp only [if_neg ht]
            rw [further?]
            intro us' h
            cases h
            exact ht rfl

end TableVerbs.Parser
