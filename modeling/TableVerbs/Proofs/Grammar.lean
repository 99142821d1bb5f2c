import TableVerbs.Expr.Parser

/-!
# Ways to write an expression

The grammar as a table. Every operator has a level, and it asks for a level on
each side: the chains ask for their own level on the left and for the next
tighter one on the right, which is what grouping to the left means; the power
asks for something without a sign on the left and takes a sign on the right,
which is what grouping to the right means here.

An operand is written bare where its own level is tight enough for its place.
It is written in parentheses where it is not, and it may be anywhere else. In
every place that a minus could stand in, pluses may stand as well; they leave
no trace in the tree.

Nothing here reads tokens. The table is one side of what `ReadingComplete.lean`
proves, and the reader is the other.
-/

namespace TableVerbs

/-! ## The table -/

/-- The level of a sign. -/
def UnaryOp.level : UnaryOp → Level
  | .neg => .sign
  | .not => .not

/-- The level of an operator between operands. -/
def BinaryOp.level : BinaryOp → Level
  | .connective .or => .or
  | .connective .and => .and
  | .comparison _ => .comparison
  | .arithmetic .add | .arithmetic .sub => .sum
  | .arithmetic .mul | .arithmetic .div | .arithmetic .floorDiv | .arithmetic .mod => .product
  | .arithmetic .pow => .power

/-- The level of the operands that a level of chains joins; the other levels
have no chains. -/
def Level.operands? : Level → Option Level
  | .or => some .and
  | .and => some .not
  | .comparison => some .sum
  | .sum => some .product
  | .product => some .sign
  | .not | .sign | .power | .primary => none

/-- What an operator asks for on its left. -/
def BinaryOp.leftLevel (op : BinaryOp) : Level :=
  if op.level = .power then .primary else op.level

/-- What an operator asks for on its right. -/
def BinaryOp.rightLevel (op : BinaryOp) : Level := op.level.operands?.getD .sign

/-- The level of an expression, that of the operator at its root. -/
def Expr.level : Expr → Level
  | .lit _ | .column _ | .call .. => .primary
  | .unary op _ => op.level
  | .binary op .. => op.level

/-! ## The words -/

/-- A constant as a word. -/
def Token.ofCell : Cell → Token
  | .int v => .int v
  | .float v => .float v
  | .bool v => .bool v
  | .str v => .str v

/-- A sign as a word. -/
def UnaryOp.token : UnaryOp → Token
  | .neg => .minus
  | .not => .not

/-- An operator as a word. -/
def BinaryOp.token : BinaryOp → Token
  | .arithmetic .add => .plus
  | .arithmetic .sub => .minus
  | .arithmetic .mul => .star
  | .arithmetic .div => .slash
  | .arithmetic .floorDiv => .doubleSlash
  | .arithmetic .mod => .percent
  | .arithmetic .pow => .power
  | .comparison .eq => .equal
  | .comparison .ne => .notEqual
  | .comparison .lt => .less
  | .comparison .le => .lessEqual
  | .comparison .gt => .greater
  | .comparison .ge => .greaterEqual
  | .connective .and => .and
  | .connective .or => .or

theorem BinaryOp.token_injective {op op' : BinaryOp} (h : op.token = op'.token) : op = op' := by
  rcases op with (_ | _) | (_ | _) | (_ | _) <;> rcases op' with (_ | _) | (_ | _) | (_ | _) <;>
    first
    | rfl
    | cases h

/-! ## The renderings -/

mutual

/-- Tokens of an expression whose root stands in no parentheses. -/
inductive Bare : Expr → List Token → Prop
  | lit (v : Cell) : Bare (.lit v) [.ofCell v]
  | column (n : String) : Bare (.column n) [.name n]
  | call (n : String) {xs : List Expr} {ts : List Token} :
      Listed xs ts → Bare (.call n xs) (.name n :: .leftParen :: (ts ++ [.rightParen]))
  | unary (op : UnaryOp) {x : Expr} {ts : List Token} :
      Operand op.level x ts → Bare (.unary op x) (op.token :: ts)
  | binary (op : BinaryOp) {x y : Expr} {ts us : List Token} :
      Operand op.leftLevel x ts → Operand op.rightLevel y us →
      Bare (.binary op x y) (ts ++ op.token :: us)

/-- Tokens of an expression in a place that asks for a level. -/
inductive Operand : Level → Expr → List Token → Prop
  | bare {l : Level} {x : Expr} {ts : List Token} :
      x.level.rank ≤ l.rank → Bare x ts → Operand l x ts
  | parens (l : Level) {x : Expr} {ts : List Token} :
      Operand .or x ts → Operand l x (.leftParen :: (ts ++ [.rightParen]))
  | plus {l : Level} {x : Expr} {ts : List Token} :
      Level.sign.rank ≤ l.rank → Operand .sign x ts → Operand l x (.plus :: ts)

/-- Tokens of arguments, with commas between them and nowhere else. -/
inductive Listed : List Expr → List Token → Prop
  | none : Listed [] []
  | last {x : Expr} {ts : List Token} : Operand .or x ts → Listed [x] ts
  | more {x y : Expr} {ys : List Expr} {ts us : List Token} :
      Operand .or x ts → Listed (y :: ys) us → Listed (x :: y :: ys) (ts ++ .comma :: us)

end

/-- The tokens are one way to write the expression. -/
def Expr.Rendering (x : Expr) (ts : List Token) : Prop := Operand .or x ts

/-- What fits a tighter place fits a looser one. -/
theorem Operand.loosen {l m : Level} {x : Expr} {ts : List Token} (h : Operand l x ts)
    (hle : l.rank ≤ m.rank) : Operand m x ts := by
  cases h with
  | bare hl hx => exact .bare (Nat.le_trans hl hle) hx
  | parens _ hx => exact .parens m hx
  | plus hl hx => exact .plus (Nat.le_trans hl hle) hx

/-! ## How the table fits the levels -/

theorem Level.rank_of_operands? {l m : Level} (h : l.operands? = some m) :
    l.rank = m.rank + 1 := by
  cases l <;> cases h <;> rfl

/-- A level of chains joins its operands by the operators of the table. -/
theorem Level.operator?_eq_some {l : Level} {t : Token} {op : BinaryOp}
    (h : l.operator? t = some op) :
    op.level = l ∧ t = op.token ∧ op.leftLevel = l ∧ l.operands? = some op.rightLevel := by
  unfold Level.operator? at h
  split at h <;> cases h <;> exact ⟨rfl, rfl, rfl, rfl⟩

theorem BinaryOp.eq_pow {op : BinaryOp} (h : op.level = .power) : op = .arithmetic .pow := by
  rcases op with (_ | _) | (_ | _) | (_ | _) <;> first | rfl | cases h

theorem Level.operator?_token {op : BinaryOp} (h : op.level ≠ .power) :
    op.level.operator? op.token = some op := by
  match op with
  | .arithmetic .pow => exact absurd rfl h
  | .arithmetic .add | .arithmetic .sub | .arithmetic .mul | .arithmetic .div
  | .arithmetic .floorDiv | .arithmetic .mod | .comparison .eq | .comparison .ne
  | .comparison .lt | .comparison .le | .comparison .gt | .comparison .ge
  | .connective .and | .connective .or => rfl

end TableVerbs
