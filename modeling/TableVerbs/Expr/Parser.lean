import TableVerbs.Expr.Lexer
import TableVerbs.Expr.Tree

/-!
# The grammar of expressions

Nine levels, from the loosest to the tightest:

* `or` and `and`, chains that group to the left;
* `not`, a sign in front of a comparison;
* comparisons, then sums, then products, again chains that group to the left;
* a minus or a plus in front of an operand;
* the power, which groups to the right and whose exponent may carry a sign of
  its own, while a sign in front of the whole power applies last;
* constants, names, calls and anything in parentheses.

So `x > 1 & y < 2` needs no parentheses, `-x ** 2` negates a square, and
`2 ** -1` is a power.

The reader of a level takes tokens from the front and returns the rest, which is
shorter; the rest carries its proof, and that is all that termination needs.
-/

namespace TableVerbs

/-- The levels of the grammar. -/
inductive Level where
  | or
  | and
  | not
  | comparison
  | sum
  | product
  | sign
  | power
  | primary
deriving DecidableEq

namespace Level

/-- How many tighter levels there are. -/
def rank : Level → Nat
  | .or => 8
  | .and => 7
  | .not => 6
  | .comparison => 5
  | .sum => 4
  | .product => 3
  | .sign => 2
  | .power => 1
  | .primary => 0

/-- The operator that a token joins operands with on a level of chains. -/
def operator? : Level → Token → Option BinaryOp
  | .or, .or => some (.connective .or)
  | .and, .and => some (.connective .and)
  | .comparison, .equal => some (.comparison .eq)
  | .comparison, .notEqual => some (.comparison .ne)
  | .comparison, .less => some (.comparison .lt)
  | .comparison, .lessEqual => some (.comparison .le)
  | .comparison, .greater => some (.comparison .gt)
  | .comparison, .greaterEqual => some (.comparison .ge)
  | .sum, .plus => some (.arithmetic .add)
  | .sum, .minus => some (.arithmetic .sub)
  | .product, .star => some (.arithmetic .mul)
  | .product, .slash => some (.arithmetic .div)
  | .product, .doubleSlash => some (.arithmetic .floorDiv)
  | .product, .percent => some (.arithmetic .mod)
  | _, _ => none

end Level

namespace Parser

/-- What is left of a list after something was taken from its front. -/
abbrev Shorter (ts : List Token) := { rest : List Token // rest.length < ts.length }

/-- What is left of a list after something may have been taken from its front. -/
abbrev NoLonger (ts : List Token) := { rest : List Token // rest.length ≤ ts.length }

/-- Takes the closing parenthesis. -/
def closing (ts : List Token) : Except Error (Shorter ts) :=
  match ts with
  | [] => .error (.expectedBeforeEnd .rightParen)
  | t :: rest =>
    if t = .rightParen then .ok ⟨rest, by simp⟩ else .error (.expectedToken .rightParen t)

mutual

/-- Reads an expression of a level. -/
def level (l : Level) (ts : List Token) : Except Error (Expr × Shorter ts) :=
  match l with
  | .or => chainOf .or .and ts
  | .and => chainOf .and .not ts
  | .not =>
    match ts with
    | [] => .error .unexpectedEnd
    | t :: rest =>
      if t = .not then
        match level .not rest with
        | .error e => .error e
        | .ok (x, ⟨r, h⟩) => .ok (.unary .not x, ⟨r, by simp only [List.length_cons]; omega⟩)
      else level .comparison (t :: rest)
  | .comparison => chainOf .comparison .sum ts
  | .sum => chainOf .sum .product ts
  | .product => chainOf .product .sign ts
  | .sign =>
    match ts with
    | [] => .error .unexpectedEnd
    | t :: rest =>
      if t = .minus then
        match level .sign rest with
        | .error e => .error e
        | .ok (x, ⟨r, h⟩) => .ok (.unary .neg x, ⟨r, by simp only [List.length_cons]; omega⟩)
      else if t = .plus then
        match level .sign rest with
        | .error e => .error e
        | .ok (x, ⟨r, h⟩) => .ok (x, ⟨r, by simp only [List.length_cons]; omega⟩)
      else level .power (t :: rest)
  | .power =>
    match level .primary ts with
    | .error e => .error e
    | .ok (base, ⟨[], h⟩) => .ok (base, ⟨[], h⟩)
    | .ok (base, ⟨t :: rest, h⟩) =>
      if t = .power then
        match level .sign rest with
        | .error e => .error e
        | .ok (exponent, ⟨r, h'⟩) =>
          .ok (.binary (.arithmetic .pow) base exponent,
            ⟨r, by simp only [List.length_cons] at h; omega⟩)
      else .ok (base, ⟨t :: rest, h⟩)
  | .primary =>
    match ts with
    | [] => .error .unexpectedEnd
    | .int v :: rest => .ok (.lit (.int v), ⟨rest, by simp⟩)
    | .float v :: rest => .ok (.lit (.float v), ⟨rest, by simp⟩)
    | .str v :: rest => .ok (.lit (.str v), ⟨rest, by simp⟩)
    | .bool v :: rest => .ok (.lit (.bool v), ⟨rest, by simp⟩)
    | .name n :: rest =>
      match named n rest with
      | .error e => .error e
      | .ok (x, ⟨r, h⟩) => .ok (x, ⟨r, by simp only [List.length_cons]; omega⟩)
    | t :: rest =>
      if t = .leftParen then
        match level .or rest with
        | .error e => .error e
        | .ok (x, ⟨r, h⟩) =>
          match closing r with
          | .error e => .error e
          | .ok ⟨r', h'⟩ => .ok (x, ⟨r', by simp only [List.length_cons]; omega⟩)
      else .error (.unexpectedToken t)
termination_by (ts.length, l.rank, 0)
decreasing_by
  all_goals first
  | exact Prod.Lex.right _ (Prod.Lex.left _ _ (by decide))
  | exact Prod.Lex.left _ _ (by simp only [List.length_cons] at *; omega)

/-- Reads a chain: operands of the tighter level, joined from the left. -/
def chainOf (l tighter : Level) (ts : List Token) :
    Except Error (Expr × Shorter ts) :=
  match level tighter ts with
  | .error e => .error e
  | .ok (left, ⟨r, h⟩) =>
    match links l tighter left r with
    | .error e => .error e
    | .ok (x, ⟨r', h'⟩) => .ok (x, ⟨r', by omega⟩)
termination_by (ts.length, tighter.rank, 1)

/-- Reads the remaining links of a chain that has begun with `left`. -/
def links (l tighter : Level) (left : Expr) (ts : List Token) :
    Except Error (Expr × NoLonger ts) :=
  match ts with
  | [] => .ok (left, ⟨[], by simp⟩)
  | t :: rest =>
    match l.operator? t with
    | none => .ok (left, ⟨t :: rest, by simp⟩)
    | some op =>
      match level tighter rest with
      | .error e => .error e
      | .ok (right, ⟨r, h⟩) =>
        match links l tighter (.binary op left right) r with
        | .error e => .error e
        | .ok (x, ⟨r', h'⟩) => .ok (x, ⟨r', by simp only [List.length_cons]; omega⟩)
termination_by (ts.length, 0, 0)

/-- Reads what follows a name: the arguments of a call, or nothing. -/
def named (n : String) (ts : List Token) : Except Error (Expr × NoLonger ts) :=
  match ts with
  | [] => .ok (.column n, ⟨[], by simp⟩)
  | t :: rest =>
    if t = .leftParen then
      if rest.head? = some .rightParen then .ok (.call n [], ⟨rest.tail, by simp; omega⟩)
      else
        match arguments rest with
        | .error e => .error e
        | .ok (args, ⟨r, h⟩) =>
          match closing r with
          | .error e => .error e
          | .ok ⟨r', h'⟩ => .ok (.call n args, ⟨r', by simp only [List.length_cons]; omega⟩)
    else .ok (.column n, ⟨t :: rest, by simp⟩)
termination_by (ts.length, 0, 0)

/-- Reads one or more arguments, with commas between them. -/
def arguments (ts : List Token) : Except Error (List Expr × Shorter ts) :=
  match level .or ts with
  | .error e => .error e
  | .ok (x, ⟨[], h⟩) => .ok ([x], ⟨[], h⟩)
  | .ok (x, ⟨t :: rest, h⟩) =>
    if t = .comma then
      match arguments rest with
      | .error e => .error e
      | .ok (xs, ⟨r, h'⟩) => .ok (x :: xs, ⟨r, by simp only [List.length_cons] at h; omega⟩)
    else .ok ([x], ⟨t :: rest, h⟩)
termination_by (ts.length, 9, 0)
decreasing_by
  · exact Prod.Lex.right _ (Prod.Lex.left _ _ (by decide))
  · exact Prod.Lex.left _ _ (by simp only [List.length_cons] at h; omega)

end

/-- Reads a whole list of tokens as one expression; `text` is what a message
about a token too many quotes. -/
def expression (ts : List Token) (text : String) : Except Error Expr :=
  if ts = [] then .error .emptyExpression
  else
    match level .or ts with
    | .error e => .error e
    | .ok (x, ⟨[], _⟩) => .ok x
    | .ok (_, ⟨t :: _, _⟩) => .error (.trailingToken t text)

end Parser

/-- Reads the text of an expression. -/
def Expr.parse (text : String) : Except Error Expr :=
  match tokenize text with
  | .error e => .error e
  | .ok ts => Parser.expression ts text

end TableVerbs
