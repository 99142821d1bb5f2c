/-!
# Operators

The operators of the expression language and their spelling in messages. There
are three families, told apart by what they do with their operands: arithmetic
gives a value of the operands' kind, a comparison and a connective give a truth
value whatever they are applied to.
-/

namespace TableVerbs

/-- Operators with one operand. -/
inductive UnaryOp where
  | neg
  | not
deriving DecidableEq

/-- The arithmetic operators. -/
inductive Arithmetic where
  | add
  | sub
  | mul
  | div
  | floorDiv
  | mod
  | pow
deriving DecidableEq

/-- The comparisons. -/
inductive Comparison where
  | eq
  | ne
  | lt
  | le
  | gt
  | ge
deriving DecidableEq

/-- The connectives. -/
inductive Connective where
  | and
  | or
deriving DecidableEq

/-- Operators with two operands. -/
inductive BinaryOp where
  | arithmetic (op : Arithmetic)
  | comparison (op : Comparison)
  | connective (op : Connective)
deriving DecidableEq

/-- The operators whose results are truth values. -/
def BinaryOp.isPredicate : BinaryOp → Bool
  | .arithmetic _ => false
  | .comparison _ | .connective _ => true

/-- How an operator is written. -/
def BinaryOp.symbol : BinaryOp → String
  | .arithmetic .add => "+"
  | .arithmetic .sub => "-"
  | .arithmetic .mul => "*"
  | .arithmetic .div => "/"
  | .arithmetic .floorDiv => "//"
  | .arithmetic .mod => "%"
  | .arithmetic .pow => "**"
  | .comparison .eq => "=="
  | .comparison .ne => "!="
  | .comparison .lt => "<"
  | .comparison .le => "<="
  | .comparison .gt => ">"
  | .comparison .ge => ">="
  | .connective .and => "&"
  | .connective .or => "|"

end TableVerbs
