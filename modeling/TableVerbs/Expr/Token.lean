import TableVerbs.Decimal.Layout
import TableVerbs.Text.Quoted

/-!
# Tokens

The words of the expression language. `and`, `or` and `not` have a symbol as
well, and both spellings are one token; a truth value is a token of its own. A
message shows a token by its class, with its content quoted.
-/

namespace TableVerbs

/-- A word of an expression. -/
inductive Token where
  | int (value : Int64)
  | float (value : Float)
  | str (value : String)
  | bool (value : Bool)
  | name (value : String)
  | plus | minus | star | slash | doubleSlash | percent | power
  | equal | notEqual | greater | less | greaterEqual | lessEqual
  | and | or | not
  | leftParen | rightParen | comma
deriving DecidableEq

/-- A token as a message shows it. -/
def Token.shown : Token → String
  | .int v => s!"Int({v.toInt})"
  | .float v => s!"Float({Decimal.Layout.quoted.write v})"
  | .str v => s!"Str({Text.quoted v})"
  | .bool true => "Bool(true)"
  | .bool false => "Bool(false)"
  | .name v => s!"Identifier({Text.quoted v})"
  | .plus => "Plus"
  | .minus => "Minus"
  | .star => "Star"
  | .slash => "Slash"
  | .doubleSlash => "DoubleSlash"
  | .percent => "Percent"
  | .power => "Power"
  | .equal => "Equal"
  | .notEqual => "NotEqual"
  | .greater => "Greater"
  | .less => "Less"
  | .greaterEqual => "GreaterEqual"
  | .lessEqual => "LessEqual"
  | .and => "And"
  | .or => "Or"
  | .not => "Not"
  | .leftParen => "LeftParen"
  | .rightParen => "RightParen"
  | .comma => "Comma"

end TableVerbs
