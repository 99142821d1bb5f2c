import TableVerbs.Cell
import TableVerbs.Expr.Operator
import TableVerbs.Expr.Token

/-!
# Errors

An error is its cause, with the names and numbers that a reader of the message
needs. Every cause belongs to one kind, and the kind is what callers tell errors
apart by; the wording is fixed here, once, for the whole library.
-/

namespace TableVerbs

/-- The kinds of errors. -/
inductive ErrorKind where
  /-- An unknown verb or an impossible option. -/
  | config
  /-- A column or name that does not exist. -/
  | key
  /-- A value of the wrong type. -/
  | type
  /-- A value of the right type that cannot be used. -/
  | value
  /-- An expression that cannot be read. -/
  | expression
  /-- A text that is no table of records. -/
  | records
deriving DecidableEq

/-- The word that begins the message. -/
def ErrorKind.label : ErrorKind → String
  | .config => "ConfigError"
  | .key => "KeyError"
  | .type => "TypeError"
  | .value => "ValueError"
  | .expression => "ExpressionError"
  | .records => "CsvError"

/-- Everything that can go wrong. -/
inductive Error where
  /-- Raised by a function that the caller supplied. -/
  | raised (kind : ErrorKind) (text : String)
  -- reading an expression
  | assignment
  | loneBang
  | openString
  | badFloat (text : String)
  | badInt (text : String)
  | badCharacter (c : Char)
  | emptyExpression
  | trailingToken (token : Token) (text : String)
  | unexpectedToken (token : Token)
  | unexpectedEnd
  | expectedToken (expected found : Token)
  | expectedBeforeEnd (expected : Token)
  -- evaluating an expression
  | undefinedName (name : String)
  | notCallable (name : String)
  | rowCountArguments
  | badNegation (type : CellType)
  | badNot (type : CellType)
  | badOperands (op : BinaryOp) (left right : CellType)
  | lengthsDiffer (left right : Nat)
  | overflow
  | divisionByZero
  | moduloByZero
  | oneArgument (function : String) (given : Nat)
  | notNumber (function : String) (type : CellType)
  | roundArguments
  | reducerArguments (function : String) (expected given : Nat)
  | emptyReduction (function : String)
  | sumOverflow
  | cumsumOverflow
  | sumOfText
  | cumsumOfText
  | nthPosition
  | tableAsExpression
  | valueLength (length rows : Nat)
  -- columns
  | mixedCells
  | notNumeric
  | unlikeColumns (left right : CellType)
  -- tables
  | columnLength (name : String) (length expected : Nat)
  | duplicateColumn (name : String)
  | missingColumn (name : String)
  | rowOutOfBounds (position rows : Nat)
  | maskLength (length rows : Nat)
  | columnMaskLength (length columns : Nat)
  | newColumnLength (name : String) (length rows : Nat)
  | columnExists (name : String)
  | insertedLength (name : String) (length rows : Nat)
  | renameMissing (name : String)
  | renameCollision (name : String)
  | sortKeyLength (length rows : Nat)
  | unlikeTables (left right : List String)
  -- groups
  | groupKeyMissing (name : String)
  | noGroupKey
  | noLabelKey
  -- samples
  | badFraction (fraction : Float)
  | tooFewRows (amount rows : Nat)
  | weightsLength (length rows : Nat)
  | badWeights
  | noWeights
  | zeroWeights
  | tooFewWeights (nonZero amount : Nat)
  -- verbs
  | unknownVerb (name : String)
  | badPattern
  | conditionColumn (type : CellType)
  | conditionCell (type : CellType)
  | labelsNotTable
  | tableNotLabels
  -- records
  | recordLength (expected length : Nat)
  | notUnicode
  | notOpened
deriving DecidableEq

/-- The kind of an error. -/
def Error.kind : Error → ErrorKind
  | .raised kind _ => kind
  | .assignment | .loneBang | .openString | .badFloat _ | .badInt _ | .badCharacter _
  | .emptyExpression | .trailingToken .. | .unexpectedToken _ | .unexpectedEnd
  | .expectedToken .. | .expectedBeforeEnd _ => .expression
  | .undefinedName _ | .missingColumn _ | .renameMissing _ | .groupKeyMissing _ => .key
  | .notCallable _ | .rowCountArguments | .badNegation _ | .badNot _ | .badOperands ..
  | .oneArgument .. | .notNumber .. | .roundArguments | .reducerArguments .. | .sumOfText
  | .cumsumOfText | .nthPosition | .tableAsExpression | .mixedCells | .notNumeric
  | .unlikeColumns .. | .conditionColumn _ | .conditionCell _ | .labelsNotTable
  | .tableNotLabels => .type
  | .lengthsDiffer .. | .overflow | .divisionByZero | .moduloByZero | .emptyReduction _
  | .sumOverflow | .cumsumOverflow | .valueLength .. | .columnLength .. | .duplicateColumn _
  | .rowOutOfBounds .. | .maskLength .. | .columnMaskLength .. | .newColumnLength ..
  | .columnExists _ | .insertedLength .. | .renameCollision _ | .sortKeyLength ..
  | .unlikeTables .. | .tooFewRows .. | .weightsLength .. | .badWeights | .noWeights
  | .zeroWeights | .tooFewWeights .. | .badPattern => .value
  | .noGroupKey | .noLabelKey | .badFraction _ | .unknownVerb _ => .config
  | .recordLength .. | .notUnicode | .notOpened => .records

/-- What went wrong, in words. -/
def Error.text : Error → String
  | .raised _ text => text
  | .assignment => "assignment is not supported, use == to compare"
  | .loneBang => "expected != but got single !"
  | .openString => "unterminated string literal"
  | .badFloat text => s!"invalid number: {text}"
  | .badInt text => s!"invalid integer: {text}"
  | .badCharacter c => s!"unexpected character '{c}'"
  | .emptyExpression => "empty expression"
  | .trailingToken token text => s!"unexpected token {token.shown} in '{text}'"
  | .unexpectedToken token => s!"unexpected token {token.shown}"
  | .unexpectedEnd => "unexpected end of expression"
  | .expectedToken expected found => s!"expected {expected.shown}, found {found.shown}"
  | .expectedBeforeEnd expected => s!"expected {expected.shown}, found end of expression"
  | .undefinedName name => s!"name '{name}' is not defined"
  | .notCallable name => s!"column '{name}' is not callable"
  | .rowCountArguments => "\x7bn\x7d takes no arguments"
  | .badNegation type => s!"bad operand type for unary -: '{type.name}'"
  | .badNot type => s!"bad operand type for ~: '{type.name}'"
  | .badOperands op left right =>
    s!"unsupported operand types for {op.symbol}: '{left.name}' and '{right.name}'"
  | .lengthsDiffer left right =>
    s!"operands could not be broadcast together with lengths {left} and {right}"
  | .overflow => "integer overflow"
  | .divisionByZero => "integer division by zero"
  | .moduloByZero => "integer modulo by zero"
  | .oneArgument function given =>
    s!"{function}() takes exactly one argument ({given} given)"
  | .notNumber function type => s!"{function}() expects numbers, got '{type.name}'"
  | .roundArguments => "round() takes a value and an optional integer number of digits"
  | .reducerArguments function expected given =>
    s!"{function}() takes {expected} argument(s) ({given} given)"
  | .emptyReduction function => s!"zero-size array to reduction operation {function}"
  | .sumOverflow => "integer overflow in sum"
  | .cumsumOverflow => "integer overflow in cumsum"
  | .sumOfText => "cannot sum a string column"
  | .cumsumOfText => "cannot cumsum a string column"
  | .nthPosition => "nth() index must be an integer"
  | .tableAsExpression => "cannot handle expression of type DataFrame"
  | .valueLength length rows =>
    s!"value of length {length} not equal to length of dataframe {rows}"
  | .mixedCells => "cannot build a column from values of mixed types"
  | .notNumeric => "expected a numeric column, found strings"
  | .unlikeColumns left right =>
    s!"cannot concatenate {left.columnName} and {right.columnName} columns"
  | .columnLength name length expected =>
    "all columns must have the same length: " ++
      s!"column '{name}' has length {length}, expected {expected}"
  | .duplicateColumn name => s!"duplicate column name '{name}'"
  | .missingColumn name => s!"column '{name}' not found"
  | .rowOutOfBounds position rows =>
    s!"row position {position} out of bounds for DataFrame of length {rows}"
  | .maskLength length rows => s!"mask length {length} does not match DataFrame length {rows}"
  | .columnMaskLength length columns =>
    s!"column mask length {length} does not match {columns} columns"
  | .newColumnLength name length rows =>
    s!"new column '{name}' has length {length}, DataFrame has {rows}"
  | .columnExists name => s!"cannot insert '{name}', already exists"
  | .insertedLength name length rows =>
    s!"inserted column '{name}' has length {length}, DataFrame has {rows}"
  | .renameMissing name => s!"cannot rename missing column '{name}'"
  | .renameCollision name => s!"rename produces duplicate column '{name}'"
  | .sortKeyLength length rows => s!"sort key has length {length}, DataFrame has {rows}"
  | .unlikeTables left right =>
    "cannot concatenate frames with columns " ++
      s!"{Text.quotedList left} and {Text.quotedList right}"
  | .groupKeyMissing name => s!"group key '{name}' is not a column"
  | .noGroupKey => "at least one group key is required"
  | .noLabelKey => "group_indices on an ungrouped dataset needs at least one key"
  | .badFraction fraction =>
    "sample fraction must be a non-negative number, got " ++ Decimal.Layout.cell.write fraction
  | .tooFewRows amount rows =>
    s!"cannot take a sample of {amount} from {rows} rows without replacement"
  | .weightsLength length rows => s!"weights have length {length}, DataFrame has {rows} rows"
  | .badWeights => "weights must be finite and non-negative"
  | .noWeights => "invalid weights: Weights sequence is empty/too long/unordered"
  | .zeroWeights => "invalid weights: Not enough weights > zero"
  | .tooFewWeights nonZero amount =>
    s!"fewer non-zero weights ({nonZero}) than rows requested ({amount})"
  | .unknownVerb name => s!"unknown verb '{name}'"
  | .badPattern => "invalid pattern"
  | .conditionColumn type =>
    s!"query expression must be boolean, got {type.columnName} column"
  | .conditionCell type => s!"query expression must be boolean, got {type.name}"
  | .labelsNotTable => "verb produced group indices, not a dataset"
  | .tableNotLabels => "verb produced a dataset, not group indices"
  | .recordLength expected length =>
    s!"record of {length} fields where {expected} were expected"
  | .notUnicode => "text that is not UTF-8"
  | .notOpened => "no such file"

/-- The whole message: the kind, then the words. -/
def Error.message (e : Error) : String := s!"{e.kind.label}: {e.text}"

end TableVerbs
