import TableVerbs.Expr.Parser
import TableVerbs.Expr.Scope
import TableVerbs.Table.Basic

/-!
# Evaluating expressions

A bare name is a column of the table; a called name is a function of the scope,
or a built-in one if the scope has none. Columns cannot be called, even where a
function of that name is in scope.

The number of rows has a place-holder of its own, `{n}`. It is rewritten in the
text to the call of a name that is set aside for it, so it goes through the
grammar as any other call.
-/

namespace TableVerbs

/-- The name that is set aside for the number of rows. -/
def rowCountName : String := "__n__"

/-- Calls the function of a name with arguments already evaluated. -/
def Scope.call (scope : Scope) (rows : Nat) (name : String) (args : List Datum) :
    Except Error Datum :=
  if name = rowCountName then
    if args.isEmpty then .ok (.cell (.int (Int64.ofNat rows))) else .error .rowCountArguments
  else
    match (scope.find? name).or (Function.builtin? name) with
    | some f => f args
    | none => .error (.undefinedName name)

mutual

/-- The value of an expression on a table. -/
def Expr.eval (table : Table) (scope : Scope) : Expr → Except Error Datum
  | .lit v => .ok (.cell v)
  | .column name =>
    match table.find? name with
    | some c => .ok (.column c)
    | none => .error (.undefinedName name)
  | .call name args =>
    if table.has name then .error (.notCallable name)
    else
      match Expr.evalAll table scope args with
      | .error e => .error e
      | .ok data => scope.call table.rows name data
  | .unary op x =>
    match Expr.eval table scope x with
    | .error e => .error e
    | .ok a => op.onDatum a
  | .binary op x y =>
    match Expr.eval table scope x with
    | .error e => .error e
    | .ok a =>
      match Expr.eval table scope y with
      | .error e => .error e
      | .ok b => op.onDatum a b

/-- The values of expressions, from left to right. -/
def Expr.evalAll (table : Table) (scope : Scope) : List Expr → Except Error (List Datum)
  | [] => .ok []
  | x :: xs =>
    match Expr.eval table scope x with
    | .error e => .error e
    | .ok a =>
      match Expr.evalAll table scope xs with
      | .error e => .error e
      | .ok as => .ok (a :: as)

end

/-- A text with every `{n}` rewritten to the call that stands for it. -/
def fillRowCount : List Char → List Char
  | '\x7b' :: 'n' :: '\x7d' :: rest => rowCountName.toList ++ '(' :: ')' :: fillRowCount rest
  | c :: rest => c :: fillRowCount rest
  | [] => []

/-- The value of an expression text on a table. -/
def Scope.eval (scope : Scope) (text : String) (table : Table) : Except Error Datum :=
  match Expr.parse (String.ofList (fillRowCount text.toList)) with
  | .error e => .error e
  | .ok x => x.eval table scope

end TableVerbs
