import TableVerbs.Expr.Function

/-!
# Scopes

The functions that an expression can call by name beside the built-in ones. A
scope has functions of its own and, layered outside of it, further name spaces,
searched in the order in which they were added. So a layer can add names and
never takes one away.
-/

namespace TableVerbs

/-- Functions by name; the first entry of a name counts. -/
abbrev Names := List (String × Function)

/-- The functions in sight of an expression. -/
structure Scope where
  /-- The scope's own functions, the latest first. -/
  own : Names
  /-- The layers outside, nearest first. -/
  outer : List Names

namespace Scope

/-- No functions. -/
def empty : Scope := ⟨[], []⟩

/-- The scope with one more function of its own, which replaces any other of
that name. -/
def define (scope : Scope) (name : String) (f : Function) : Scope :=
  { scope with own := (name, f) :: scope.own }

/-- The scope with one more layer, outside of all others. -/
def layer (scope : Scope) (names : Names) : Scope :=
  { scope with outer := scope.outer ++ [names] }

/-- The function of a name: the scope's own, or that of the nearest layer. -/
def find? (scope : Scope) (name : String) : Option Function :=
  (scope.own :: scope.outer).findSome? fun names => names.lookup name

end Scope

end TableVerbs
