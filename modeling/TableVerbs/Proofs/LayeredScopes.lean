import Mathlib
import TableVerbs.Proofs.RowLocalExpr
import TableVerbs.Session

/-!
# Layers add names and take none away

What an expression sees of a scope is the function that each name stands for,
and a layer is asked last among the scope's own functions and its layers. So
nothing changes for a name that the scope has. A name that the scope does not
have may be that of a built-in function, though, which is asked after all
layers: a layer that has one of these names would override it, and a layer that
has none of them only gives a meaning to names that had none. That is an order
on scopes, and evaluating is monotone in it.

The reducers are such a layer. They are in scope inside a summary and nowhere
else, and so a summary that does without them can be read as one in the
caller's scope alone.
-/

namespace TableVerbs

/-! ## More names in scope -/

namespace Scope

/-- The function that a name stands for, a built-in one if the scope has none. -/
def resolve (scope : Scope) (name : String) : Option Function :=
  (scope.find? name).or (Function.builtin? name)

/-- Whatever a name stands for in `scope`, it stands for in `wide`. -/
def Extends (wide scope : Scope) : Prop :=
  ∀ name f, scope.resolve name = some f → wide.resolve name = some f

variable {scope wide : Scope}

theorem call_eq (scope : Scope) (rows : Nat) {name : String} (hname : name ≠ rowCountName)
    (args : List Datum) :
    scope.call rows name args =
      match scope.resolve name with
      | some f => f args
      | none => .error (.undefinedName name) := by
  rw [call, if_neg hname]
  rfl

theorem Extends.call (h : wide.Extends scope) {rows : Nat} {name : String} {args : List Datum}
    {v : Datum} (hv : scope.call rows name args = .ok v) : wide.call rows name args = .ok v := by
  by_cases hname : name = rowCountName
  · rw [Scope.call, if_pos hname] at hv ⊢
    exact hv
  · rw [call_eq _ _ hname] at hv ⊢
    split at hv
    · next f hf =>
        rw [h name f hf]
        exact hv
    · cases hv

end Scope

mutual

/-- An expression that has a value in a scope has it in every scope that extends it. -/
theorem Expr.eval_extends {t : Table} {scope wide : Scope} (h : wide.Extends scope) :
    (x : Expr) → ∀ v, x.eval t scope = .ok v → x.eval t wide = .ok v
  | .lit _, v, hv => by
      rw [Expr.eval] at hv ⊢
      exact hv
  | .column _, v, hv => by
      rw [Expr.eval] at hv ⊢
      exact hv
  | .call name args, v, hv => by
      -- a column of this name refuses the call in both scopes
      rw [Expr.eval] at hv ⊢
      split at hv
      · cases hv
      · next hcolumn =>
          rw [if_neg hcolumn]
          split at hv
          · cases hv
          · next data hdata =>
              rw [Expr.evalAll_extends h args data hdata]
              exact h.call hv
  | .unary op x, v, hv => by
      rw [Expr.eval] at hv ⊢
      split at hv
      · cases hv
      · next a ha =>
          rw [Expr.eval_extends h x a ha]
          exact hv
  | .binary op x y, v, hv => by
      rw [Expr.eval] at hv ⊢
      split at hv
      · cases hv
      · next a ha =>
          rw [Expr.eval_extends h x a ha]
          simp only [] at hv ⊢
          split at hv
          · cases hv
          · next b hb =>
              rw [Expr.eval_extends h y b hb]
              exact hv

theorem Expr.evalAll_extends {t : Table} {scope wide : Scope} (h : wide.Extends scope) :
    (xs : List Expr) → ∀ data, Expr.evalAll t scope xs = .ok data →
      Expr.evalAll t wide xs = .ok data
  | [], data, hdata => by
      rw [Expr.evalAll] at hdata ⊢
      exact hdata
  | x :: xs, data, hdata => by
      rw [Expr.evalAll] at hdata ⊢
      split at hdata
      · cases hdata
      · next a ha =>
          rw [Expr.eval_extends h x a ha]
          simp only [] at hdata ⊢
          split at hdata
          · cases hdata
          · next rest hrest =>
              rw [Expr.evalAll_extends h xs rest hrest]
              exact hdata

end

namespace Scope

variable {scope wide : Scope}

theorem Extends.eval (h : wide.Extends scope) {text : String} {t : Table} {v : Datum}
    (hv : scope.eval text t = .ok v) : wide.eval text t = .ok v := by
  rw [Scope.eval] at hv ⊢
  split at hv
  · cases hv
  · next x _ => exact Expr.eval_extends h x v hv

theorem Extends.evalFree (h : wide.Extends scope) {a : Argument} {t : Table} {v : Datum}
    (hv : a.evalFree t scope = .ok v) : a.evalFree t wide = .ok v := by
  cases a with
  | text source => exact h.eval hv
  | column c | cell w | table u => exact hv

/-! ## One more layer -/

theorem find?_layer (scope : Scope) (names : Names) (name : String) :
    (scope.layer names).find? name = (scope.find? name).or (names.lookup name) := by
  show ((scope.own :: scope.outer) ++ [names]).findSome? _ = _
  rw [List.findSome?_append]
  show (scope.find? name).or _ = _
  simp [List.findSome?]
  cases names.lookup name <;> rfl

/-- The names that a layer must not have, those of the built-in functions. -/
def builtinNames : List String := ["abs", "sqrt", "exp", "log", "round"]

theorem mem_builtinNames {name : String} {f : Function} (h : Function.builtin? name = some f) :
    name ∈ builtinNames := by
  unfold Function.builtin? at h
  split at h <;> first | decide | cases h

theorem extends_layer (scope : Scope) {names : Names}
    (h : ∀ name ∈ builtinNames, names.lookup name = none) : (scope.layer names).Extends scope := by
  intro name f hf
  rw [resolve, find?_layer]
  cases hfind : scope.find? name with
  | some g =>
      rw [resolve, hfind] at hf
      exact hf
  | none =>
      rw [resolve, hfind, Option.none_or] at hf
      rw [h name (mem_builtinNames hf), hf]
      rfl

theorem extends_reducers (scope : Scope) : (scope.layer Reducer.all).Extends scope := by
  apply extends_layer
  simp only [builtinNames, List.forall_mem_cons]
  exact ⟨rfl, rfl, rfl, rfl, rfl, nofun⟩

/-- A function of the scope is the one that a call reaches, whatever is layered
around the scope. -/
theorem eval_call_layer {names : Names} {name : String} {f : Function}
    (hf : scope.find? name = some f) (hname : name ≠ rowCountName) (t : Table)
    (args : List Expr) :
    (Expr.call name args).eval t (scope.layer names) =
      if t.has name then .error (.notCallable name)
      else (Expr.evalAll t (scope.layer names) args).bind f := by
  have hresolve : (scope.layer names).resolve name = some f := by
    rw [resolve, find?_layer, hf]
    rfl
  rw [Expr.eval]
  split
  · rfl
  · cases Expr.evalAll t (scope.layer names) args with
    | error e => rfl
    | ok data =>
        show (scope.layer names).call t.rows name data = f data
        rw [call_eq _ _ hname, hresolve]

end Scope

/-! ## Summaries -/

/-- The value of an argument in the caller's scope, and only where it has none
there, the value with the reducers in scope. -/
def Argument.evalAlone (a : Argument) (t : Table) (scope : Scope) : Except Error Datum :=
  match a.evalFree t scope with
  | .ok v => .ok v
  | .error _ => a.evalFree t (scope.layer Reducer.all)

theorem Argument.evalFree_reducers (a : Argument) (t : Table) (scope : Scope) :
    a.evalFree t (scope.layer Reducer.all) = a.evalAlone t scope := by
  rw [evalAlone]
  split
  · next v hv => exact scope.extends_reducers.evalFree hv
  · rfl

/-- The groups of a dataset, each reduced to a table under its keys. -/
def Dataset.reduceBy (schedule : Schedule) (reduce : Table → Except Error Table) (d : Dataset) :
    Except Error Dataset :=
  match d with
  | .plain t => (reduce t).map .plain
  | .grouped g =>
    let row (p : Partition) : Except Error Table :=
      match reduce p.table with
      | .error e => .error e
      | .ok t => p.withKeys false g.keys t
    (g.mapPartitions row schedule).map .plain

theorem Dataset.summarize_eq (schedule : Schedule) (scope : Scope) (columns : List NewColumn)
    (d : Dataset) :
    d.summarize schedule scope columns = d.reduceBy schedule (summary scope columns) := by
  cases d <;> rfl

theorem Dataset.summary_eq (scope : Scope) (columns : List NewColumn) :
    summary scope columns = fun t => Table.ofValues (fun a => a.evalAlone t scope) columns := by
  funext t
  simp only [summary, Argument.evalFree_reducers]

namespace Session

/-- A layer changes no value that a text has without it, unless it names a built-in function.
In a summary, where the reducers are such a layer, this makes the caller's scope the first to
be asked: a reducer counts only for an argument without a value there, and never in place of a
function of the scope. -/
theorem layers_conserve (s : Session) (defaults : Options) :
    (∀ names : Names, (∀ name ∈ Scope.builtinNames, names.lookup name = none) →
      ∀ text t v, s.scope.eval text t = .ok v → (s.scope.layer names).eval text t = .ok v) ∧
    (∀ text t v, s.scope.eval text t = .ok v →
      (s.scope.layer Reducer.all).eval text t = .ok v) ∧
    (∀ d columns, s.apply defaults d (.summarize columns) = .untouched d
      ((d.reduceBy (s.scheduleUnder defaults) fun t =>
        Table.ofValues (fun a => a.evalAlone t s.scope) columns).map Output.data)) ∧
    (∀ name f, s.scope.find? name = some f → name ≠ rowCountName → ∀ t args,
      (Expr.call name args).eval t (s.scope.layer Reducer.all) =
        if t.has name then .error (.notCallable name)
        else (Expr.evalAll t (s.scope.layer Reducer.all) args).bind f) := by
  refine ⟨?layer, ?reducers, ?summarize, ?wins⟩
  case layer =>
    intro names hnames text t v hv
    exact (s.scope.extends_layer hnames).eval hv
  case reducers =>
    intro text t v hv
    exact s.scope.extends_reducers.eval hv
  case summarize =>
    intro d columns
    show Applied.untouched d
      ((d.summarize (s.scheduleUnder defaults) s.scope columns).map Output.data) = _
    rw [Dataset.summarize_eq, Dataset.summary_eq]
  case wins =>
    intro name f hf hname t args
    exact Scope.eval_call_layer hf hname t args

/-- A caller's own `sum` under a layer with another one, and in a summary. -/
theorem layers_conserve_sum :
    ((Scope.empty.define "sum" fun _ => .ok (.cell (.int 7))).layer
        [("sum", fun _ => .ok (.cell (.int 8)))]).eval "sum(x)" ⟨[("x", .ints [5])], [0]⟩ =
      .ok (.cell (.int 7)) ∧
    (Expr.call "sum" [.column "x"]).eval ⟨[("x", .ints [5])], [0]⟩
        ((Scope.empty.define "sum" fun _ => .ok (.cell (.int 7))).layer Reducer.all) =
      .ok (.cell (.int 7)) := by
  obtain ⟨hlayer, -, -, hwins⟩ := layers_conserve
    ⟨none, Scope.empty.define "sum" fun _ => .ok (.cell (.int 7)), fun _ => [], .inTurn⟩
    Options.standard
  constructor
  · apply hlayer
    · simp only [Scope.builtinNames, List.forall_mem_cons]
      exact ⟨rfl, rfl, rfl, rfl, rfl, nofun⟩
    · have hparse : Expr.parse (String.ofList (fillRowCount "sum(x)".toList)) =
          .ok (.call "sum" [.column "x"]) := by cbv
      rw [Scope.eval, hparse]
      rfl
  · rw [hwins "sum" (fun _ => .ok (.cell (.int 7))) rfl (by decide)]
    rfl

end Session

end TableVerbs
