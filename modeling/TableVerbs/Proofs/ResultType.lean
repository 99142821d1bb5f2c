import TableVerbs.Expr.Function
import TableVerbs.Proofs.Success

/-!
# The type of a result

A column of results takes the type that its cells share, so it matters whether
they share one. They do when the type of a result is settled by the types of
the operands alone, whatever the values: division leaves the integers also
where it comes out even, and truth values add up to integers also where the
sum is 0 or 1. Powers are the exception. An integer to a negative power is a
float and to any other an integer, so two rows of the same operand types may
differ.
-/

namespace TableVerbs

/-- Every result of the computation has the type that goes with the operand's. -/
def Typed (f : Cell → Except Error Cell) : Prop :=
  ∃ result : CellType → CellType, ∀ a b, f a = .ok b → b.type = result a.type

/-! ## Operators -/

theorem UnaryOp.type_apply {op : UnaryOp} {a b : Cell} (h : op.apply a = .ok b) :
    b.type = a.type := by
  cases op with
  | neg =>
      cases a with
      | int v =>
          simp only [apply, Cell.negate] at h
          split at h
          · cases h
            rfl
          · cases h
      | float v => cases h; rfl
      | bool v => cases h
      | str v => cases h
  | not =>
      cases a with
      | bool v => cases h; rfl
      | int v => cases h
      | float v => cases h
      | str v => cases h

theorem UnaryOp.typed (op : UnaryOp) : Typed op.apply := ⟨fun type => type, fun _ _ => type_apply⟩

/-- The type that arithmetic other than a power has on operands of two types. -/
def Arithmetic.resultType (op : Arithmetic) : CellType → CellType → CellType
  | .str, .str => .str
  | .float, _ | _, .float => .float
  | _, _ => if op = .div then .float else .int

/-- The type that an operator other than a power has on operands of two types. -/
def BinaryOp.resultType : BinaryOp → CellType → CellType → CellType
  | .arithmetic op, a, b => op.resultType a b
  | .comparison _, _, _ | .connective _, _, _ => .bool

theorem Arithmetic.type_exactly {n? : Option Int64} {v : Cell} (h : exactly n? = .ok v) :
    v.type = .int := by
  cases n? with
  | none => cases h
  | some n => cases h; rfl

theorem Arithmetic.type_onInts {op : Arithmetic} {a b : Int64} {v : Cell} (hpow : op ≠ .pow)
    (h : op.onInts a b = .ok v) : v.type = if op = .div then .float else .int := by
  cases op with
  | add | sub | mul => exact type_exactly h
  | div => cases h; rfl
  | floorDiv | mod =>
      simp only [onInts] at h
      split at h
      · cases h
      · cases h; rfl
  | pow => exact absurd rfl hpow

theorem Arithmetic.type_apply {op : Arithmetic} {a b v : Cell} (hpow : op ≠ .pow)
    (h : op.apply a b = .ok v) : v.type = op.resultType a.type b.type := by
  -- integers and truth values go to `onInts`, a float on either side makes a float, and a text
  -- goes only with a text
  cases a with
  | int x | bool x =>
      cases b with
      | int y | bool y => exact type_onInts hpow h
      | float y => cases h; rfl
      | str y => cases h
  | float x =>
      cases b with
      | int y | bool y | float y => cases h; rfl
      | str y => cases h
  | str x =>
      cases b with
      | str y =>
          simp only [apply] at h
          split at h
          · cases h; rfl
          · cases h
      | int y | bool y | float y => cases h

theorem BinaryOp.type_apply {op : BinaryOp} {a b v : Cell} (hpow : op ≠ .arithmetic .pow)
    (h : op.apply a b = .ok v) : v.type = op.resultType a.type b.type := by
  cases op with
  | arithmetic op => exact Arithmetic.type_apply (fun e => hpow (e ▸ rfl)) h
  | comparison op | connective op =>
      obtain ⟨_, _, rfl⟩ := map_eq_ok.mp h
      rfl

/-! ## Functions -/

namespace Function

theorem type_onFloat (f : Float → Float) (v : Cell) : (onFloat f v).type = .float := rfl

/-- A number function's results, checked operands included. -/
theorem typed_checked (name : String) {f : Cell → Cell} {result : CellType → CellType}
    (h : ∀ v, (f v).type = result v.type) :
    Typed fun v => if Column.isNumber v then .ok (f v) else .error (.notNumber name v.type) := by
  refine ⟨result, fun a b hab => ?_⟩
  simp only at hab
  split at hab
  · cases hab
    exact h a
  · cases hab

theorem type_magnitude (v : Cell) :
    (magnitude v).type = if v.type = .int then .int else .float := by
  cases v <;> rfl

theorem type_roundTo (places : Int64) (v : Cell) :
    (roundTo places v).type = if v.type = .int ∧ 0 ≤ places then .int else .float := by
  rw [roundTo]
  split
  · next h => exact h.1
  · rfl

end Function

end TableVerbs
