import WordArithmetic.Fault
import WordArithmetic.Sentence.Operator
import WordArithmetic.Value.Basic

namespace WordArithmetic

structure Step where
  op : Operator
  value : Value
  position : Nat
deriving DecidableEq

structure Expression where
  first : Value
  steps : List Step
deriving DecidableEq

def Operator.apply (op : Operator) (a b : Value) : Except Fault.Cause Value :=
  match op with
  | .add => checked (a.add? b)
  | .subtract => checked (a.subtract? b)
  | .multiply => checked (a.multiply? b)
  | .divide => if b = .zero then .error .divisionByZero else checked (a.divide? b)
where
  checked (result : Option Value) : Except Fault.Cause Value :=
    match result with
    | some v => .ok v
    | none => .error .outOfRange

structure Application where
  left : Value
  op : Operator
  right : Value
  result : Value
deriving DecidableEq

structure Reduction where
  result : Except Fault Value
  applications : List Application

/-- There is no precedence: each step applies to the result of all before it. -/
def Reduction.ofSteps (value : Value) : List Step → Reduction
  | [] => ⟨.ok value, []⟩
  | step :: rest =>
    match step.op.apply value step.value with
    | .error cause => ⟨.error (.atWord step.position cause), []⟩
    | .ok next =>
      let reduction := ofSteps next rest
      ⟨reduction.result, ⟨value, step.op, step.value, next⟩ :: reduction.applications⟩

def Expression.reduction (e : Expression) : Reduction :=
  .ofSteps e.first e.steps

def Expression.reduce (e : Expression) : Except Fault Value :=
  e.reduction.result

end WordArithmetic
