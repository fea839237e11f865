import Mathlib.Data.Nat.Find
import WordArithmetic.Expression.Reduction
import WordArithmetic.Proofs.Values

namespace WordArithmetic

/-- What an operator makes of integers without bound; a quotient rounds toward zero. -/
def Operator.exact (op : Operator) (a b : Int) : Int :=
  match op with
  | .add => a + b
  | .subtract => a - b
  | .multiply => a * b
  | .divide => a.tdiv b

structure ExactStep where
  op : Operator
  operand : Int
  position : Nat

def Step.exact (step : Step) : ExactStep :=
  ⟨step.op, step.value.toInt, step.position⟩

namespace ExactStep

def take (result : Int) (step : ExactStep) : Int :=
  step.op.exact result step.operand

def fault? (result : Int) (step : ExactStep) : Option Fault.Cause :=
  if step.op = .divide ∧ step.operand = 0 then some .divisionByZero
  else if Value.InRange (step.take result) then none
  else some .outOfRange

/-- The result of steps over the unbounded integers, strictly from left to right. -/
def resultOf (first : Int) (steps : List ExactStep) : Int :=
  steps.foldl take first

def faultAt? (first : Int) (steps : List ExactStep) (k : Nat) : Option Fault.Cause :=
  steps[k]?.bind (·.fault? (resultOf first (steps.take k)))

theorem faultAt?_zero (first : Int) (step : ExactStep) (steps : List ExactStep) :
    faultAt? first (step :: steps) 0 = step.fault? first := rfl

theorem faultAt?_succ (first : Int) (step : ExactStep) (steps : List ExactStep) (k : Nat) :
    faultAt? first (step :: steps) (k + 1) = faultAt? (step.take first) steps k := rfl

theorem fault?_cases {result : Int} {step : ExactStep} {cause : Fault.Cause}
    (h : step.fault? result = some cause) : cause = .divisionByZero ∨ cause = .outOfRange := by
  unfold fault? at h
  split at h
  · cases h
    exact .inl rfl
  · split at h
    · contradiction
    · cases h
      exact .inr rfl

theorem resultOf_take_succ {first : Int} {steps : List ExactStep} {k : Nat} {step : ExactStep}
    (h : steps[k]? = some step) :
    resultOf first (steps.take (k + 1)) = step.take (resultOf first (steps.take k)) := by
  rw [List.take_add_one, h, resultOf, List.foldl_append]
  rfl

theorem fault?_eq_none_iff {result : Int} {step : ExactStep} :
    step.fault? result = none ↔
      (step.op = .divide → step.operand ≠ 0) ∧ Value.InRange (step.take result) := by
  unfold fault?
  split
  · rename_i h
    simp [h]
  · rename_i h
    split <;> simp_all

/-- All steps can be taken if no divisor is zero and every partial result is in range. -/
theorem faultAt?_eq_none_iff {first : Int} {steps : List ExactStep}
    (hfirst : Value.InRange first) :
    (∀ k, faultAt? first steps k = none) ↔
      (∀ step ∈ steps, step.op = .divide → step.operand ≠ 0) ∧
        ∀ k, Value.InRange (resultOf first (steps.take k)) := by
  constructor
  · intro h
    have hstep {k : Nat} {step : ExactStep} (hk : steps[k]? = some step) :
        step.fault? (resultOf first (steps.take k)) = none := by
      simpa only [faultAt?, hk, Option.bind_some] using h k
    constructor
    · intro step hm
      obtain ⟨k, hk⟩ := List.mem_iff_getElem?.mp hm
      exact (fault?_eq_none_iff.mp (hstep hk)).1
    · intro k
      induction k with
      | zero => exact hfirst
      | succ k ih =>
        cases hk : steps[k]? with
        | none => rwa [List.take_add_one, hk, Option.toList_none, List.append_nil]
        | some step =>
          rw [resultOf_take_succ hk]
          exact (fault?_eq_none_iff.mp (hstep hk)).2
  · rintro ⟨hdivisors, hrange⟩ k
    cases hk : steps[k]? with
    | none => simp [faultAt?, hk]
    | some step =>
      rw [faultAt?, hk, Option.bind_some, fault?_eq_none_iff, ← resultOf_take_succ hk]
      exact ⟨hdivisors step (List.mem_iff_getElem?.mpr ⟨k, hk⟩), hrange (k + 1)⟩

end ExactStep

namespace Operator

theorem checked_ofInt? (n : Int) :
    (Value.InRange n → ∃ v, apply.checked (Value.ofInt? n) = .ok v ∧ v.toInt = n) ∧
      (¬ Value.InRange n → apply.checked (Value.ofInt? n) = .error .outOfRange) := by
  cases h : Value.ofInt? n with
  | none =>
    have hout := Value.ofInt?_eq_none_iff.mp h
    refine ⟨?_, fun _ => rfl⟩
    intro hn
    contradiction
  | some v =>
    have hv := Value.ofInt?_eq_some_iff.mp h
    refine ⟨fun _ => ⟨v, rfl, hv⟩, ?_⟩
    intro hn
    exact absurd (hv ▸ v.inRange) hn

/-- An operator gives the exact result if the step from one value by the other can be taken, and
else the fault of that step. -/
theorem apply_exact (a : Value) (step : Step) :
    (step.exact.fault? a.toInt = none →
      ∃ v, step.op.apply a step.value = .ok v ∧ v.toInt = step.exact.take a.toInt) ∧
    ∀ cause, step.exact.fault? a.toInt = some cause →
      step.op.apply a step.value = .error cause := by
  obtain ⟨op, b, position⟩ := step
  have hchecked := checked_ofInt? (op.exact a.toInt b.toInt)
  have hzero : b = .zero ↔ b.toInt = 0 := Value.ext_iff
  have hcases : (op = .divide ∧ b = .zero) ∨ ¬ (op = .divide ∧ b.toInt = 0) ∧
      op.apply a b = apply.checked (Value.ofInt? (op.exact a.toInt b.toInt)) := by
    cases op with
    | add => exact .inr ⟨by simp, rfl⟩
    | subtract => exact .inr ⟨by simp, rfl⟩
    | multiply => exact .inr ⟨by simp, rfl⟩
    | divide =>
      by_cases hb : b = .zero
      · exact .inl ⟨rfl, hb⟩
      · exact .inr ⟨by simp [← hzero, hb], by simp only [apply, if_neg hb]; rfl⟩
  rcases hcases with ⟨rfl, rfl⟩ | ⟨hdivides, happly⟩
  · have hfault : (Step.exact ⟨.divide, .zero, position⟩).fault? a.toInt = some .divisionByZero :=
      if_pos ⟨rfl, rfl⟩
    rw [hfault]
    refine ⟨by simp, ?_⟩
    intro cause hc
    cases hc
    rfl
  · by_cases hr : Value.InRange (op.exact a.toInt b.toInt)
    · have hfault : (Step.exact ⟨op, b, position⟩).fault? a.toInt = none :=
        (if_neg hdivides).trans (if_pos hr)
      rw [hfault, happly]
      exact ⟨fun _ => hchecked.1 hr, by simp⟩
    · have hfault : (Step.exact ⟨op, b, position⟩).fault? a.toInt = some .outOfRange :=
        (if_neg hdivides).trans (if_neg hr)
      rw [hfault, happly]
      refine ⟨by simp, ?_⟩
      intro cause hc
      cases hc
      exact hchecked.2 hr

theorem apply_error_cases {op : Operator} {a b : Value} {cause : Fault.Cause}
    (h : op.apply a b = .error cause) : cause = .divisionByZero ∨ cause = .outOfRange := by
  obtain ⟨hok, herror⟩ := apply_exact a ⟨op, b, 0⟩
  cases hfault : (Step.exact ⟨op, b, 0⟩).fault? a.toInt with
  | none =>
    obtain ⟨v, hv, _⟩ := hok hfault
    rw [h] at hv
    cases hv
  | some other =>
    have ho := herror other hfault
    rw [h] at ho
    cases ho
    exact ExactStep.fault?_cases hfault

end Operator

namespace Reduction

/-- Steps that can all be taken lead to their exact result. -/
theorem ofSteps_ok {value : Value} {steps : List Step}
    (h : ∀ k, ExactStep.faultAt? value.toInt (steps.map Step.exact) k = none) :
    ∃ v, (ofSteps value steps).result = .ok v ∧
      v.toInt = ExactStep.resultOf value.toInt (steps.map Step.exact) := by
  induction steps generalizing value with
  | nil => exact ⟨value, rfl, rfl⟩
  | cons step steps ih =>
    have hstep := h 0
    rw [List.map_cons, ExactStep.faultAt?_zero] at hstep
    obtain ⟨next, hnext, hexact⟩ := (Operator.apply_exact value step).1 hstep
    have hlater (k : Nat) :
        ExactStep.faultAt? next.toInt (steps.map Step.exact) k = none := by
      rw [hexact, ← ExactStep.faultAt?_succ]
      exact h (k + 1)
    obtain ⟨v, hv, hresult⟩ := ih hlater
    refine ⟨v, by simp only [ofSteps, hnext, hv], ?_⟩
    rw [hresult, hexact]
    rfl

/-- The first step that cannot be taken decides, whatever comes after it. -/
theorem ofSteps_fault {value : Value} {steps : List Step} {k : Nat} {cause : Fault.Cause}
    (h : ExactStep.faultAt? value.toInt (steps.map Step.exact) k = some cause)
    (hfirst : ∀ j < k, ExactStep.faultAt? value.toInt (steps.map Step.exact) j = none) :
    ∃ step, steps[k]? = some step ∧
      (ofSteps value steps).result = .error (.atWord step.position cause) := by
  induction steps generalizing value k with
  | nil => simp [ExactStep.faultAt?] at h
  | cons step steps ih =>
    cases k with
    | zero =>
      rw [List.map_cons, ExactStep.faultAt?_zero] at h
      have hstep := (Operator.apply_exact value step).2 cause h
      exact ⟨step, rfl, by simp only [ofSteps, hstep]⟩
    | succ k =>
      have hstep := hfirst 0 (Nat.succ_pos k)
      rw [List.map_cons, ExactStep.faultAt?_zero] at hstep
      obtain ⟨next, hnext, hexact⟩ := (Operator.apply_exact value step).1 hstep
      have hlater : ExactStep.faultAt? next.toInt (steps.map Step.exact) k = some cause := by
        rw [hexact, ← ExactStep.faultAt?_succ]
        exact h
      have hbefore : ∀ j < k, ExactStep.faultAt? next.toInt (steps.map Step.exact) j = none := by
        intro j hj
        rw [hexact, ← ExactStep.faultAt?_succ]
        exact hfirst (j + 1) (Nat.succ_lt_succ hj)
      obtain ⟨failing, hk, hresult⟩ := ih hlater hbefore
      exact ⟨failing, hk, by simp only [ofSteps, hnext, hresult]⟩

end Reduction

/-- Where anything goes wrong, something goes wrong first. -/
theorem none_or_first {α : Type} (f : Nat → Option α) :
    (∀ i, f i = none) ∨ ∃ k a, f k = some a ∧ ∀ j < k, f j = none := by
  by_cases hnone : ∀ i, f i = none
  · exact .inl hnone
  · simp only [Classical.not_forall] at hnone
    have hfirst := Nat.find_spec hnone
    obtain ⟨a, ha⟩ := Option.ne_none_iff_exists'.mp hfirst
    refine .inr ⟨Nat.find hnone, a, ha, ?_⟩
    intro j hj
    exact Decidable.not_not.mp (Nat.find_min hnone hj)

def Step.DividesByZero (step : Step) : Prop :=
  step.op = .divide ∧ step.value = .zero

instance (step : Step) : Decidable step.DividesByZero :=
  inferInstanceAs (Decidable (_ ∧ _))

def Step.failure (step : Step) : Fault.Cause :=
  if step.DividesByZero then .divisionByZero else .outOfRange

namespace Expression

def exactResult (e : Expression) (k : Nat) : Int :=
  ExactStep.resultOf e.first.toInt ((e.steps.map Step.exact).take k)

/-- The step at an index divides by zero, or the exact result after it does not fit. -/
def Fails (e : Expression) (k : Nat) (step : Step) : Prop :=
  e.steps[k]? = some step ∧ (step.DividesByZero ∨ ¬ Value.InRange (e.exactResult (k + 1)))

structure FailsFirst (e : Expression) (k : Nat) (step : Step) : Prop where
  fails : e.Fails k step
  earlier : ∀ j < k, ∀ other, ¬ e.Fails j other

theorem exactResult_succ {e : Expression} {k : Nat} {step : Step} (h : e.steps[k]? = some step) :
    e.exactResult (k + 1) = step.op.exact (e.exactResult k) step.value.toInt := by
  have hexact : (e.steps.map Step.exact)[k]? = some step.exact := by
    rw [List.getElem?_map, h]
    rfl
  rw [exactResult, ExactStep.resultOf_take_succ hexact]
  rfl

theorem faultAt?_eq {e : Expression} {k : Nat} {step : Step} (h : e.steps[k]? = some step) :
    ExactStep.faultAt? e.first.toInt (e.steps.map Step.exact) k =
      if step.DividesByZero then some .divisionByZero
      else if Value.InRange (e.exactResult (k + 1)) then none else some .outOfRange := by
  have hzero : step.DividesByZero ↔ step.exact.op = .divide ∧ step.exact.operand = 0 :=
    and_congr_right fun _ => Value.ext_iff
  have htake : e.exactResult (k + 1) = step.exact.take (e.exactResult k) := exactResult_succ h
  rw [ExactStep.faultAt?, List.getElem?_map, h, htake]
  simp only [hzero]
  rfl

/-- A step has a fault exactly if it fails. -/
theorem faultAt?_eq_some_iff {e : Expression} {k : Nat} {cause : Fault.Cause} :
    ExactStep.faultAt? e.first.toInt (e.steps.map Step.exact) k = some cause ↔
      ∃ step, e.Fails k step ∧ cause = step.failure := by
  cases hk : e.steps[k]? with
  | none => simp [ExactStep.faultAt?, Fails, hk]
  | some step =>
    have hfails : (∃ other, e.Fails k other ∧ cause = other.failure) ↔
        (step.DividesByZero ∨ ¬ Value.InRange (e.exactResult (k + 1))) ∧
          cause = step.failure := by
      simp [Fails, hk, and_assoc]
    rw [faultAt?_eq hk, hfails]
    by_cases hd : step.DividesByZero
    · simp [Step.failure, hd, eq_comm]
    · by_cases hr : Value.InRange (e.exactResult (k + 1))
      · simp [hd, hr]
      · simp [Step.failure, hd, hr, eq_comm]

theorem faultAt?_eq_none_iff {e : Expression} {k : Nat} :
    ExactStep.faultAt? e.first.toInt (e.steps.map Step.exact) k = none ↔
      ∀ step, ¬ e.Fails k step := by
  rw [Option.eq_none_iff_forall_ne_some]
  constructor
  · intro h step hfails
    exact h step.failure (faultAt?_eq_some_iff.mpr ⟨step, hfails, rfl⟩)
  · intro h cause hcause
    obtain ⟨step, hfails, _⟩ := faultAt?_eq_some_iff.mp hcause
    exact h step hfails

theorem reduce_of_faultless {e : Expression} (h : ∀ k step, ¬ e.Fails k step) :
    ∃ v, e.reduce = .ok v ∧ v.toInt = e.exactResult e.steps.length := by
  obtain ⟨v, hv, hresult⟩ := Reduction.ofSteps_ok fun k => faultAt?_eq_none_iff.mpr (h k)
  refine ⟨v, hv, ?_⟩
  rw [hresult, exactResult, ← List.length_map Step.exact, List.take_length]

theorem reduce_of_failsFirst {e : Expression} {k : Nat} {step : Step} (h : e.FailsFirst k step) :
    e.reduce = .error ⟨step.failure, some step.position, none⟩ := by
  obtain ⟨failing, hk, hresult⟩ :=
    Reduction.ofSteps_fault (faultAt?_eq_some_iff.mpr ⟨step, h.fails, rfl⟩)
      fun j hj => faultAt?_eq_none_iff.mpr (h.earlier j hj)
  rw [h.fails.1] at hk
  cases hk
  exact hresult

theorem faultless_or_failsFirst (e : Expression) :
    (∀ k step, ¬ e.Fails k step) ∨ ∃ k step, e.FailsFirst k step := by
  rcases none_or_first (ExactStep.faultAt? e.first.toInt (e.steps.map Step.exact)) with
    hnone | ⟨k, cause, hfault, hbefore⟩
  · exact .inl fun k => faultAt?_eq_none_iff.mp (hnone k)
  · obtain ⟨step, hfails, _⟩ := faultAt?_eq_some_iff.mp hfault
    exact .inr ⟨k, step, hfails, fun j hj => faultAt?_eq_none_iff.mp (hbefore j hj)⟩

theorem FailsFirst.inRange {e : Expression} {k : Nat} {step : Step} (h : e.FailsFirst k step) :
    Value.InRange (e.exactResult k) := by
  cases k with
  | zero => exact e.first.inRange
  | succ j =>
    have hlt := (List.getElem?_eq_some_iff.mp h.fails.1).1
    have hj := List.getElem?_eq_getElem (Nat.lt_of_succ_lt hlt)
    refine Decidable.byContradiction ?_
    intro hout
    exact h.earlier j (Nat.lt_succ_self j) _ ⟨hj, .inr hout⟩

/-- Only one quotient of values does not fit. -/
theorem FailsFirst.quotient {e : Expression} {k : Nat} {step : Step} (h : e.FailsFirst k step)
    (hop : step.op = .divide) (hd : ¬ step.DividesByZero) :
    e.exactResult k = -0x8000000000000000 ∧ step.value.toInt = -1 := by
  have hne : step.value.toInt ≠ 0 := by
    intro hzero
    exact hd ⟨hop, Value.ext hzero⟩
  have hout := h.fails.2.resolve_left hd
  rw [exactResult_succ h.fails.1, hop] at hout
  exact Decidable.not_not.mp (mt (Value.inRange_tdiv_iff h.inRange hne).mpr hout)

/-- Whether a step fails does not depend on the steps behind it. -/
theorem fails_take_append {e : Expression} {j k : Nat} (hj : j < k) (hk : k ≤ e.steps.length)
    (later : List Step) (step : Step) :
    (Expression.mk e.first (e.steps.take k ++ later)).Fails j step ↔ e.Fails j step := by
  have hlength : (e.steps.take k).length = k := List.length_take_of_le hk
  have hresult : (Expression.mk e.first (e.steps.take k ++ later)).exactResult (j + 1) =
      e.exactResult (j + 1) := by
    simp only [exactResult, ← List.map_take]
    rw [List.take_append_of_le_length (by omega), List.take_take, Nat.min_eq_left hj]
  rw [Fails, Fails, hresult, List.getElem?_append_left (by omega), List.getElem?_take_of_lt hj]

theorem FailsFirst.take_append {e : Expression} {k : Nat} {step : Step} (h : e.FailsFirst k step)
    (later : List Step) :
    (Expression.mk e.first (e.steps.take (k + 1) ++ later)).FailsFirst k step := by
  have hlt : k < e.steps.length := (List.getElem?_eq_some_iff.mp h.fails.1).1
  refine ⟨(fails_take_append (Nat.lt_succ_self k) hlt later step).mpr h.fails, ?_⟩
  intro j hj other hfails
  exact h.earlier j hj other ((fails_take_append (by omega) hlt later other).mp hfails)

end Expression

/-- Steps are taken one after the other as over the unbounded integers. They lead to their exact
result, or to the failure of the first step that divides by zero or leaves the range, whatever
comes behind it. -/
theorem reduction_is_exact (e : Expression) :
    (∀ v, e.reduce = .ok v ↔
      (∀ k step, ¬ e.Fails k step) ∧ v.toInt = e.exactResult e.steps.length) ∧
    (∀ fault, e.reduce = .error fault ↔ ∃ k step, e.FailsFirst k step ∧
      fault = ⟨if step.DividesByZero then .divisionByZero else .outOfRange, some step.position,
        none⟩) ∧
    ∀ k step, e.FailsFirst k step →
      (step.op = .divide → ¬ step.DividesByZero →
        e.exactResult k = -0x8000000000000000 ∧ step.value.toInt = -1) ∧
      ∀ later, (Expression.mk e.first (e.steps.take (k + 1) ++ later)).reduce = e.reduce := by
  refine ⟨?_, ?_, ?_⟩
  · intro v
    constructor
    · intro h
      rcases e.faultless_or_failsFirst with hnone | ⟨k, step, hfirst⟩
      · obtain ⟨w, hw, hresult⟩ := Expression.reduce_of_faultless hnone
        rw [hw] at h
        cases h
        exact ⟨hnone, hresult⟩
      · rw [Expression.reduce_of_failsFirst hfirst] at h
        cases h
    · rintro ⟨hnone, hv⟩
      obtain ⟨w, hw, hresult⟩ := Expression.reduce_of_faultless hnone
      rw [hw, Value.ext (hresult.trans hv.symm)]
  · intro fault
    constructor
    · intro h
      rcases e.faultless_or_failsFirst with hnone | ⟨k, step, hfirst⟩
      · obtain ⟨w, hw, _⟩ := Expression.reduce_of_faultless hnone
        rw [hw] at h
        cases h
      · rw [Expression.reduce_of_failsFirst hfirst] at h
        cases h
        exact ⟨k, step, hfirst, rfl⟩
    · rintro ⟨k, step, hfirst, rfl⟩
      exact Expression.reduce_of_failsFirst hfirst
  · intro k step hfirst
    refine ⟨hfirst.quotient, ?_⟩
    intro later
    rw [Expression.reduce_of_failsFirst hfirst,
      Expression.reduce_of_failsFirst (hfirst.take_append later)]

/-- The quotient of the least value by minus one is refused, though the next step would bring the
result back into the range. -/
theorem least_by_minus_one_is_refused :
    let least : Value := ⟨-0x8000000000000000, by decide, by decide⟩
    let step : Step := ⟨.divide, ⟨-1, by decide, by decide⟩, 2⟩
    let e : Expression := ⟨least, [step, ⟨.subtract, .one, 5⟩]⟩
    e.FailsFirst 0 step ∧ Value.InRange (e.exactResult 2) ∧
      e.reduce = .error ⟨.outOfRange, some 2, none⟩ ∧
      (e.exactResult 0 = -0x8000000000000000 ∧ step.value.toInt = -1) ∧
      (Expression.mk least [step]).reduce = e.reduce := by
  intro least step e
  have hfirst : e.FailsFirst 0 step := ⟨⟨rfl, .inr (by decide)⟩, by simp⟩
  obtain ⟨_, herror, hfailing⟩ := reduction_is_exact e
  obtain ⟨hquotient, hlater⟩ := hfailing 0 step hfirst
  exact ⟨hfirst, by decide, (herror _).mpr ⟨0, step, hfirst, by decide⟩,
    hquotient rfl (by decide), hlater []⟩

end WordArithmetic
