import WordArithmetic.Expression.Reduction

namespace WordArithmetic

/-- Applications of the steps, one of each, that lead from the first value to the last. -/
structure Trace (first : Value) (steps : List Step) (applications : List Application)
    (last : Value) : Prop where
  perStep : applications.map (fun a => (a.op, a.right)) = steps.map fun s => (s.op, s.value)
  applied : ∀ a ∈ applications, a.op.apply a.left a.right = .ok a.result
  chained : first :: applications.map Application.result =
    applications.map Application.left ++ [last]

namespace Trace

variable {first last : Value} {steps : List Step} {applications : List Application}

theorem nil (value : Value) : Trace value [] [] value :=
  ⟨rfl, by simp, rfl⟩

/-- A step that is taken goes before those taken on its result. -/
theorem cons {next : Value} {step : Step} (hstep : step.op.apply first step.value = .ok next)
    (h : Trace next steps applications last) :
    Trace first (step :: steps) (⟨first, step.op, step.value, next⟩ :: applications) last where
  perStep := by rw [List.map_cons, List.map_cons, h.perStep]
  applied := by
    intro a ha
    rcases List.mem_cons.mp ha with rfl | ha
    · exact hstep
    · exact h.applied a ha
  chained := by rw [List.map_cons, List.map_cons, List.cons_append, h.chained]

theorem length_eq (h : Trace first steps applications last) :
    applications.length = steps.length := by
  simpa using congrArg List.length h.perStep

theorem length_of_take {k : Nat} {step : Step} (hk : steps[k]? = some step)
    (h : Trace first (steps.take k) applications last) : applications.length = k := by
  obtain ⟨hlt, _⟩ := List.getElem?_eq_some_iff.mp hk
  rw [h.length_eq, List.length_take, Nat.min_eq_left (Nat.le_of_lt hlt)]

end Trace

inductive Reduced (first : Value) (steps : List Step) : Reduction → Prop
  | through {last : Value} {applications : List Application} :
    Trace first steps applications last → Reduced first steps ⟨.ok last, applications⟩
  | stopped {k : Nat} {step : Step} {value : Value} {cause : Fault.Cause}
    {applications : List Application} : steps[k]? = some step →
    Trace first (steps.take k) applications value →
    step.op.apply value step.value = .error cause →
    Reduced first steps ⟨.error (.atWord step.position cause), applications⟩

theorem Reduction.reduced (first : Value) (steps : List Step) :
    Reduced first steps (ofSteps first steps) := by
  induction steps generalizing first with
  | nil => exact .through (.nil first)
  | cons step rest ih =>
    cases hstep : step.op.apply first step.value with
    | error cause =>
      have hnone : Trace first ((step :: rest).take 0) [] first := .nil first
      simp only [ofSteps, hstep]
      exact .stopped rfl hnone hstep
    | ok next =>
      have htail := ih next
      simp only [ofSteps, hstep]
      generalize ofSteps next rest = reduction at htail ⊢
      cases htail with
      | through htrace => exact .through (htrace.cons hstep)
      | @stopped k failing value cause applications hk htrace hfault =>
        -- Behind the step taken here the failing one comes at `k`, so here it comes at `k + 1`.
        have htaken := htrace.cons hstep
        rw [← List.take_succ_cons] at htaken
        exact .stopped (by rwa [List.getElem?_cons_succ]) htaken hfault

end WordArithmetic
