import Mathlib.Data.List.Basic

/-!
# Machines that answer

A machine takes an input in a state, answers and goes to the next state.  Its
trace is the list of its answers.  `trace_eq` compares two machines through a
relation of their states that may also speak of the inputs to come.  This is how
a bound on the whole input is stated.
-/

namespace Simulation

variable {S T E O : Type}

/-- The answers to a list of inputs, and the last state. -/
def trace (step : E → S → O × S) : List E → S → List O × S
  | [], s => ([], s)
  | e :: es, s =>
      let (o, s) := step e s
      let (os, s) := trace step es s
      (o :: os, s)

@[simp] theorem trace_nil (step : E → S → O × S) (s : S) : trace step [] s = ([], s) := rfl

theorem trace_cons (step : E → S → O × S) (e : E) (es : List E) (s : S) :
    trace step (e :: es) s =
      ((step e s).1 :: (trace step es (step e s).2).1, (trace step es (step e s).2).2) := rfl

theorem trace_append (step : E → S → O × S) (es es' : List E) (s : S) :
    trace step (es ++ es') s =
      ((trace step es s).1 ++ (trace step es' (trace step es s).2).1,
        (trace step es' (trace step es s).2).2) := by
  induction es generalizing s with
  | nil => rfl
  | cons e es ih => rw [List.cons_append, trace_cons, ih, trace_cons, List.cons_append]

/-- Related machines answer alike and stay related.  `R es s t` is the relation before
the inputs `es`. -/
theorem trace_eq {step₁ : E → S → O × S} {step₂ : E → T → O × T} {R : List E → S → T → Prop}
    (hstep : ∀ {e es s t}, R (e :: es) s t →
      (step₁ e s).1 = (step₂ e t).1 ∧ R es (step₁ e s).2 (step₂ e t).2)
    {es : List E} {s : S} {t : T} (h : R es s t) :
    (trace step₁ es s).1 = (trace step₂ es t).1 ∧
      R [] (trace step₁ es s).2 (trace step₂ es t).2 := by
  induction es generalizing s t with
  | nil => exact ⟨rfl, h⟩
  | cons e es ih =>
      obtain ⟨hanswer, hnext⟩ := hstep h
      obtain ⟨hanswers, hlast⟩ := ih hnext
      rw [trace_cons, trace_cons, hanswer, hanswers]
      exact ⟨rfl, hlast⟩

end Simulation
