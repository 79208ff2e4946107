import Mathlib.Data.List.Basic

/-!
# Runs of a labelled system

A system is a relation between a state, an event and the state after it.  A run
records its transitions, oldest first, so that a statement can speak of every
state reached and of every step taken.

`Run.invariant` is the induction over a run.  `Run.forall_iff` is the form for a
property that some steps break: if a step from a good state has the property
exactly when it meets a condition, then all steps of a run have the property
exactly when all meet the condition.  `Run.project` is the form for two runs: a
part of the state that only some events move is the same after any two runs with
the same such events.
-/

namespace Runs

variable {S E : Type}

/-- One step of a system, with the states around it. -/
structure Transition (S E : Type) where
  /-- The state before. -/
  pre : S
  /-- The event. -/
  event : E
  /-- The state after. -/
  post : S

/-- `Run step s ts s'`: the transitions `ts` lead from `s` to `s'`. -/
inductive Run (step : S → E → S → Prop) (s : S) : List (Transition S E) → S → Prop where
  | nil : Run step s [] s
  | snoc {ts : List (Transition S E)} {s₁ s₂ : S} {e : E} :
      Run step s ts s₁ → step s₁ e s₂ → Run step s (ts ++ [⟨s₁, e, s₂⟩]) s₂

/-- The events of a run. -/
def events (ts : List (Transition S E)) : List E := ts.map Transition.event

@[simp] theorem events_nil : events ([] : List (Transition S E)) = [] := rfl

@[simp] theorem events_snoc (ts : List (Transition S E)) (t : Transition S E) :
    events (ts ++ [t]) = events ts ++ [t.event] := by
  simp [events]

variable {step : S → E → S → Prop} {s s' : S} {ts : List (Transition S E)}

theorem forall_snoc {P : Transition S E → Prop} {t : Transition S E} :
    (∀ x ∈ ts ++ [t], P x) ↔ (∀ x ∈ ts, P x) ∧ P t := by
  simp only [List.mem_append, List.mem_singleton, or_imp, forall_and, forall_eq]

/-- Runs follow one another. -/
theorem Run.append {s'' : S} {ts' : List (Transition S E)} (hr : Run step s ts s')
    (hr' : Run step s' ts' s'') : Run step s (ts ++ ts') s'' := by
  induction hr' with
  | nil => rwa [List.append_nil]
  | snoc _ hs ih =>
      rw [← List.append_assoc]
      exact ih.snoc hs

/-- The transitions of a run are steps. -/
theorem Run.step_of_mem (hr : Run step s ts s') {t : Transition S E} (ht : t ∈ ts) :
    step t.pre t.event t.post := by
  induction hr with
  | nil => cases ht
  | snoc _ hs ih =>
      rcases List.mem_append.mp ht with ht | ht
      · exact ih ht
      · rw [List.mem_singleton] at ht
        rw [ht]
        exact hs

/-- What holds at the start and is kept by every step holds at the end. -/
theorem Run.invariant {Inv : S → Prop} (hr : Run step s ts s') (h0 : Inv s)
    (hstep : ∀ {s₁ e s₂}, Inv s₁ → step s₁ e s₂ → Inv s₂) : Inv s' := by
  induction hr with
  | nil => exact h0
  | snoc _ hs ih => exact hstep ih hs

/-- The same for a run whose transitions all meet a condition. -/
theorem Run.invariant_of {Inv : S → Prop} {Ok : Transition S E → Prop} (hr : Run step s ts s')
    (hok : ∀ t ∈ ts, Ok t) (h0 : Inv s)
    (hstep : ∀ {s₁ e s₂}, Inv s₁ → step s₁ e s₂ → Ok ⟨s₁, e, s₂⟩ → Inv s₂) : Inv s' := by
  induction hr with
  | nil => exact h0
  | snoc _ hs ih =>
      rw [forall_snoc] at hok
      exact hstep (ih hok.1) hs hok.2

/-- What holds at the start and is kept by every such step holds before every step. -/
theorem Run.forall_pre_of (Inv : S → Prop) {Ok : Transition S E → Prop} (hr : Run step s ts s')
    (hok : ∀ t ∈ ts, Ok t) (h0 : Inv s)
    (hstep : ∀ {s₁ e s₂}, Inv s₁ → step s₁ e s₂ → Ok ⟨s₁, e, s₂⟩ → Inv s₂) :
    ∀ t ∈ ts, Inv t.pre := by
  induction hr with
  | nil => simp
  | snoc hr hs ih =>
      rw [forall_snoc] at hok ⊢
      exact ⟨ih hok.1, hr.invariant_of hok.1 h0 hstep⟩

/-- What a step has whenever an invariant holds before it, all transitions of a run
have. -/
theorem Run.forall_mem (Inv : S → Prop) {Holds : Transition S E → Prop} (hr : Run step s ts s')
    (h0 : Inv s) (hInv : ∀ {s₁ e s₂}, Inv s₁ → step s₁ e s₂ → Inv s₂)
    (hstep : ∀ {t : Transition S E}, Inv t.pre → step t.pre t.event t.post → Holds t) :
    ∀ t ∈ ts, Holds t := by
  induction hr with
  | nil => simp
  | snoc hr hs ih =>
      rw [forall_snoc]
      exact ⟨ih, hstep (hr.invariant h0 hInv) hs⟩

/-- A property of transitions that a step from a good state has exactly when it
meets a condition.  All transitions of a run have it exactly when all meet the
condition.  `Inv` is what the step lemma may use besides. -/
theorem Run.forall_iff (Inv Good : S → Prop) {Holds Cond : Transition S E → Prop}
    (hr : Run step s ts s') (h0 : Inv s) (hInv : ∀ {s₁ e s₂}, Inv s₁ → step s₁ e s₂ → Inv s₂)
    (hg : Good s)
    (hstep : ∀ {t : Transition S E}, Inv t.pre → Good t.pre → step t.pre t.event t.post →
      (Holds t ↔ Cond t))
    (hnext : ∀ {t : Transition S E}, Good t.pre → step t.pre t.event t.post → Holds t →
      Good t.post) :
    (∀ t ∈ ts, Holds t) ↔ ∀ t ∈ ts, Cond t := by
  suffices h : ((∀ t ∈ ts, Holds t) ↔ ∀ t ∈ ts, Cond t) ∧ ((∀ t ∈ ts, Holds t) → Good s') from h.1
  induction hr with
  | nil => exact ⟨by simp, fun _ => hg⟩
  | @snoc ts s₁ s₂ e hr hs ih =>
      obtain ⟨hiff, hlast⟩ := ih
      have hinv : Inv s₁ := hr.invariant h0 hInv
      rw [forall_snoc, forall_snoc]
      refine ⟨⟨fun h => ?_, fun h => ?_⟩, fun h => hnext (hlast h.1) hs h.2⟩
      · exact ⟨hiff.mp h.1, (hstep hinv (hlast h.1) hs).mp h.2⟩
      · have hgood := hiff.mpr h.1
        exact ⟨hgood, (hstep hinv (hlast hgood) hs).mpr h.2⟩

/-- A projection that some events move by a function and all others keep depends
on those events only. -/
theorem Run.project (Inv : S → Prop) {P : Type} (π : S → P) (f : P → E → P) (p : E → Bool)
    (hr : Run step s ts s') (h0 : Inv s) (hInv : ∀ {s₁ e s₂}, Inv s₁ → step s₁ e s₂ → Inv s₂)
    (hstep : ∀ {s₁ e s₂}, Inv s₁ → step s₁ e s₂ → π s₂ = if p e then f (π s₁) e else π s₁) :
    π s' = ((events ts).filter p).foldl f (π s) := by
  induction hr with
  | nil => rfl
  | @snoc ts s₁ s₂ e hr hs ih =>
      have hinv : Inv s₁ := hr.invariant h0 hInv
      rw [hstep hinv hs, ih, events_snoc, List.filter_append, List.foldl_append]
      cases h : p e with
      | false => simp [h]
      | true => simp [h]

end Runs
