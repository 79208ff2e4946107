import Mathlib.Logic.Function.Iterate

/-!
# Loops that stop on what they find

A loop takes turns, and a test on the state says whether the turn that is taken is
the last one.  Nothing bounds the number of turns, so the loop is run with fuel and
has no result when the fuel runs out.

`loop_returns_iff` says when some fuel is enough: the test succeeds on one of the
states that the turns go through.  `loop_eq_some` says what the result is then.
-/

namespace Loops

variable {S : Type} {turn : S → S} {stops : S → Bool}

/-- Take turns up to the one that is the last. -/
def loop (turn : S → S) (stops : S → Bool) : Nat → S → Option S
  | 0, _ => none
  | fuel + 1, s => if stops s then some (turn s) else loop turn stops fuel (turn s)

/-- A loop with a result has taken some turns, and the test succeeded first before the
last one. -/
theorem loop_eq_some {fuel : Nat} {s s' : S} (h : loop turn stops fuel s = some s') :
    ∃ k, stops (turn^[k] s) = true ∧ (∀ j < k, stops (turn^[j] s) = false) ∧
      s' = turn^[k + 1] s := by
  induction fuel generalizing s with
  | zero => cases h
  | succ fuel ih =>
      rw [loop] at h
      cases hstop : stops s with
      | true =>
          rw [hstop, if_pos rfl] at h
          cases h
          exact ⟨0, hstop, fun j hj => absurd hj (Nat.not_lt_zero j), rfl⟩
      | false =>
          rw [hstop, if_neg Bool.false_ne_true] at h
          obtain ⟨k, hk, hbefore, hs'⟩ := ih h
          refine ⟨k + 1, hk, fun j hj => ?_, hs'⟩
          cases j with
          | zero => exact hstop
          | succ j => exact hbefore j (Nat.lt_of_succ_lt_succ hj)

/-- The test succeeds after some turns, so a little more fuel than these is enough. -/
theorem loop_isSome {k : Nat} {s : S} (h : stops (turn^[k] s) = true) :
    (loop turn stops (k + 1) s).isSome := by
  induction k generalizing s with
  | zero =>
      have hstop : stops s = true := h
      rw [loop, if_pos hstop]
      rfl
  | succ k ih =>
      rw [loop]
      cases hstop : stops s with
      | true => rfl
      | false => exact ih h

/-- The loop returns exactly when the test succeeds on a state that the turns reach. -/
theorem loop_returns_iff {s : S} :
    (∃ fuel s', loop turn stops fuel s = some s') ↔ ∃ k, stops (turn^[k] s) = true := by
  constructor
  · rintro ⟨fuel, s', h⟩
    obtain ⟨k, hk, -, -⟩ := loop_eq_some h
    exact ⟨k, hk⟩
  · rintro ⟨k, hk⟩
    exact ⟨k + 1, Option.isSome_iff_exists.mp (loop_isSome hk)⟩

end Loops
