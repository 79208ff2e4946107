import Mathlib.Data.Nat.Digits.Defs

/-!
# Fixed-point fields

A number is rounded to a coarser step and put in a field of bounded width.  A
field that saturates takes the largest value in place of a number out of range.
A field that truncates keeps the low digits.

The two agree on a number exactly when it is in range or its low digits are all
the largest (`mod_eq_saturate_iff`).  Saturation keeps the order of numbers, and
rounding is within half a step.
-/

namespace FixedPoint

/-- `n` in steps of `step`, rounded to the nearest and up in the middle. -/
def roundDiv (step n : Nat) : Nat := (n + step / 2) / step

/-- The value of a field that saturates at `top`. -/
def saturate (top n : Nat) : Nat := min n top

variable {step top m n : Nat}

theorem roundDiv_mono (h : m ≤ n) : roundDiv step m ≤ roundDiv step n :=
  Nat.div_le_div_right (Nat.add_le_add_right h _)

/-- Rounding goes up by half a step at most. -/
theorem mul_roundDiv_le (step n : Nat) : step * roundDiv step n ≤ n + step / 2 :=
  Nat.mul_div_le _ _

/-- Rounding goes down by half a step at most. -/
theorem le_mul_roundDiv (hstep : 0 < step) : n ≤ step * roundDiv step n + step / 2 := by
  have hlt : n + step / 2 < step * (roundDiv step n + 1) := by
    rw [roundDiv]
    exact Nat.lt_mul_div_succ _ hstep
  rw [Nat.mul_succ] at hlt
  omega

theorem saturate_mono (h : m ≤ n) : saturate top m ≤ saturate top n :=
  min_le_min_right top h

theorem saturate_of_le (h : n ≤ top) : saturate top n = n := Nat.min_eq_left h

theorem saturate_of_ge (h : top ≤ n) : saturate top n = top := Nat.min_eq_right h

/-- A field of `top + 1` values that truncates agrees with one that saturates. -/
theorem mod_eq_saturate_iff : n % (top + 1) = saturate top n ↔ n ≤ top ∨ n % (top + 1) = top := by
  rcases Nat.lt_or_ge top n with h | h
  · rw [saturate_of_ge (Nat.le_of_lt h)]
    exact ⟨Or.inr, fun hor => hor.resolve_left (Nat.not_le_of_gt h)⟩
  · rw [saturate_of_le h, Nat.mod_eq_of_lt (Nat.lt_succ_of_le h)]
    exact iff_of_true rfl (Or.inl h)

/-! ## Digits -/

/-- The number of a string of bytes, low byte first. -/
def ofBytes (bs : List UInt8) : Nat := Nat.ofDigits 256 (bs.map UInt8.toNat)

@[simp] theorem ofBytes_nil : ofBytes [] = 0 := rfl

@[simp] theorem ofBytes_cons (b : UInt8) (bs : List UInt8) :
    ofBytes (b :: bs) = b.toNat + 256 * ofBytes bs := by
  rw [ofBytes, List.map_cons, Nat.ofDigits_cons]
  rfl

/-! ## Fields of a word -/

/-- A field above the bits of another number. -/
theorem or_shiftLeft {low k : Nat} (h : low < 2 ^ k) (v : Nat) :
    low ||| v <<< k = low + v * 2 ^ k := by
  rw [Nat.or_comm, ← Nat.shiftLeft_add_eq_or_of_lt h, Nat.shiftLeft_eq, Nat.add_comm]

end FixedPoint
