import Mathlib.Order.MinMax

/-!
# Signed words

Arithmetic of 32-bit words with a sign wraps around.  Where the exact result fits,
it is the result.
-/

namespace Signed

/-- A number of 32 bits with a sign. -/
def Fits (n : Int) : Prop := -2147483648 ≤ n ∧ n < 2147483648

theorem fits_toInt (a : Int32) : Fits a.toInt := ⟨a.le_toInt, a.toInt_lt⟩

theorem bmod_of_fits {n : Int} (h : Fits n) : n.bmod 4294967296 = n :=
  Int.bmod_eq_of_le h.1 h.2

/-- A number that is too large by less than one turn. -/
theorem bmod_of_overflow {n : Int} (h : 2147483648 ≤ n) (h' : n < 6442450944) :
    n.bmod 4294967296 = n - 4294967296 := by
  rw [Int.bmod_eq_emod]
  split <;> omega

/-- A number that is too small by less than one turn. -/
theorem bmod_of_underflow {n : Int} (h : -6442450944 ≤ n) (h' : n < -2147483648) :
    n.bmod 4294967296 = n + 4294967296 := by
  rw [Int.bmod_eq_emod]
  split <;> omega

section

variable {a b : Int32}

theorem toInt_add_of_fits (h : Fits (a.toInt + b.toInt)) : (a + b).toInt = a.toInt + b.toInt := by
  rw [Int32.toInt_add]
  exact bmod_of_fits h

theorem toInt_sub_of_fits (h : Fits (a.toInt - b.toInt)) : (a - b).toInt = a.toInt - b.toInt := by
  rw [Int32.toInt_sub]
  exact bmod_of_fits h

theorem toInt_mul_of_fits (h : Fits (a.toInt * b.toInt)) : (a * b).toInt = a.toInt * b.toInt := by
  rw [Int32.toInt_mul]
  exact bmod_of_fits h

theorem toInt_neg_of_fits (h : Fits (-a.toInt)) : (-a).toInt = -a.toInt := by
  rw [Int32.toInt_neg]
  exact bmod_of_fits h

end

/-- A word without a sign, read as one with a sign. -/
theorem toInt_toInt32 {n : UInt32} (h : n.toNat < 2147483648) : n.toInt32.toInt = n.toNat := by
  have hn : n.toInt32 = Int32.ofNat n.toNat := by
    rw [← UInt32.toInt32_ofNat', UInt32.ofNat_toNat]
  rw [hn, Int32.toInt_ofNat_of_lt h]

/-- From 2^31 on it is negative. -/
theorem toInt_toInt32_of_ge {n : UInt32} (h : 2147483648 ≤ n.toNat) :
    n.toInt32.toInt = n.toNat - 4294967296 := by
  have hbits : n.toInt32.toInt = n.toBitVec.toInt := rfl
  have hnat : n.toNat = n.toBitVec.toNat := rfl
  rw [hnat] at h
  rw [hbits, hnat, BitVec.toInt_eq_toNat_cond, if_neg (by omega)]
  rfl

/-- A word that is not negative, read as one without a sign. -/
theorem toNat_of_nonneg {a : Int32} (h : 0 ≤ a.toInt) : (a.toUInt32.toNat : Int) = a.toInt := by
  have hnat : a.toInt = a.toBitVec.toInt := rfl
  rw [hnat, BitVec.toInt_eq_toNat_cond]
  rw [hnat, BitVec.toInt_eq_toNat_cond] at h
  split
  · rfl
  · rename_i hge
    rw [if_neg hge] at h
    have hlt := a.toBitVec.isLt
    omega

/-- A shift is a product. -/
theorem toInt_shiftLeft_eight {a : Int32} (h : Fits (a.toInt * 256)) :
    (a <<< 8).toInt = a.toInt * 256 := by
  have hmul : a <<< 8 = a * 256 := by
    rw [← Int32.toBitVec_inj]
    exact BitVec.shiftLeft_eq_mul_twoPow a.toBitVec 8
  rw [hmul]
  exact toInt_mul_of_fits h

/-- Division towards zero, in terms of the other one. -/
theorem tdiv_eq_ite (a b : Int) :
    a.tdiv b = if 0 ≤ a then a / b else -(-a / b) := by
  split
  · rename_i h
    exact Int.tdiv_eq_ediv_of_nonneg h
  · rename_i h
    rw [← Int.tdiv_eq_ediv_of_nonneg (by omega), Int.neg_tdiv, Int.neg_neg]

/-! ## Clamping -/

/-- `Ord::clamp`, which asserts that its bounds are in order. -/
def clamp (v lo hi : Int32) : Option Int32 :=
  if lo ≤ hi then some (if v < lo then lo else if hi < v then hi else v) else none

variable {v lo hi : Int32}

/-- The assertion fails exactly when the bounds are not in order. -/
theorem clamp_eq_none_iff (v lo hi : Int32) : clamp v lo hi = none ↔ hi.toInt < lo.toInt := by
  by_cases h : lo ≤ hi
  · rw [clamp, if_pos h]
    exact ⟨nofun, fun hlt => absurd (Int32.le_iff_toInt_le.mp h) (Int.not_le.mpr hlt)⟩
  · rw [clamp, if_neg h]
    exact ⟨fun _ => Int.not_le.mp fun hle => h (Int32.le_iff_toInt_le.mpr hle), fun _ => rfl⟩

/-- Clamping in numbers. -/
theorem clamp_eq_some (v lo hi : Int32) (h : lo.toInt ≤ hi.toInt) :
    ∃ w, clamp v lo hi = some w ∧ w.toInt = max lo.toInt (min v.toInt hi.toInt) := by
  rw [clamp, if_pos (Int32.le_iff_toInt_le.mpr h)]
  refine ⟨_, rfl, ?_⟩
  split
  · rename_i hlo
    rw [Int32.lt_iff_toInt_lt] at hlo
    omega
  · rename_i hlo
    rw [Int32.lt_iff_toInt_lt] at hlo
    split
    · rename_i hhi
      rw [Int32.lt_iff_toInt_lt] at hhi
      omega
    · rename_i hhi
      rw [Int32.lt_iff_toInt_lt] at hhi
      omega

end Signed
