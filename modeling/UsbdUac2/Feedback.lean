import UsbdUac2.Handler
import UsbdUac2.Lib.FixedPoint

/-!
# Feedback at full speed

A rate of feedback leaves a full-speed device as a 10.14 number in three bytes.
The encoder rounds the 16.16 number by an addition and a shift and drops the top
byte.  It has no test for a rate out of range, so it truncates where a saturating
field would hold the largest value, and near the end of the 32 bits the addition
overflows.

`Saturates` is the encoding of a saturating field.  The encoder has it for the
rates of `Encodable`: those that round into the field, and those whose rounded
value ends in 24 ones by chance.
-/

namespace Uac2

open FixedPoint
open Frames (le32)

namespace UsbIsochronousFeedback

/-- The largest 10.14 number. -/
def top_10_14 : Nat := 16777215

/-- The number in the three bytes. -/
def field_10_14 (fb : UsbIsochronousFeedback) : Nat := ofBytes fb.toBytes_10_14

/-- The rate is rounded without overflow, and the three bytes are the rounded rate or
the largest 10.14 number when that is less. -/
structure Saturates (fb : UsbIsochronousFeedback) : Prop where
  no_overflow : fb.v.toNat + 2 < UInt32.size
  field_eq : fb.field_10_14 = saturate top_10_14 (roundDiv 4 fb.v.toNat)

/-- The rate is below 1024 by more than half a step.  Or it is not at the end of
the 32 bits, and the low bits of its upward rounding are ones. -/
def Encodable (fb : UsbIsochronousFeedback) : Prop :=
  fb.v.toNat + 2 < 67108864 ∨
    (fb.v.toNat + 2 < 4294967296 ∧ 67108860 ≤ (fb.v.toNat + 2) % 67108864)

/-- The shift rounds, as long as the addition does not overflow. -/
theorem toNat_toU32_10_14 {fb : UsbIsochronousFeedback} (h : fb.v.toNat + 2 < UInt32.size) :
    fb.toU32_10_14.toNat = roundDiv 4 fb.v.toNat := by
  have hadd : (fb.v + 2).toNat = fb.v.toNat + 2 := by
    rw [UInt32.toNat_add]
    exact Nat.mod_eq_of_lt h
  rw [toU32_10_14, UInt32.toNat_shiftRight, hadd, Nat.shiftRight_eq_div_pow]
  rfl

theorem ofBytes_le32_take (n : UInt32) : ofBytes ((le32 n).take 3) = n.toNat % 16777216 := by
  have htake : (le32 n).take 3 = [n.toUInt8, (n >>> 8).toUInt8, (n >>> 16).toUInt8] := rfl
  rw [htake, ofBytes_cons, ofBytes_cons, ofBytes_cons, ofBytes_nil]
  simp only [UInt32.toNat_toUInt8, UInt32.toNat_shiftRight, Nat.shiftRight_eq_div_pow]
  simp
  omega

/-- The three bytes are the low bits of the rounded rate. -/
theorem field_eq_mod {fb : UsbIsochronousFeedback} (h : fb.v.toNat + 2 < UInt32.size) :
    fb.field_10_14 = roundDiv 4 fb.v.toNat % (top_10_14 + 1) := by
  rw [field_10_14, toBytes_10_14, ofBytes_le32_take, toNat_toU32_10_14 h]
  rfl

/-- A rate is encoded as by a saturating field exactly when it is encodable. -/
theorem saturates_iff (fb : UsbIsochronousFeedback) : fb.Saturates ↔ fb.Encodable := by
  have hsize : UInt32.size = 4294967296 := rfl
  have hround : roundDiv 4 fb.v.toNat = (fb.v.toNat + 2) / 4 := rfl
  have htop : top_10_14 = 16777215 := rfl
  constructor
  · rintro ⟨hfit, hfield⟩
    rw [field_eq_mod hfit, mod_eq_saturate_iff, hround, htop] at hfield
    rw [Encodable]
    omega
  · intro h
    rw [Encodable] at h
    have hfit : fb.v.toNat + 2 < UInt32.size := by omega
    refine ⟨hfit, ?_⟩
    rw [field_eq_mod hfit, mod_eq_saturate_iff, hround, htop]
    omega

/-! ## What follows from saturation -/

theorem Saturates.mono {fb fb' : UsbIsochronousFeedback} (h : fb.Saturates) (h' : fb'.Saturates)
    (hle : fb.v ≤ fb'.v) : fb.field_10_14 ≤ fb'.field_10_14 := by
  rw [h.field_eq, h'.field_eq]
  exact saturate_mono (roundDiv_mono (UInt32.le_iff_toNat_le.mp hle))

/-- A rate in range is off by at most half a step of four. -/
theorem Saturates.near {fb : UsbIsochronousFeedback} (h : fb.Saturates)
    (hrange : roundDiv 4 fb.v.toNat ≤ top_10_14) :
    4 * fb.field_10_14 ≤ fb.v.toNat + 2 ∧ fb.v.toNat ≤ 4 * fb.field_10_14 + 2 := by
  rw [h.field_eq, saturate_of_le hrange]
  exact ⟨mul_roundDiv_le 4 fb.v.toNat, le_mul_roundDiv (by decide)⟩

/-- A rate above the range is encoded as the largest one. -/
theorem Saturates.above {fb : UsbIsochronousFeedback} (h : fb.Saturates)
    (hrange : top_10_14 ≤ roundDiv 4 fb.v.toNat) : fb.field_10_14 = top_10_14 := by
  rw [h.field_eq, saturate_of_ge hrange]

/-- What a full-speed encoding that saturates promises of one rate: the encoding, and
its order, its error and its end. -/
structure FaithfulAtFullSpeed (fb : UsbIsochronousFeedback) : Prop extends Saturates fb where
  mono : ∀ fb' : UsbIsochronousFeedback, fb'.Saturates → fb.v ≤ fb'.v →
    fb.field_10_14 ≤ fb'.field_10_14
  near : roundDiv 4 fb.v.toNat ≤ top_10_14 →
    4 * fb.field_10_14 ≤ fb.v.toNat + 2 ∧ fb.v.toNat ≤ 4 * fb.field_10_14 + 2
  above : top_10_14 ≤ roundDiv 4 fb.v.toNat → fb.field_10_14 = top_10_14

/-- The full-speed encoding of a rate keeps all of this exactly when the rate is
encodable. -/
theorem faithful_iff_encodable (fb : UsbIsochronousFeedback) :
    fb.FaithfulAtFullSpeed ↔ fb.Encodable := by
  constructor
  · intro h
    exact (saturates_iff fb).mp h.toSaturates
  · intro h
    have hsat := (saturates_iff fb).mpr h
    exact ⟨hsat, fun _ hsat' hle => hsat.mono hsat' hle, hsat.near, hsat.above⟩

/-- 1024 samples in a packet are sent as zero, as is the first rate that rounds up to
1024, and the largest rate overflows. -/
theorem rate_above_range_wraps :
    (newFrac 1024 0).toBytes_10_14 = [0, 0, 0] ∧
    saturate top_10_14 (roundDiv 4 (newFrac 1024 0).v.toNat) = 16777215 ∧
    (newFrac 1023 65534).toBytes_10_14 = [0, 0, 0] ∧
    ¬ (newFrac 65535 65535).v.toNat + 2 < UInt32.size ∧
    ¬ (newFrac 1024 0).FaithfulAtFullSpeed := by
  refine ⟨by decide, by decide, by decide, by decide, fun h => ?_⟩
  exact absurd h.field_eq (by decide)

end UsbIsochronousFeedback

end Uac2
