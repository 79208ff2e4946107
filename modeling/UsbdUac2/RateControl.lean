import UsbdUac2.Handler
import UsbdUac2.Lib.Proportional
import UsbdUac2.Lib.Signed
import Mathlib.Algebra.Order.Group.Int

/-!
# The feedback of the examples

Both examples regulate the rate of the host by how full their buffer is.  They count
in `i32`, and the arithmetic wraps around.

`InterruptAudio.feedback` cuts the error before it is scaled.  No product overflows,
and the function is a proportional controller for every state of the counters.
`DmaAudio.feedback` scales the error first.  It is a proportional controller as long
as the product fits.  At full speed the product does not fit when the fill is off by
a third of the target or more, and `fullSpeed_opposes_iff` says for which fills the
rate then moves the wrong way.  `feedback_bounded` says for which nominal rates its
bounds are out of order, so that `clamp` panics.
-/

namespace Uac2

open Proportional (Controller)
open Signed

namespace UsbIsochronousFeedback

/-- `UsbIsochronousFeedback::new`. -/
def new (v : UInt32) : UsbIsochronousFeedback := ⟨v⟩

/-- The whole samples, and the fraction. -/
def parts (fb : UsbIsochronousFeedback) : UInt16 × UInt16 :=
  ((fb.v >>> 16).toUInt16, (fb.v &&& 0xffff).toUInt16)

theorem toNat_parts_fst (fb : UsbIsochronousFeedback) :
    fb.parts.1.toNat = fb.v.toNat / 65536 := by
  have hlt := fb.v.toNat_lt
  have hdiv : fb.v.toNat / 65536 < 65536 := by omega
  have hparts : fb.parts.1.toNat = fb.v.toNat >>> 16 % 65536 := by
    simp [parts, UInt32.toNat_toUInt16]
  rw [hparts, Nat.shiftRight_eq_div_pow]
  exact Nat.mod_eq_of_lt hdiv

end UsbIsochronousFeedback

/-! ## The interrupt example -/

namespace InterruptAudio

/-- The frames in the queue, from the two byte counters. -/
def fill (produced consumed : UInt32) : Int32 := (produced - consumed).toInt32 / 8

/-- `none` is a panic. -/
def feedback (produced consumed : UInt32) (nominalRate : UsbIsochronousFeedback) :
    Option UsbIsochronousFeedback := do
  let target : Int32 := 256 / 2
  let error := fill produced consumed - target
  let i := nominalRate.parts.1.toUInt32.toInt32
  let error ← clamp error (-(i * 4)) (i * 4)
  let p := error <<< 8
  let correction := -p
  let nominalV := nominalRate.toU32_12_13.toInt32
  let v := nominalV + correction
  let v ← clamp v (nominalV - (1 : Int32) <<< 14) (nominalV + (1 : Int32) <<< 14)
  return .new v.toUInt32

/-- The controller at a nominal rate: 1/256 sample for each frame, up to 4 frames for
each sample of the nominal rate, and up to a quarter of a sample. -/
def controller (n : Nat) : Controller Int where
  target := 128
  nominal := n
  deviation := 16384
  correction error := 256 * max (-(4 * (n / 65536 : Int))) (min error (4 * (n / 65536 : Int)))
  deviation_nonneg := by decide
  correction_mono a b h := by
    show 256 * max _ (min a _) ≤ 256 * max _ (min b _)
    omega
  correction_zero := by omega

variable {produced consumed : UInt32} {nominalRate : UsbIsochronousFeedback}

/-- The fill is far from the ends of the words. -/
theorem fill_bounds (produced consumed : UInt32) :
    -268435456 ≤ (fill produced consumed).toInt ∧
      (fill produced consumed).toInt < 268435456 := by
  obtain ⟨hlo, hhi⟩ := fits_toInt (produced - consumed).toInt32
  have hdiv : (fill produced consumed).toInt = (produced - consumed).toInt32.toInt.tdiv 8 :=
    Int32.toInt_div_of_ne_right _ _ (by decide)
  rw [hdiv, tdiv_eq_ite]
  split <;> constructor <;> omega

/-- The whole samples of the nominal rate, as a signed word. -/
theorem toInt_samples (nominalRate : UsbIsochronousFeedback) :
    nominalRate.parts.1.toUInt32.toInt32.toInt = (nominalRate.v.toNat / 65536 : Int) := by
  have hlt := nominalRate.v.toNat_lt
  have hnat : nominalRate.parts.1.toUInt32.toNat = nominalRate.v.toNat / 65536 := by
    rw [UInt16.toNat_toUInt32, nominalRate.toNat_parts_fst]
  rw [toInt_toInt32 (by omega), hnat]
  exact Int.natCast_ediv _ _

/-- For all counters, the rate is the one of the controller. -/
theorem feedback_eq_respond (produced consumed : UInt32)
    (h : nominalRate.v.toNat + nominalRate.v.toNat / 64 < 2147483648) :
    ∃ fb, feedback produced consumed nominalRate = some fb ∧
      (fb.v.toNat : Int) =
        (controller nominalRate.v.toNat).respond (fill produced consumed).toInt := by
  obtain ⟨hlo, hhi⟩ := fill_bounds produced consumed
  have hi := toInt_samples nominalRate
  have hn : nominalRate.toU32_12_13.toInt32.toInt = nominalRate.v.toNat :=
    toInt_toInt32 (by rw [UsbIsochronousFeedback.toU32_12_13]; omega)
  simp only [feedback]
  generalize hfill : fill produced consumed = fill at hlo hhi ⊢
  generalize nominalRate.parts.1.toUInt32.toInt32 = i at hi ⊢
  generalize nominalRate.toU32_12_13.toInt32 = nominalV at hn ⊢
  generalize nominalRate.v.toNat = n at h hi hn ⊢
  have htarget : ((256 : Int32) / 2).toInt = 128 := rfl
  have hfour : (4 : Int32).toInt = 4 := rfl
  have hstep : ((1 : Int32) <<< 14).toInt = 16384 := rfl
  have herror : (fill - 256 / 2).toInt = fill.toInt - 128 := by
    rw [toInt_sub_of_fits (by rw [htarget]; constructor <;> omega), htarget]
  have hbound : (i * 4).toInt = 4 * (n / 65536 : Int) := by
    rw [toInt_mul_of_fits (by rw [hfour]; constructor <;> omega), hfour]
    omega
  have hneg : (-(i * 4)).toInt = -(4 * (n / 65536 : Int)) := by
    rw [toInt_neg_of_fits (by constructor <;> omega), hbound]
  obtain ⟨error, hclamp, he⟩ := clamp_eq_some (fill - 256 / 2) (-(i * 4)) (i * 4) (by omega)
  rw [hclamp]
  rw [herror, hbound, hneg] at he
  have hp : (error <<< 8).toInt = error.toInt * 256 :=
    toInt_shiftLeft_eight (by constructor <;> omega)
  have hcorrection : (-(error <<< 8)).toInt = -(error.toInt * 256) := by
    rw [toInt_neg_of_fits (by constructor <;> omega), hp]
  have hv : (nominalV + -(error <<< 8)).toInt = n - 256 * error.toInt := by
    rw [toInt_add_of_fits (by constructor <;> omega), hn, hcorrection]
    omega
  have hlower : (nominalV - (1 : Int32) <<< 14).toInt = n - 16384 := by
    rw [toInt_sub_of_fits (by constructor <;> omega), hn, hstep]
  have hupper : (nominalV + (1 : Int32) <<< 14).toInt = n + 16384 := by
    rw [toInt_add_of_fits (by constructor <;> omega), hn, hstep]
  obtain ⟨v, hv', hvalue⟩ := clamp_eq_some (nominalV + -(error <<< 8))
    (nominalV - (1 : Int32) <<< 14) (nominalV + (1 : Int32) <<< 14) (by omega)
  rw [hv, hlower, hupper] at hvalue
  refine ⟨.new v.toUInt32, ?_, ?_⟩
  · simp only [Option.bind_eq_bind, Option.bind_some, hv']
    rfl
  · have hrespond : (controller n).respond fill.toInt =
        max ((n : Int) - 16384) (min (n - 256 * error.toInt) (n + 16384)) := by
      simp only [Controller.respond, controller]
      rw [he]
    rw [hrespond, ← hvalue]
    exact toNat_of_nonneg (a := v) (by omega)

/-- The rate stays within 1/64 of the nominal one and within a quarter of a sample, and
moves against the fill. -/
theorem feedback_regulates (produced consumed : UInt32)
    (h : nominalRate.v.toNat + nominalRate.v.toNat / 64 < 2147483648) :
    ∃ fb, feedback produced consumed nominalRate = some fb ∧
      nominalRate.v.toNat - min 16384 (nominalRate.v.toNat / 64) ≤ fb.v.toNat ∧
      fb.v.toNat ≤ nominalRate.v.toNat + min 16384 (nominalRate.v.toNat / 64) ∧
      (128 ≤ (fill produced consumed).toInt → fb.v.toNat ≤ nominalRate.v.toNat) ∧
      ((fill produced consumed).toInt ≤ 128 → nominalRate.v.toNat ≤ fb.v.toNat) := by
  obtain ⟨fb, hfb, hv⟩ := feedback_eq_respond produced consumed h
  obtain ⟨hlower, hupper⟩ := (controller nominalRate.v.toNat).respond_mem
    (fill produced consumed).toInt
  obtain ⟨hlower', hupper'⟩ := (controller nominalRate.v.toNat).respond_near
    (m := (fill produced consumed).toInt) (d := nominalRate.v.toNat / 64) (by omega)
    (by simp only [controller]; omega) (by simp only [controller]; omega)
  have hn : (controller nominalRate.v.toNat).nominal = nominalRate.v.toNat := rfl
  have hd : (controller nominalRate.v.toNat).deviation = 16384 := rfl
  rw [← hv, hn] at hlower hupper hlower' hupper'
  rw [hd] at hlower hupper
  refine ⟨fb, hfb, by omega, by omega, fun hge => ?_, fun hle => ?_⟩
  · have hmove := (controller nominalRate.v.toNat).respond_le hge
    rw [← hv, hn] at hmove
    omega
  · have hmove := (controller nominalRate.v.toNat).le_respond hle
    rw [← hv, hn] at hmove
    omega

end InterruptAudio

/-! ## The DMA example -/

namespace DmaAudio

/-- Half of the ring. -/
def fillTargetBytes : Int32 := 384 * 8 / 2

/-- The distance from the target, in thousandths of it. -/
def errorPermille (currentBytes : Int32) : Int32 :=
  ((currentBytes - fillTargetBytes) * 1000) / fillTargetBytes

/-- The rate is not regulated while nothing is played, and not after an underrun. -/
def Regulating (running : Bool) (producedBytes consumedBytes : UInt32) : Prop :=
  running = true ∧ consumedBytes ≤ producedBytes ∧ producedBytes ≠ 0

/-- `none` is a panic. -/
def feedback (running : Bool) (producedBytes consumedBytes : UInt32)
    (nominalRate : UsbIsochronousFeedback) : Option UsbIsochronousFeedback :=
  if !running then some nominalRate
  else if producedBytes < consumedBytes ∨ producedBytes = 0 then some nominalRate
  else do
    let currentBytes := (producedBytes - consumedBytes).toInt32
    let errorPermille := errorPermille currentBytes
    let nominalV := nominalRate.toU32_12_13.toInt32
    let maxAllowedDeviation := nominalV / 500
    let pTerm := (-(errorPermille * nominalV)) / 256000
    let iTerm := 0
    let v := nominalV + pTerm + iTerm
    let v ← clamp v (nominalV - maxAllowedDeviation) (nominalV + maxAllowedDeviation)
    return .new v.toUInt32

variable {running : Bool} {producedBytes consumedBytes : UInt32}
  {nominalRate : UsbIsochronousFeedback}

theorem feedback_of_not_regulating (h : ¬Regulating running producedBytes consumedBytes)
    (nominalRate : UsbIsochronousFeedback) :
    feedback running producedBytes consumedBytes nominalRate = some nominalRate := by
  cases running with
  | false => rfl
  | true =>
      have hunderrun : producedBytes < consumedBytes ∨ producedBytes = 0 := by
        rw [Regulating] at h
        by_contra hnot
        rw [not_or, UInt32.not_lt] at hnot
        exact h ⟨rfl, hnot⟩
      rw [feedback, if_pos hunderrun]
      rfl

/-- The correction that is added to the nominal rate `n` at an error. -/
def correction (error : Int) (n : Nat) : Int := ((-(error * n)).bmod 4294967296).tdiv 256000

/-- The branch that regulates. -/
theorem feedback_regulating (nominalRate : UsbIsochronousFeedback)
    (h : Regulating running producedBytes consumedBytes)
    (hn : nominalRate.v.toNat + nominalRate.v.toNat / 500 < 2147483648) :
    ∃ fb, feedback running producedBytes consumedBytes nominalRate = some fb ∧
      (fb.v.toNat : Int) =
        max (nominalRate.v.toNat - (nominalRate.v.toNat / 500 : Int))
          (min (nominalRate.v.toNat +
              correction (errorPermille (producedBytes - consumedBytes).toInt32).toInt
                nominalRate.v.toNat)
            (nominalRate.v.toNat + (nominalRate.v.toNat / 500 : Int))) := by
  obtain ⟨rfl, hle, hpos⟩ := h
  have hunderrun : ¬(producedBytes < consumedBytes ∨ producedBytes = 0) := by
    rw [not_or, UInt32.not_lt]
    exact ⟨hle, hpos⟩
  have hV : nominalRate.toU32_12_13.toInt32.toInt = nominalRate.v.toNat :=
    toInt_toInt32 (by rw [UsbIsochronousFeedback.toU32_12_13]; omega)
  rw [feedback, if_neg (by decide), if_neg hunderrun]
  dsimp only
  generalize errorPermille (producedBytes - consumedBytes).toInt32 = error
  generalize nominalRate.toU32_12_13.toInt32 = nominalV at hV ⊢
  generalize nominalRate.v.toNat = n at hn hV ⊢
  have hd : (nominalV / 500).toInt = (n / 500 : Int) := by
    rw [Int32.toInt_div_of_ne_right _ _ (by decide), hV]
    exact Int.tdiv_eq_ediv_of_nonneg (Int.natCast_nonneg n)
  have hp : ((-(error * nominalV)) / 256000).toInt = correction error.toInt n := by
    rw [Int32.toInt_div_of_ne_right _ _ (by decide), Int32.toInt_neg, Int32.toInt_mul,
      Int.bmod_neg_bmod, hV, correction]
    rfl
  have hsmall : -8389 ≤ correction error.toInt n ∧ correction error.toInt n ≤ 8389 := by
    have hfits : Fits ((-(error.toInt * n)).bmod 4294967296) := by
      have h := fits_toInt (-(error * nominalV))
      rw [Int32.toInt_neg, Int32.toInt_mul, Int.bmod_neg_bmod, hV] at h
      exact h
    obtain ⟨hlo, hhi⟩ := hfits
    rw [correction, tdiv_eq_ite]
    split <;> constructor <;> omega
  have hzero : (0 : Int32).toInt = 0 := rfl
  have hsum : (nominalV + (-(error * nominalV)) / 256000 + 0).toInt =
      n + correction error.toInt n := by
    rw [Int32.add_zero, toInt_add_of_fits (by constructor <;> omega), hV, hp]
  have hlower : (nominalV - nominalV / 500).toInt = n - (n / 500 : Int) := by
    rw [toInt_sub_of_fits (by constructor <;> omega), hV, hd]
  have hupper : (nominalV + nominalV / 500).toInt = n + (n / 500 : Int) := by
    rw [toInt_add_of_fits (by constructor <;> omega), hV, hd]
  obtain ⟨v, hclamp, hv⟩ := clamp_eq_some (nominalV + (-(error * nominalV)) / 256000 + 0)
    (nominalV - nominalV / 500) (nominalV + nominalV / 500) (by omega)
  rw [hsum, hlower, hupper] at hv
  refine ⟨.new v.toUInt32, ?_, ?_⟩
  · rw [hclamp]
    rfl
  · rw [← hv]
    exact toNat_of_nonneg (a := v) (by omega)

/-- The bounds of a nominal rate, as signed words, are not in order.  Below 2^31 the upper
bound overflows.  From 2^31 on the rate is a negative number `-m`, and its deviation is
negative too: the bounds change places, unless the deviation is zero or the upper bound
overflows as well. -/
def CrossedBounds (n : Nat) : Prop :=
  (n < 2147483648 ∧ 2147483648 ≤ n + n / 500) ∨
    (2147483648 ≤ n ∧ 500 ≤ 4294967296 - n ∧
      4294967296 - n + (4294967296 - n) / 500 ≤ 2147483648)

instance (n : Nat) : Decidable (CrossedBounds n) := inferInstanceAs (Decidable (_ ∨ _))

theorem crossed_iff (n : UInt32) :
    (n.toInt32 + n.toInt32 / 500).toInt < (n.toInt32 - n.toInt32 / 500).toInt ↔
      CrossedBounds n.toNat := by
  have hlt : n.toNat < 4294967296 := n.toNat_lt
  have hd : (n.toInt32 / 500).toInt = n.toInt32.toInt.tdiv 500 :=
    Int32.toInt_div_of_ne_right _ _ (by decide)
  rw [CrossedBounds]
  rcases Nat.lt_or_ge n.toNat 2147483648 with hn | hn
  · rw [toInt_toInt32 hn, Int.tdiv_eq_ediv_of_nonneg (Int.natCast_nonneg _)] at hd
    have hlower : (n.toInt32 - n.toInt32 / 500).toInt = n.toNat - (n.toNat / 500 : Int) := by
      rw [toInt_sub_of_fits (by rw [toInt_toInt32 hn, hd]; constructor <;> omega),
        toInt_toInt32 hn, hd]
    rcases Nat.lt_or_ge (n.toNat + n.toNat / 500) 2147483648 with hfit | hover
    · have hupper : (n.toInt32 + n.toInt32 / 500).toInt = n.toNat + (n.toNat / 500 : Int) := by
        rw [toInt_add_of_fits (by rw [toInt_toInt32 hn, hd]; constructor <;> omega),
          toInt_toInt32 hn, hd]
      omega
    · have hupper : (n.toInt32 + n.toInt32 / 500).toInt =
          n.toNat + (n.toNat / 500 : Int) - 4294967296 := by
        rw [Int32.toInt_add, toInt_toInt32 hn, hd]
        exact bmod_of_overflow (by omega) (by omega)
      omega
  · obtain ⟨m, hm⟩ : ∃ m, 4294967296 - n.toNat = m := ⟨_, rfl⟩
    have hneg : n.toInt32.toInt = -m := by
      rw [toInt_toInt32_of_ge hn]
      omega
    rw [hneg, Int.neg_tdiv, Int.tdiv_eq_ediv_of_nonneg (Int.natCast_nonneg m)] at hd
    have hlower : (n.toInt32 - n.toInt32 / 500).toInt = -m + (m / 500 : Int) := by
      rw [toInt_sub_of_fits (by rw [hneg, hd]; constructor <;> omega), hneg, hd]
      omega
    rw [hm]
    rcases Nat.lt_or_ge 2147483648 (m + m / 500) with hover | hfit
    · have hupper : (n.toInt32 + n.toInt32 / 500).toInt =
          -m - (m / 500 : Int) + 4294967296 := by
        rw [Int32.toInt_add, hneg, hd]
        exact bmod_of_underflow (by omega) (by omega)
      omega
    · have hupper : (n.toInt32 + n.toInt32 / 500).toInt = -m - (m / 500 : Int) := by
        rw [toInt_add_of_fits (by rw [hneg, hd]; constructor <;> omega), hneg, hd]
        omega
      omega

/-- A regulating handler panics exactly when the bounds cross. -/
theorem feedback_eq_none_iff (h : Regulating running producedBytes consumedBytes) :
    feedback running producedBytes consumedBytes nominalRate = none ↔
      CrossedBounds nominalRate.v.toNat := by
  obtain ⟨rfl, hle, hpos⟩ := h
  have hunderrun : ¬(producedBytes < consumedBytes ∨ producedBytes = 0) := by
    rw [not_or, UInt32.not_lt]
    exact ⟨hle, hpos⟩
  rw [feedback, if_neg (by decide), if_neg hunderrun, ← crossed_iff]
  dsimp only [UsbIsochronousFeedback.toU32_12_13]
  rw [← clamp_eq_none_iff, Option.bind_eq_bind, Option.bind_eq_none_iff]
  constructor
  · intro hnone
    cases hclamp : clamp _ _ _ with
    | none => rfl
    | some v => cases hnone v hclamp
  · intro hnone v hsome
    cases hnone.symm.trans hsome

/-- Where the upper bound does not overflow, the handler returns a rate within 0.2% of the
nominal one. -/
theorem feedback_within (running : Bool) (producedBytes consumedBytes : UInt32)
    (hn : nominalRate.v.toNat + nominalRate.v.toNat / 500 < 2147483648) :
    ∃ fb, feedback running producedBytes consumedBytes nominalRate = some fb ∧
      nominalRate.v.toNat - nominalRate.v.toNat / 500 ≤ fb.v.toNat ∧
      fb.v.toNat ≤ nominalRate.v.toNat + nominalRate.v.toNat / 500 := by
  by_cases hreg : Regulating running producedBytes consumedBytes
  · obtain ⟨fb, hfb, hv⟩ := feedback_regulating nominalRate hreg hn
    exact ⟨fb, hfb, by omega, by omega⟩
  · exact ⟨nominalRate, feedback_of_not_regulating hreg nominalRate, Nat.sub_le _ _,
      Nat.le_add_right _ _⟩

/-- The handler panics exactly when it regulates at a nominal rate whose bounds cross.  Below
2^31, what it returns is within 0.2% of the nominal rate, whatever the counters are. -/
theorem feedback_bounded (running : Bool) (producedBytes consumedBytes : UInt32)
    (nominalRate : UsbIsochronousFeedback) :
    (feedback running producedBytes consumedBytes nominalRate = none ↔
      Regulating running producedBytes consumedBytes ∧ CrossedBounds nominalRate.v.toNat) ∧
    (nominalRate.v.toNat < 2147483648 → ∀ {fb},
      feedback running producedBytes consumedBytes nominalRate = some fb →
        nominalRate.v.toNat - nominalRate.v.toNat / 500 ≤ fb.v.toNat ∧
          fb.v.toNat ≤ nominalRate.v.toNat + nominalRate.v.toNat / 500) := by
  by_cases hreg : Regulating running producedBytes consumedBytes
  · refine ⟨by rw [feedback_eq_none_iff hreg, and_iff_right hreg], fun hsign fb hfb => ?_⟩
    have hcross : ¬CrossedBounds nominalRate.v.toNat := by
      rw [← feedback_eq_none_iff hreg, hfb]
      exact nofun
    rw [CrossedBounds] at hcross
    obtain ⟨fb', hfb', hwithin⟩ := feedback_within running producedBytes consumedBytes
      (show nominalRate.v.toNat + nominalRate.v.toNat / 500 < 2147483648 by omega)
    cases hfb.symm.trans hfb'
    exact hwithin
  · rw [feedback_of_not_regulating hreg]
    refine ⟨⟨nofun, fun h => absurd h.1 hreg⟩, fun _ fb hfb => ?_⟩
    cases hfb
    omega

/-- At 12 samples in a packet a rate is returned.  At 37500 the handler panics, and at 32768,
where the upper bound wraps around, it does not. -/
theorem feedback_bounded_highSpeed :
    feedback true 6000 4000 (.newFrac 12 0) ≠ none ∧
      feedback true 6000 4000 (.newFrac 37500 0) = none ∧
      feedback true 6000 4000 (.newFrac 32768 0) ≠ none := by
  have hregulating : Regulating true 6000 4000 := ⟨rfl, by decide, by decide⟩
  refine ⟨fun hnone => ?_, ?_, fun hnone => ?_⟩
  · exact absurd ((feedback_bounded true 6000 4000 _).1.mp hnone).2 (by decide)
  · exact (feedback_bounded true 6000 4000 _).1.mpr ⟨hregulating, by decide⟩
  · exact absurd ((feedback_bounded true 6000 4000 _).1.mp hnone).2 (by decide)

/-! ### The direction of the rate -/

/-- The error of a fill. -/
def permille (fill : Nat) : Int := ((fill - 1536) * 1000 : Int).tdiv 1536

theorem toInt_errorPermille {currentBytes : UInt32} (h : currentBytes.toNat ≤ 2147483) :
    (errorPermille currentBytes.toInt32).toInt = permille currentBytes.toNat := by
  have hfill : currentBytes.toInt32.toInt = currentBytes.toNat := toInt_toInt32 (by omega)
  have htarget : fillTargetBytes.toInt = 1536 := rfl
  have hthousand : (1000 : Int32).toInt = 1000 := rfl
  have hsub : (currentBytes.toInt32 - fillTargetBytes).toInt = currentBytes.toNat - 1536 := by
    rw [toInt_sub_of_fits (by constructor <;> omega), hfill, htarget]
  rw [errorPermille, Int32.toInt_div_of_ne_right _ _ (by decide),
    toInt_mul_of_fits (by rw [hsub, hthousand]; constructor <;> omega), hsub, htarget,
    hthousand, permille]

/-- The error is at most the target, either way. -/
theorem permille_bounds {fill : Nat} (h : fill ≤ 3072) :
    -1000 ≤ permille fill ∧ permille fill ≤ 1000 := by
  rw [permille, tdiv_eq_ite]
  split <;> constructor <;> omega

/-- The controller at a nominal rate. -/
def controller (n : Nat) : Controller Int where
  target := 1536
  nominal := n
  deviation := n / 500
  correction error := ((error * 1000).tdiv 1536 * n).tdiv 256000
  deviation_nonneg := by omega
  correction_mono a b h := by
    refine Int.tdiv_le_tdiv (by decide) (Int.mul_le_mul_of_nonneg_right ?_ (Int.natCast_nonneg n))
    exact Int.tdiv_le_tdiv (by decide) (Int.mul_le_mul_of_nonneg_right h (by decide))
  correction_zero := by
    rw [Int.zero_mul, Int.zero_tdiv, Int.zero_mul, Int.zero_tdiv]

/-- The fill that a regulating handler sees. -/
theorem toNat_fill (h : Regulating running producedBytes consumedBytes) :
    (producedBytes - consumedBytes).toNat = producedBytes.toNat - consumedBytes.toNat :=
  UInt32.toNat_sub_of_le _ _ h.2.1

/-- For every fill of the ring, the rate is the one of the controller when the product of
the error and the nominal rate fits. -/
theorem feedback_eq_respond (h : Regulating running producedBytes consumedBytes)
    (hfill : producedBytes.toNat - consumedBytes.toNat ≤ 3072)
    (hn : nominalRate.v.toNat * 1000 < 2147483648) :
    ∃ fb, feedback running producedBytes consumedBytes nominalRate = some fb ∧
      (fb.v.toNat : Int) = (controller nominalRate.v.toNat).respond
        ((producedBytes.toNat - consumedBytes.toNat : Nat) : Int) := by
  obtain ⟨fb, hfb, hv⟩ := feedback_regulating nominalRate h (by omega)
  refine ⟨fb, hfb, ?_⟩
  rw [toInt_errorPermille (by rw [toNat_fill h]; omega), toNat_fill h] at hv
  generalize producedBytes.toNat - consumedBytes.toNat = fill at hfill hv ⊢
  generalize nominalRate.v.toNat = n at hn hv ⊢
  obtain ⟨hlo, hhi⟩ := permille_bounds hfill
  have hfits : Fits (-(permille fill * n)) := by
    have hupper : permille fill * n ≤ 1000 * n :=
      Int.mul_le_mul_of_nonneg_right hhi (Int.natCast_nonneg n)
    have hlower : -1000 * (n : Int) ≤ permille fill * n :=
      Int.mul_le_mul_of_nonneg_right hlo (Int.natCast_nonneg n)
    constructor <;> omega
  have hcorrection : correction (permille fill) n = -((permille fill * n).tdiv 256000) := by
    rw [correction, bmod_of_fits hfits, Int.neg_tdiv]
  rw [hv, hcorrection]
  rfl

/-- The rate moves against the distance of a fill from the target, or not at all. -/
structure Opposes (fill : Nat) (nominalRate rate : UsbIsochronousFeedback) : Prop where
  above : 1536 ≤ fill → rate.v.toNat ≤ nominalRate.v.toNat
  below : fill ≤ 1536 → nominalRate.v.toNat ≤ rate.v.toNat

/-- Up to 32 samples in a packet, the rate opposes every fill of the ring. -/
theorem feedback_opposes (h : Regulating running producedBytes consumedBytes)
    (hfill : producedBytes.toNat - consumedBytes.toNat ≤ 3072)
    (hn : nominalRate.v.toNat * 1000 < 2147483648) :
    ∃ fb, feedback running producedBytes consumedBytes nominalRate = some fb ∧
      Opposes (producedBytes.toNat - consumedBytes.toNat) nominalRate fb := by
  obtain ⟨fb, hfb, hv⟩ := feedback_eq_respond h hfill hn
  have hnominal : (controller nominalRate.v.toNat).nominal = nominalRate.v.toNat := rfl
  refine ⟨fb, hfb, fun hge => ?_, fun hle => ?_⟩
  · have hmove := (controller nominalRate.v.toNat).respond_le (Int.ofNat_le.mpr hge)
    rw [← hv, hnominal] at hmove
    omega
  · have hmove := (controller nominalRate.v.toNat).le_respond (Int.ofNat_le.mpr hle)
    rw [← hv, hnominal] at hmove
    omega

/-- The nominal rate at full speed. -/
def fullSpeed : UsbIsochronousFeedback := .newFrac 96 0

/-- The distance of a fill from the target. -/
def distance (fill : Nat) : Nat := (fill - 1536) + (1536 - fill)

/-- The correction at full speed has the sign of the error where the product turns over
once and stays in the first half of the turn. -/
theorem correction_fullSpeed {error : Int} (hlo : -1000 ≤ error) (hhi : error ≤ 1000) :
    (0 < correction error 6291456 ↔
      (-341 ≤ error ∧ error < 0) ∨ error ≤ -683 ∨ (342 ≤ error ∧ error ≤ 682)) ∧
    (correction error 6291456 < 0 ↔
      (0 < error ∧ error ≤ 341) ∨ 683 ≤ error ∨ (-682 ≤ error ∧ error ≤ -342)) := by
  rw [correction]
  rcases Int.lt_or_le error (-341) with hneg | hneg
  · rw [bmod_of_overflow (by omega) (by omega), tdiv_eq_ite]
    split <;> omega
  · rcases Int.lt_or_le 341 error with hpos | hpos
    · rw [bmod_of_underflow (by omega) (by omega), tdiv_eq_ite]
      split <;> omega
    · rw [bmod_of_fits (by constructor <;> omega), tdiv_eq_ite]
      split <;> omega

/-- At full speed the product of the error and the nominal rate overflows.  Among the
fills of the ring, the rate opposes those that are less than a third of the target
away from it, or more than two thirds. -/
theorem fullSpeed_opposes_iff {running : Bool} (producedBytes consumedBytes : UInt32)
    (h : Regulating running producedBytes consumedBytes)
    (hfill : producedBytes.toNat - consumedBytes.toNat ≤ 3072) :
    ∃ fb, feedback running producedBytes consumedBytes fullSpeed = some fb ∧
      (Opposes (producedBytes.toNat - consumedBytes.toNat) fullSpeed fb ↔
        distance (producedBytes.toNat - consumedBytes.toNat) ≤ 525 ∨
          1050 ≤ distance (producedBytes.toNat - consumedBytes.toNat)) := by
  have hn : fullSpeed.v.toNat = 6291456 := by decide
  obtain ⟨fb, hfb, hv⟩ := feedback_regulating fullSpeed h (by rw [hn]; decide)
  refine ⟨fb, hfb, ?_⟩
  rw [toInt_errorPermille (by rw [toNat_fill h]; omega), toNat_fill h, hn] at hv
  generalize producedBytes.toNat - consumedBytes.toNat = fill at hfill hv ⊢
  obtain ⟨hlo, hhi⟩ := permille_bounds hfill
  obtain ⟨hup, hdown⟩ := correction_fullSpeed hlo hhi
  have hopposes : Opposes fill fullSpeed fb ↔
      (1536 ≤ fill → ¬0 < correction (permille fill) 6291456) ∧
        (fill ≤ 1536 → ¬correction (permille fill) 6291456 < 0) := by
    constructor
    · rintro ⟨habove, hbelow⟩
      rw [hn] at habove hbelow
      exact ⟨fun hge => by have h := habove hge; omega, fun hle => by have h := hbelow hle; omega⟩
    · rintro ⟨habove, hbelow⟩
      refine ⟨fun hge => ?_, fun hle => ?_⟩
      · have h := habove hge
        rw [hn]
        omega
      · have h := hbelow hle
        rw [hn]
        omega
  rw [hopposes, hup, hdown, distance, permille, tdiv_eq_ite]
  split <;> omega

/-- A ring that is three quarters full asks for more. -/
theorem fullSpeed_opposes_not : ∃ fb, feedback true 6304 4000 fullSpeed = some fb ∧
    ¬Opposes 2304 fullSpeed fb := by
  obtain ⟨fb, hfb, hiff⟩ := fullSpeed_opposes_iff 6304 4000 (show Regulating true 6304 4000 from
    ⟨rfl, by decide, by decide⟩) (by decide)
  refine ⟨fb, hfb, fun h => ?_⟩
  exact absurd (hiff.mp h) (by decide)

end DmaAudio

end Uac2
