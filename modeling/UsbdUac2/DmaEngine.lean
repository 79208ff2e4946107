import UsbdUac2.DmaRing
import UsbdUac2.Lib.FixedPoint

/-!
# The descriptors and the DMA channel

`init_descriptors` lays a ring of transfer descriptors over the slots.  A channel
works through a descriptor word by word and then loads the next one.  What a
descriptor makes it read follows the manual of the controller: the transfer count
field is one less than the number of words, and the source address is that of
the last word.

The count field has ten bits, and the encoder masks the count.  So a descriptor
covers its slot exactly when the slot is made of whole words and not of too many
(`covers_iff`).
-/

namespace Uac2

open Circular (next overwrite)

/-! ## The transfer configuration -/

/-- `u32::saturating_sub`. -/
def saturatingSub (a b : UInt32) : UInt32 := if b ≤ a then a - b else 0

/-- The code of a width. -/
def widthCode (widthBytes : UInt32) : UInt32 :=
  if widthBytes = 1 then 0
  else if widthBytes = 2 then 1
  else if widthBytes = 4 then 2
  else 0

def encodeXfercfg (cfgvalid reload swtrig clrtrig inta intb : Bool)
    (widthBytes srcInc dstInc transfers : UInt32) : UInt32 :=
  let countField := saturatingSub transfers 1 &&& 0x3FF
  (cfgvalid.toUInt32 <<< 0) ||| (reload.toUInt32 <<< 1) ||| (swtrig.toUInt32 <<< 2) |||
    (clrtrig.toUInt32 <<< 3) ||| (inta.toUInt32 <<< 4) ||| (intb.toUInt32 <<< 5) |||
    ((widthCode widthBytes &&& 0x3) <<< 8) ||| ((srcInc &&& 0x3) <<< 12) |||
    ((dstInc &&& 0x3) <<< 14) ||| (countField <<< 16)

/-- The fields of a transfer configuration. -/
structure Xfercfg where
  cfgvalid : Bool
  reload : Bool
  swtrig : Bool
  clrtrig : Bool
  setinta : Bool
  setintb : Bool
  width : Nat
  srcinc : Nat
  dstinc : Nat
  xfercount : Nat
deriving DecidableEq, Repr

/-- `bits() >> 16 & 0x3ff`. -/
def xferCount (x : UInt32) : Nat := ((x >>> 16) &&& 0x3ff).toNat

/-- The fields at their places. -/
def Xfercfg.ofWord (x : UInt32) : Xfercfg where
  cfgvalid := x.toNat.testBit 0
  reload := x.toNat.testBit 1
  swtrig := x.toNat.testBit 2
  clrtrig := x.toNat.testBit 3
  setinta := x.toNat.testBit 4
  setintb := x.toNat.testBit 5
  width := ((x >>> 8) &&& 0x3).toNat
  srcinc := ((x >>> 12) &&& 0x3).toNat
  dstinc := ((x >>> 14) &&& 0x3).toNat
  xfercount := xferCount x

theorem toNat_saturatingSub (a b : UInt32) : (saturatingSub a b).toNat = a.toNat - b.toNat := by
  rw [saturatingSub]
  split
  · rename_i h
    exact UInt32.toNat_sub_of_le _ _ h
  · rename_i h
    have hlt : a.toNat < b.toNat := by
      rw [UInt32.le_iff_toNat_le] at h
      omega
    rw [Nat.sub_eq_zero_of_le hlt.le]
    rfl

theorem widthCode_lt (widthBytes : UInt32) : (widthCode widthBytes).toNat < 3 := by
  rw [widthCode]
  split
  · decide
  · split
    · decide
    · split <;> decide

/-- The word has the value `m`, which fits in its `n` low bits. -/
structure Packs (x : UInt32) (n m : Nat) : Prop where
  toNat_eq : x.toNat = m
  lt : m < 2 ^ n

/-- One more field, above the others. -/
theorem Packs.field {x v k : UInt32} {n m w t : Nat} (h : Packs x n m) (hk : n ≤ k.toNat)
    (hv : v.toNat = t) (ht : t < 2 ^ w) (hfit : k.toNat + w ≤ 32) (hpos : 0 < w) :
    Packs (x ||| v <<< k) (k.toNat + w) (m + t * 2 ^ k.toNat) := by
  have hm : m < 2 ^ k.toNat := h.lt.trans_le (Nat.pow_le_pow_right (by decide) hk)
  have hlt : m + t * 2 ^ k.toNat < 2 ^ (k.toNat + w) := by
    calc m + t * 2 ^ k.toNat < 2 ^ k.toNat + t * 2 ^ k.toNat := Nat.add_lt_add_right hm _
      _ = (t + 1) * 2 ^ k.toNat := by rw [Nat.succ_mul, Nat.add_comm]
      _ ≤ 2 ^ w * 2 ^ k.toNat := Nat.mul_le_mul_right _ ht
      _ = 2 ^ (k.toNat + w) := by rw [← Nat.pow_add, Nat.add_comm]
  have hword : t * 2 ^ k.toNat < 2 ^ 32 := by
    calc t * 2 ^ k.toNat ≤ m + t * 2 ^ k.toNat := Nat.le_add_left _ _
      _ < 2 ^ (k.toNat + w) := hlt
      _ ≤ 2 ^ 32 := Nat.pow_le_pow_right (by decide) hfit
  have hshift : (v <<< k).toNat = t <<< k.toNat := by
    rw [UInt32.toNat_shiftLeft, Nat.mod_eq_of_lt (by omega : k.toNat < 32), hv, Nat.shiftLeft_eq,
      Nat.mod_eq_of_lt hword]
  refine ⟨?_, hlt⟩
  rw [UInt32.toNat_or, hshift, h.toNat_eq, FixedPoint.or_shiftLeft hm]

theorem toNat_and_three (x : UInt32) : (x &&& 0x3).toNat = x.toNat % 4 :=
  (UInt32.toNat_and x 0x3).trans (Nat.and_two_pow_sub_one_eq_mod x.toNat 2)

theorem toNat_and_1023 (x : UInt32) : (x &&& 0x3ff).toNat = x.toNat % 1024 :=
  (UInt32.toNat_and x 0x3ff).trans (Nat.and_two_pow_sub_one_eq_mod x.toNat 10)

theorem toNat_toUInt32 (b : Bool) : b.toUInt32.toNat = b.toNat := by
  cases b <;> rfl

theorem toNat_lt_two (b : Bool) : b.toNat < 2 ^ 1 := by
  cases b <;> decide

/-- The fields do not overlap. -/
theorem packs_encodeXfercfg (v r s c a b : Bool) (widthBytes srcInc dstInc transfers : UInt32) :
    Packs (encodeXfercfg v r s c a b widthBytes srcInc dstInc transfers) 26
      (v.toNat + r.toNat * 2 ^ 1 + s.toNat * 2 ^ 2 + c.toNat * 2 ^ 3 + a.toNat * 2 ^ 4 +
        b.toNat * 2 ^ 5 + (widthCode widthBytes).toNat * 2 ^ 8 + srcInc.toNat % 4 * 2 ^ 12 +
        dstInc.toNat % 4 * 2 ^ 14 + (transfers.toNat - 1) % 1024 * 2 ^ 16) := by
  have hwidth : (widthCode widthBytes &&& 0x3).toNat = (widthCode widthBytes).toNat := by
    rw [toNat_and_three]
    exact Nat.mod_eq_of_lt (Nat.lt_succ_of_lt (widthCode_lt widthBytes))
  have hcount : (saturatingSub transfers 1 &&& 0x3ff).toNat = (transfers.toNat - 1) % 1024 := by
    rw [toNat_and_1023, toNat_saturatingSub]
    rfl
  have h0 : Packs (v.toUInt32 <<< 0) 1 v.toNat := by
    refine ⟨?_, toNat_lt_two v⟩
    rw [UInt32.shiftLeft_zero, toNat_toUInt32]
  have h1 := h0.field (k := 1) (by decide) (toNat_toUInt32 r) (toNat_lt_two r) (by decide)
    Nat.one_pos
  have h2 := h1.field (k := 2) (by decide) (toNat_toUInt32 s) (toNat_lt_two s) (by decide)
    Nat.one_pos
  have h3 := h2.field (k := 3) (by decide) (toNat_toUInt32 c) (toNat_lt_two c) (by decide)
    Nat.one_pos
  have h4 := h3.field (k := 4) (by decide) (toNat_toUInt32 a) (toNat_lt_two a) (by decide)
    Nat.one_pos
  have h5 := h4.field (k := 5) (by decide) (toNat_toUInt32 b) (toNat_lt_two b) (by decide)
    Nat.one_pos
  have h6 := h5.field (k := 8) (w := 2) (by decide) hwidth
    (Nat.lt_succ_of_lt (widthCode_lt widthBytes)) (by decide) (by decide)
  have h7 := h6.field (k := 12) (w := 2) (by decide) (toNat_and_three srcInc)
    (Nat.mod_lt _ (by decide)) (by decide) (by decide)
  have h8 := h7.field (k := 14) (w := 2) (by decide) (toNat_and_three dstInc)
    (Nat.mod_lt _ (by decide)) (by decide) (by decide)
  exact h8.field (k := 16) (w := 10) (by decide) hcount (Nat.mod_lt _ (by decide)) (by decide)
    (by decide)

theorem testBit_eq_of {n k : Nat} {b : Bool} (h : n / 2 ^ k % 2 = b.toNat) : n.testBit k = b := by
  rw [Nat.testBit_eq_decide_div_mod_eq, h]
  cases b <;> rfl

/-- Each field is read back as it was given, up to the width of the field. -/
theorem ofWord_encodeXfercfg (v r s c a b : Bool) (widthBytes srcInc dstInc transfers : UInt32) :
    Xfercfg.ofWord (encodeXfercfg v r s c a b widthBytes srcInc dstInc transfers) =
      { cfgvalid := v
        reload := r
        swtrig := s
        clrtrig := c
        setinta := a
        setintb := b
        width := (widthCode widthBytes).toNat
        srcinc := srcInc.toNat % 4
        dstinc := dstInc.toNat % 4
        xfercount := (transfers.toNat - 1) % 1024 } := by
  have hx := (packs_encodeXfercfg v r s c a b widthBytes srcInc dstInc transfers).toNat_eq
  have hv := v.toNat_le
  have hr := r.toNat_le
  have hs := s.toNat_le
  have hc := c.toNat_le
  have ha := a.toNat_le
  have hb := b.toNat_le
  have hwidth := widthCode_lt widthBytes
  generalize encodeXfercfg v r s c a b widthBytes srcInc dstInc transfers = x at hx
  have hshift (k : UInt32) {n : Nat} (hk : k.toNat % 32 = n) :
      (x >>> k).toNat = x.toNat / 2 ^ n := by
    rw [UInt32.toNat_shiftRight, hk, Nat.shiftRight_eq_div_pow]
  rw [Xfercfg.ofWord, xferCount, toNat_and_three, toNat_and_three, toNat_and_three, toNat_and_1023,
    hshift 8 (n := 8) rfl, hshift 12 (n := 12) rfl, hshift 14 (n := 14) rfl,
    hshift 16 (n := 16) rfl]
  simp only [Xfercfg.mk.injEq]
  refine ⟨testBit_eq_of ?_, testBit_eq_of ?_, testBit_eq_of ?_, testBit_eq_of ?_,
    testBit_eq_of ?_, testBit_eq_of ?_, ?_, ?_, ?_, ?_⟩
  all_goals
    rw [hx]
    omega

namespace DmaRing

variable {N maxSlotBytes : Nat}

/-! ## The ring of descriptors -/

/-- The same as `reset_producer`, as the last step of the setup. -/
def resetProducerInitOnly (r : DmaRing N maxSlotBytes) : DmaRing N maxSlotBytes := r.resetProducer

/-- The slots with silence in the bytes that are used. -/
def silenced (r : DmaRing N maxSlotBytes) (i : Fin N) : List UInt8 :=
  overwrite 0 (List.replicate r.slotBytes 0) (r.slots i)

theorem length_silenced (r : DmaRing N maxSlotBytes) (i : Fin N) :
    (r.silenced i).length = maxSlotBytes := by
  have hle := r.slotBytes_le
  have hslot := r.length_slots i
  rw [silenced, Circular.length_overwrite (by rw [List.length_replicate]; omega), hslot]

/-- The descriptor of a slot. -/
def descriptor (r : DmaRing N maxSlotBytes) (i : Fin N) : DmaDescriptor N where
  xfercfg := encodeXfercfg true true false false true false (UInt32.ofNat r.wordBytes) 1 0
    (UInt32.ofNat (r.slotBytes / r.wordBytes))
  srcEnd := some (i, (r.slotBytes : Int) - r.wordBytes)
  dstEnd := some r.dstReg
  next := some (next i)

/-- Fill the slots with silence, and lay the descriptors over them. -/
def initDescriptors (r : DmaRing N maxSlotBytes) : DmaRing N maxSlotBytes :=
  resetProducerInitOnly
    { r with
      slots := r.silenced
      length_slots := r.length_silenced
      desc := r.descriptor
      channelDesc := { r.descriptor ⟨0, r.pos⟩ with xfercfg := 0 } }

end DmaRing

/-! ## The channel -/

namespace DmaDescriptor

variable {N : Nat}

/-- The number of words a descriptor moves. -/
def words (d : DmaDescriptor N) : Nat := (Xfercfg.ofWord d.xfercfg).xfercount + 1

/-- The bytes of one word. -/
def wordBytes (d : DmaDescriptor N) : Nat := 2 ^ (Xfercfg.ofWord d.xfercfg).width

/-- The words the source address moves on by. -/
def stride (d : DmaDescriptor N) : Nat :=
  match (Xfercfg.ofWord d.xfercfg).srcinc with
  | 0 => 0
  | 1 => 1
  | 2 => 2
  | _ => 4

/-- `n` bytes of a slot.  Nothing is known of memory outside the slot. -/
def sliceAt (slot : List UInt8) (start : Int) (n : Nat) : Option (List UInt8) :=
  if 0 ≤ start ∧ start + n ≤ slot.length then some ((slot.drop start.toNat).take n) else none

theorem length_sliceAt {slot : List UInt8} {start : Int} {n : Nat} {bs : List UInt8}
    (h : sliceAt slot start n = some bs) : bs.length = n := by
  rw [sliceAt] at h
  split at h
  · cases h
    rw [List.length_take, List.length_drop]
    omega
  · cases h

theorem sliceAt_natCast {slot : List UInt8} {k n : Nat} (h : k + n ≤ slot.length) :
    sliceAt slot k n = some ((slot.drop k).take n) := by
  rw [sliceAt, if_pos (by omega), Int.toNat_natCast]

/-- The word number `j` of a descriptor.  The source address of the descriptor is that
of its last word. -/
def readWord (d : DmaDescriptor N) (slots : Fin N → List UInt8) (j : Nat) :
    Option (List UInt8) :=
  match d.srcEnd with
  | none => none
  | some (slot, last) =>
      sliceAt (slots slot) (last - ((d.words : Int) - 1 - j) * d.wordBytes * d.stride) d.wordBytes

/-- The first `k` words of a descriptor, in order. -/
def readWords (d : DmaDescriptor N) (slots : Fin N → List UInt8) : Nat → Option (List UInt8)
  | 0 => some []
  | k + 1 => do
      let front ← d.readWords slots k
      let word ← d.readWord slots k
      return front ++ word

/-- Everything a descriptor moves. -/
def read (d : DmaDescriptor N) (slots : Fin N → List UInt8) : Option (List UInt8) :=
  d.readWords slots d.words

theorem length_readWord {d : DmaDescriptor N} {slots : Fin N → List UInt8} {j : Nat}
    {bs : List UInt8} (h : d.readWord slots j = some bs) : bs.length = d.wordBytes := by
  rw [readWord] at h
  split at h
  · cases h
  · exact length_sliceAt h

theorem length_readWords {d : DmaDescriptor N} {slots : Fin N → List UInt8} {k : Nat}
    {bs : List UInt8} (h : d.readWords slots k = some bs) : bs.length = k * d.wordBytes := by
  induction k generalizing bs with
  | zero =>
      cases h
      exact (Nat.zero_mul _).symm
  | succ k ih =>
      simp only [readWords, Option.bind_eq_bind, Option.bind_eq_some_iff] at h
      obtain ⟨front, hfront, word, hword, h⟩ := h
      cases h
      rw [List.length_append, ih hfront, length_readWord hword, Nat.succ_mul]

end DmaDescriptor

namespace DmaRing

variable {N maxSlotBytes : Nat}

/-- The width code of a width the ring allows. -/
theorem two_pow_widthCode (r : DmaRing N maxSlotBytes) :
    2 ^ (widthCode (UInt32.ofNat r.wordBytes)).toNat = r.wordBytes := by
  have hmem := r.wordBytes_mem
  simp only [List.mem_cons, List.not_mem_nil, or_false] at hmem
  rcases hmem with h | h | h
  · rw [h]; rfl
  · rw [h]; rfl
  · rw [h]; rfl

theorem wordBytes_pos (r : DmaRing N maxSlotBytes) : 0 < r.wordBytes := by
  rw [← r.two_pow_widthCode]
  exact Nat.two_pow_pos _

theorem wordBytes_descriptor (r : DmaRing N maxSlotBytes) (i : Fin N) :
    (r.descriptor i).wordBytes = r.wordBytes := by
  rw [DmaDescriptor.wordBytes, descriptor, ofWord_encodeXfercfg]
  exact r.two_pow_widthCode

theorem stride_descriptor (r : DmaRing N maxSlotBytes) (i : Fin N) :
    (r.descriptor i).stride = 1 := by
  rw [DmaDescriptor.stride, descriptor, ofWord_encodeXfercfg]
  rfl

theorem words_descriptor (r : DmaRing N maxSlotBytes) (i : Fin N) :
    (r.descriptor i).words =
      ((r.slotBytes / r.wordBytes) % UInt32.size - 1) % 1024 + 1 := by
  rw [DmaDescriptor.words, descriptor, ofWord_encodeXfercfg]
  simp only [UInt32.toNat_ofNat']

/-! ## The position of the channel -/

/-- The result of `consumed_bytes`, at a counter and a count of the register. -/
def bytesAt (consumedStart : UInt32) (reg : UInt32) (r : DmaRing N maxSlotBytes) : UInt32 :=
  let remainingBytes := if reg = 0x3ff then 0 else (reg + 1) * UInt32.ofNat r.wordBytes
  let activeSlotConsumed := UInt32.ofNat r.slotBytes - remainingBytes
  consumedStart * UInt32.ofNat r.slotBytes + activeSlotConsumed

/-! ## Aligned slots -/

/-- The slots are made of whole words, and of no more than a descriptor can count. -/
def Aligned (r : DmaRing N maxSlotBytes) : Prop :=
  r.wordBytes ∣ r.slotBytes ∧ r.slotBytes ≤ 1024 * r.wordBytes

section

variable {r : DmaRing N maxSlotBytes}

theorem Aligned.eq_mul (h : Aligned r) : ∃ q, r.slotBytes = q * r.wordBytes ∧ 0 < q ∧ q ≤ 1024 := by
  obtain ⟨⟨q, hq⟩, hle⟩ := h
  have hpos := r.slotBytes_pos
  rw [Nat.mul_comm] at hq
  refine ⟨q, hq, ?_, ?_⟩
  · refine Nat.pos_of_ne_zero fun h0 => ?_
    rw [hq, h0, Nat.zero_mul] at hpos
    exact Nat.lt_irrefl 0 hpos
  · rw [hq] at hle
    exact Nat.le_of_mul_le_mul_right hle r.wordBytes_pos

/-- The check of the slot size leaves out what a descriptor can count. -/
theorem aligned_setSlotSize {slotBytes : Nat} {r' : DmaRing N maxSlotBytes}
    (h : r.setSlotSize slotBytes = .ok r') : r'.Aligned ↔ slotBytes ≤ 1024 * r.wordBytes := by
  obtain ⟨hslot, hword, hdvd, -⟩ := setSlotSize_eq_ok h
  rw [Aligned, hslot, hword]
  exact and_iff_right hdvd

/-- An aligned slot has as many words as the count says. -/
theorem Aligned.words_mul (h : Aligned r) (i : Fin N) :
    (r.descriptor i).words * r.wordBytes = r.slotBytes := by
  obtain ⟨q, hq, hpos, hle⟩ := h.eq_mul
  have hwords : (r.descriptor i).words = q := by
    rw [words_descriptor, hq, Nat.mul_div_cancel q r.wordBytes_pos,
      Nat.mod_eq_of_lt (show q < UInt32.size by simp only [UInt32.size]; omega)]
    omega
  rw [hwords, hq]

/-- The channel reads the words of an aligned slot from its front. -/
theorem Aligned.readWord (h : Aligned r) {slots : Fin N → List UInt8} {i : Fin N}
    (hlen : (slots i).length = maxSlotBytes) {j : Nat} (hj : j < (r.descriptor i).words) :
    (r.descriptor i).readWord slots j =
      some (((slots i).drop (j * r.wordBytes)).take r.wordBytes) := by
  have hmul := h.words_mul i
  have hmax := r.slotBytes_le
  have hword := r.wordBytes_descriptor i
  have hstride := r.stride_descriptor i
  generalize hd : (r.descriptor i).words = q at hmul hj
  obtain ⟨k, rfl⟩ : ∃ k, q = j + 1 + k := ⟨q - (j + 1), by omega⟩
  have hsplit : (j + 1 + k) * r.wordBytes = j * r.wordBytes + r.wordBytes + k * r.wordBytes := by
    rw [Nat.add_mul, Nat.succ_mul]
  have hstart : (r.slotBytes : Int) - r.wordBytes -
      (((j + 1 + k : Nat) : Int) - 1 - j) * r.wordBytes * (1 : Nat) = (j * r.wordBytes : Nat) := by
    rw [← hmul, hsplit]
    push_cast
    ring
  have hfit : j * r.wordBytes + r.wordBytes ≤ (slots i).length := by omega
  show DmaDescriptor.sliceAt (slots i) ((r.slotBytes : Int) - r.wordBytes -
    (((r.descriptor i).words : Int) - 1 - j) * (r.descriptor i).wordBytes *
      (r.descriptor i).stride) (r.descriptor i).wordBytes = _
  rw [hd, hword, hstride, hstart, DmaDescriptor.sliceAt_natCast hfit]

theorem Aligned.readWords (h : Aligned r) {slots : Fin N → List UInt8} {i : Fin N}
    (hlen : (slots i).length = maxSlotBytes) {k : Nat} (hk : k ≤ (r.descriptor i).words) :
    (r.descriptor i).readWords slots k = some ((slots i).take (k * r.wordBytes)) := by
  induction k with
  | zero => rw [Nat.zero_mul, List.take_zero, DmaDescriptor.readWords]
  | succ k ih =>
      rw [DmaDescriptor.readWords, ih (Nat.le_of_succ_le hk), h.readWord hlen hk, Nat.succ_mul,
        List.take_add]
      rfl

/-- The descriptors of the ring move exactly the slots, whatever these hold, exactly
when the slots are aligned. -/
theorem covers_iff (r : DmaRing N maxSlotBytes) :
    (∀ slots : Fin N → List UInt8, (∀ i, (slots i).length = maxSlotBytes) →
      ∀ i, (r.initDescriptors.desc i).read slots = some ((slots i).take r.slotBytes)) ↔
    r.Aligned := by
  constructor
  · intro hcovers
    have hread : (r.descriptor ⟨0, r.pos⟩).readWords (fun _ => List.replicate maxSlotBytes 0)
        (r.descriptor ⟨0, r.pos⟩).words = some _ :=
      hcovers _ (fun _ => List.length_replicate) ⟨0, r.pos⟩
    have hlen := DmaDescriptor.length_readWords hread
    rw [List.length_take, List.length_replicate, Nat.min_eq_left r.slotBytes_le,
      wordBytes_descriptor] at hlen
    refine ⟨⟨_, hlen.trans (Nat.mul_comm _ _)⟩, ?_⟩
    rw [hlen, words_descriptor]
    exact Nat.mul_le_mul_right _ (Nat.mod_lt _ (by decide))
  · intro h slots hlen i
    show (r.descriptor i).readWords slots (r.descriptor i).words = _
    rw [h.readWords (hlen i) (Nat.le_refl _), h.words_mul i]

end

end DmaRing

end Uac2
