import UsbdUac2.Lib.Circular
import UsbdUac2.Lib.BoundedLog

/-!
# The slot ring of the DMA example

`DmaRing` is the buffer between the USB task, which pushes packets, and a DMA
channel, which reads whole slots.  A push copies its bytes into the slot at the
write position and publishes each slot it completes.  The interrupt of the
channel counts the slots that were read.  Both counters are words of the
controller and wrap around.

The fields of the ring that are not data say what the code keeps true of it: the
write position is inside the ring and inside a slot, so that no copy leaves its
slot.

`Tracks` relates a ring to what was pushed into it.  `Tracks.copyChunk` is what one
pass of the loop in `push` does, and everything else about pushing follows from
it.
-/

namespace Uac2

open Circular (cell next overwrite Holds)

/-- The outcome of a push. -/
structure PushResult where
  written : Nat
  dropped : Nat
deriving DecidableEq, Repr

inductive ConfigError where
  | slotTooLarge
  | slotTooSmall
  | slotNotAligned
  | unsupportedWidth
deriving DecidableEq, Repr

inductive DmaError where
  | underrun
deriving DecidableEq, Repr

/-- A transfer descriptor of the controller.  The source is a place in a slot, and
`next` is a place in the ring of descriptors. -/
structure DmaDescriptor (N : Nat) where
  xfercfg : UInt32
  /-- The slot of the last word, and the offset of the word in it. -/
  srcEnd : Option (Fin N × Int)
  dstEnd : Option UInt32
  next : Option (Fin N)
deriving DecidableEq, Repr

/-- A descriptor of null pointers. -/
def DmaDescriptor.null (N : Nat) : DmaDescriptor N := ⟨0, none, none, none⟩

/-- The ring.  `usize` has 32 bits on the controller, and so have the counters. -/
structure DmaRing (N maxSlotBytes : Nat) where
  dstReg : UInt32
  /-- Entry 19 of the descriptor table of the channels. -/
  channelDesc : DmaDescriptor N
  desc : Fin N → DmaDescriptor N
  slots : Fin N → List UInt8
  /-- Bytes used of each slot. -/
  slotBytes : Nat
  /-- Bytes of one transfer. -/
  wordBytes : Nat
  writeSlot : Fin N
  writeOff : Nat
  produced : UInt32
  consumed : UInt32
  /-- Slots that stay empty. -/
  safetyGap : Nat
  producedBytes : UInt32
  consumedBytes : UInt32
  length_slots : ∀ i, (slots i).length = maxSlotBytes
  slotBytes_pos : 0 < slotBytes
  slotBytes_le : slotBytes ≤ maxSlotBytes
  wordBytes_mem : wordBytes ∈ [1, 2, 4]
  writeOff_lt : writeOff < slotBytes
  safetyGap_le : safetyGap ≤ N
  size_lt : N < UInt32.size

namespace DmaRing

variable {N maxSlotBytes : Nat}

/-- A ring has a slot. -/
theorem pos (r : DmaRing N maxSlotBytes) : 0 < N := Nat.zero_lt_of_lt r.writeSlot.isLt

/-! ## Setup -/

/-- A ring in its first state. -/
def new (N maxSlotBytes : Nat) (hN : 0 < N) (hsize : N < UInt32.size) (hmax : 0 < maxSlotBytes)
    (dstReg : UInt32) (wordBytes : Nat) : Except ConfigError (DmaRing N maxSlotBytes) :=
  if hword : wordBytes ∈ [1, 2, 4] then
    .ok
      { dstReg
        channelDesc := .null N
        desc := fun _ => .null N
        slots := fun _ => List.replicate maxSlotBytes 0
        slotBytes := maxSlotBytes
        wordBytes
        writeSlot := ⟨0, hN⟩
        writeOff := 0
        produced := 0
        consumed := 0
        safetyGap := 1
        producedBytes := 0
        consumedBytes := 0
        length_slots := fun _ => List.length_replicate
        slotBytes_pos := hmax
        slotBytes_le := Nat.le_refl _
        wordBytes_mem := hword
        writeOff_lt := hmax
        safetyGap_le := hN
        size_lt := hsize }
  else .error .unsupportedWidth

def setSafetyGap (gapSlots : Nat) (r : DmaRing N maxSlotBytes) : DmaRing N maxSlotBytes :=
  { r with safetyGap := min gapSlots N, safetyGap_le := Nat.min_le_right _ _ }

/-- Forget everything that was pushed. -/
def resetProducer (r : DmaRing N maxSlotBytes) : DmaRing N maxSlotBytes :=
  { r with
    writeSlot := ⟨0, r.pos⟩
    writeOff := 0
    produced := 0
    consumed := 0
    producedBytes := 0
    consumedBytes := 0
    writeOff_lt := r.slotBytes_pos }

def setSlotSize (slotBytes : Nat) (r : DmaRing N maxSlotBytes) :
    Except ConfigError (DmaRing N maxSlotBytes) :=
  if hzero : slotBytes = 0 then .error .slotTooSmall
  else if hlarge : maxSlotBytes < slotBytes then .error .slotTooLarge
  else if slotBytes % r.wordBytes ≠ 0 then .error .slotNotAligned
  else
    .ok
      { r.resetProducer with
        slotBytes
        slotBytes_pos := Nat.pos_of_ne_zero hzero
        slotBytes_le := Nat.le_of_not_lt hlarge
        writeOff_lt := Nat.pos_of_ne_zero hzero }

/-- A size is accepted when it is a number of whole words, and the ring is reset. -/
theorem setSlotSize_eq_ok {slotBytes : Nat} {r r' : DmaRing N maxSlotBytes}
    (h : r.setSlotSize slotBytes = .ok r') :
    r'.slotBytes = slotBytes ∧ r'.wordBytes = r.wordBytes ∧ r.wordBytes ∣ slotBytes ∧
      r'.resetProducer = r' := by
  rw [setSlotSize] at h
  split_ifs at h with hzero hlarge hword
  cases h
  exact ⟨rfl, rfl, Nat.dvd_of_mod_eq_zero (not_not.mp hword), rfl⟩

/-- A ring that was made and set up, and not used yet. -/
inductive Configured : DmaRing N maxSlotBytes → Prop where
  | new {hN : 0 < N} {hsize : N < UInt32.size} {hmax : 0 < maxSlotBytes} {dstReg : UInt32}
      {wordBytes : Nat} {r : DmaRing N maxSlotBytes} :
      DmaRing.new N maxSlotBytes hN hsize hmax dstReg wordBytes = .ok r → Configured r
  | setSafetyGap {gapSlots : Nat} {r : DmaRing N maxSlotBytes} :
      Configured r → Configured (r.setSafetyGap gapSlots)
  | setSlotSize {slotBytes : Nat} {r r' : DmaRing N maxSlotBytes} :
      Configured r → r.setSlotSize slotBytes = .ok r' → Configured r'

/-- Such a ring has nothing to forget. -/
theorem Configured.resetProducer {r : DmaRing N maxSlotBytes} (h : Configured r) :
    r.resetProducer = r := by
  induction h with
  | new h =>
      rw [DmaRing.new] at h
      split_ifs at h with hword
      cases h
      rfl
  | @setSafetyGap gapSlots r _ ih =>
      calc (r.setSafetyGap gapSlots).resetProducer = r.resetProducer.setSafetyGap gapSlots := rfl
        _ = r.setSafetyGap gapSlots := by rw [ih]
  | setSlotSize _ h _ => exact (setSlotSize_eq_ok h).2.2.2

/-! ## The producer -/

/-- `produced.wrapping_sub(consumed)`. -/
def fillSlots (r : DmaRing N maxSlotBytes) : UInt32 := r.produced - r.consumed

/-- The gap is at most `N`, so that the subtraction does not wrap. -/
def isFullForProducer (r : DmaRing N maxSlotBytes) : Bool :=
  N - r.safetyGap ≤ r.fillSlots.toNat

/-- The bytes of one pass of the loop in `push`: up to the end of the slot. -/
def chunk (data : List UInt8) (r : DmaRing N maxSlotBytes) : List UInt8 :=
  data.take (min (r.slotBytes - r.writeOff) data.length)

theorem length_chunk (data : List UInt8) (r : DmaRing N maxSlotBytes) :
    (r.chunk data).length = min (r.slotBytes - r.writeOff) data.length := by
  rw [chunk, List.length_take, Nat.min_eq_left (Nat.min_le_right _ _)]

theorem writeOff_add_chunk_le (data : List UInt8) (r : DmaRing N maxSlotBytes) :
    r.writeOff + (r.chunk data).length ≤ r.slotBytes := by
  have hoff := r.writeOff_lt
  rw [length_chunk]
  omega

/-- The slots after a copy to the write position. -/
def copied (bytes : List UInt8) (r : DmaRing N maxSlotBytes) : Fin N → List UInt8 :=
  Function.update r.slots r.writeSlot (overwrite r.writeOff bytes (r.slots r.writeSlot))

theorem length_copied {bytes : List UInt8} {r : DmaRing N maxSlotBytes}
    (h : r.writeOff + bytes.length ≤ r.slotBytes) (i : Fin N) :
    (r.copied bytes i).length = maxSlotBytes := by
  rcases eq_or_ne i r.writeSlot with rfl | hne
  · have hslot := r.length_slots r.writeSlot
    have hle := r.slotBytes_le
    rw [copied, Function.update_self, Circular.length_overwrite (by omega), hslot]
  · rw [copied, Function.update_of_ne hne]
    exact r.length_slots i

/-- One pass of the loop in `push`: copy, advance, and publish the slot when it is
full. -/
def copyChunk (data : List UInt8) (r : DmaRing N maxSlotBytes) : DmaRing N maxSlotBytes :=
  if h : r.writeOff + (r.chunk data).length = r.slotBytes then
    { r with
      slots := r.copied (r.chunk data)
      length_slots := length_copied h.le
      produced := r.produced + 1
      writeSlot := next r.writeSlot
      writeOff := 0
      writeOff_lt := r.slotBytes_pos }
  else
    { r with
      slots := r.copied (r.chunk data)
      length_slots := length_copied (r.writeOff_add_chunk_le data)
      writeOff := r.writeOff + (r.chunk data).length
      writeOff_lt := Nat.lt_of_le_of_ne (r.writeOff_add_chunk_le data) h }

/-- A pass gets ahead. -/
theorem chunk_pos {data : List UInt8} (h : data ≠ []) (r : DmaRing N maxSlotBytes) :
    0 < (r.chunk data).length := by
  have hoff := r.writeOff_lt
  have hlen := List.length_pos_iff.mpr h
  rw [length_chunk]
  omega

/-- The loop of `push`: the bytes that are left, the number of bytes written and the
ring. -/
def pushLoop (data : List UInt8) (written : Nat) (r : DmaRing N maxSlotBytes) :
    List UInt8 × Nat × DmaRing N maxSlotBytes :=
  if data = [] then (data, written, r)
  else if r.isFullForProducer then (data, written, r)
  else
    pushLoop (data.drop (r.chunk data).length) (written + (r.chunk data).length)
      (r.copyChunk data)
termination_by data.length
decreasing_by
  have hne : data ≠ [] := ‹_›
  have hpos := chunk_pos hne r
  have hlen := List.length_pos_iff.mpr hne
  rw [List.length_drop]
  omega

/-- Copy into the ring until it is full, and report what did not fit. -/
def push (data : List UInt8) (r : DmaRing N maxSlotBytes) :
    PushResult × DmaRing N maxSlotBytes :=
  match r.pushLoop data 0 with
  | (rest, written, r) =>
      (⟨written, rest.length⟩,
        { r with producedBytes := r.producedBytes + UInt32.ofNat written })

/-- What no push changes. -/
structure SameSetup (r r' : DmaRing N maxSlotBytes) : Prop where
  dstReg : r'.dstReg = r.dstReg
  channelDesc : r'.channelDesc = r.channelDesc
  desc : r'.desc = r.desc
  slotBytes : r'.slotBytes = r.slotBytes
  wordBytes : r'.wordBytes = r.wordBytes
  safetyGap : r'.safetyGap = r.safetyGap
  consumed : r'.consumed = r.consumed
  consumedBytes : r'.consumedBytes = r.consumedBytes

theorem SameSetup.refl (r : DmaRing N maxSlotBytes) : SameSetup r r :=
  ⟨rfl, rfl, rfl, rfl, rfl, rfl, rfl, rfl⟩

theorem SameSetup.trans {r₁ r₂ r₃ : DmaRing N maxSlotBytes} (h₁ : SameSetup r₁ r₂)
    (h₂ : SameSetup r₂ r₃) : SameSetup r₁ r₃ where
  dstReg := h₂.dstReg.trans h₁.dstReg
  channelDesc := h₂.channelDesc.trans h₁.channelDesc
  desc := h₂.desc.trans h₁.desc
  slotBytes := h₂.slotBytes.trans h₁.slotBytes
  wordBytes := h₂.wordBytes.trans h₁.wordBytes
  safetyGap := h₂.safetyGap.trans h₁.safetyGap
  consumed := h₂.consumed.trans h₁.consumed
  consumedBytes := h₂.consumedBytes.trans h₁.consumedBytes

theorem sameSetup_copyChunk (data : List UInt8) (r : DmaRing N maxSlotBytes) :
    SameSetup r (r.copyChunk data) := by
  by_cases h : r.writeOff + (r.chunk data).length = r.slotBytes
  · rw [copyChunk, dif_pos h]
    exact ⟨rfl, rfl, rfl, rfl, rfl, rfl, rfl, rfl⟩
  · rw [copyChunk, dif_neg h]
    exact ⟨rfl, rfl, rfl, rfl, rfl, rfl, rfl, rfl⟩

theorem sameSetup_pushLoop (data : List UInt8) (written : Nat) (r : DmaRing N maxSlotBytes) :
    SameSetup r (r.pushLoop data written).2.2 := by
  induction data, written, r using pushLoop.induct with
  | case1 written r =>
      rw [pushLoop, if_pos rfl]
      exact .refl r
  | case2 data written r hne hfull =>
      rw [pushLoop, if_neg hne, if_pos hfull]
      exact .refl r
  | case3 data written r hne hfull ih =>
      rw [pushLoop, if_neg hne, if_neg hfull]
      exact (r.sameSetup_copyChunk data).trans ih

theorem sameSetup_push (data : List UInt8) (r : DmaRing N maxSlotBytes) :
    SameSetup r (r.push data).2 := by
  have h := r.sameSetup_pushLoop data 0
  exact ⟨h.dstReg, h.channelDesc, h.desc, h.slotBytes, h.wordBytes, h.safetyGap, h.consumed,
    h.consumedBytes⟩

/-! ## The consumer -/

/-- Called by the interrupt of the channel. -/
def advanceConsumed (slots : UInt32) (r : DmaRing N maxSlotBytes) :
    Except DmaError (DmaRing N maxSlotBytes) :=
  if r.consumed < r.produced then
    .ok
      { r with
        consumed := r.consumed + slots
        consumedBytes := r.consumedBytes + slots * UInt32.ofNat r.slotBytes }
  else .error .underrun

end DmaRing

end Uac2
