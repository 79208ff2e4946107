import UsbdUac2.DmaRing

/-!
# Pushes into the ring

`Tracks` relates a ring to the bytes it accepted, to the number of slots it
published and to the number of slots counted as read.  The two numbers do not
wrap, and the counters of the ring are their low 32 bits.

Seen through `Tracks`, the ring is a bounded log of bytes: a push is an offer to
it.
-/

namespace Uac2

open Circular (cell next overwrite Holds)

namespace DmaRing

variable {N maxSlotBytes : Nat}

/-- The slot begins with the bytes of slot number `k`. -/
def SlotItem (slotBytes : Nat) (accepted : List UInt8) (k : Nat) (slot : List UInt8) : Prop :=
  slot.take slotBytes = (accepted.drop (k * slotBytes)).take slotBytes

/-- More bytes do not change the slots that are complete. -/
theorem SlotItem.append {slotBytes k : Nat} {accepted slot : List UInt8}
    (h : SlotItem slotBytes accepted k slot) (hle : (k + 1) * slotBytes ≤ accepted.length)
    (bytes : List UInt8) : SlotItem slotBytes (accepted ++ bytes) k slot := by
  rw [Nat.succ_mul] at hle
  rw [SlotItem, List.drop_append_of_le_length (by omega),
    List.take_append_of_le_length (by rw [List.length_drop]; omega)]
  exact h

/-- The ring accepted `accepted` since it was reset, published `P` slots, and counts
`C` of them as read. -/
structure Tracks (r : DmaRing N maxSlotBytes) (accepted : List UInt8) (P C : Nat) : Prop where
  produced_eq : r.produced = UInt32.ofNat P
  consumed_eq : r.consumed = UInt32.ofNat C
  writeSlot_eq : r.writeSlot = cell r.pos P
  length_eq : accepted.length = P * r.slotBytes + r.writeOff
  consumed_le : C ≤ P
  fill_le : P - C ≤ N - r.safetyGap
  /-- A slot that is begun fits into the ring. -/
  begun : 0 < r.writeOff → P - C < N - r.safetyGap
  full : Holds r.pos (SlotItem r.slotBytes accepted) r.slots C P
  part : (r.slots r.writeSlot).take r.writeOff = accepted.drop (P * r.slotBytes)

/-- The number of bytes the ring still takes when `P` slots are published and `C` are
read. -/
def free (r : DmaRing N maxSlotBytes) (P C : Nat) : Nat :=
  (N - r.safetyGap) * r.slotBytes - ((P - C) * r.slotBytes + r.writeOff)

/-- A ring that was reset. -/
theorem tracks_resetProducer (r : DmaRing N maxSlotBytes) : Tracks r.resetProducer [] 0 0 where
  produced_eq := rfl
  consumed_eq := rfl
  writeSlot_eq := Fin.ext (Nat.zero_mod N).symm
  length_eq := (Nat.zero_mul _).symm
  consumed_le := Nat.le_refl 0
  fill_le := Nat.zero_le _
  begun h := absurd h (Nat.lt_irrefl 0)
  full := Circular.holds_empty _ _ _ 0
  part := List.take_zero.trans List.drop_nil.symm

namespace Tracks

variable {r : DmaRing N maxSlotBytes} {accepted : List UInt8} {P C : Nat}

/-- The fill is exact, also when the counters wrapped. -/
theorem toNat_fillSlots (h : Tracks r accepted P C) : r.fillSlots.toNat = P - C := by
  have hfill := h.fill_le
  have hsize := r.size_lt
  rw [fillSlots, h.produced_eq, h.consumed_eq, ← UInt32.ofNat_sub h.consumed_le]
  exact UInt32.toNat_ofNat_of_lt' (by omega)

theorem isFull_iff (h : Tracks r accepted P C) :
    r.isFullForProducer = true ↔ N - r.safetyGap ≤ P - C := by
  rw [isFullForProducer, h.toNat_fillSlots, decide_eq_true_iff]

/-- A full ring takes nothing. -/
theorem free_of_full (h : Tracks r accepted P C) (hfull : N - r.safetyGap ≤ P - C) :
    r.free P C = 0 := by
  rw [free, h.fill_le.antisymm hfull]
  exact Nat.sub_eq_zero_of_le (Nat.le_add_right _ _)

/-- A ring that is not full has room for the rest of the slot. -/
theorem room_of_not_full (hroom : P - C < N - r.safetyGap) :
    (P - C) * r.slotBytes + r.slotBytes ≤ (N - r.safetyGap) * r.slotBytes := by
  rw [← Nat.succ_mul]
  exact Nat.mul_le_mul_right _ hroom

/-- The published slots after a copy to the write position. -/
theorem full_copied (h : Tracks r accepted P C) (hroom : P - C < N - r.safetyGap)
    (bytes : List UInt8) :
    Holds r.pos (SlotItem r.slotBytes (accepted ++ bytes)) (r.copied bytes) C P := by
  have hwrite := h.full.write (by omega) (overwrite r.writeOff bytes (r.slots r.writeSlot))
  rw [← h.writeSlot_eq] at hwrite
  refine hwrite.congr fun k slot _ hk hitem => hitem.append ?_ bytes
  have hmul : (k + 1) * r.slotBytes ≤ P * r.slotBytes := Nat.mul_le_mul_right _ hk
  have hlen := h.length_eq
  omega

/-- The slot at the write position after a copy. -/
theorem part_copied (h : Tracks r accepted P C) {bytes : List UInt8}
    (hle : r.writeOff + bytes.length ≤ r.slotBytes) :
    (r.copied bytes r.writeSlot).take (r.writeOff + bytes.length) =
      (accepted ++ bytes).drop (P * r.slotBytes) := by
  have hslot := r.length_slots r.writeSlot
  have hmax := r.slotBytes_le
  have hlen := h.length_eq
  rw [copied, Function.update_self, Circular.take_overwrite (by omega), h.part,
    List.drop_append_of_le_length (by omega)]

/-- One pass of the loop in `push` accepts its chunk. -/
theorem copyChunk (h : Tracks r accepted P C) (hroom : P - C < N - r.safetyGap)
    (data : List UInt8) :
    ∃ P', P ≤ P' ∧ Tracks (r.copyChunk data) (accepted ++ r.chunk data) P' C ∧
      (r.copyChunk data).free P' C = r.free P C - (r.chunk data).length := by
  have hle := r.writeOff_add_chunk_le data
  have hpart := h.part_copied hle
  have hfull := h.full_copied hroom (r.chunk data)
  have hlen : (accepted ++ r.chunk data).length =
      P * r.slotBytes + (r.writeOff + (r.chunk data).length) := by
    rw [List.length_append, h.length_eq, Nat.add_assoc]
  have hcap := room_of_not_full hroom
  by_cases hdone : r.writeOff + (r.chunk data).length = r.slotBytes
  · have hsub : P + 1 - C = P - C + 1 := Nat.succ_sub h.consumed_le
    rw [hdone] at hpart hlen
    have hitem : SlotItem r.slotBytes (accepted ++ r.chunk data) P
        (r.copied (r.chunk data) (cell r.pos P)) := by
      rw [SlotItem, ← h.writeSlot_eq, hpart, List.take_of_length_le]
      rw [List.length_drop, hlen]
      omega
    refine ⟨P + 1, Nat.le_succ P, ?_, ?_⟩
    · rw [DmaRing.copyChunk, dif_pos hdone]
      exact
        { produced_eq := by rw [h.produced_eq, UInt32.ofNat_add]; rfl
          consumed_eq := h.consumed_eq
          writeSlot_eq := by rw [h.writeSlot_eq, Circular.next_cell]
          length_eq := by rw [hlen, Nat.succ_mul, Nat.add_zero]
          consumed_le := Nat.le_succ_of_le h.consumed_le
          fill_le := by rw [hsub]; exact hroom
          begun := fun h0 => absurd h0 (Nat.lt_irrefl 0)
          full := hfull.publish hitem
          part := by
            rw [List.take_zero, List.drop_eq_nil_of_le]
            rw [hlen, Nat.succ_mul] }
    · rw [DmaRing.copyChunk, dif_pos hdone]
      simp only [free, hsub, Nat.succ_mul]
      omega
  · refine ⟨P, Nat.le_refl P, ?_, ?_⟩
    · rw [DmaRing.copyChunk, dif_neg hdone]
      exact
        { produced_eq := h.produced_eq
          consumed_eq := h.consumed_eq
          writeSlot_eq := h.writeSlot_eq
          length_eq := hlen
          consumed_le := h.consumed_le
          fill_le := h.fill_le
          begun := fun _ => hroom
          full := hfull
          part := hpart }
    · rw [DmaRing.copyChunk, dif_neg hdone]
      simp only [free]
      omega

/-- The chunk of a pass fits. -/
theorem length_chunk_le_free (hroom : P - C < N - r.safetyGap) (data : List UInt8) :
    (r.chunk data).length ≤ r.free P C := by
  have hle := r.writeOff_add_chunk_le data
  have hcap := room_of_not_full hroom
  rw [free]
  omega

/-- The loop of `push` accepts as much as is free. -/
theorem pushLoop (h : Tracks r accepted P C) (data : List UInt8) (written : Nat) :
    ∃ P', P ≤ P' ∧
      Tracks (r.pushLoop data written).2.2 (accepted ++ data.take (r.free P C)) P' C ∧
      (r.pushLoop data written).1 = data.drop (r.free P C) ∧
      (r.pushLoop data written).2.1 = written + min data.length (r.free P C) := by
  induction data, written, r using DmaRing.pushLoop.induct generalizing accepted P with
  | case1 written r =>
      refine ⟨P, Nat.le_refl P, ?_⟩
      rw [DmaRing.pushLoop, if_pos rfl]
      simpa using h
  | case2 data written r hne hfull =>
      refine ⟨P, Nat.le_refl P, ?_⟩
      rw [DmaRing.pushLoop, if_neg hne, if_pos hfull, h.free_of_full (h.isFull_iff.mp hfull)]
      simpa using h
  | case3 data written r hne hfull ih =>
      have hroom : P - C < N - r.safetyGap := Nat.lt_of_not_le fun h0 => hfull (h.isFull_iff.mpr h0)
      have hn : (r.chunk data).length ≤ r.free P C := length_chunk_le_free hroom data
      have hlen := r.length_chunk data
      have hchunk : r.chunk data = data.take (r.chunk data).length := by
        rw [hlen, chunk]
      obtain ⟨P₁, hP₁, h₁, hfree⟩ := h.copyChunk hroom data
      obtain ⟨P₂, hP₂, h₂, hrest, hwritten⟩ := ih h₁
      rw [hfree] at h₂ hrest hwritten
      rw [DmaRing.pushLoop, if_neg hne, if_neg hfull]
      refine ⟨P₂, hP₁.trans hP₂, ?_, ?_, ?_⟩
      · have htake := List.take_add (l := data) (i := (r.chunk data).length)
          (j := r.free P C - (r.chunk data).length)
        rw [Nat.add_sub_cancel' hn, ← hchunk] at htake
        rw [htake, ← List.append_assoc]
        exact h₂
      · rw [hrest, List.drop_drop, Nat.add_sub_cancel' hn]
      · rw [hwritten, List.length_drop]
        omega

/-! ## The bounded log behind a ring -/

theorem length_drop_eq (h : Tracks r accepted P C) :
    (accepted.drop (C * r.slotBytes)).length = (P - C) * r.slotBytes + r.writeOff := by
  have hmul : C * r.slotBytes ≤ P * r.slotBytes := Nat.mul_le_mul_right _ h.consumed_le
  rw [List.length_drop, h.length_eq, Nat.sub_mul]
  omega

/-- The bytes that were accepted and not yet read, as a log of the bytes the ring may
hold. -/
def log (h : Tracks r accepted P C) : BoundedLog UInt8 ((N - r.safetyGap) * r.slotBytes) where
  entries := accepted.drop (C * r.slotBytes)
  within := by
    have hlen := h.length_drop_eq
    rcases Nat.eq_zero_or_pos r.writeOff with h0 | hpos
    · rw [hlen, h0]
      exact Nat.mul_le_mul_right _ h.fill_le
    · have hcap := room_of_not_full (h.begun hpos)
      have hoff := r.writeOff_lt
      omega

/-- The ring holds no more than fits. -/
theorem length_le (h : Tracks r accepted P C) :
    accepted.length ≤ C * r.slotBytes + (N - r.safetyGap) * r.slotBytes := by
  have hwithin := h.log.within
  rw [log, List.length_drop] at hwithin
  omega

end Tracks

/-! ## Splitting a push -/

theorem chunk_eq_take (data : List UInt8) (r : DmaRing N maxSlotBytes) :
    r.chunk data = data.take (r.slotBytes - r.writeOff) := by
  rw [chunk]
  rcases Nat.le_total (r.slotBytes - r.writeOff) data.length with h | h
  · rw [Nat.min_eq_left h]
  · rw [Nat.min_eq_right h, List.take_of_length_le (Nat.le_refl _), List.take_of_length_le h]

/-- A pass that does not complete its slot copies all of its data. -/
theorem copyChunk_short {a : List UInt8} {r : DmaRing N maxSlotBytes}
    (h : a.length < r.slotBytes - r.writeOff) :
    r.chunk a = a ∧ ∃ hlen hlt, r.copyChunk a =
      { r with
        slots := r.copied a
        length_slots := hlen
        writeOff := r.writeOff + a.length
        writeOff_lt := hlt } := by
  have hchunk : r.chunk a = a := by
    rw [chunk_eq_take, List.take_of_length_le h.le]
  have hne : ¬ r.writeOff + (r.chunk a).length = r.slotBytes := by
    rw [hchunk]
    omega
  refine ⟨hchunk, length_copied (by omega), by omega, ?_⟩
  rw [copyChunk, dif_neg hne]
  congr 1
  · rw [hchunk]
  · rw [hchunk]

/-- Two passes into one slot are one pass. -/
theorem copyChunk_append {a : List UInt8} {r : DmaRing N maxSlotBytes}
    (h : a.length < r.slotBytes - r.writeOff) (b : List UInt8) :
    r.chunk (a ++ b) = a ++ (r.copyChunk a).chunk b ∧
      (r.copyChunk a).copyChunk b = r.copyChunk (a ++ b) ∧
      (r.copyChunk a).isFullForProducer = r.isFullForProducer := by
  obtain ⟨hchunk, hlen, hlt, hshort⟩ := copyChunk_short h
  have hslot := r.length_slots r.writeSlot
  have hle := r.slotBytes_le
  generalize r.copyChunk a = r₁ at hshort
  subst hshort
  set r₁ : DmaRing N maxSlotBytes := { r with
    slots := r.copied a, length_slots := hlen, writeOff := r.writeOff + a.length,
    writeOff_lt := hlt } with hr₁
  have hlong : r.chunk (a ++ b) = a ++ r₁.chunk b := by
    rw [chunk_eq_take, chunk_eq_take, List.take_append, List.take_of_length_le h.le,
      Nat.sub_sub]
  have hcopied : r₁.copied (r₁.chunk b) = r.copied (r.chunk (a ++ b)) := by
    rw [hlong, copied, copied]
    show Function.update (r.copied a) r.writeSlot
      (overwrite (r.writeOff + a.length) _ (r.copied a r.writeSlot)) = _
    rw [copied, Function.update_self, Function.update_idem,
      Circular.overwrite_overwrite (by omega)]
  have hoff : r₁.writeOff + (r₁.chunk b).length = r.writeOff + (r.chunk (a ++ b)).length := by
    rw [hlong, List.length_append, ← Nat.add_assoc]
  refine ⟨hlong, ?_, rfl⟩
  by_cases hdone : r.writeOff + (r.chunk (a ++ b)).length = r.slotBytes
  · rw [copyChunk, dif_pos (hoff.trans hdone), copyChunk, dif_pos hdone]
    congr 1
  · rw [copyChunk, dif_neg (fun h0 => hdone (hoff.symm.trans h0)), copyChunk, dif_neg hdone]
    congr 1

/-- Once the loop left bytes behind, the ring is full. -/
theorem pushLoop_rest (data : List UInt8) (written : Nat) (r : DmaRing N maxSlotBytes) :
    (r.pushLoop data written).1 = [] ∨
      (r.pushLoop data written).2.2.isFullForProducer = true := by
  induction data, written, r using pushLoop.induct with
  | case1 written r =>
      rw [pushLoop, if_pos rfl]
      exact Or.inl rfl
  | case2 data written r hne hfull =>
      rw [pushLoop, if_neg hne, if_pos hfull]
      exact Or.inr hfull
  | case3 data written r hne hfull ih =>
      rw [pushLoop, if_neg hne, if_neg hfull]
      exact ih

/-- A full ring takes nothing. -/
theorem pushLoop_full {r : DmaRing N maxSlotBytes} (h : r.isFullForProducer = true)
    (data : List UInt8) (written : Nat) : r.pushLoop data written = (data, written, r) := by
  rw [pushLoop, if_pos h, ite_self]

/-- The loop over two pieces of data, one after the other. -/
theorem pushLoop_append (a b : List UInt8) (written : Nat) (r : DmaRing N maxSlotBytes) :
    r.pushLoop (a ++ b) written =
      (match r.pushLoop a written with
        | ([], written, r) => r.pushLoop b written
        | (rest, written, r) => (rest ++ b, written, r)) := by
  by_cases hb : b = []
  · subst hb
    rw [List.append_nil]
    rcases r.pushLoop a written with ⟨_ | ⟨x, rest⟩, written, r⟩
    · show _ = r.pushLoop [] written
      rw [pushLoop, if_pos rfl]
    · show _ = (x :: rest ++ [], written, r)
      rw [List.append_nil]
  induction a, written, r using pushLoop.induct with
  | case1 written r =>
      rw [List.nil_append, pushLoop.eq_1 [] written, if_pos rfl]
  | case2 a written r hne hfull =>
      rw [pushLoop_full hfull, pushLoop_full hfull]
      cases a with
      | nil => exact absurd rfl hne
      | cons x a => rfl
  | case3 a written r hne hfull ih =>
      have hne' : ¬ a ++ b = [] := fun h => hne (List.append_eq_nil_iff.mp h).1
      rw [pushLoop.eq_1 (a ++ b), if_neg hne', if_neg hfull, pushLoop.eq_1 a, if_neg hne,
        if_neg hfull]
      rcases Nat.lt_or_ge a.length (r.slotBytes - r.writeOff) with hlt | hge
      · -- the pass over `a` and the first pass over `b` fill the same slot
        obtain ⟨hlong, hcopy, hfull'⟩ := copyChunk_append hlt b
        rw [(copyChunk_short hlt).1, List.drop_length, pushLoop.eq_1 [], if_pos rfl, hlong,
          List.length_append, List.drop_append, ← hcopy, Nat.add_sub_cancel_left,
          List.drop_eq_nil_of_le (Nat.le_add_right _ _), List.nil_append, ← Nat.add_assoc]
        show _ = (r.copyChunk a).pushLoop b (written + a.length)
        rw [pushLoop.eq_1 b, if_neg hb, hfull', if_neg hfull]
      · have hchunk : r.chunk (a ++ b) = r.chunk a := by
          rw [chunk_eq_take, chunk_eq_take, List.take_append_of_le_length hge]
        have hlen : (r.chunk a).length ≤ a.length := by
          rw [length_chunk]
          exact Nat.min_le_right _ _
        have hcopy : r.copyChunk (a ++ b) = r.copyChunk a := by
          simp only [copyChunk, hchunk]
        rw [hchunk, hcopy, List.drop_append_of_le_length hlen]
        exact ih

/-- The counter of pushed bytes, moved on. -/
def addProduced (n : Nat) (r : DmaRing N maxSlotBytes) : DmaRing N maxSlotBytes :=
  { r with producedBytes := r.producedBytes + UInt32.ofNat n }

@[simp] theorem addProduced_zero (r : DmaRing N maxSlotBytes) : r.addProduced 0 = r := by
  have h : r.producedBytes + UInt32.ofNat 0 = r.producedBytes := UInt32.add_zero _
  rw [addProduced, h]

@[simp] theorem addProduced_addProduced (m n : Nat) (r : DmaRing N maxSlotBytes) :
    (r.addProduced m).addProduced n = r.addProduced (m + n) := by
  simp only [addProduced, UInt32.ofNat_add, UInt32.add_assoc]

theorem copyChunk_addProduced (n : Nat) (data : List UInt8) (r : DmaRing N maxSlotBytes) :
    (r.addProduced n).copyChunk data = (r.copyChunk data).addProduced n := by
  by_cases h : r.writeOff + (r.chunk data).length = r.slotBytes
  · rw [copyChunk.eq_1 data r, dif_pos h, copyChunk]
    exact dif_pos h
  · rw [copyChunk.eq_1 data r, dif_neg h, copyChunk]
    exact dif_neg h

/-- The loop neither reads nor writes the counter of bytes, and only adds to its own. -/
theorem pushLoop_addProduced (n m : Nat) (data : List UInt8) (written : Nat)
    (r : DmaRing N maxSlotBytes) :
    (r.addProduced n).pushLoop data (m + written) =
      ((r.pushLoop data written).1, m + (r.pushLoop data written).2.1,
        (r.pushLoop data written).2.2.addProduced n) := by
  induction data, written, r using pushLoop.induct with
  | case1 written r =>
      rw [pushLoop.eq_1 [] written, pushLoop, if_pos rfl, if_pos rfl]
  | case2 data written r hne hfull =>
      rw [pushLoop_full hfull, pushLoop_full (r := r.addProduced n) hfull]
  | case3 data written r hne hfull ih =>
      rw [pushLoop.eq_1 data written, if_neg hne, if_neg hfull, pushLoop, if_neg hne]
      refine (if_neg hfull).trans ?_
      rw [copyChunk_addProduced, Nat.add_assoc]
      exact ih

/-- Push packets one after the other, and add up what was written and dropped. -/
def pushAll : List (List UInt8) → DmaRing N maxSlotBytes →
    PushResult × DmaRing N maxSlotBytes
  | [], r => (⟨0, 0⟩, r)
  | data :: packets, r =>
      let (p, r) := r.push data
      let (q, r) := pushAll packets r
      (⟨p.written + q.written, p.dropped + q.dropped⟩, r)

theorem push_eq (data : List UInt8) (r : DmaRing N maxSlotBytes) :
    r.push data = (⟨(r.pushLoop data 0).2.1, (r.pushLoop data 0).1.length⟩,
      (r.pushLoop data 0).2.2.addProduced (r.pushLoop data 0).2.1) := rfl

/-- A push of two pieces is two pushes. -/
theorem push_append (a b : List UInt8) (r : DmaRing N maxSlotBytes) :
    r.push (a ++ b) =
      (⟨(r.push a).1.written + ((r.push a).2.push b).1.written,
        (r.push a).1.dropped + ((r.push a).2.push b).1.dropped⟩, ((r.push a).2.push b).2) := by
  have hrest := pushLoop_rest a 0 r
  rw [push_eq, push_eq a, push_eq b, pushLoop_append]
  rcases hrun : r.pushLoop a 0 with ⟨rest, written, r₁⟩
  rw [hrun] at hrest
  cases rest with
  | nil =>
      have hshift := pushLoop_addProduced 0 written b 0 r₁
      have hnext := pushLoop_addProduced written 0 b 0 r₁
      rw [addProduced_zero, Nat.add_zero] at hshift
      rw [Nat.add_zero] at hnext
      simp [hshift, hnext]
  | cons x rest =>
      have hfull : (r₁.addProduced written).isFullForProducer = true :=
        hrest.resolve_left (List.cons_ne_nil x rest)
      simp [pushLoop_full hfull, Nat.add_right_comm]

/-- However a stream is cut into packets, the ring takes the same bytes of it. -/
theorem pushAll_eq (packets : List (List UInt8)) (r : DmaRing N maxSlotBytes) :
    r.pushAll packets = r.push packets.flatten := by
  induction packets generalizing r with
  | nil =>
      rw [List.flatten_nil, push_eq, pushLoop, if_pos rfl, addProduced_zero]
      rfl
  | cons data packets ih =>
      rw [List.flatten_cons, push_append]
      simp only [pushAll, ih]

end DmaRing

end Uac2
