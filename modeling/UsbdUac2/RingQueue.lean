import UsbdUac2.RingLog
import UsbdUac2.Lib.Simulation

/-!
# The ring as a queue

The USB task pushes packets and the interrupt acknowledges slots, in any order.
`RingOp.answer` is what the ring answers, and `RingOp.expected` what a queue of bytes
would: a push takes what is free, and an acknowledgement removes a slot or
reports an underrun when none is complete.

The ring is that queue for its first 2³² slots.  Then the counter of the
published slots wraps, and the comparison of the counters in `advance_consumed`
goes wrong: with a slot unread, the ring reports underruns for good.
-/

namespace Uac2

open Simulation (trace)

/-- An operation on the ring while it plays. -/
inductive RingOp where
  | push (data : List UInt8)
  | advance
deriving DecidableEq, Repr

/-- What an operation returns. -/
inductive RingReply where
  | pushed (result : PushResult)
  | advanced
  | underrun
deriving DecidableEq, Repr

namespace RingOp

/-- The operation on the ring. -/
def answer {N maxSlotBytes : Nat} (op : RingOp) (r : DmaRing N maxSlotBytes) :
    RingReply × DmaRing N maxSlotBytes :=
  match op with
  | .push data => (.pushed (r.push data).1, (r.push data).2)
  | .advance =>
      match r.advanceConsumed 1 with
      | .ok r => (.advanced, r)
      | .error .underrun => (.underrun, r)

/-- The operation on a queue of bytes. -/
def expected {cap : Nat} (slotBytes : Nat) (op : RingOp) (q : BoundedLog UInt8 cap) :
    RingReply × BoundedLog UInt8 cap :=
  match op with
  | .push data =>
      (.pushed ⟨(q.taken data).length, data.length - (q.taken data).length⟩, q.offer data)
  | .advance =>
      if slotBytes ≤ q.entries.length then (.advanced, q.discard slotBytes) else (.underrun, q)

/-- The bytes that are pushed. -/
def bytes : List RingOp → Nat
  | [] => 0
  | .push data :: ops => data.length + bytes ops
  | .advance :: ops => bytes ops

end RingOp

namespace DmaRing

variable {N maxSlotBytes : Nat} {r : DmaRing N maxSlotBytes} {accepted : List UInt8} {P C : Nat}

namespace Tracks

/-- A push accepts what is free. -/
theorem push (h : Tracks r accepted P C) (data : List UInt8) :
    ∃ P', P ≤ P' ∧ Tracks (r.push data).2 (accepted ++ data.take (r.free P C)) P' C ∧
      (r.push data).1 = ⟨min data.length (r.free P C), data.length - r.free P C⟩ := by
  obtain ⟨P', hP, hloop, hrest, hwritten⟩ := h.pushLoop data 0
  refine ⟨P', hP, ?_, ?_⟩
  · exact ⟨hloop.produced_eq, hloop.consumed_eq, hloop.writeSlot_eq, hloop.length_eq,
      hloop.consumed_le, hloop.fill_le, hloop.begun, hloop.full, hloop.part⟩
  · rw [push_eq, hrest, hwritten, List.length_drop, Nat.zero_add]

/-- The comparison of the counters sees their low 32 bits. -/
theorem consumed_lt_iff (h : Tracks r accepted P C) :
    r.consumed < r.produced ↔ C % UInt32.size < P % UInt32.size := by
  rw [h.produced_eq, h.consumed_eq, UInt32.lt_iff_toNat_lt, UInt32.toNat_ofNat',
    UInt32.toNat_ofNat']

/-- A slot is taken off the ring. -/
theorem advance (h : Tracks r accepted P C) (hlt : C < P)
    (hwords : C % UInt32.size < P % UInt32.size) :
    ∃ r', r.advanceConsumed 1 = .ok r' ∧ Tracks r' accepted P (C + 1) ∧
      r'.slotBytes = r.slotBytes ∧ r'.safetyGap = r.safetyGap := by
  refine ⟨_, if_pos (h.consumed_lt_iff.mpr hwords), ?_, rfl, rfl⟩
  exact
    { produced_eq := h.produced_eq
      consumed_eq := by rw [h.consumed_eq, UInt32.ofNat_add]; rfl
      writeSlot_eq := h.writeSlot_eq
      length_eq := h.length_eq
      consumed_le := hlt
      fill_le := (Nat.sub_le_sub_left (Nat.le_succ C) P).trans h.fill_le
      begun := fun h0 => (Nat.sub_le_sub_left (Nat.le_succ C) P).trans_lt (h.begun h0)
      full := h.full.advance (Nat.le_succ C)
      part := h.part }

/-- The counters wrapped between the two positions, or nothing is unread. -/
theorem advance_refused (h : Tracks r accepted P C)
    (hwords : ¬ C % UInt32.size < P % UInt32.size) :
    r.advanceConsumed 1 = .error .underrun :=
  if_neg fun h0 => hwords (h.consumed_lt_iff.mp h0)

end Tracks

/-! ## The first 2³² slots -/

/-- The queue holds what the ring accepted and did not give out, and the operations to
come push fewer bytes than make the counters wrap. -/
structure Queued (slotBytes gap : Nat) (ops : List RingOp) (r : DmaRing N maxSlotBytes)
    (q : BoundedLog UInt8 ((N - gap) * slotBytes)) : Prop where
  slotBytes_eq : r.slotBytes = slotBytes
  gap_eq : r.safetyGap = gap
  tracks : ∃ accepted P C, Tracks r accepted P C ∧ q.entries = accepted.drop (C * slotBytes) ∧
    accepted.length + RingOp.bytes ops < UInt32.size * slotBytes

/-- One operation on both. -/
theorem Queued.step {slotBytes gap : Nat} {op : RingOp} {ops : List RingOp}
    {r : DmaRing N maxSlotBytes} {q : BoundedLog UInt8 ((N - gap) * slotBytes)}
    (h : Queued slotBytes gap (op :: ops) r q) :
    (op.answer r).1 = (op.expected slotBytes q).1 ∧
      Queued slotBytes gap ops (op.answer r).2 (op.expected slotBytes q).2 := by
  obtain ⟨rfl, rfl, accepted, P, C, ht, hq, hsmall⟩ := h
  have hfree : q.free = r.free P C := by
    rw [BoundedLog.free, hq, ht.length_drop_eq, free]
  have hmul : C * r.slotBytes ≤ P * r.slotBytes := Nat.mul_le_mul_right _ ht.consumed_le
  cases op with
  | push data =>
      obtain ⟨P', hP, ht', hresult⟩ := ht.push data
      have hsame := r.sameSetup_push data
      have hlen := q.length_taken data
      refine ⟨?_, hsame.slotBytes, hsame.safetyGap, _, P', C, ht', ?_, ?_⟩
      · have hdropped : data.length - min data.length (r.free P C) = data.length - r.free P C := by
          omega
        show RingReply.pushed _ = RingReply.pushed _
        rw [hresult, hlen, hfree, hdropped]
      · show q.entries ++ q.taken data = _
        rw [hq, BoundedLog.taken, hfree, List.drop_append_of_le_length]
        rw [ht.length_eq]
        omega
      · rw [RingOp.bytes] at hsmall
        rw [List.length_append, List.length_take]
        omega
  | advance =>
      have hP : P < UInt32.size := by
        refine Nat.lt_of_mul_lt_mul_right (a := r.slotBytes) ?_
        have := ht.length_eq
        omega
      have hC : C < UInt32.size := ht.consumed_le.trans_lt hP
      have hlen := ht.length_drop_eq
      have hoff := r.writeOff_lt
      rw [RingOp.bytes] at hsmall
      rw [RingOp.answer, RingOp.expected]
      rcases Nat.lt_or_ge C P with hlt | hge
      · have hwords : C % UInt32.size < P % UInt32.size := by
          rw [Nat.mod_eq_of_lt hC, Nat.mod_eq_of_lt hP]
          exact hlt
        have hone : r.slotBytes ≤ (P - C) * r.slotBytes := Nat.le_mul_of_pos_left _ (by omega)
        obtain ⟨r', hrun, ht', hbytes, hgap⟩ := ht.advance hlt hwords
        rw [hrun, if_pos (by rw [hq, hlen]; omega)]
        refine ⟨rfl, hbytes, hgap, accepted, P, C + 1, ht', ?_, hsmall⟩
        show q.entries.drop r.slotBytes = _
        rw [hq, List.drop_drop, Nat.succ_mul]
      · have hwords : ¬ C % UInt32.size < P % UInt32.size := by
          rw [Nat.mod_eq_of_lt hC, Nat.mod_eq_of_lt hP]
          omega
        have hzero : (P - C) * r.slotBytes = 0 := by
          rw [Nat.sub_eq_zero_of_le hge, Nat.zero_mul]
        rw [ht.advance_refused hwords, if_neg (by rw [hq, hlen]; omega)]
        exact ⟨rfl, rfl, rfl, accepted, P, C, ht, hq, hsmall⟩

/-- As long as fewer than 2³² slots are pushed, a ring that was reset answers as a
bounded queue of bytes, for any order of the operations. -/
theorem answers_as_queue (r : DmaRing N maxSlotBytes) (ops : List RingOp)
    (hsmall : RingOp.bytes ops < UInt32.size * r.slotBytes) :
    (trace RingOp.answer ops r.resetProducer).1 =
      (trace (RingOp.expected r.slotBytes) ops
        (BoundedLog.empty UInt8 ((N - r.safetyGap) * r.slotBytes))).1 := by
  have hstart : Queued r.slotBytes r.safetyGap ops r.resetProducer (BoundedLog.empty UInt8 _) :=
    ⟨rfl, rfl, [], 0, 0, r.tracks_resetProducer, List.drop_nil.symm, by
      rwa [List.length_nil, Nat.zero_add]⟩
  exact (Simulation.trace_eq Queued.step hstart).1

/-- The ring of the example: eight slots of 48 frames. -/
def boardRing : DmaRing 8 384 where
  dstReg := 0
  channelDesc := .null 8
  desc _ := .null 8
  slots _ := List.replicate 384 0
  slotBytes := 384
  wordBytes := 4
  writeSlot := 0
  writeOff := 0
  produced := 0
  consumed := 0
  safetyGap := 1
  producedBytes := 0
  consumedBytes := 0
  length_slots _ := List.length_replicate
  slotBytes_pos := by decide
  slotBytes_le := by decide
  wordBytes_mem := by decide
  writeOff_lt := by decide
  safetyGap_le := by decide
  size_lt := by decide

/-- Eight slots of one word. -/
def shortRing : DmaRing 8 384 where
  dstReg := 0
  channelDesc := .null 8
  desc _ := .null 8
  slots _ := List.replicate 384 0
  slotBytes := 4
  wordBytes := 4
  writeSlot := 0
  writeOff := 0
  produced := 0
  consumed := 0
  safetyGap := 1
  producedBytes := 0
  consumedBytes := 0
  length_slots _ := List.length_replicate
  slotBytes_pos := by decide
  slotBytes_le := by decide
  wordBytes_mem := by decide
  writeOff_lt := by decide
  safetyGap_le := by decide
  size_lt := by decide

theorem new_boardRing :
    DmaRing.new 8 384 (by decide) (by decide) (by decide) 0 4 = .ok boardRing := rfl

theorem setSlotSize_boardRing : boardRing.setSlotSize 4 = .ok shortRing := rfl

theorem answers_as_queue_shortRing :
    (trace RingOp.answer [.push (List.replicate 9 1), .advance, .advance, .advance]
      shortRing.resetProducer).1 =
    (trace (RingOp.expected 4) [.push (List.replicate 9 1), .advance, .advance, .advance]
      (BoundedLog.empty UInt8 28)).1 :=
  answers_as_queue shortRing _ (by decide)

/-! ## After the counter wrapped -/

/-- The bytes a reply says were written. -/
def RingReply.written : RingReply → Nat
  | .pushed result => result.written
  | .advanced => 0
  | .underrun => 0

/-- A slot is unread, and the counter of the published slots wrapped behind it. -/
def WrappedAt (P C : Nat) : Prop := C < P ∧ P % UInt32.size ≤ C % UInt32.size

/-- The gap between the positions is shorter than a turn of the counter, so publishing
more does not catch up. -/
theorem WrappedAt.publish {P C P' : Nat} (h : WrappedAt P C) (hP : P ≤ P')
    (hturn : P' - C < UInt32.size) : WrappedAt P' C := by
  obtain ⟨hlt, hwords⟩ := h
  simp only [WrappedAt, UInt32.size] at *
  omega

/-- Whatever is done to a ring whose counter wrapped, it acknowledges nothing, and its
published slots are never counted as read. -/
theorem Tracks.wrapped (h : Tracks r accepted P C) (hw : WrappedAt P C) (ops : List RingOp) :
    ∃ accepted' P', Tracks (trace RingOp.answer ops r).2 accepted' P' C ∧
      (trace RingOp.answer ops r).2.slotBytes = r.slotBytes ∧
      (trace RingOp.answer ops r).2.safetyGap = r.safetyGap ∧
      accepted'.length = accepted.length +
        ((trace RingOp.answer ops r).1.map RingReply.written).sum ∧
      ∀ reply ∈ (trace RingOp.answer ops r).1, reply ≠ .advanced := by
  induction ops generalizing r accepted P with
  | nil => exact ⟨accepted, P, h, rfl, rfl, rfl, by simp⟩
  | cons op ops ih =>
      cases op with
      | push data =>
          obtain ⟨P₁, hP, h₁, hresult⟩ := h.push data
          have hsame := r.sameSetup_push data
          have hturn : P₁ - C < UInt32.size := by
            have hfill := h₁.fill_le
            have hsize := r.size_lt
            omega
          obtain ⟨accepted', P', h', hbytes, hgap, hlen, hreplies⟩ := ih h₁ (hw.publish hP hturn)
          rw [Simulation.trace_cons]
          refine ⟨accepted', P', h', hbytes.trans hsame.slotBytes, hgap.trans hsame.safetyGap,
            ?_, ?_⟩
          · rw [hlen, List.map_cons, List.sum_cons, List.length_append, List.length_take,
              ← Nat.add_assoc, RingOp.answer, RingReply.written, hresult, Nat.min_comm]
          · intro reply hmem
            rcases List.mem_cons.mp hmem with rfl | hmem
            · exact nofun
            · exact hreplies reply hmem
      | advance =>
          have hrefused := h.advance_refused (Nat.not_lt.mpr hw.2)
          have hanswer : RingOp.advance.answer r = (.underrun, r) := by
            rw [RingOp.answer, hrefused]
          obtain ⟨accepted', P', h', hbytes, hgap, hlen, hreplies⟩ := ih h hw
          rw [Simulation.trace_cons, hanswer]
          refine ⟨accepted', P', h', hbytes, hgap, ?_, ?_⟩
          · rw [hlen, List.map_cons, List.sum_cons, RingReply.written, Nat.zero_add]
          · intro reply hmem
            rcases List.mem_cons.mp hmem with rfl | hmem
            · exact nofun
            · exact hreplies reply hmem

/-- A push of one slot into a ring without a begun slot publishes the slot. -/
theorem Tracks.push_slot {k : Nat} (h : Tracks r accepted k k) (hoff : r.writeOff = 0)
    (hgap : r.safetyGap < N) :
    ∃ accepted', Tracks (r.push (List.replicate r.slotBytes 0)).2 accepted' (k + 1) k ∧
      (r.push (List.replicate r.slotBytes 0)).2.writeOff = 0 := by
  have hone : r.slotBytes ≤ (N - r.safetyGap) * r.slotBytes :=
    Nat.le_mul_of_pos_left _ (Nat.sub_pos_of_lt hgap)
  have hfree : r.slotBytes ≤ r.free k k := by
    rw [free, hoff, Nat.sub_self, Nat.zero_mul]
    exact hone
  obtain ⟨P', -, h', -⟩ := h.push (List.replicate r.slotBytes 0)
  have hbytes := (r.sameSetup_push (List.replicate r.slotBytes 0)).slotBytes
  have hlt := (r.push (List.replicate r.slotBytes 0)).2.writeOff_lt
  have hlen := h'.length_eq
  rw [List.length_append, List.length_take, List.length_replicate, Nat.min_eq_right hfree,
    h.length_eq, hoff, hbytes, Nat.add_zero] at hlen
  rw [hbytes] at hlt
  have hsucc : (k + 1) * r.slotBytes = k * r.slotBytes + r.slotBytes := Nat.succ_mul k r.slotBytes
  have hsucc' : (P' + 1) * r.slotBytes = P' * r.slotBytes + r.slotBytes :=
    Nat.succ_mul P' r.slotBytes
  have hle : P' ≤ k + 1 := Nat.le_of_mul_le_mul_right (c := r.slotBytes) (by omega) r.slotBytes_pos
  have hge : k + 1 < P' + 1 := Nat.lt_of_mul_lt_mul_right (a := r.slotBytes) (by omega)
  obtain rfl : P' = k + 1 := by omega
  exact ⟨_, h', by omega⟩

/-- Filling and reading in turns brings a ring to every count of slots. -/
theorem lockstep (r : DmaRing N maxSlotBytes) (hgap : r.safetyGap < N) {k : Nat}
    (hk : k < UInt32.size) :
    ∃ ops accepted, Tracks (trace RingOp.answer ops r.resetProducer).2 accepted k k ∧
      (trace RingOp.answer ops r.resetProducer).2.writeOff = 0 ∧
      (trace RingOp.answer ops r.resetProducer).2.safetyGap = r.safetyGap := by
  induction k with
  | zero => exact ⟨[], [], r.tracks_resetProducer, rfl, rfl⟩
  | succ k ih =>
      obtain ⟨ops, accepted, h, hoff, hsafe⟩ := ih (Nat.lt_of_succ_lt hk)
      generalize hr : (trace RingOp.answer ops r.resetProducer).2 = r₁ at h hoff hsafe
      obtain ⟨accepted', h', hoff'⟩ := h.push_slot hoff (hsafe ▸ hgap)
      have hgap' := (r₁.sameSetup_push (List.replicate r₁.slotBytes 0)).safetyGap
      generalize hr₂ : (r₁.push (List.replicate r₁.slotBytes 0)).2 = r₂ at h' hoff' hgap'
      have hwords : k % UInt32.size < (k + 1) % UInt32.size := by
        rw [Nat.mod_eq_of_lt hk, Nat.mod_eq_of_lt (Nat.lt_of_succ_lt hk)]
        exact Nat.lt_succ_self k
      obtain ⟨r₃, hrun, h₃, -, hgap₃⟩ := h'.advance (Nat.lt_succ_self k) hwords
      have hoff₃ : r₃.writeOff = r₂.writeOff := by
        rw [DmaRing.advanceConsumed, if_pos (h'.consumed_lt_iff.mpr hwords)] at hrun
        cases hrun
        rfl
      have hlast : (trace RingOp.answer
          (ops ++ [.push (List.replicate r₁.slotBytes 0), .advance]) r.resetProducer).2 = r₃ := by
        rw [Simulation.trace_append, hr, Simulation.trace_cons, Simulation.trace_cons]
        show (RingOp.advance.answer (r₁.push (List.replicate r₁.slotBytes 0)).2).2 = r₃
        rw [hr₂, RingOp.answer, hrun]
      exact ⟨_, accepted', hlast ▸ h₃, hlast ▸ hoff₃.trans hoff', by
        rw [hlast, hgap₃, hgap', hsafe]⟩

/-- A ring with room for a slot comes to wrap with a slot unread. -/
theorem wraps (r : DmaRing N maxSlotBytes) (hgap : r.safetyGap < N) :
    ∃ ops accepted, Tracks (trace RingOp.answer ops r.resetProducer).2 accepted
      UInt32.size (UInt32.size - 1) := by
  obtain ⟨ops, accepted, h, hoff, hsafe⟩ := r.lockstep hgap (k := UInt32.size - 1) (by decide)
  generalize hr : (trace RingOp.answer ops r.resetProducer).2 = r₁ at h hoff hsafe
  obtain ⟨accepted', h', -⟩ := h.push_slot hoff (hsafe ▸ hgap)
  refine ⟨ops ++ [.push (List.replicate r₁.slotBytes 0)], accepted', ?_⟩
  rw [Simulation.trace_append, hr]
  exact h'

theorem wrappedAt_size : WrappedAt UInt32.size (UInt32.size - 1) := by
  simp only [WrappedAt, UInt32.size]
  omega

/-- A ring whose counter wrapped with a slot unread reports an underrun at every
acknowledgement from then on, and takes no more than what was free. -/
theorem wrapped_for_good (h : Tracks r accepted P C) (hw : WrappedAt P C) (ops : List RingOp) :
    (∀ reply ∈ (trace RingOp.answer ops r).1, reply ≠ .advanced) ∧
      ((trace RingOp.answer ops r).1.map RingReply.written).sum ≤ r.free P C := by
  obtain ⟨accepted', P', h', hbytes, hgap, hlen, hreplies⟩ := h.wrapped hw ops
  refine ⟨hreplies, ?_⟩
  have hle := h'.length_le
  have hused := h.length_drop_eq
  have hmul : C * r.slotBytes ≤ P * r.slotBytes := Nat.mul_le_mul_right _ h.consumed_le
  have hall := h.length_eq
  rw [List.length_drop] at hused
  rw [hbytes, hgap] at hle
  rw [free]
  omega

theorem wrapped_shortRing : ∃ r : DmaRing 8 384, ∀ ops,
    ∀ reply ∈ (trace RingOp.answer ops r).1, reply ≠ .advanced := by
  obtain ⟨ops, accepted, h⟩ := shortRing.wraps (by decide)
  exact ⟨_, fun ops => (wrapped_for_good h wrappedAt_size ops).1⟩

end DmaRing

end Uac2
