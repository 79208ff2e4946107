import UsbdUac2.DmaPlayback

/-!
# The order of playback

The channel does not look at the counters.  A read is *timely* when the slot was
received whole before.  As long as the reads are timely, what is sent is what was
received, in order, with nothing lost and nothing twice.

When the interrupts are served in time as well, the ring counts what was played.
-/

namespace Uac2

open Circular (cell next)
open DmaRing (Tracks shortRing)
open Runs (Run Transition)

namespace Playback

section

variable {N maxSlotBytes : Nat} {ring : DmaRing N maxSlotBytes} {s s' : Playback N maxSlotBytes}
  {e : PlaybackEvent}

/-! ## In order -/

/-- The position of the channel in the stream. -/
def position (ring : DmaRing N maxSlotBytes) (s : Playback N maxSlotBytes) : Nat :=
  s.read * ring.slotBytes + s.word * ring.wordBytes

/-- Behind the first half of the ring, a word is read only of a slot that was received
whole. -/
def Timely (ring : DmaRing N maxSlotBytes)
    (t : Transition (Playback N maxSlotBytes) PlaybackEvent) : Prop :=
  t.event = .word → N / 2 ≤ t.pre.read →
    (t.pre.read + 1) * ring.slotBytes ≤ t.pre.received.length

/-- What was sent is what was received, up to the position of the channel. -/
structure InOrder (ring : DmaRing N maxSlotBytes) (s : Playback N maxSlotBytes) : Prop where
  inv : Inv ring s
  sent_eq : s.sent = s.received.take (position ring s)
  behind : position ring s ≤ s.received.length

theorem inOrder_start (ring : DmaRing N maxSlotBytes) : InOrder ring (start ring) where
  inv := inv_start ring
  sent_eq := List.take_nil.symm
  behind := by rw [position, start, Nat.zero_mul, Nat.zero_mul]; exact Nat.le_refl 0

/-- The slot of a timely read was received whole: the first half of the ring was before
the channel started. -/
theorem Inv.received_slot (h : Inv ring s) (hrun : s.running = true)
    (ht : N / 2 ≤ s.read → (s.read + 1) * ring.slotBytes ≤ s.received.length) :
    (s.read + 1) * ring.slotBytes ≤ s.received.length := by
  rcases Nat.lt_or_ge s.read (N / 2) with hlt | hge
  · exact (Nat.mul_le_mul_right _ hlt).trans (h.running hrun)
  · exact ht hge

/-- A word of a slot that was received whole is the next part of the stream. -/
theorem InOrder.word_eq (h : InOrder ring s) (ha : ring.Aligned) {bytes : List UInt8}
    (hslot : (s.read + 1) * ring.slotBytes ≤ s.received.length)
    (hword : s.descriptor.readWord s.ring.slots s.word = some bytes) :
    bytes = (s.received.drop (position ring s)).take ring.wordBytes ∧
      position ring s + ring.wordBytes ≤ s.received.length := by
  obtain ⟨P, C, ht, hC⟩ := h.inv.tracks
  have hlt := h.inv.word_lt
  have hin : s.word * ring.wordBytes + ring.wordBytes ≤ ring.slotBytes := by
    rw [← ha.words_mul s.active, ← Nat.succ_mul]
    exact Nat.mul_le_mul_right _ hlt
  rw [Nat.succ_mul] at hslot
  have hread : s.read < P := by
    have hlen := ht.length_eq
    have hoff := s.ring.writeOff_lt
    rw [h.inv.slotBytes] at hlen hoff
    refine Nat.lt_of_mul_lt_mul_right (a := ring.slotBytes) ?_
    omega
  have hitem := ht.full s.read (by omega) hread
  rw [DmaRing.SlotItem, h.inv.slotBytes] at hitem
  rw [descriptor, h.inv.desc, ha.readWord (s.ring.length_slots _) hlt] at hword
  have hbytes : ((s.ring.slots s.active).drop (s.word * ring.wordBytes)).take ring.wordBytes =
      (s.received.drop (position ring s)).take ring.wordBytes := by
    have hcell : s.active = cell s.ring.pos s.read := h.inv.active
    rw [hcell, position, ← List.drop_drop]
    exact Circular.take_drop_congr hitem hin
  exact ⟨(Option.some.inj hword).symm.trans hbytes, by rw [position]; omega⟩

/-- The stream grows behind the position. -/
theorem InOrder.receive (h : InOrder ring s) (bytes : List UInt8) :
    s.sent = (s.received ++ bytes).take (position ring s) ∧
      position ring s ≤ (s.received ++ bytes).length := by
  refine ⟨?_, ?_⟩
  · rw [List.take_append_of_le_length h.behind]
    exact h.sent_eq
  · rw [List.length_append]
    exact h.behind.trans (Nat.le_add_right _ _)

/-- Every step keeps the order as long as the reads are timely. -/
theorem InOrder.step (h : InOrder ring s) (ha : ring.Aligned) (hs : Step s e s')
    (ht : Timely ring ⟨s, e, s'⟩) : InOrder ring s' := by
  have hinv := h.inv.step hs
  cases hs with
  | rx hidle => exact ⟨hinv, h.sent_eq, h.behind⟩
  | @pass rest written hpush hne hfull =>
      obtain ⟨hsent, hbehind⟩ := h.receive (s.ring.chunk rest)
      exact ⟨hinv, hsent, hbehind⟩
  | finish hpush hdone => exact ⟨hinv, h.sent_eq, h.behind⟩
  | @word bytes hrun hword hmore =>
      obtain ⟨hbytes, hle⟩ := h.word_eq ha (h.inv.received_slot hrun (ht rfl)) hword
      have hpos : s.read * ring.slotBytes + (s.word + 1) * ring.wordBytes =
          position ring s + ring.wordBytes := by
        rw [position, Nat.succ_mul, Nat.add_assoc]
      refine ⟨hinv, ?_, ?_⟩
      · show s.sent ++ bytes =
          s.received.take (s.read * ring.slotBytes + (s.word + 1) * ring.wordBytes)
        rw [hpos, List.take_add, ← hbytes, ← h.sent_eq]
      · exact hpos.trans_le hle
  | @lastWord bytes i hrun hword hlast hnext =>
      obtain ⟨hbytes, hle⟩ := h.word_eq ha (h.inv.received_slot hrun (ht rfl)) hword
      have hpos : (s.read + 1) * ring.slotBytes + 0 * ring.wordBytes =
          position ring s + ring.wordBytes := by
        rw [descriptor, h.inv.desc] at hlast
        rw [position, Nat.succ_mul, ← ha.words_mul s.active, ← hlast, Nat.succ_mul]
        omega
      refine ⟨hinv, ?_, ?_⟩
      · show s.sent ++ bytes =
          s.received.take ((s.read + 1) * ring.slotBytes + 0 * ring.wordBytes)
        rw [hpos, List.take_add, ← hbytes, ← h.sent_eq]
      · exact hpos.trans_le hle
  | interrupt hinta => exact ⟨hinv, h.sent_eq, h.behind⟩

variable {ts : List (Transition (Playback N maxSlotBytes) PlaybackEvent)}

theorem inOrder_run (ha : ring.Aligned) (hr : Run Step (start ring) ts s)
    (ht : ∀ t ∈ ts, Timely ring t) : InOrder ring s :=
  hr.invariant_of ht (inOrder_start ring) fun h hs ht => h.step ha hs ht

/-- The channel can always read on. -/
theorem word_step (ha : ring.Aligned) (h : Inv ring s) (hrun : s.running = true) :
    ∃ s', Step s .word s' ∧ position ring s' = position ring s + ring.wordBytes := by
  have hword := ha.readWord (s.ring.length_slots s.active) h.word_lt
  have hmul := ha.words_mul s.active
  have hle : s.word + 1 ≤ (ring.descriptor s.active).words := h.word_lt
  rw [← h.desc] at hword hmul hle
  rcases Nat.lt_or_eq_of_le hle with hlt | heq
  · refine ⟨_, .word hrun hword hlt, ?_⟩
    show s.read * ring.slotBytes + (s.word + 1) * ring.wordBytes = _
    rw [position, Nat.succ_mul, Nat.add_assoc]
  · have hnext : s.descriptor.next = some (next s.active) := by
      rw [descriptor, h.desc]
      rfl
    refine ⟨_, .lastWord hrun hword heq hnext, ?_⟩
    show (s.read + 1) * ring.slotBytes + 0 * ring.wordBytes = _
    rw [← heq, Nat.succ_mul] at hmul
    rw [position, Nat.succ_mul]
    omega

/-- In a run with timely reads, the channel has sent a front part of what the ring
received, as long as its position says, and of what the host sent when nothing was
dropped. -/
theorem sent_in_order (ha : ring.Aligned) (hr : Run Step (start ring) ts s)
    (ht : ∀ t ∈ ts, Timely ring t) :
    s.sent <+: s.received ∧ s.sent.length = position ring s ∧
      (s.dropped = 0 → s.sent <+: s.offered) := by
  have h := inOrder_run ha hr ht
  have hfront : s.sent <+: s.received := by
    rw [h.sent_eq]
    exact List.take_prefix _ _
  refine ⟨hfront, ?_, fun h0 => ?_⟩
  · rw [h.sent_eq, List.length_take, Nat.min_eq_left h.behind]
  · rw [h.inv.offered h0]
    exact hfront.trans (List.prefix_append _ _)

theorem sent_in_order_shortRing : ∃ ts s, Run Step (start shortRing) ts s ∧
    s.sent.length = 4 ∧ s.sent <+: s.received := by
  obtain ⟨ts, s, hr, hts, -, hrun, hreceived, hquiet⟩ :=
    start_shortRing (List.replicate 16 1) rfl
  have hread : s.read = 0 := hquiet.read
  have hinv := inv_run hr
  obtain ⟨s', hs', hposition⟩ := word_step aligned_shortRing hinv hrun
  have ht : ∀ t ∈ ts ++ [⟨s, .word, s'⟩], Timely shortRing t := by
    rw [Runs.forall_snoc]
    refine ⟨fun t ht he => absurd he (hts t ht), fun _ hhalf => ?_⟩
    rw [hread] at hhalf
    exact absurd hhalf (by decide)
  obtain ⟨hfront, hlen, -⟩ := sent_in_order aligned_shortRing (hr.snoc hs') ht
  have hword := hinv.word_lt
  rw [words_shortRing] at hword
  refine ⟨_, s', hr.snoc hs', ?_, hfront⟩
  rw [hlen, hposition, position, hread, Nat.lt_one_iff.mp hword]
  rfl

/-! ## The count of the interrupt -/

/-- The interrupt of a slot is served before the next slot ends. -/
def Prompt (t : Transition (Playback N maxSlotBytes) PlaybackEvent) : Prop :=
  t.post.read ≠ t.pre.read → t.pre.inta = false

/-- A step of another party is prompt. -/
theorem Step.prompt (hs : Step s e s') (he : e ≠ .word) : Prompt ⟨s, e, s'⟩ := by
  intro hread
  cases hs with
  | word hrun hword hmore => exact absurd rfl he
  | lastWord hrun hword hlast hnext => exact absurd rfl he
  | rx hidle => exact absurd rfl hread
  | pass hpush hne hfull => exact absurd rfl hread
  | finish hpush hdone => exact absurd rfl hread
  | interrupt hinta => exact absurd rfl hread

/-- The slots that the interrupt was served for. -/
def served (s : Playback N maxSlotBytes) : Nat := s.read - s.inta.toNat

/-- Before the counters wrap, the ring counts every slot whose interrupt was served. -/
structure Counted (ring : DmaRing N maxSlotBytes) (s : Playback N maxSlotBytes) : Prop
    extends InOrder ring s where
  pending : s.inta.toNat ≤ s.read
  counted : s.received.length < UInt32.size * ring.slotBytes →
    ∃ P, Tracks s.ring s.received P (served s)

theorem counted_start (ring : DmaRing N maxSlotBytes) : Counted ring (start ring) where
  toInOrder := inOrder_start ring
  pending := Nat.le_refl 0
  counted _ := ⟨0, DmaRing.tracks_resetProducer _⟩

/-- The published slots of a stream below the bound. -/
theorem published_lt {r : DmaRing N maxSlotBytes} {received : List UInt8} {P C : Nat}
    (h : Tracks r received P C) (hsmall : received.length < UInt32.size * r.slotBytes) :
    P < UInt32.size := by
  have hlen := h.length_eq
  refine Nat.lt_of_mul_lt_mul_right (a := r.slotBytes) ?_
  omega

/-- The channel has read no more slots than were published. -/
theorem InOrder.read_le (h : InOrder ring s) {P C : Nat} (ht : Tracks s.ring s.received P C) :
    s.read ≤ P := by
  have hbehind := h.behind
  have hlen := ht.length_eq
  have hoff := s.ring.writeOff_lt
  rw [h.inv.slotBytes] at hlen hoff
  rw [position] at hbehind
  refine Nat.le_of_lt_succ (Nat.lt_of_mul_lt_mul_right (a := ring.slotBytes) ?_)
  rw [Nat.succ_mul]
  omega

theorem Counted.step (h : Counted ring s) (ha : ring.Aligned) (hs : Step s e s')
    (ht : Timely ring ⟨s, e, s'⟩) (hp : Prompt ⟨s, e, s'⟩) : Counted ring s' := by
  have horder := h.toInOrder.step ha hs ht
  have hpending := h.pending
  cases hs with
  | rx hidle => exact ⟨horder, h.pending, h.counted⟩
  | @pass rest written hpush hne hfull =>
      refine ⟨horder, h.pending, fun hsmall => ?_⟩
      have hgrow : s.received.length ≤ (s.received ++ s.ring.chunk rest).length := by
        rw [List.length_append]
        exact Nat.le_add_right _ _
      obtain ⟨P, hP⟩ := h.counted (hgrow.trans_lt hsmall)
      have hroom : P - served s < N - s.ring.safetyGap := by
        refine Nat.lt_of_not_le fun h0 => ?_
        rw [hP.isFull_iff.mpr h0] at hfull
        cases hfull
      obtain ⟨P', -, hP', -⟩ := hP.copyChunk hroom rest
      exact ⟨P', hP'⟩
  | @finish rest written hpush hdone =>
      refine ⟨horder, h.pending, fun hsmall => ?_⟩
      obtain ⟨P, hP⟩ := h.counted hsmall
      exact ⟨P, tracks_addProduced hP written⟩
  | word hrun hword hmore => exact ⟨horder, h.pending, h.counted⟩
  | @lastWord bytes i hrun hword hlast hnext =>
      have hquiet : s.inta = false := hp (Nat.succ_ne_self s.read)
      have hserved : served s = s.read := by
        rw [served, hquiet]
        rfl
      refine ⟨horder, Nat.succ_le_succ (Nat.zero_le _), fun hsmall => ?_⟩
      obtain ⟨P, hP⟩ := h.counted hsmall
      rw [hserved] at hP
      exact ⟨P, hP⟩
  | interrupt hinta =>
      have hserved : served s + 1 = s.read := by
        rw [hinta] at hpending
        rw [served, hinta]
        exact Nat.sub_add_cancel hpending
      refine ⟨horder, Nat.zero_le _, fun hsmall => ?_⟩
      obtain ⟨P, hP⟩ := h.counted hsmall
      rw [← h.inv.slotBytes] at hsmall
      have hread := h.toInOrder.read_le hP
      have hsize := published_lt hP hsmall
      have hwords : served s % UInt32.size < P % UInt32.size := by
        rw [Nat.mod_eq_of_lt hsize, Nat.mod_eq_of_lt (by omega)]
        omega
      obtain ⟨r', hrun, hP', -⟩ := hP.advance (by omega) hwords
      refine ⟨P, ?_⟩
      show Tracks (acknowledge s.ring) s.received P s.read
      rw [acknowledge, hrun, ← hserved]
      exact hP'

theorem counted_run (ha : ring.Aligned) (hr : Run Step (start ring) ts s)
    (hts : ∀ t ∈ ts, Timely ring t ∧ Prompt t) : Counted ring s :=
  hr.invariant_of hts (counted_start ring) fun h hs ht => h.step ha hs ht.1 ht.2

/-- A run in which the channel does not read is timely and prompt. -/
theorem unread_timely (hr : Run Step (start ring) ts s) (hts : ∀ t ∈ ts, t.event ≠ .word) :
    ∀ t ∈ ts, Timely ring t ∧ Prompt t :=
  fun t ht => ⟨fun he => absurd he (hts t ht), (hr.step_of_mem ht).prompt (hts t ht)⟩

/-- Reads in the first slot of a run are timely and prompt. -/
theorem first_slot_timely {t : Transition (Playback N maxSlotBytes) PlaybackEvent} (hN : 2 ≤ N)
    (hpre : t.pre.read = 0) (hpost : t.post.read = 0) : Timely ring t ∧ Prompt t := by
  refine ⟨fun _ hhalf => ?_, fun hmoved => ?_⟩
  · have hpos : 0 < N / 2 := Nat.div_pos hN (by decide)
    omega
  · exact absurd (hpost.trans hpre.symm) hmoved

/-- The channel reads one more word of a slot. -/
theorem next_word (ha : ring.Aligned) (h : Inv ring s) (hrun : s.running = true)
    (hmore : s.word + 1 < (ring.descriptor s.active).words) :
    ∃ bytes, Step s .word { s with word := s.word + 1, sent := s.sent ++ bytes } ∧
      bytes.length = ring.wordBytes := by
  have hword := ha.readWord (s.ring.length_slots s.active) h.word_lt
  rw [← h.desc] at hword hmore
  have hlen := DmaDescriptor.length_readWord hword
  rw [h.desc, ring.wordBytes_descriptor] at hlen
  exact ⟨_, .word hrun hword hmore, hlen⟩

/-- The channel reads words of one slot. -/
theorem words_run (ha : ring.Aligned) (h : Inv ring s) (hrun : s.running = true) {k : Nat}
    (hk : s.word + k < (ring.descriptor s.active).words) :
    ∃ ts bytes, Run Step s ts { s with word := s.word + k, sent := s.sent ++ bytes } ∧
      bytes.length = k * ring.wordBytes ∧
      ∀ t ∈ ts, t.event = .word ∧ t.pre.read = s.read ∧ t.post.read = s.read := by
  induction k with
  | zero =>
      refine ⟨[], [], ?_, (Nat.zero_mul _).symm, by simp⟩
      rw [Nat.add_zero, List.append_nil]
      exact .nil
  | succ k ih =>
      obtain ⟨ts, bytes, hr, hlen, hts⟩ := ih (Nat.lt_of_succ_lt hk)
      obtain ⟨more, hstep, hmore⟩ := next_word ha (hr.invariant h Inv.step) hrun hk
      rw [List.append_assoc] at hstep
      refine ⟨_, _, hr.snoc hstep, ?_, Runs.forall_snoc.mpr ⟨hts, rfl, rfl, rfl⟩⟩
      rw [List.length_append, hlen, hmore, Nat.succ_mul]

end

end Playback

end Uac2
