import UsbdUac2.RingQueue
import UsbdUac2.DmaEngine
import UsbdUac2.Lib.Runs
import Mathlib.Data.List.Induction

/-!
# Playback through the ring

Three parties work on the ring while a stream plays.  The USB task pushes packets
and starts the channel once half of the ring is published.  The channel reads the
slots word by word.  The interrupt acknowledges a slot that was read.  They
interleave between any two passes of the loop in `push` and any two words.

`Inv` is what they keep between them, and `running_iff_half` says when the channel
starts.
-/

namespace Uac2

open Circular (cell next)
open DmaRing (Tracks boardRing shortRing)
open Runs (Run Transition)

/-- Where the USB task is. -/
inductive Task where
  | idle
  /-- In the loop of `push`, with the bytes that are left and the count so far. -/
  | pushing (rest : List UInt8) (written : Nat)
deriving DecidableEq, Repr

/-- The bytes that are still to be pushed. -/
def Task.rest : Task → List UInt8
  | .idle => []
  | .pushing rest _ => rest

/-- The bytes that are pushed and not yet counted. -/
def Task.written : Task → Nat
  | .idle => 0
  | .pushing _ written => written

/-- The ring with the parties around it, and the history since the start. -/
structure Playback (N maxSlotBytes : Nat) where
  ring : DmaRing N maxSlotBytes
  /-- The channel is enabled. -/
  running : Bool
  task : Task
  /-- The descriptor the channel works on. -/
  active : Fin N
  /-- The words of it that were moved. -/
  word : Nat
  /-- The interrupt of the channel is pending. -/
  inta : Bool
  /-- All bytes of the packets. -/
  offered : List UInt8
  /-- The number of bytes that did not fit. -/
  dropped : Nat
  /-- The bytes the ring took. -/
  received : List UInt8
  /-- The bytes the channel moved. -/
  sent : List UInt8
  /-- The number of slots the channel read to the end. -/
  read : Nat

inductive PlaybackEvent where
  | rx (data : List UInt8)
  | pass
  | finish
  | word
  | interrupt
deriving DecidableEq, Repr

namespace Playback

variable {N maxSlotBytes : Nat}

/-- `start`: the ring is set up and the channel waits. -/
def start (ring : DmaRing N maxSlotBytes) : Playback N maxSlotBytes where
  ring := ring.initDescriptors
  running := false
  task := .idle
  active := ⟨0, ring.pos⟩
  word := 0
  inta := false
  offered := []
  dropped := 0
  received := []
  sent := []
  read := 0

/-- The descriptor in work. -/
def descriptor (s : Playback N maxSlotBytes) : DmaDescriptor N := s.ring.desc s.active

/-- The test at the end of `audio_data_rx`. -/
def warm (ring : DmaRing N maxSlotBytes) : Bool := N / 2 ≤ ring.fillSlots.toNat

/-- The body of the interrupt. -/
def acknowledge (ring : DmaRing N maxSlotBytes) : DmaRing N maxSlotBytes :=
  match ring.advanceConsumed 1 with
  | .ok ring => ring
  | .error _ => ring

/-- One step of one party. -/
inductive Step : Playback N maxSlotBytes → PlaybackEvent → Playback N maxSlotBytes → Prop where
  | rx {s : Playback N maxSlotBytes} {data : List UInt8} :
      s.task = .idle →
      Step s (.rx data) { s with task := .pushing data 0, offered := s.offered ++ data }
  | pass {s : Playback N maxSlotBytes} {rest : List UInt8} {written : Nat} :
      s.task = .pushing rest written → rest ≠ [] → s.ring.isFullForProducer = false →
      Step s .pass
        { s with
          ring := s.ring.copyChunk rest
          task := .pushing (rest.drop (s.ring.chunk rest).length)
            (written + (s.ring.chunk rest).length)
          received := s.received ++ s.ring.chunk rest }
  | finish {s : Playback N maxSlotBytes} {rest : List UInt8} {written : Nat} :
      s.task = .pushing rest written → rest = [] ∨ s.ring.isFullForProducer = true →
      Step s .finish
        { s with
          ring := s.ring.addProduced written
          task := .idle
          dropped := s.dropped + rest.length
          running := s.running || warm s.ring }
  | word {s : Playback N maxSlotBytes} {bytes : List UInt8} :
      s.running = true → s.descriptor.readWord s.ring.slots s.word = some bytes →
      s.word + 1 < s.descriptor.words →
      Step s .word { s with word := s.word + 1, sent := s.sent ++ bytes }
  | lastWord {s : Playback N maxSlotBytes} {bytes : List UInt8} {i : Fin N} :
      s.running = true → s.descriptor.readWord s.ring.slots s.word = some bytes →
      s.word + 1 = s.descriptor.words → s.descriptor.next = some i →
      Step s .word
        { s with
          active := i
          word := 0
          inta := true
          sent := s.sent ++ bytes
          read := s.read + 1 }
  | interrupt {s : Playback N maxSlotBytes} :
      s.inta = true →
      Step s .interrupt { s with ring := acknowledge s.ring, inta := false }

/-! ## What every run keeps -/

/-- The ring is the one that was set up, and follows what was received. -/
structure Inv (ring : DmaRing N maxSlotBytes) (s : Playback N maxSlotBytes) : Prop where
  desc : s.ring.desc = ring.descriptor
  slotBytes : s.ring.slotBytes = ring.slotBytes
  wordBytes : s.ring.wordBytes = ring.wordBytes
  active : s.active = cell ring.pos s.read
  word_lt : s.word < (ring.descriptor s.active).words
  tracks : ∃ P C, Tracks s.ring s.received P C ∧ C + s.inta.toNat ≤ s.read
  offered : s.dropped = 0 → s.offered = s.received ++ s.task.rest
  /-- The channel runs only when half of the ring was received. -/
  running : s.running = true → N / 2 * ring.slotBytes ≤ s.received.length
  producedBytes : s.ring.producedBytes + UInt32.ofNat s.task.written =
    UInt32.ofNat s.received.length

theorem words_pos (ring : DmaRing N maxSlotBytes) (i : Fin N) : 0 < (ring.descriptor i).words :=
  Nat.succ_pos _

theorem inv_start (ring : DmaRing N maxSlotBytes) : Inv ring (start ring) where
  desc := rfl
  slotBytes := rfl
  wordBytes := rfl
  active := Fin.ext (Nat.zero_mod N).symm
  word_lt := words_pos ring _
  tracks := ⟨0, 0, DmaRing.tracks_resetProducer _, Nat.le_refl 0⟩
  offered _ := rfl
  running h := by cases h
  producedBytes := rfl

theorem acknowledge_keeps (r : DmaRing N maxSlotBytes) :
    (acknowledge r).desc = r.desc ∧ (acknowledge r).slotBytes = r.slotBytes ∧
      (acknowledge r).wordBytes = r.wordBytes ∧
      (acknowledge r).producedBytes = r.producedBytes := by
  rw [acknowledge, DmaRing.advanceConsumed]
  split
  · rename_i h
    split at h
    · cases h
      exact ⟨rfl, rfl, rfl, rfl⟩
    · cases h
  · exact ⟨rfl, rfl, rfl, rfl⟩

/-- An acknowledgement counts a slot, or nothing where the counters say that none is
unread. -/
theorem tracks_acknowledge {r : DmaRing N maxSlotBytes} {received : List UInt8} {P C : Nat}
    (h : Tracks r received P C) :
    Tracks (acknowledge r) received P C ∨ Tracks (acknowledge r) received P (C + 1) := by
  by_cases hwords : C % UInt32.size < P % UInt32.size
  · have hlt : C < P := by
      refine Nat.lt_of_le_of_ne h.consumed_le fun h0 => ?_
      rw [h0] at hwords
      exact Nat.lt_irrefl _ hwords
    obtain ⟨r', hrun, h', -⟩ := h.advance hlt hwords
    rw [acknowledge, hrun]
    exact Or.inr h'
  · rw [acknowledge, h.advance_refused hwords]
    exact Or.inl h

/-- Counting bytes is no change to what a ring tracks. -/
theorem tracks_addProduced {r : DmaRing N maxSlotBytes} {received : List UInt8} {P C : Nat}
    (h : Tracks r received P C) (n : Nat) : Tracks (r.addProduced n) received P C :=
  ⟨h.produced_eq, h.consumed_eq, h.writeSlot_eq, h.length_eq, h.consumed_le, h.fill_le, h.begun,
    h.full, h.part⟩

section

variable {ring : DmaRing N maxSlotBytes} {s s' : Playback N maxSlotBytes} {e : PlaybackEvent}

/-- Every step of every party keeps the invariant. -/
theorem Inv.step (h : Inv ring s) (hs : Step s e s') : Inv ring s' := by
  obtain ⟨P, C, ht, hC⟩ := h.tracks
  cases hs with
  | rx hidle =>
      refine ⟨h.desc, h.slotBytes, h.wordBytes, h.active, h.word_lt, ⟨P, C, ht, hC⟩,
        fun h0 => ?_, h.running, ?_⟩
      · have hoffered := h.offered h0
        rw [hidle, Task.rest, List.append_nil] at hoffered
        rw [hoffered, Task.rest]
      · have hbytes := h.producedBytes
        rwa [hidle] at hbytes
  | @pass rest written hpush hne hfull =>
      have hroom : P - C < N - s.ring.safetyGap := by
        refine Nat.lt_of_not_le fun h0 => ?_
        rw [ht.isFull_iff.mpr h0] at hfull
        cases hfull
      have hsame := s.ring.sameSetup_copyChunk rest
      obtain ⟨P', -, ht', -⟩ := ht.copyChunk hroom rest
      refine ⟨hsame.desc.trans h.desc, hsame.slotBytes.trans h.slotBytes,
        hsame.wordBytes.trans h.wordBytes, h.active, h.word_lt, ⟨P', C, ht', hC⟩, fun h0 => ?_,
        fun h0 => ?_, ?_⟩
      · have hchunk : s.ring.chunk rest ++ rest.drop (s.ring.chunk rest).length = rest := by
          rw [s.ring.length_chunk, DmaRing.chunk, List.take_append_drop]
        show s.offered = s.received ++ s.ring.chunk rest ++ rest.drop (s.ring.chunk rest).length
        rw [h.offered h0, hpush, Task.rest, List.append_assoc, hchunk]
      · rw [List.length_append]
        exact (h.running h0).trans (Nat.le_add_right _ _)
      · have hbytes := h.producedBytes
        rw [hpush, Task.written] at hbytes
        have hkeep : (s.ring.copyChunk rest).producedBytes = s.ring.producedBytes := by
          rw [DmaRing.copyChunk]
          split <;> rfl
        rw [hkeep, Task.written, List.length_append, UInt32.ofNat_add, UInt32.ofNat_add,
          ← UInt32.add_assoc, hbytes]
  | @finish rest written hpush hdone =>
      refine ⟨h.desc, h.slotBytes, h.wordBytes, h.active, h.word_lt,
        ⟨P, C, tracks_addProduced ht written, hC⟩, fun h0 => ?_, fun h0 => ?_, ?_⟩
      · have hrest : rest = [] := List.length_eq_zero_iff.mp (Nat.eq_zero_of_add_eq_zero_left h0)
        have hdropped : s.dropped = 0 := Nat.eq_zero_of_add_eq_zero_right h0
        have hoffered := h.offered hdropped
        rwa [hpush, hrest] at hoffered
      · rcases Bool.or_eq_true_iff.mp h0 with hrun | hwarm
        · exact h.running hrun
        · have hhalf : N / 2 ≤ s.ring.fillSlots.toNat := of_decide_eq_true hwarm
          rw [ht.toNat_fillSlots] at hhalf
          have hmul : N / 2 * s.ring.slotBytes ≤ P * s.ring.slotBytes :=
            Nat.mul_le_mul_right _ (hhalf.trans (Nat.sub_le P C))
          have hlen := ht.length_eq
          rw [← h.slotBytes]
          show _ ≤ s.received.length
          omega
      · have hbytes := h.producedBytes
        rw [hpush] at hbytes
        exact (UInt32.add_zero _).trans hbytes
  | word hrun hword hmore =>
      refine ⟨h.desc, h.slotBytes, h.wordBytes, h.active, ?_, ⟨P, C, ht, hC⟩, h.offered, h.running,
        h.producedBytes⟩
      rw [descriptor, h.desc] at hmore
      exact hmore
  | @lastWord bytes i hrun hword hlast hnext =>
      have hi : i = cell ring.pos (s.read + 1) := by
        rw [descriptor, h.desc] at hnext
        have hnext' : next s.active = i := Option.some.inj hnext
        rw [← hnext', h.active, Circular.next_cell]
      refine ⟨h.desc, h.slotBytes, h.wordBytes, hi, words_pos ring i, ⟨P, C, ht, ?_⟩, h.offered,
        h.running, h.producedBytes⟩
      show C + 1 ≤ s.read + 1
      omega
  | interrupt hinta =>
      obtain ⟨hdesc, hbytes, hword, hproduced⟩ := acknowledge_keeps s.ring
      rw [hinta] at hC
      refine ⟨hdesc.trans h.desc, hbytes.trans h.slotBytes, hword.trans h.wordBytes, h.active,
        h.word_lt, ?_, h.offered, h.running, ?_⟩
      · rcases tracks_acknowledge ht with ht' | ht'
        · exact ⟨P, C, ht', (Nat.le_add_right C 1).trans hC⟩
        · exact ⟨P, C + 1, ht', hC⟩
      · show (acknowledge s.ring).producedBytes + _ = _
        rw [hproduced]
        exact h.producedBytes

theorem inv_run {ts : List (Transition (Playback N maxSlotBytes) PlaybackEvent)}
    (hr : Run Step (start ring) ts s) : Inv ring s :=
  hr.invariant (inv_start ring) Inv.step

/-! ## A push without interruption -/

/-- The task is in the loop with the rest of the work, or is done with all of it. -/
def Pushing (data : List UInt8) (s₀ s : Playback N maxSlotBytes) : Prop :=
  (∃ rest written, s.task = .pushing rest written ∧ s.dropped = s₀.dropped ∧
    s.ring.pushLoop rest written = s₀.ring.pushLoop data 0) ∨
  (s.task = .idle ∧ s.dropped = s₀.dropped + (s₀.ring.push data).1.dropped ∧
    s.ring = (s₀.ring.push data).2)

theorem Pushing.step {data : List UInt8} {s₀ : Playback N maxSlotBytes} (h : Pushing data s₀ s)
    (hs : Step s e s') (he : e = .pass ∨ e = .finish) : Pushing data s₀ s' := by
  have hnotIdle {rest : List UInt8} {written : Nat} (htask : s.task = .pushing rest written) :
      s.dropped = s₀.dropped ∧ s.ring.pushLoop rest written = s₀.ring.pushLoop data 0 := by
    rcases h with ⟨rest', written', htask', hdropped, hloop⟩ | ⟨hidle, -, -⟩
    · rw [htask] at htask'
      cases htask'
      exact ⟨hdropped, hloop⟩
    · rw [htask] at hidle
      cases hidle
  cases hs with
  | @pass rest written hpush hne hfull =>
      obtain ⟨hdropped, hloop⟩ := hnotIdle hpush
      refine Or.inl ⟨_, _, rfl, hdropped, ?_⟩
      rw [← hloop, DmaRing.pushLoop.eq_1 rest, if_neg hne, hfull]
      rfl
  | @finish rest written hpush hdone =>
      obtain ⟨hdropped, hloop⟩ := hnotIdle hpush
      have hstop : s.ring.pushLoop rest written = (rest, written, s.ring) := by
        rcases hdone with rfl | hfull
        · rw [DmaRing.pushLoop, if_pos rfl]
        · exact DmaRing.pushLoop_full hfull rest written
      rw [hstop] at hloop
      refine Or.inr ⟨rfl, ?_, ?_⟩
      · show s.dropped + rest.length = _
        rw [hdropped, DmaRing.push_eq, ← hloop]
      · show s.ring.addProduced written = _
        rw [DmaRing.push_eq, ← hloop]
  | rx hidle => rcases he with he | he <;> cases he
  | word hrun hword hmore => rcases he with he | he <;> cases he
  | lastWord hrun hword hlast hnext => rcases he with he | he <;> cases he
  | interrupt hinta => rcases he with he | he <;> cases he

/-- A USB task that is not interrupted does to the ring what `push` does. -/
theorem alone_push {data : List UInt8}
    {ts : List (Transition (Playback N maxSlotBytes) PlaybackEvent)}
    (hr : Run Step s ts s') (hts : ∀ t ∈ ts, t.event = .pass ∨ t.event = .finish)
    (htask : s.task = .pushing data 0) (hidle : s'.task = .idle) :
    s'.dropped = s.dropped + (s.ring.push data).1.dropped ∧ s'.ring = (s.ring.push data).2 := by
  have h : Pushing data s s' :=
    hr.invariant_of hts (Or.inl ⟨data, 0, htask, rfl, rfl⟩) fun h hs he => Pushing.step h hs he
  rcases h with ⟨rest, written, hbusy, -, -⟩ | ⟨-, hdropped, hring⟩
  · rw [hidle] at hbusy
    cases hbusy
  · exact ⟨hdropped, hring⟩

/-! ## When the channel starts -/

/-- The test at the end of a push looks at the slots that are published. -/
theorem warm_iff {r : DmaRing N maxSlotBytes} {received : List UInt8} {P C : Nat}
    (h : Tracks r received P C) : warm r = true ↔ N / 2 ≤ P - C := by
  rw [warm, decide_eq_true_iff, h.toNat_fillSlots]

/-- Before the channel runs nothing is read, and an idle task has left less than half of
the ring. -/
structure Armed (ring : DmaRing N maxSlotBytes) (s : Playback N maxSlotBytes) : Prop
    extends Inv ring s where
  unread : s.running = false → s.read = 0
  half : s.running = false → s.task = .idle → s.received.length < N / 2 * ring.slotBytes

theorem Armed.step (h : Armed ring s) (hs : Step s e s') : Armed ring s' := by
  have hinv := h.toInv.step hs
  cases hs with
  | rx hidle => exact ⟨hinv, h.unread, nofun⟩
  | pass hpush hne hfull => exact ⟨hinv, h.unread, nofun⟩
  | @finish rest written hpush hdone =>
      refine ⟨hinv, fun h0 => h.unread (Bool.or_eq_false_iff.mp h0).1, fun h0 _ => ?_⟩
      obtain ⟨hstopped, hcold⟩ := Bool.or_eq_false_iff.mp h0
      obtain ⟨P, C, ht, hC⟩ := h.tracks
      rw [h.unread hstopped] at hC
      have hfew : P < N / 2 := by
        refine Nat.lt_of_not_le fun hge => ?_
        rw [(warm_iff ht).mpr (by omega)] at hcold
        cases hcold
      have hlen := ht.length_eq
      have hoff := s.ring.writeOff_lt
      have hmul : (P + 1) * ring.slotBytes ≤ N / 2 * ring.slotBytes := Nat.mul_le_mul_right _ hfew
      rw [h.slotBytes] at hlen hoff
      rw [Nat.succ_mul] at hmul
      show s.received.length < _
      omega
  | word hrun hword hmore =>
      have hnot : s.running ≠ false := by simp [hrun]
      exact ⟨hinv, fun h0 => absurd h0 hnot, fun h0 => absurd h0 hnot⟩
  | lastWord hrun hword hlast hnext =>
      have hnot : s.running ≠ false := by simp [hrun]
      exact ⟨hinv, fun h0 => absurd h0 hnot, fun h0 => absurd h0 hnot⟩
  | interrupt hinta => exact ⟨hinv, h.unread, h.half⟩

theorem armed_run (hN : 2 ≤ N)
    {ts : List (Transition (Playback N maxSlotBytes) PlaybackEvent)}
    (hr : Run Step (start ring) ts s) : Armed ring s := by
  have h0 : Armed ring (start ring) := by
    refine ⟨inv_start ring, fun _ => rfl, fun _ _ => ?_⟩
    exact Nat.mul_pos (Nat.div_pos hN (by decide)) ring.slotBytes_pos
  exact hr.invariant h0 Armed.step

/-- The channel and its interrupt did nothing in between. -/
structure Unplayed (s s' : Playback N maxSlotBytes) : Prop where
  read : s'.read = s.read
  word : s'.word = s.word
  inta : s'.inta = s.inta
  sent : s'.sent = s.sent

omit ring e in
theorem Unplayed.trans {s'' : Playback N maxSlotBytes} (h : Unplayed s s')
    (h' : Unplayed s' s'') : Unplayed s s'' :=
  ⟨h'.read.trans h.read, h'.word.trans h.word, h'.inta.trans h.inta, h'.sent.trans h.sent⟩

/-- The loop of a push ends. -/
theorem loop_run (s : Playback N maxSlotBytes) {rest : List UInt8} {written : Nat}
    (htask : s.task = .pushing rest written) :
    ∃ ts s', Run Step s ts s' ∧ (∀ t ∈ ts, t.event = .pass ∨ t.event = .finish) ∧
      s'.task = .idle ∧ s'.offered = s.offered ∧ Unplayed s s' := by
  induction hn : rest.length using Nat.strong_induction_on generalizing s rest written with
  | _ n ih =>
      by_cases hdone : rest = [] ∨ s.ring.isFullForProducer = true
      · refine ⟨_, _, Run.nil.snoc (.finish htask hdone), fun t ht => ?_, rfl, rfl,
          rfl, rfl, rfl, rfl⟩
        rw [List.nil_append, List.mem_singleton] at ht
        rw [ht]
        exact Or.inr rfl
      · rw [not_or, Bool.not_eq_true] at hdone
        obtain ⟨s₁, hpass, htask₁, hoffered₁, hquiet₁⟩ : ∃ s₁, Step s .pass s₁ ∧
            s₁.task = .pushing (rest.drop (s.ring.chunk rest).length)
              (written + (s.ring.chunk rest).length) ∧ s₁.offered = s.offered ∧
            Unplayed s s₁ :=
          ⟨_, .pass htask hdone.1 hdone.2, rfl, rfl, rfl, rfl, rfl, rfl⟩
        have hlt : (rest.drop (s.ring.chunk rest).length).length < n := by
          have hoff := s.ring.writeOff_lt
          have hpos := List.length_pos_iff.mpr hdone.1
          rw [List.length_drop, s.ring.length_chunk]
          omega
        obtain ⟨ts, s', hr, hts, hidle, hoffered, hquiet⟩ := ih _ hlt s₁ htask₁ rfl
        refine ⟨_, s', (Run.nil.snoc hpass).append hr, fun t ht => ?_, hidle,
          hoffered.trans hoffered₁, hquiet₁.trans hquiet⟩
        rcases List.mem_append.mp ht with ht | ht
        · rw [List.nil_append, List.mem_singleton] at ht
          rw [ht]
          exact Or.inl rfl
        · exact hts t ht

/-- Packets that fit are taken before the channel reads anything. -/
theorem feed_run {packets : List (List UInt8)}
    (hfit : packets.flatten.length ≤ (N - ring.safetyGap) * ring.slotBytes) :
    ∃ ts s, Run Step (start ring) ts s ∧ (∀ t ∈ ts, t.event ≠ .word) ∧ s.task = .idle ∧
      s.ring.safetyGap = ring.safetyGap ∧ s.dropped = 0 ∧ s.received = packets.flatten ∧
      Unplayed (start ring) s := by
  induction packets using List.reverseRecOn with
  | nil => exact ⟨[], start ring, .nil, by simp, rfl, rfl, rfl, rfl, ⟨rfl, rfl, rfl, rfl⟩⟩
  | append_singleton packets data ih =>
      rw [List.flatten_append, List.flatten_singleton, List.length_append] at hfit
      obtain ⟨ts, s, hr, hts, hidle, hgap, hdropped, hreceived, hquiet⟩ :=
        ih (Nat.le_of_add_right_le hfit)
      obtain ⟨s₁, hrx, htask₁, hoffered₁, hdropped₁, hring₁, hquiet₁⟩ : ∃ s₁,
          Step s (.rx data) s₁ ∧ s₁.task = .pushing data 0 ∧ s₁.offered = s.offered ++ data ∧
          s₁.dropped = s.dropped ∧ s₁.ring = s.ring ∧ Unplayed s s₁ :=
        ⟨_, .rx hidle, rfl, rfl, rfl, rfl, rfl, rfl, rfl, rfl⟩
      obtain ⟨us, s', hr', hus, hidle', hoffered', hquiet'⟩ := loop_run s₁ htask₁
      obtain ⟨hdropped', hring'⟩ := alone_push hr' hus htask₁ hidle'
      have hrun : Run Step (start ring) _ s' := (hr.snoc hrx).append hr'
      have hinv := inv_run hr
      have hnone : s'.dropped = 0 := by
        obtain ⟨P, C, ht, hC⟩ := hinv.tracks
        obtain ⟨-, -, -, hresult⟩ := ht.push data
        have hread : s.read = 0 := hquiet.read
        have hlen := ht.length_eq
        obtain rfl : C = 0 := by omega
        rw [hinv.slotBytes, hreceived] at hlen
        rw [hdropped', hdropped₁, hdropped, hring₁, hresult, Nat.zero_add]
        show data.length - s.ring.free P 0 = 0
        rw [DmaRing.free, hgap, hinv.slotBytes, Nat.sub_zero]
        omega
      refine ⟨_, s', hrun, fun t ht => ?_, hidle', ?_, hnone, ?_,
        hquiet.trans (hquiet₁.trans hquiet')⟩
      · rcases List.mem_append.mp ht with ht | ht
        · rcases List.mem_append.mp ht with ht | ht
          · exact hts t ht
          · rw [List.mem_singleton.mp ht]
            simp
        · rcases hus t ht with he | he <;> simp [he]
      · rw [hring', hring₁, (s.ring.sameSetup_push data).safetyGap, hgap]
      · have hkept := (inv_run hrun).offered hnone
        have hbefore := hinv.offered hdropped
        rw [hidle', Task.rest, List.append_nil] at hkept
        rw [hidle, Task.rest, List.append_nil] at hbefore
        rw [← hkept, hoffered', hoffered₁, hbefore, hreceived, List.flatten_append,
          List.flatten_singleton]

/-- Packets that fit, and that have half of the ring, start the channel. -/
theorem start_run (hN : 2 ≤ N) {packets : List (List UInt8)}
    (hhalf : N / 2 * ring.slotBytes ≤ packets.flatten.length)
    (hfit : packets.flatten.length ≤ (N - ring.safetyGap) * ring.slotBytes) :
    ∃ ts s, Run Step (start ring) ts s ∧ (∀ t ∈ ts, t.event ≠ .word) ∧ s.task = .idle ∧
      s.running = true ∧ s.received = packets.flatten ∧ Unplayed (start ring) s := by
  obtain ⟨ts, s, hr, hts, hidle, -, -, hreceived, hquiet⟩ := feed_run hfit
  refine ⟨ts, s, hr, hts, hidle, ?_, hreceived, hquiet⟩
  cases hrunning : s.running with
  | true => rfl
  | false =>
      have hlt := (armed_run hN hr).half hrunning hidle
      rw [hreceived] at hlt
      exact absurd hhalf (Nat.not_le.mpr hlt)

/-- Whenever no push is in progress, the channel runs exactly when half of the ring was
received, whatever the packets were. -/
theorem running_iff_half (hN : 2 ≤ N)
    {ts : List (Transition (Playback N maxSlotBytes) PlaybackEvent)}
    (hr : Run Step (start ring) ts s) (hidle : s.task = .idle) :
    s.running = true ↔ N / 2 * ring.slotBytes ≤ s.received.length := by
  have h := armed_run hN hr
  refine ⟨h.running, fun hhalf => ?_⟩
  cases hrunning : s.running with
  | true => rfl
  | false => exact absurd hhalf (Nat.not_le.mpr (h.half hrunning hidle))

end

/-- Four words start it. -/
theorem start_shortRing (data : List UInt8) (h : data.length = 16) :
    ∃ ts s, Run Step (start shortRing) ts s ∧ (∀ t ∈ ts, t.event ≠ .word) ∧ s.task = .idle ∧
      s.running = true ∧ s.received = data ∧ Unplayed (start shortRing) s := by
  have hlen : [data].flatten = data := by simp
  rw [← hlen]
  refine start_run (by decide) ?_ ?_
  · rw [hlen, h]
    decide
  · rw [hlen, h]
    decide

/-- Three quarters of the ring of the example start it. -/
theorem start_boardRing :
    ∃ ts s, Run Step (start boardRing) ts s ∧ (∀ t ∈ ts, t.event ≠ .word) ∧ s.task = .idle ∧
      s.running = true ∧ s.received.length = 2304 ∧ Unplayed (start boardRing) s := by
  have hlen : (List.replicate 3 (List.replicate 768 (1 : UInt8))).flatten.length = 2304 := by
    rw [List.flatten_replicate_replicate, List.length_replicate]
  have hhalf : 8 / 2 * boardRing.slotBytes ≤
      (List.replicate 3 (List.replicate 768 (1 : UInt8))).flatten.length := by
    rw [hlen]
    decide
  have hfit : (List.replicate 3 (List.replicate 768 (1 : UInt8))).flatten.length ≤
      (8 - boardRing.safetyGap) * boardRing.slotBytes := by
    rw [hlen]
    decide
  obtain ⟨ts, s, hr, hts, hidle, hrun, hreceived, hquiet⟩ := start_run (by decide) hhalf hfit
  exact ⟨ts, s, hr, hts, hidle, hrun, hreceived ▸ hlen, hquiet⟩

theorem aligned_boardRing : boardRing.Aligned := ⟨⟨96, rfl⟩, by decide⟩

theorem aligned_shortRing : shortRing.Aligned :=
  (DmaRing.aligned_setSlotSize DmaRing.setSlotSize_boardRing).mpr (by decide)

theorem words_shortRing (i : Fin 8) : (shortRing.descriptor i).words = 1 := by
  have h : (shortRing.descriptor i).words * 4 = 4 := aligned_shortRing.words_mul i
  omega

theorem running_shortRing : ∃ ts s, Run Step (start shortRing) ts s ∧ s.task = .idle ∧
    s.received.length = 16 ∧ s.running = true := by
  obtain ⟨ts, s, hr, -, hidle, -, hreceived, -⟩ := start_shortRing (List.replicate 16 1) rfl
  have hlen : s.received.length = 16 := by rw [hreceived, List.length_replicate]
  refine ⟨ts, s, hr, hidle, hlen, (running_iff_half (by decide) hr hidle).mpr ?_⟩
  rw [hlen]
  decide

end Playback

end Uac2
