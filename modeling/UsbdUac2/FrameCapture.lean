import UsbdUac2.FramePlayback

/-!
# Capture frame by frame

The interrupt of the receiver moves frames from the FIFO of the hardware to a second
queue, or discards them when the queue is full.  For each packet the USB task decides
how many frames it wants, by how full the queue seems, and takes frames until it has
them or the queue has none.

`captured_in_order` says that no frame is lost, doubled or cut on the way from the queue
to the packets.  `PRODUCED_IN` counts bytes and `CONSUMED_IN` counts frames, so that
the fill the task sees is off by seven eighths of all frames ever sent.
`seen_fill_drifts` gives the exact value, and from the frame number 176 on the task
always wants the largest packet.
-/

namespace Uac2

open DocumentedBbQueue (contents)
open Frames (le32)
open Runs (Run Transition)

/-- Where the USB task is. -/
inductive CaptureTask where
  | idle
  /-- In the loop of `audio_data_tx`, which wants `samples` frames and has some. -/
  | filling (samples written : Nat) (buf : List UInt8)
deriving DecidableEq, Repr

/-- The bytes of the packet so far. -/
def CaptureTask.buf : CaptureTask → List UInt8
  | .idle => []
  | .filling _ _ buf => buf

/-- The state of the input side, and its history. -/
structure FrameCapture (Q : Type) where
  queue : Q
  /-- `PRODUCED_IN`. -/
  produced : UInt32
  /-- `CONSUMED_IN`. -/
  consumed : UInt32
  task : CaptureTask
  /-- The interrupt is unmasked. -/
  unmasked : Bool
  /-- The words in the FIFO of the hardware. -/
  fifo : List UInt32
  /-- The bytes the interrupt put into the queue. -/
  made : List UInt8
  /-- The packets that were handed to the endpoint. -/
  packets : List (List UInt8)

inductive CaptureEvent where
  | record (word : UInt32)
  | frame
  | discard
  | start
  | stop
  | tx
  | copy
  | finish
deriving DecidableEq, Repr

namespace FrameCapture

/-- The frames for a packet, from the frames in the queue. -/
def samples (nominalSamples : Nat) (fill : Int32) : Nat :=
  if fill < 256 * 4 / 10 then nominalSamples - 1
  else if 256 * 6 / 10 < fill then nominalSamples + 1
  else nominalSamples

theorem samples_le (nominalSamples : Nat) (fill : Int32) :
    samples nominalSamples fill ≤ nominalSamples + 1 := by
  rw [samples]
  split
  · omega
  · split <;> omega

theorem samples_pos {nominalSamples : Nat} (h : 1 < nominalSamples) (fill : Int32) :
    0 < samples nominalSamples fill := by
  rw [samples]
  split
  · omega
  · split <;> omega

variable {Q : Type} [BbQueue Q]

/-- The first state, around a queue. -/
def initial (queue : Q) : FrameCapture Q where
  queue := queue
  produced := 0
  consumed := 0
  task := .idle
  unmasked := false
  fifo := []
  made := []
  packets := []

/-- The loop of `audio_data_tx` ends. -/
def Done (samples written : Nat) (queue : Q) : Prop :=
  samples ≤ written ∨ ∀ rgr, BbQueue.read queue = some rgr → rgr.length / bytesPerFrame = 0

/-- One step, at the given number of frames in a nominal packet. -/
inductive Step (nominalSamples : Nat) :
    FrameCapture Q → CaptureEvent → FrameCapture Q → Prop where
  | record {s : FrameCapture Q} {word : UInt32} :
      Step nominalSamples s (.record word) { s with fifo := s.fifo ++ [word] }
  | frame {s : FrameCapture Q} {l r : UInt32} {rest : List UInt32} {queue : Q} :
      s.unmasked = true → s.fifo = l :: r :: rest →
      tryProduceOneFrame (le32 l ++ le32 r) s.queue = some queue →
      Step nominalSamples s .frame
        { s with
          queue
          produced := s.produced + UInt32.ofNat bytesPerFrame
          fifo := rest
          made := s.made ++ (le32 l ++ le32 r) }
  | discard {s : FrameCapture Q} {l r : UInt32} {rest : List UInt32} :
      s.unmasked = true → s.fifo = l :: r :: rest →
      tryProduceOneFrame (le32 l ++ le32 r) s.queue = none →
      Step nominalSamples s .discard { s with fifo := rest }
  | start {s : FrameCapture Q} :
      s.task = .idle → Step nominalSamples s .start { s with unmasked := true, fifo := [] }
  | stop {s : FrameCapture Q} :
      s.task = .idle → Step nominalSamples s .stop { s with unmasked := false }
  | tx {s : FrameCapture Q} :
      s.task = .idle →
      Step nominalSamples s .tx
        { s with
          task := .filling
            (samples nominalSamples (InterruptAudio.fill s.produced s.consumed)) 0 [] }
  | copy {s : FrameCapture Q} {samples written : Nat} {buf rgr : List UInt8} :
      s.task = .filling samples written buf → written < samples →
      BbQueue.read s.queue = some rgr → rgr.length / bytesPerFrame ≠ 0 →
      Step nominalSamples s .copy
        { s with
          queue := BbQueue.release
            (min (samples - written) (rgr.length / bytesPerFrame) * bytesPerFrame) s.queue
          consumed := s.consumed +
            UInt32.ofNat (min (samples - written) (rgr.length / bytesPerFrame))
          task := .filling samples
            (written + min (samples - written) (rgr.length / bytesPerFrame))
            (buf ++ rgr.take
              (min (samples - written) (rgr.length / bytesPerFrame) * bytesPerFrame)) }
  | finish {s : FrameCapture Q} {samples written : Nat} {buf : List UInt8} :
      s.task = .filling samples written buf → Done samples written s.queue →
      Step nominalSamples s .finish { s with task := .idle, packets := s.packets ++ [buf] }

/-! ## What every run keeps -/

variable {cap : Nat} [DocumentedBbQueue Q cap] {nominalSamples : Nat}

/-- A packet of whole frames, at most one more than nominal. -/
def WellSized (nominalSamples : Nat) (packet : List UInt8) : Prop :=
  bytesPerFrame ∣ packet.length ∧ packet.length ≤ (nominalSamples + 1) * bytesPerFrame

/-- The bytes that left the queue. -/
def left (s : FrameCapture Q) : List UInt8 := s.packets.flatten ++ s.task.buf

structure Inv (nominalSamples : Nat) (s : FrameCapture Q) : Prop where
  stream : s.made = s.left ++ contents s.queue
  whole : bytesPerFrame ∣ s.made.length
  packets : ∀ packet ∈ s.packets, WellSized nominalSamples packet
  filling : ∀ {samples written buf}, s.task = .filling samples written buf →
    buf.length = written * bytesPerFrame ∧ written ≤ samples ∧ samples ≤ nominalSamples + 1
  produced : s.produced = UInt32.ofNat s.made.length
  /-- The counter of the task counts frames. -/
  consumed : ∃ frames, s.left.length = frames * bytesPerFrame ∧ s.consumed = UInt32.ofNat frames

theorem inv_initial {queue : Q} (h : contents queue = []) :
    Inv nominalSamples (initial queue) where
  stream := h.symm
  whole := Nat.dvd_zero _
  packets := nofun
  filling := nofun
  produced := rfl
  consumed := ⟨0, rfl, rfl⟩

section

variable {s s' : FrameCapture Q} {e : CaptureEvent}

omit [DocumentedBbQueue Q cap] [BbQueue Q] in
theorem length_frame (l r : UInt32) : (le32 l ++ le32 r).length = bytesPerFrame := rfl

theorem Inv.step (h : Inv nominalSamples s) (hs : Step nominalSamples s e s') :
    Inv nominalSamples s' := by
  cases hs with
  | record => exact ⟨h.stream, h.whole, h.packets, h.filling, h.produced, h.consumed⟩
  | @frame l r rest queue hunmasked hfifo hframe =>
      have hlen := length_frame l r
      refine ⟨?_, ?_, h.packets, h.filling, ?_, h.consumed⟩
      · show s.made ++ (le32 l ++ le32 r) = s.left ++ contents queue
        rw [tryProduceOneFrame_eq hlen hframe, ← List.append_assoc s.left, ← h.stream]
      · rw [List.length_append, hlen]
        exact Nat.dvd_add h.whole (Nat.dvd_refl _)
      · rw [List.length_append, hlen, UInt32.ofNat_add, ← h.produced]
  | discard hunmasked hfifo hfull =>
      exact ⟨h.stream, h.whole, h.packets, h.filling, h.produced, h.consumed⟩
  | start hidle => exact ⟨h.stream, h.whole, h.packets, h.filling, h.produced, h.consumed⟩
  | stop hidle => exact ⟨h.stream, h.whole, h.packets, h.filling, h.produced, h.consumed⟩
  | tx hidle =>
      have hleft : s.left = s.packets.flatten ++ [] := by rw [left, hidle, CaptureTask.buf]
      refine ⟨?_, h.whole, h.packets, ?_, h.produced, ?_⟩
      · show s.made = s.packets.flatten ++ [] ++ contents s.queue
        rw [← hleft]
        exact h.stream
      · intro samples written buf htask
        cases htask
        exact ⟨rfl, Nat.zero_le _, samples_le _ _⟩
      · show ∃ frames, (s.packets.flatten ++ []).length = _ ∧ _
        rw [← hleft]
        exact h.consumed
  | @copy samples written buf rgr htask hmore hread havailable =>
      obtain ⟨hlen, hwritten, hsamples⟩ := h.filling htask
      have hleft : s.left = s.packets.flatten ++ buf := by rw [left, htask, CaptureTask.buf]
      generalize hcopy : min (samples - written) (rgr.length / bytesPerFrame) = toCopy
      have hfit : toCopy * bytesPerFrame ≤ rgr.length := by
        have hle : toCopy ≤ rgr.length / bytesPerFrame := hcopy ▸ Nat.min_le_right _ _
        exact (Nat.mul_le_mul_right _ hle).trans (Nat.div_mul_le_self _ _)
      have hroom : written + toCopy ≤ samples := by omega
      have hnew : s.packets.flatten ++ (buf ++ rgr.take (toCopy * bytesPerFrame)) =
          s.left ++ rgr.take (toCopy * bytesPerFrame) := by
        rw [hleft, List.append_assoc]
      obtain ⟨frames, hframes, hconsumed⟩ := h.consumed
      refine ⟨?_, h.whole, h.packets, ?_, h.produced, ⟨frames + toCopy, ?_, ?_⟩⟩
      · show s.made = s.packets.flatten ++ (buf ++ rgr.take (toCopy * bytesPerFrame)) ++
          contents (BbQueue.release (toCopy * bytesPerFrame) s.queue)
        rw [hnew, List.append_assoc, ← take_append_release hread hfit]
        exact h.stream
      · intro samples' written' buf' htask'
        cases htask'
        rw [List.length_append, List.length_take, Nat.min_eq_left hfit, hlen, Nat.add_mul]
        exact ⟨rfl, hroom, hsamples⟩
      · show (s.packets.flatten ++ (buf ++ rgr.take (toCopy * bytesPerFrame))).length = _
        rw [hnew, List.length_append, List.length_take, Nat.min_eq_left hfit, hframes,
          Nat.add_mul]
      · show s.consumed + UInt32.ofNat toCopy = _
        rw [hconsumed, UInt32.ofNat_add]
  | @finish samples written buf htask hdone =>
      have hleft : s.left = s.packets.flatten ++ buf := by rw [left, htask, CaptureTask.buf]
      have hnew : (s.packets ++ [buf]).flatten ++ [] = s.left := by
        rw [hleft, List.flatten_append, List.flatten_singleton, List.append_nil]
      obtain ⟨hlen, hwritten, hsamples⟩ := h.filling htask
      refine ⟨?_, h.whole, ?_, nofun, h.produced, ?_⟩
      · show s.made = (s.packets ++ [buf]).flatten ++ [] ++ contents s.queue
        rw [hnew]
        exact h.stream
      · intro packet hmem
        rcases List.mem_append.mp hmem with hold | hlast
        · exact h.packets packet hold
        · rw [List.mem_singleton.mp hlast, WellSized, hlen]
          exact ⟨Nat.dvd_mul_left _ _, Nat.mul_le_mul_right _ (hwritten.trans hsamples)⟩
      · show ∃ frames, ((s.packets ++ [buf]).flatten ++ []).length = _ ∧ _
        rw [hnew]
        exact h.consumed

variable {queue : Q} {ts : List (Transition (FrameCapture Q) CaptureEvent)}

theorem inv_run (h : contents queue = [])
    (hr : Run (Step nominalSamples) (initial queue) ts s) : Inv nominalSamples s :=
  hr.invariant (inv_initial h) Inv.step

/-- In any interleaving, the packets and the queue hold the captured frames in order, and
each packet is made of whole frames and fits the buffer it is built in. -/
theorem captured_in_order (h : contents queue = [])
    (hr : Run (Step nominalSamples) (initial queue) ts s) :
    s.made = s.packets.flatten ++ s.task.buf ++ contents s.queue ∧
      bytesPerFrame ∣ s.made.length ∧
      (∀ packet ∈ s.packets, WellSized nominalSamples packet) ∧
      s.task.buf.length ≤ (nominalSamples + 1) * bytesPerFrame := by
  have hinv := inv_run h hr
  refine ⟨hinv.stream, hinv.whole, hinv.packets, ?_⟩
  cases htask : s.task with
  | idle => exact Nat.zero_le _
  | filling samples written buf =>
      obtain ⟨hlen, hwritten, hsamples⟩ := hinv.filling htask
      rw [CaptureTask.buf, hlen]
      exact Nat.mul_le_mul_right _ (hwritten.trans hsamples)

end

/-- The first of two frames is handed over. -/
theorem captured_in_order_fifo : ∃ ts s,
    Run (Step 6) (initial (ByteFifo.empty 2048)) ts s ∧
      s.packets = [[1, 0, 0, 0, 2, 0, 0, 0]] ∧
      s.made = [1, 0, 0, 0, 2, 0, 0, 0, 3, 0, 0, 0, 4, 0, 0, 0] ∧
      ∀ packet ∈ s.packets, WellSized 6 packet := by
  obtain ⟨ts, s, hr, hpackets, htask, hqueue⟩ : ∃ ts s,
      Run (Step 6) (initial (ByteFifo.empty 2048)) ts s ∧
        s.packets = [[1, 0, 0, 0, 2, 0, 0, 0]] ∧ s.task.buf = [] ∧
        s.queue.bytes = [3, 0, 0, 0, 4, 0, 0, 0] := by
    have hframe : Run (Step 6) (initial (ByteFifo.empty 2048)) _ _ :=
      (((Run.nil.snoc (.start rfl)).snoc (show Step 6 _ (.record 1) _ from .record)).snoc
        (show Step 6 _ (.record 2) _ from .record)).snoc (.frame rfl rfl rfl)
    have hsent := ((hframe.snoc (.tx rfl)).snoc (.copy rfl (by decide) rfl (by decide))).snoc
      (.finish rfl (Or.inr nofun))
    exact ⟨_, _, ((hsent.snoc (show Step 6 _ (.record 3) _ from .record)).snoc
      (show Step 6 _ (.record 4) _ from .record)).snoc (.frame rfl rfl rfl), rfl, rfl, rfl⟩
  obtain ⟨hstream, -, hsized, -⟩ := captured_in_order rfl hr
  refine ⟨ts, s, hr, hpackets, ?_, hsized⟩
  rw [hstream, hpackets, htask]
  show _ ++ s.queue.bytes = _
  rw [hqueue]
  rfl

/-! ## The fill that the task sees -/

section

variable {s : FrameCapture Q} {queue : Q}
  {ts : List (Transition (FrameCapture Q) CaptureEvent)}

/-- The fill that the task sees is the one of the queue, and seven eighths of the frames
that were ever sent.  From frame number 176 on the task always wants the largest
packet. -/
theorem seen_fill_drifts (h : contents queue = [])
    (hr : Run (Step nominalSamples) (initial queue) ts s) (hidle : s.task = .idle)
    (hsmall : s.made.length < 2147483648) :
    (InterruptAudio.fill s.produced s.consumed).toInt =
        ((contents s.queue).length / 8 + 7 * (s.packets.flatten.length / 8) / 8 : Nat) ∧
      (176 ≤ s.packets.flatten.length / 8 →
        samples nominalSamples (InterruptAudio.fill s.produced s.consumed) =
          nominalSamples + 1) := by
  have hinv := inv_run h hr
  have hleft : s.left = s.packets.flatten := by
    rw [left, hidle, CaptureTask.buf, List.append_nil]
  obtain ⟨frames, hframes, hconsumed⟩ := hinv.consumed
  have hmade := congrArg List.length hinv.stream
  rw [List.length_append, hframes] at hmade
  rw [hleft] at hframes
  have hsent : s.packets.flatten.length / 8 = frames := by
    rw [hframes]
    exact Nat.mul_div_cancel _ (by decide)
  rw [hsent]
  generalize (contents s.queue).length = queued at hmade ⊢
  have hcount : s.produced - s.consumed = UInt32.ofNat (s.made.length - frames) := by
    rw [hinv.produced, hconsumed, UInt32.ofNat_sub]
    rw [hmade, bytesPerFrame]
    omega
  have hfill := FramePlayback.fill_eq hcount (Nat.lt_of_le_of_lt (Nat.sub_le _ _) hsmall)
  have hvalue : (s.made.length - frames) / 8 = queued / 8 + 7 * frames / 8 := by
    obtain ⟨k, hk⟩ := hinv.whole
    rw [bytesPerFrame] at hk hmade
    omega
  rw [hvalue] at hfill
  refine ⟨hfill, fun hlate => ?_⟩
  have hdraining : (256 * 4 / 10 : Int32).toInt = 102 := by decide
  have hfilling : (256 * 6 / 10 : Int32).toInt = 153 := by decide
  rw [samples, if_neg, if_pos]
  · rw [Int32.lt_iff_toInt_lt, hfill, hfilling]
    omega
  · rw [Int32.lt_iff_toInt_lt, hfill, hdraining]
    omega

end

/-! A run in which the queue is empty whenever the task looks at it. -/

/-- The bytes of a silent frame. -/
def silentFrame : List UInt8 := le32 0 ++ le32 0

/-- The task is at rest, and `k` frames were captured and sent. -/
structure Drained (k : Nat) (s : FrameCapture (ByteFifo 2048)) : Prop where
  idle : s.task = .idle
  unmasked : s.unmasked = true
  fifo : s.fifo = []
  queue : s.queue = ByteFifo.empty 2048
  sent : s.packets.flatten.length = k * 8
  made : s.made.length = k * 8

/-- One more frame is captured and sent. -/
theorem Drained.round {k : Nat} {s : FrameCapture (ByteFifo 2048)} (h : Drained k s) :
    ∃ ts s', Run (Step 6) s ts s' ∧ Drained (k + 1) s' := by
  rcases s with ⟨queue, produced, consumed, task, unmasked, fifo, made, packets⟩
  obtain ⟨rfl, rfl, rfl, rfl, hsent, hmade⟩ := h
  have hstart : Run (Step 6)
      ⟨ByteFifo.empty 2048, produced, consumed, .idle, true, [], made, packets⟩ [] _ := .nil
  have hcapture := (((hstart.snoc (show Step 6 _ (.record 0) _ from .record)).snoc
    (show Step 6 _ (.record 0) _ from .record)).snoc (.frame rfl rfl rfl)).snoc (.tx rfl)
  dsimp only at hcapture
  have hpos : 0 < samples 6
      (InterruptAudio.fill (produced + UInt32.ofNat bytesPerFrame) consumed) :=
    samples_pos (by decide) _
  generalize samples 6 (InterruptAudio.fill (produced + UInt32.ofNat bytesPerFrame) consumed) =
    wanted at hpos hcapture
  have hone : min (wanted - 0) (silentFrame.length / bytesPerFrame) = 1 := by
    show min wanted 1 = 1
    omega
  have hread : BbQueue.read (BbQueue.commit silentFrame (bytesPerFrame * 2)
      (ByteFifo.empty 2048)) = some silentFrame := rfl
  have hwhole : silentFrame.length / bytesPerFrame ≠ 0 := by decide
  have hcopy := hcapture.snoc (.copy rfl hpos hread hwhole)
  rw [hone] at hcopy
  have hdone := hcopy.snoc (.finish rfl (Or.inr fun rgr hr => nomatch hr))
  refine ⟨_, _, hdone, rfl, rfl, rfl, rfl, ?_, ?_⟩
  · show (packets ++ [[] ++ silentFrame.take (1 * bytesPerFrame)]).flatten.length = _
    rw [List.flatten_append, List.length_append, hsent, Nat.add_mul]
    rfl
  · show (made ++ silentFrame).length = _
    rw [List.length_append, hmade, Nat.add_mul]
    rfl

theorem drained_run (k : Nat) :
    ∃ ts s, Run (Step 6) (initial (ByteFifo.empty 2048)) ts s ∧ Drained k s := by
  induction k with
  | zero => exact ⟨_, _, Run.nil.snoc (.start rfl), rfl, rfl, rfl, rfl, rfl, rfl⟩
  | succ k ih =>
      obtain ⟨ts, s, hr, hdrained⟩ := ih
      obtain ⟨us, s', hround, hnext⟩ := hdrained.round
      exact ⟨ts ++ us, s', hr.append hround, hnext⟩

/-- After 176 frames the task wants the largest packet, though the queue is empty. -/
theorem seen_fill_drifts_fifo : ∃ ts s,
    Run (Step 6) (initial (ByteFifo.empty 2048)) ts s ∧ s.queue = ByteFifo.empty 2048 ∧
      samples 6 (InterruptAudio.fill s.produced s.consumed) = 7 := by
  obtain ⟨ts, s, hr, hdrained⟩ := drained_run 176
  have hsent : s.packets.flatten.length / 8 = 176 := by rw [hdrained.sent]
  have hsmall : s.made.length < 2147483648 := by
    rw [hdrained.made]
    decide
  exact ⟨ts, s, hr, hdrained.queue,
    (seen_fill_drifts rfl hr hdrained.idle hsmall).2 (Nat.le_of_eq hsent.symm)⟩

end FrameCapture

end Uac2
