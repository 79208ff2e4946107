import UsbdUac2.Calls
import UsbdUac2.ConsumedBytes
import UsbdUac2.RateControl

/-!
# The DMA example behind the class

`DmaDevice` is the device of the DMA example: it reads a packet into the ring when one
arrives, starts the channel once half of the ring is published, and is started and
stopped by the settings that the class tells it of.  Between its calls the channel and
the interrupt go on, as long as the interrupt is not masked.

The calls of the class are steps of `Playback` with the USB task not interrupted:
`receive_run` for a packet, and a start begins a new run.  A stop masks the interrupt and
resets the ring.  What a channel does that is enabled after that, without a new start, is
up to the controller, and is left open here but for the ring, which it only reads.
-/

namespace Uac2

open DmaRing (Tracks)
open Runs (Run Transition)

namespace DmaRing

variable {N maxSlotBytes : Nat}

/-- What is set up once. -/
def layout (r : DmaRing N maxSlotBytes) : Nat × Nat × Nat :=
  (r.slotBytes, r.wordBytes, r.safetyGap)

/-- Nothing was pushed yet. -/
def Fresh (r : DmaRing N maxSlotBytes) : Prop := Tracks r [] 0 0

theorem fresh_resetProducer (r : DmaRing N maxSlotBytes) : r.resetProducer.Fresh :=
  r.tracks_resetProducer

theorem Configured.fresh {r : DmaRing N maxSlotBytes} (h : r.Configured) : r.Fresh := by
  rw [← h.resetProducer]
  exact r.fresh_resetProducer

/-- Whether the slots are aligned is a matter of the layout. -/
theorem Aligned.of_layout {r r' : DmaRing N maxSlotBytes} (ha : r.Aligned)
    (h : r'.layout = r.layout) : r'.Aligned := by
  simp only [DmaRing.layout, Prod.mk.injEq] at h
  obtain ⟨hslot, hword, -⟩ := h
  rwa [Aligned, hslot, hword]

theorem SameSetup.layout {r r' : DmaRing N maxSlotBytes} (h : SameSetup r r') :
    r'.layout = r.layout := by
  rw [DmaRing.layout, h.slotBytes, h.wordBytes, h.safetyGap]
  rfl

end DmaRing

/-! ## The calls -/

namespace Playback

variable {N maxSlotBytes : Nat}

/-- The loop of `push` and what follows it in `audio_data_rx`, without interruption. -/
def pushed (rest : List UInt8) (written : Nat) (s : Playback N maxSlotBytes) :
    Playback N maxSlotBytes :=
  let loop := s.ring.pushLoop rest written
  { s with
    ring := loop.2.2.addProduced loop.2.1
    task := .idle
    dropped := s.dropped + loop.1.length
    received := s.received ++ rest.take (rest.length - loop.1.length)
    running := s.running || warm loop.2.2 }

/-- `audio_data_rx` with a packet. -/
def receive (data : List UInt8) (s : Playback N maxSlotBytes) : Playback N maxSlotBytes :=
  let res := s.ring.push data
  { s with
    ring := res.2
    running := s.running || warm res.2
    offered := s.offered ++ data
    dropped := s.dropped + res.1.dropped
    received := s.received ++ data.take (data.length - res.1.dropped) }

/-- `stop`: the channel is disabled, and the ring forgets. -/
def halted (s : Playback N maxSlotBytes) : Playback N maxSlotBytes :=
  { s with
    ring := s.ring.resetProducer
    running := false
    task := .idle
    offered := []
    dropped := 0
    received := []
    sent := []
    read := 0 }

/-- The loop leaves a rear part of the data. -/
theorem length_pushLoop_le (data : List UInt8) (written : Nat) (r : DmaRing N maxSlotBytes) :
    (r.pushLoop data written).1.length ≤ data.length := by
  induction data, written, r using DmaRing.pushLoop.induct with
  | case1 written r =>
      rw [DmaRing.pushLoop, if_pos rfl]
  | case2 data written r hne hfull => rw [DmaRing.pushLoop_full hfull]
  | case3 data written r hne hfull ih =>
      rw [DmaRing.pushLoop, if_neg hne, if_neg hfull]
      rw [List.length_drop] at ih
      exact ih.trans (Nat.sub_le _ _)

theorem wordless_append {t : Transition (Playback N maxSlotBytes) PlaybackEvent}
    {ts : List (Transition (Playback N maxSlotBytes) PlaybackEvent)} (h : t.event ≠ .word)
    (hts : ∀ x ∈ ts, x.event ≠ .word) : ∀ x ∈ [] ++ [t] ++ ts, x.event ≠ .word := by
  intro x hx
  simp only [List.nil_append, List.cons_append, List.mem_cons] at hx
  cases hx with
  | inl hx => rw [hx]; exact h
  | inr hx => exact hts x hx

/-- The loop is a run of the task. -/
theorem pushed_run {rest : List UInt8} {written : Nat} {r : DmaRing N maxSlotBytes}
    {s : Playback N maxSlotBytes} (hring : s.ring = r) (htask : s.task = .pushing rest written) :
    ∃ ts, Run Step s ts (s.pushed rest written) ∧ ∀ t ∈ ts, t.event ≠ .word := by
  induction rest, written, r using DmaRing.pushLoop.induct generalizing s with
  | case1 written r =>
      have hfinish : Step s .finish (s.pushed [] written) := by
        have hs := Step.finish htask (Or.inl rfl)
        rw [pushed, DmaRing.pushLoop, if_pos rfl]
        simpa using hs
      exact ⟨_, Run.nil.snoc hfinish, by simp⟩
  | case2 rest written r hne hfull =>
      have hfinish : Step s .finish (s.pushed rest written) := by
        have hs := Step.finish htask (Or.inr (hring ▸ hfull))
        rw [pushed, DmaRing.pushLoop_full (hring ▸ hfull)]
        simpa using hs
      exact ⟨_, Run.nil.snoc hfinish, by simp⟩
  | case3 rest written r hne hfull ih =>
      subst hring
      obtain ⟨s₁, hpass, hring₁, htask₁, hpushed⟩ : ∃ s₁, Step s .pass s₁ ∧
          s₁.ring = s.ring.copyChunk rest ∧
          s₁.task = .pushing (rest.drop (s.ring.chunk rest).length)
            (written + (s.ring.chunk rest).length) ∧
          s₁.pushed (rest.drop (s.ring.chunk rest).length)
            (written + (s.ring.chunk rest).length) = s.pushed rest written := by
        refine ⟨_, .pass htask hne (Bool.eq_false_iff.mpr hfull), rfl, rfl, ?_⟩
        have hle := length_pushLoop_le (rest.drop (s.ring.chunk rest).length)
          (written + (s.ring.chunk rest).length) (s.ring.copyChunk rest)
        have hlen := s.ring.length_chunk rest
        have hchunk : s.ring.chunk rest = rest.take (s.ring.chunk rest).length := by
          rw [hlen, DmaRing.chunk]
        rw [pushed, pushed, DmaRing.pushLoop.eq_1 rest, if_neg hne, if_neg hfull]
        dsimp only
        congr 1
        rw [List.append_assoc]
        congr 1
        generalize (DmaRing.pushLoop (rest.drop (s.ring.chunk rest).length)
          (written + (s.ring.chunk rest).length) (s.ring.copyChunk rest)).1.length = k at hle ⊢
        generalize (s.ring.chunk rest).length = n at hle hlen hchunk ⊢
        rw [List.length_drop] at hle ⊢
        have hsum : rest.length - k = n + (rest.length - n - k) := by omega
        rw [hsum, List.take_add, ← hchunk]
      obtain ⟨ts, hr, hts⟩ := ih hring₁ htask₁
      rw [hpushed] at hr
      exact ⟨_, (Run.nil.snoc hpass).append hr, wordless_append (by simp) hts⟩

/-- A packet is received in a run. -/
theorem receive_run (data : List UInt8) {s : Playback N maxSlotBytes} (hidle : s.task = .idle) :
    ∃ ts, Run Step s ts (s.receive data) ∧ ∀ t ∈ ts, t.event ≠ .word := by
  obtain ⟨s₁, hrx, hring, htask, hpushed⟩ : ∃ s₁, Step s (.rx data) s₁ ∧ s₁.ring = s.ring ∧
      s₁.task = .pushing data 0 ∧ s₁.pushed data 0 = s.receive data := by
    refine ⟨_, .rx hidle, rfl, rfl, ?_⟩
    rw [receive, hidle]
    rfl
  obtain ⟨ts, hr, hts⟩ := pushed_run hring htask
  rw [hpushed] at hr
  exact ⟨_, (Run.nil.snoc hrx).append hr, wordless_append (by simp) hts⟩

/-! ## What a packet does to a ring at rest -/

/-- Nothing was acknowledged since the last reset of the ring, no push is in progress, and
the channel is enabled once half of the ring was received. -/
structure Unserved (s : Playback N maxSlotBytes) : Prop where
  task : s.task = .idle
  tracks : ∃ P, Tracks s.ring s.received P 0
  offered : s.offered.length = s.received.length + s.dropped
  running : 2 ≤ N → (s.running = true ↔ N / 2 * s.ring.slotBytes ≤ s.received.length)

/-- A fresh ring was not served. -/
theorem unserved_fresh {s : Playback N maxSlotBytes} (hfresh : s.ring.Fresh)
    (htask : s.task = .idle) (hrunning : s.running = false) (hoffered : s.offered = [])
    (hreceived : s.received = []) (hdropped : s.dropped = 0) : Unserved s where
  task := htask
  tracks := ⟨0, hreceived ▸ hfresh⟩
  offered := by rw [hoffered, hreceived, hdropped]; rfl
  running hN := by
    have hpos : 0 < N / 2 * s.ring.slotBytes :=
      Nat.mul_pos (Nat.div_pos hN (by decide)) s.ring.slotBytes_pos
    rw [hrunning, hreceived]
    exact ⟨nofun, fun h => absurd hpos (Nat.not_lt.mpr h)⟩

theorem unserved_halted (s : Playback N maxSlotBytes) : Unserved s.halted :=
  unserved_fresh s.ring.fresh_resetProducer rfl rfl rfl rfl rfl

theorem Unserved.receive {s : Playback N maxSlotBytes} (h : Unserved s) (data : List UInt8) :
    Unserved (s.receive data) := by
  obtain ⟨P, hP⟩ := h.tracks
  obtain ⟨P', hle, hP', hresult⟩ := hP.push data
  have hslot : (s.ring.push data).2.slotBytes = s.ring.slotBytes :=
    (s.ring.sameSetup_push data).slotBytes
  have htaken : data.take (data.length - (s.ring.push data).1.dropped) =
      data.take (s.ring.free P 0) := by
    rw [hresult]
    rcases Nat.le_total data.length (s.ring.free P 0) with hfit | hfit
    · rw [Nat.sub_eq_zero_of_le hfit, Nat.sub_zero, List.take_length, List.take_of_length_le hfit]
    · rw [Nat.sub_sub_self hfit]
  rw [← htaken] at hP'
  refine ⟨h.task, ⟨P', hP'⟩, ?_, fun hN => ?_⟩
  · show (s.offered ++ data).length =
      (s.received ++ data.take (data.length - (s.ring.push data).1.dropped)).length +
        (s.dropped + (s.ring.push data).1.dropped)
    have hoffered := h.offered
    have hdropped : (s.ring.push data).1.dropped ≤ data.length := by
      rw [hresult]
      exact Nat.sub_le _ _
    rw [List.length_append, List.length_append, List.length_take]
    omega
  · have hrunning := h.running hN
    have hwarm := warm_iff hP'
    have hlen := hP'.length_eq
    have hoff := (s.ring.push data).2.writeOff_lt
    rw [hslot] at hlen hoff
    show (s.running || warm (s.ring.push data).2) = true ↔
      N / 2 * (s.ring.push data).2.slotBytes ≤ (s.received ++ _).length
    rw [Bool.or_eq_true, hrunning, hwarm, hslot, Nat.sub_zero]
    constructor
    · rintro (hhalf | hhalf)
      · rw [List.length_append]
        exact hhalf.trans (Nat.le_add_right _ _)
      · rw [hlen]
        exact (Nat.mul_le_mul_right _ hhalf).trans (Nat.le_add_right _ _)
    · intro hhalf
      refine Or.inr (Nat.le_of_lt_succ (Nat.lt_of_mul_lt_mul_right (a := s.ring.slotBytes) ?_))
      rw [hlen] at hhalf
      rw [Nat.succ_mul]
      omega

theorem layout_acknowledge (r : DmaRing N maxSlotBytes) : (acknowledge r).layout = r.layout := by
  rw [acknowledge, DmaRing.advanceConsumed]
  split
  · rename_i h
    split at h
    · cases h
      rfl
    · cases h
  · rfl

end Playback

/-! ## The device -/

/-- The device of the DMA example.  The flag `running` and the channel are switched
together, and `Playback.running` is both.  The rate of the frames is fixed when the
example is compiled: 8000 with the feature `usbhs`, and 1000 else. -/
structure DmaDevice (usbFrameRate : UInt32) (N maxSlotBytes : Nat) where
  playback : Playback N maxSlotBytes
  /-- The interrupt of the controller is not masked. -/
  unmasked : Bool

namespace DmaDevice

variable {usbFrameRate : UInt32} {N maxSlotBytes : Nat}

/-- `SAMPLE_RATE`. -/
def rate : UInt32 := 96000

/-- The buffer of `audio_data_rx`: the samples of a packet, and one more, of 8 bytes. -/
def bufBytes (usbFrameRate : UInt32) : Nat := (divCeil rate usbFrameRate + 1).toNat * 8

/-- Before the first setting. -/
def new (ring : DmaRing N maxSlotBytes) : DmaDevice usbFrameRate N maxSlotBytes where
  playback := { Playback.start ring with ring }
  unmasked := false

/-- A pending interrupt is served as soon as it is unmasked, and finds the ring empty. -/
def start (d : DmaDevice usbFrameRate N maxSlotBytes) : DmaDevice usbFrameRate N maxSlotBytes where
  playback := Playback.start d.playback.ring
  unmasked := true

def stop (d : DmaDevice usbFrameRate N maxSlotBytes) : DmaDevice usbFrameRate N maxSlotBytes where
  playback := d.playback.halted
  unmasked := false

def alternateSettingChanged (altSetting : UInt8) (d : DmaDevice usbFrameRate N maxSlotBytes) :
    DmaDevice usbFrameRate N maxSlotBytes :=
  if altSetting = 0 then d.stop
  else if altSetting = 1 then d.start
  else d

def receive (bytes : List UInt8) (d : DmaDevice usbFrameRate N maxSlotBytes) :
    DmaDevice usbFrameRate N maxSlotBytes :=
  { d with playback := d.playback.receive bytes }

def audioDataRx {B : Type} [UsbBus B] (ep : Endpoint .out)
    (d : DmaDevice usbFrameRate N maxSlotBytes) (bus : B) :
    DmaDevice usbFrameRate N maxSlotBytes × B :=
  match UsbBus.read ep.address (bufBytes usbFrameRate) bus with
  | (.ok bytes, bus) => (d.receive bytes, bus)
  | (.error _, bus) => (d, bus)

/-- The register is the same in both reads, as the call is not interrupted.  A panic is
no feedback. -/
def feedback (nominal : UsbIsochronousFeedback) (d : DmaDevice usbFrameRate N maxSlotBytes) :
    Option UsbIsochronousFeedback :=
  DmaAudio.feedback d.playback.running d.playback.ring.producedBytes
    (d.playback.ring.bytesAt d.playback.ring.consumed (UInt32.ofNat d.playback.countdown)) nominal

/-- The second count is what a call of `consumed_bytes` returns that nothing interrupts. -/
theorem feedback_of_call {d : DmaDevice usbFrameRate N maxSlotBytes}
    {us : List (Transition (Reading N maxSlotBytes) ReadingEvent)} {s : Playback N maxSlotBytes}
    {v : UInt32} (hr : Run Reading.Step ⟨d.playback, .top⟩ us ⟨s, .done v⟩)
    (hus : ∀ t ∈ us, t.event = .read) (nominal : UsbIsochronousFeedback) :
    d.feedback nominal =
      DmaAudio.feedback d.playback.running d.playback.ring.producedBytes v nominal := by
  rw [feedback, Reading.alone_eq hr hus, Playback.reg_eq]

instance {B : Type} [UsbBus B] : AudioHandler (DmaDevice usbFrameRate N maxSlotBytes) B where
  audioDataRx := audioDataRx
  audioDataTx _ d bus := (d, bus)
  feedback nominal d := (d.feedback nominal, d)
  alternateSettingChanged _ altSetting d := d.alternateSettingChanged altSetting

instance : ClockSource (DmaDevice usbFrameRate N maxSlotBytes) where
  clockType := .internalFixed
  sofSync := false
  sampleRate _ := rate
  sampleRates _ := .ok [.newFixed rate]
  clockValidity _ := .ok true

/-- What the controller does between the calls. -/
inductive Move : DmaDevice usbFrameRate N maxSlotBytes → PlaybackEvent →
    DmaDevice usbFrameRate N maxSlotBytes → Prop where
  | word {d : DmaDevice usbFrameRate N maxSlotBytes} {s : Playback N maxSlotBytes} :
      d.unmasked = true → Playback.Step d.playback .word s →
      Move d .word { d with playback := s }
  | interrupt {d : DmaDevice usbFrameRate N maxSlotBytes} {s : Playback N maxSlotBytes} :
      d.unmasked = true → Playback.Step d.playback .interrupt s →
      Move d .interrupt { d with playback := s }
  /-- The channel was enabled after a stop. -/
  | stray {d : DmaDevice usbFrameRate N maxSlotBytes} {active : Fin N} {word read : Nat}
      {inta : Bool} {sent : List UInt8} :
      d.unmasked = false → d.playback.running = true →
      Move d .word { d with playback := { d.playback with active, word, inta, sent, read } }

/-! ## What the calls and the moves keep -/

/-- A started device is in a run of its ring, and a stopped one is not served. -/
structure Sound (ring : DmaRing N maxSlotBytes) (d : DmaDevice usbFrameRate N maxSlotBytes) :
    Prop where
  layout : d.playback.ring.layout = ring.layout
  task : d.playback.task = .idle
  live : d.unmasked = true → ∃ r, r.layout = ring.layout ∧ Playback.Armed r d.playback
  muted : d.unmasked = false → Playback.Unserved d.playback

variable {ring : DmaRing N maxSlotBytes} {d d' : DmaDevice usbFrameRate N maxSlotBytes}

theorem sound_new (hfresh : ring.Fresh) :
    Sound ring (new ring : DmaDevice usbFrameRate N maxSlotBytes) where
  layout := rfl
  task := rfl
  live h := nomatch h
  muted _ := Playback.unserved_fresh hfresh rfl rfl rfl rfl rfl

theorem Sound.stop (h : Sound ring d) : Sound ring d.stop where
  layout := h.layout
  task := rfl
  live h := nomatch h
  muted _ := Playback.unserved_halted d.playback

theorem Sound.start (hN : 2 ≤ N) (h : Sound ring d) : Sound ring d.start where
  layout := h.layout
  task := rfl
  live _ := ⟨d.playback.ring, h.layout, Playback.armed_run hN .nil⟩
  muted h := nomatch h

theorem Sound.receive (h : Sound ring d) (bytes : List UInt8) :
    Sound ring (d.receive bytes) where
  layout := (d.playback.ring.sameSetup_push bytes).layout.trans h.layout
  task := h.task
  live hlive := by
    obtain ⟨r, hlayout, harmed⟩ := h.live hlive
    obtain ⟨ts, hr, -⟩ := Playback.receive_run bytes h.task
    exact ⟨r, hlayout, hr.invariant harmed Playback.Armed.step⟩
  muted hmuted := (h.muted hmuted).receive bytes

theorem Sound.call {B : Type} [UsbBus B] (hN : 2 ≤ N) {a : Action} (h : Sound ring d)
    (hc : Call B d a d') : Sound ring d' := by
  cases hc with
  | @rx ep bus =>
      show Sound ring (audioDataRx ep d bus).1
      unfold audioDataRx
      split
      · exact h.receive _
      · exact h
  | @changed terminal alt =>
      show Sound ring (d.alternateSettingChanged alt)
      unfold alternateSettingChanged
      split_ifs
      · exact h.stop
      · exact h.start hN
      · exact h
  | _ => exact h

theorem Sound.move (h : Sound ring d) {e : PlaybackEvent} (hm : Move d e d') : Sound ring d' := by
  cases hm with
  | @word s hlive hs =>
      obtain ⟨r, hlayout, harmed⟩ := h.live hlive
      have harmed' := harmed.step hs
      have hmuted : d.unmasked ≠ false := by simp [hlive]
      cases hs with
      | word => exact ⟨h.layout, h.task, fun _ => ⟨r, hlayout, harmed'⟩, fun h0 => absurd h0 hmuted⟩
      | lastWord =>
          exact ⟨h.layout, h.task, fun _ => ⟨r, hlayout, harmed'⟩, fun h0 => absurd h0 hmuted⟩
  | @interrupt s hlive hs =>
      obtain ⟨r, hlayout, harmed⟩ := h.live hlive
      have harmed' := harmed.step hs
      have hmuted : d.unmasked ≠ false := by simp [hlive]
      cases hs
      exact ⟨(Playback.layout_acknowledge _).trans h.layout, h.task,
        fun _ => ⟨r, hlayout, harmed'⟩, fun h0 => absurd h0 hmuted⟩
  | stray hmuted hrunning =>
      have hunserved := h.muted hmuted
      exact ⟨h.layout, h.task, fun h0 => absurd h0 (by simp [hmuted]), fun _ =>
        ⟨hunserved.task, hunserved.tracks, hunserved.offered, hunserved.running⟩⟩

/-- In a sound device the channel is enabled exactly when half of the ring was received
since the last start or stop. -/
theorem Sound.running_iff (hN : 2 ≤ N) (h : Sound ring d) :
    d.playback.running = true ↔ N / 2 * ring.slotBytes ≤ d.playback.received.length := by
  have hslot : d.playback.ring.slotBytes = ring.slotBytes := congrArg Prod.fst h.layout
  cases hunmasked : d.unmasked with
  | false =>
      rw [← hslot]
      exact (h.muted hunmasked).running hN
  | true =>
      obtain ⟨r, hlayout, harmed⟩ := h.live hunmasked
      have hr : r.slotBytes = ring.slotBytes := congrArg Prod.fst hlayout
      rw [← hr]
      refine ⟨harmed.running, fun hhalf => ?_⟩
      cases hrunning : d.playback.running with
      | true => rfl
      | false => exact absurd hhalf (Nat.not_le.mpr (harmed.half hrunning h.task))

/-- A stopped device takes what fits into the ring. -/
theorem Sound.muted_le (h : Sound ring d) (hmuted : d.unmasked = false) :
    d.playback.received.length ≤ (N - ring.safetyGap) * ring.slotBytes ∧
      d.playback.offered.length = d.playback.received.length + d.playback.dropped := by
  have hunserved := h.muted hmuted
  obtain ⟨P, hP⟩ := hunserved.tracks
  have hlayout := h.layout
  simp only [DmaRing.layout, Prod.mk.injEq] at hlayout
  obtain ⟨hslot, -, hgap⟩ := hlayout
  have hle := hP.length_le
  rw [Nat.zero_mul, Nat.zero_add, hslot, hgap] at hle
  exact ⟨hle, hunserved.offered⟩

/-! ## The order of what is sent -/

/-- A started device sends what it received, in order. -/
def Ordered (ring : DmaRing N maxSlotBytes) (d : DmaDevice usbFrameRate N maxSlotBytes) : Prop :=
  d.unmasked = true → ∃ r, r.layout = ring.layout ∧ Playback.InOrder r d.playback

/-- The channel of a started device reads a slot only when it was received whole. -/
def Timely (d : DmaDevice usbFrameRate N maxSlotBytes) (e : PlaybackEvent) : Prop :=
  e = .word → d.unmasked = true → N / 2 ≤ d.playback.read →
    (d.playback.read + 1) * d.playback.ring.slotBytes ≤ d.playback.received.length

theorem Ordered.call {B : Type} [UsbBus B] {a : Action} (h : Ordered ring d) (hs : Sound ring d)
    (ha : ring.Aligned) (hc : Call B d a d') : Ordered ring d' := by
  cases hc with
  | @rx ep bus =>
      show Ordered ring (audioDataRx ep d bus).1
      unfold audioDataRx
      split
      · rename_i bytes _ _
        intro hlive
        obtain ⟨r, hlayout, horder⟩ := h hlive
        obtain ⟨ts, hr, hts⟩ := Playback.receive_run bytes hs.task
        have hr' := ha.of_layout hlayout
        refine ⟨r, hlayout, hr.invariant_of hts horder fun h hs he => h.step hr' hs ?_⟩
        exact fun hword => absurd hword he
      · exact h
  | @changed terminal alt =>
      show Ordered ring (d.alternateSettingChanged alt)
      unfold alternateSettingChanged
      split_ifs
      · exact nofun
      · exact fun _ => ⟨d.playback.ring, hs.layout, Playback.inOrder_start _⟩
      · exact h
  | _ => exact h

/-- A sound device that has sent in order. -/
structure InOrder (ring : DmaRing N maxSlotBytes) (d : DmaDevice usbFrameRate N maxSlotBytes) :
    Prop where
  sound : Sound ring d
  ordered : Ordered ring d

theorem InOrder.call {B : Type} [UsbBus B] (hN : 2 ≤ N) (ha : ring.Aligned) {a : Action}
    (h : InOrder ring d) (hc : Call B d a d') : InOrder ring d' where
  sound := h.sound.call hN hc
  ordered := h.ordered.call h.sound ha hc

theorem Ordered.move (h : Ordered ring d) (hs : Sound ring d) (ha : ring.Aligned)
    {e : PlaybackEvent} (hm : Move d e d') (ht : Timely d e) : Ordered ring d' := by
  cases hm with
  | word hlive hstep =>
      obtain ⟨r, hlayout, horder⟩ := h hlive
      have hslot : r.slotBytes = d.playback.ring.slotBytes :=
        congrArg Prod.fst (hlayout.trans hs.layout.symm)
      refine fun _ => ⟨r, hlayout, horder.step (ha.of_layout hlayout) hstep fun _ hhalf => ?_⟩
      rw [hslot]
      exact ht rfl hlive hhalf
  | interrupt hlive hstep =>
      obtain ⟨r, hlayout, horder⟩ := h hlive
      exact fun _ => ⟨r, hlayout, horder.step (ha.of_layout hlayout) hstep nofun⟩
  | stray hmuted => exact fun hlive => absurd hlive (by simp [hmuted])

end DmaDevice

end Uac2
