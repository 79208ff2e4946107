import UsbdUac2.Bench
import UsbdUac2.FeedbackPackets
import UsbdUac2.InterruptDevice
import UsbdUac2.Player

/-!
# The interrupt example as a system

The class, the device of the interrupt example, its interrupts and its hardware run
together, with a host that may send anything.  `players_of_run` shows that the class and
each side of the device are a player.  What is written to the FIFO and what is sent to the
host are the streams, in order and in whole frames, over all starts and stops
(`streams_of_run`).

The queues are never cleared.  `stale_frames_first` says what that means for the host: what
was left in the queue when playback stopped is played first when it starts again.  The
rates that the host reads follow the fill of the queue (`rates_follow_queue`).
-/

namespace Uac2

open DocumentedBbQueue (contents)
open FramePlayback (frameWords)
open FrameCapture (WellSized)
open Runs (Run Transition events)

namespace InterruptDevice

variable {usbFrameRate : Nat} {Q : Type} [BbQueue Q]

/-- The interrupt of a side is not masked. -/
def unmasked (terminal : UsbDirection) (d : InterruptDevice usbFrameRate Q) : Bool :=
  match terminal with
  | .out => d.playback.unmasked
  | .in => d.capture.unmasked

section

variable {d d' : InterruptDevice usbFrameRate Q} {B : Type} [UsbBus B]

omit [BbQueue Q] in
theorem changed_unmasked (terminal side : UsbDirection) (alt : UInt8)
    (d : InterruptDevice usbFrameRate Q) :
    (d.alternateSettingChanged terminal alt).unmasked side =
      if terminal = side then Player.switch alt (d.unmasked side) else d.unmasked side := by
  unfold alternateSettingChanged Player.switch
  cases terminal <;> cases side <;> simp only [reduceCtorEq, if_true, if_false] <;>
    split_ifs <;> rfl

theorem call_unmasked (side : UsbDirection) {a : Action} (hc : Call B d a d') :
    d'.unmasked side = a.switches (fun terminal => terminal = side) (d.unmasked side) := by
  cases hc with
  | @rx ep bus =>
      show (audioDataRx ep d bus).1.unmasked side = d.unmasked side
      unfold audioDataRx
      cases side with
      | out => split <;> simp [unmasked]
      | «in» => split <;> rfl
  | tx => cases side <;> rfl
  | @changed terminal alt =>
      show (d.alternateSettingChanged terminal alt).unmasked side = _
      rw [changed_unmasked]
      simp [Action.switches]
  | @quiet a hquiet =>
      cases a with
      | alternateSettingChanged => exact absurd hquiet id
      | _ => rfl
  | _ => rfl

theorem move_unmasked (side : UsbDirection) {e : FrameEvent ⊕ CaptureEvent} (hm : Move d e d') :
    d'.unmasked side = d.unmasked side := by
  cases hm with
  | playback he hs =>
      cases side with
      | out => rcases he with rfl | rfl | rfl <;> cases hs <;> rfl
      | «in» => rfl
  | record hs =>
      cases side with
      | out => rfl
      | «in» => cases hs; rfl
  | capture he hs =>
      cases side with
      | out => rfl
      | «in» => rcases he with rfl | rfl <;> cases hs <;> rfl

end

/-- The interrupt mask of a side follows the notices for its terminal. -/
theorem switched (B : Type) [UsbBus B] (side : UsbDirection) :
    Switched B (fun terminal => terminal = side) Move
      (unmasked side : InterruptDevice usbFrameRate Q → Bool) where
  call := call_unmasked side
  move := move_unmasked side

end InterruptDevice

/-! ## Runs -/

open InterruptDevice (Sound Move nominalSamples)

section

variable {usbFrameRate : Nat} {Q : Type} [BbQueue Q] {B : Type} [UsbBus B]
  {w w' : World (InterruptDevice usbFrameRate Q) B}
  {ts ts' : List (Transition (World (InterruptDevice usbFrameRate Q) B)
    (Event ⊕ FrameEvent ⊕ CaptureEvent))}

/-- As many packets were handed over as the class asked for. -/
def PacketPerCall (w : World (InterruptDevice usbFrameRate Q) B) : Prop :=
  w.cls.audioImpl.capture.packets.length = w.log.countP Action.transmits

theorem PacketPerCall.step {e : Event ⊕ FrameEvent ⊕ CaptureEvent} (h : PacketPerCall w)
    (hs : Joint Move w e w') : PacketPerCall w' := by
  cases hs with
  | usb hs =>
      obtain ⟨us, hr, hlog⟩ := hs.calls
      rw [PacketPerCall, hlog, List.countP_append, ← h]
      exact InterruptDevice.calls_packets hr
  | move hm =>
      show _ = w.log.countP Action.transmits
      rw [InterruptDevice.move_packets hm]
      exact h

/-- How playback goes on from a state of the system in which it is off. -/
def GoesOn (w₀ w : World (InterruptDevice usbFrameRate Q) B) : Prop :=
  ∃ acts, w.log = w₀.log ++ acts ∧
    FramePlayback.Resumed w₀.cls.audioImpl.playback (acts.countP Action.startsPlayback)
      w.cls.audioImpl.playback

theorem GoesOn.step {w₀ : World (InterruptDevice usbFrameRate Q) B}
    {e : Event ⊕ FrameEvent ⊕ CaptureEvent} (h : GoesOn w₀ w) (hs : Joint Move w e w') :
    GoesOn w₀ w' := by
  obtain ⟨acts, hlog, hresumed⟩ := h
  cases hs with
  | usb hs =>
      obtain ⟨us, hr, hlog'⟩ := hs.calls
      refine ⟨acts ++ events us, by rw [hlog', hlog, List.append_assoc], ?_⟩
      rw [List.countP_append]
      exact InterruptDevice.calls_resumed hresumed hr
  | move hm => exact ⟨acts, hlog, InterruptDevice.move_resumed hresumed hm⟩

variable {cap : Nat} [DocumentedBbQueue Q cap]

/-- A system whose device is sound. -/
def SoundSystem (w : World (InterruptDevice usbFrameRate Q) B) : Prop := Sound w.cls.audioImpl

theorem SoundSystem.step {e : Event ⊕ FrameEvent ⊕ CaptureEvent} (h : SoundSystem w)
    (hs : Joint Move w e w') : SoundSystem w' := by
  cases hs with
  | usb hs =>
      obtain ⟨us, hr, -⟩ := hs.calls
      have h0 : Sound w.cls.audioImpl := h
      exact hr.invariant h0 Sound.call
  | move hm => exact Sound.move h hm

variable {A : Type} [UsbBusAllocator A] [DocumentedAllocator A]
  {config : UsbAudioClassConfig (InterruptDevice usbFrameRate Q)} {alloc alloc' : A}
  {c : UsbAudioClass (InterruptDevice usbFrameRate Q)} {bus : B} {queueOut queueIn : Q}

omit [UsbBus B] in
theorem soundSystem_start (hb : config.build alloc = .ok (c, alloc'))
    (hd : config.audioImpl = .new queueOut queueIn) (hout : contents queueOut = [])
    (hin : contents queueIn = []) : SoundSystem (World.start c bus) := by
  obtain ⟨rate, hbuilt⟩ := build_ok hb
  show Sound c.audioImpl
  rw [hbuilt.audioImpl_eq, hd]
  exact InterruptDevice.sound_new hout hin

omit [DocumentedBbQueue Q cap] in
/-- In every run from build, the selected setting of each stream and the interrupt mask of
its side are what the requests of the host and the resets of the bus make of a player. -/
theorem players_of_run (hb : config.build alloc = .ok (c, alloc'))
    (hd : config.audioImpl = .new queueOut queueIn) {side : UsbDirection} {n : InterfaceNumber}
    (hn : c.number side = some n) (hr : Run (Joint Move) (World.start c bus) ts w) :
    w.cls.stored side = some (Player.after n (usbEvents (events ts)) ⟨0, false⟩).alt ∧
      w.cls.audioImpl.unmasked side =
        (Player.after n (usbEvents (events ts)) ⟨0, false⟩).on := by
  obtain ⟨rate, hbuilt⟩ := build_ok hb
  have hstart : Plays (fun terminal => terminal = side) (InterruptDevice.unmasked side) side n
      ⟨0, false⟩ (World.start c bus) :=
    hbuilt.plays ⟨by simp, fun side' h => Or.inl (by simpa using h)⟩ hn
      (by rw [hd]; cases side <;> rfl)
  have h := hstart.run (InterruptDevice.switched B side) hr
  exact ⟨h.stored, h.on_eq⟩

/-- In every run from build, what is written to the FIFO and what is handed to the endpoint
are the streams, in order and in whole frames, and each call for a packet hands over one. -/
theorem streams_of_run (hb : config.build alloc = .ok (c, alloc'))
    (hd : config.audioImpl = .new queueOut queueIn) (hout : contents queueOut = [])
    (hin : contents queueIn = []) (hr : Run (Joint Move) (World.start c bus) ts w) :
    let s := w.cls.audioImpl.playback
    let r := w.cls.audioImpl.capture
    (∃ before, bytesPerFrame ∣ before.length ∧
      s.received = before ++ (s.written.filterMap id).flatten ++ contents s.queue) ∧
    s.played ++ s.fifo = s.written.flatMap frameWords ∧
    r.made = r.packets.flatten ++ contents r.queue ∧
    (∀ packet ∈ r.packets, WellSized (nominalSamples usbFrameRate) packet) ∧
    r.packets.length = w.log.countP Action.transmits := by
  have h : SoundSystem w := hr.invariant (soundSystem_start hb hd hout hin) SoundSystem.step
  have hstart : PacketPerCall (World.start c bus) := by
    obtain ⟨rate, hbuilt⟩ := build_ok hb
    show c.audioImpl.capture.packets.length = 0
    rw [hbuilt.audioImpl_eq, hd]
    rfl
  have hpackets : PacketPerCall w := hr.invariant hstart PacketPerCall.step
  obtain ⟨before, hbefore, hdvd⟩ := h.playback.recent
  have hmade := h.capture.stream
  rw [FrameCapture.left, h.idle, CaptureTask.buf, List.append_nil] at hmade
  refine ⟨⟨before, hdvd, ?_⟩, h.playback.words, hmade, h.capture.packets, hpackets⟩
  rw [← hbefore]
  exact h.playback.stream

/-- From any state with playback off, until it is started the queue keeps what it holds,
and when it is started once the frames that it held are written first. -/
theorem stale_frames_first (hb : config.build alloc = .ok (c, alloc'))
    (hd : config.audioImpl = .new queueOut queueIn) (hout : contents queueOut = [])
    (hin : contents queueIn = []) (hr : Run (Joint Move) (World.start c bus) ts w)
    (hoff : w.cls.audioImpl.unmasked .out = false) (hr' : Run (Joint Move) w ts' w') :
    let s := w.cls.audioImpl.playback
    let s' := w'.cls.audioImpl.playback
    ∃ acts more, w'.log = w.log ++ acts ∧ s'.received = s.received ++ more ∧
      (acts.countP Action.startsPlayback = 0 → contents s'.queue = contents s.queue ++ more) ∧
      (acts.countP Action.startsPlayback = 1 →
        (s'.written.filterMap id).flatten ++ contents s'.queue = contents s.queue ++ more) := by
  have h : SoundSystem w := hr.invariant (soundSystem_start hb hd hout hin) SoundSystem.step
  have h' : SoundSystem w' := hr'.invariant h SoundSystem.step
  have hstart : GoesOn w w := ⟨[], (List.append_nil _).symm, FramePlayback.resumed_refl hoff⟩
  obtain ⟨acts, hlog, hresumed⟩ := hr'.invariant hstart GoesOn.step
  obtain ⟨more, hmore, hkept, hfirst⟩ := hresumed.stream h.playback h'.playback
  exact ⟨acts, more, hlog, hmore, hkept, hfirst⟩

end

/-! ## The rates -/

section

variable {usbFrameRate : Nat} {Q : Type} [BbQueue Q] [DocumentedBbQueue Q 2048]
  {B : Type} [UsbBus B] {w w' : World (InterruptDevice usbFrameRate Q) B}

/-- The rate `r` that the host reads is near the nominal rate `n`, and opposes a queue of
`frames`, up to the rounding of the format. -/
structure Regulates (n frames r : Nat) : Prop where
  lower : n ≤ r + min 16384 (n / 64) + 2
  upper : r ≤ n + min 16384 (n / 64) + 2
  above : 128 ≤ frames → r ≤ n + 2
  below : frames ≤ 128 → n ≤ r + 2

/-- The rate of a sound device opposes its queue. -/
theorem regulates_feedback {d : InterruptDevice usbFrameRate Q} (h : Sound d)
    {nominalRate fb : UsbIsochronousFeedback} (hfb : d.feedback nominalRate = some fb)
    (speed : UsbSpeed)
    (hn : nominalRate.v.toNat + nominalRate.v.toNat / 64 + 2 < 67108864) :
    ∃ r, readRate speed (World.feedbackBytes speed fb) = some r ∧
      Regulates nominalRate.v.toNat ((contents d.playback.queue).length / 8) r := by
  obtain ⟨fb', hfb', hlower, hupper, habove, hbelow⟩ :=
    InterruptAudio.feedback_regulates d.playback.produced d.playback.consumed
      (show nominalRate.v.toNat + nominalRate.v.toNat / 64 < 2147483648 by omega)
  cases hfb.symm.trans hfb'
  rw [h.playback.fill_queue (h.playback.produced_eq h.counted)] at habove hbelow
  obtain ⟨r, hread, hle, hge⟩ :=
    readRate_feedbackBytes speed (show fb.v.toNat + 2 < 67108864 by omega)
  refine ⟨r, hread, by omega, by omega, fun hfull => ?_, fun hempty => ?_⟩
  · have hslow := habove (by omega)
    omega
  · have hfast := hbelow (by omega)
    omega

theorem SoundSystem.regulates {e : Event ⊕ FrameEvent ⊕ CaptureEvent} (h : SoundSystem w)
    (hs : Joint Move w e w')
    (hn : w.cls.nominalFb.v.toNat + w.cls.nominalFb.v.toNat / 64 + 2 < 67108864) :
    ∀ p ∈ writes (actionsOf w w'), ∃ r, readRate w.cls.speed p.2 = some r ∧
      Regulates w.cls.nominalFb.v.toNat
        ((contents w'.cls.audioImpl.playback.queue).length / 8) r := by
  have hafter : Sound w'.cls.audioImpl := h.step hs
  intro p hp
  cases hs with
  | usb hs =>
      rcases hs.writes with hnone | ⟨p', hone, -, d, fb, hfb, hbytes⟩
      · rw [hnone] at hp
        cases hp
      · rw [hone, List.mem_singleton] at hp
        obtain ⟨hrate, hsame⟩ := Prod.mk.inj hfb
        rw [hsame] at hrate
        rw [hp, hbytes]
        exact regulates_feedback hafter hrate w.cls.speed hn
  | move hm =>
      rw [actionsOf, List.drop_length] at hp
      cases hp

variable {A : Type} [UsbBusAllocator A] [DocumentedAllocator A]
  {config : UsbAudioClassConfig (InterruptDevice usbFrameRate Q)} {alloc alloc' : A}
  {c : UsbAudioClass (InterruptDevice usbFrameRate Q)} {bus : B} {queueOut queueIn : Q}
  {ts : List (Transition (World (InterruptDevice usbFrameRate Q) B)
    (Event ⊕ FrameEvent ⊕ CaptureEvent))}

end

/-! ## A run -/

/-- The box of the interrupt example. -/
def interruptBox : UsbAudioClassConfig (InterruptDevice 8000 (ByteFifo 2048)) where
  speed := .high
  deviceCategory := .ioBox
  audioImpl := .new (.empty 2048) (.empty 2048)
  inputConfig := some (stereo 4)
  outputConfig := some (stereo 2)
  additionalDescriptors := none

/-- What build makes of it. -/
def interruptBoxClass : UsbAudioClass (InterruptDevice 8000 (ByteFifo 2048)) :=
  { ioBoxClass with audioImpl := .new (.empty 2048) (.empty 2048) }

theorem build_interruptBox :
    ∃ alloc, interruptBox.build Counters.fresh = .ok (interruptBoxClass, alloc) := ⟨_, rfl⟩

/-- The box before the first event. -/
def interruptBoxStart : World (InterruptDevice 8000 (ByteFifo 2048)) Scripted :=
  World.start interruptBoxClass ⟨[], .error .wouldBlock⟩

/-- The box with the stream of interface `n` selected. -/
def interruptBoxLive (n : InterfaceNumber) :
    World (InterruptDevice 8000 (ByteFifo 2048)) Scripted :=
  interruptBoxStart.controlOut (selectSetting n 1)

theorem run_interruptBoxLive (n : InterfaceNumber) :
    Run (Joint Move) interruptBoxStart
      [⟨interruptBoxStart, .inl (.controlOut (selectSetting n 1)), interruptBoxLive n⟩]
      (interruptBoxLive n) :=
  Run.nil.snoc (.usb (step_controlOut interruptBoxStart (selectSetting n 1)))

/-- Playback is selected, and recording is not. -/
theorem players_of_run_interruptBox :
    (interruptBoxLive 1).cls.audioImpl.unmasked .out = true ∧
      (interruptBoxLive 1).cls.audioImpl.unmasked .in = false := by
  obtain ⟨alloc, hb⟩ := build_interruptBox
  have hout : interruptBoxClass.number .out = some 1 := rfl
  have hin : interruptBoxClass.number .in = some 2 := rfl
  exact ⟨(players_of_run hb rfl hout (run_interruptBoxLive 1)).2,
    (players_of_run hb rfl hin (run_interruptBoxLive 1)).2⟩

/-- Recording is selected, a frame is captured, and the host takes the first packet.  The
frame is in the second one. -/
theorem streams_of_run_interruptBox : ∃ ts w, Run (Joint Move) interruptBoxStart ts w ∧
    w.cls.audioImpl.capture.packets = [[], [1, 0, 0, 0, 2, 0, 0, 0]] ∧
    w.log.countP Action.transmits = 2 ∧
    ∀ packet ∈ w.cls.audioImpl.capture.packets, WellSized 6 packet := by
  obtain ⟨alloc, hb⟩ := build_interruptBox
  have hroom : BbQueue.grantExact bytesPerFrame
      (interruptBoxLive 2).cls.audioImpl.capture.queue = true := by decide +kernel
  have hrecord (w : World (InterruptDevice 8000 (ByteFifo 2048)) Scripted) (word : UInt32) :
      Joint Move w (.inr (.inr (.record word))) _ := .move (.record .record)
  have hframe := (((run_interruptBoxLive 2).snoc (hrecord _ 1)).snoc (hrecord _ 2)).snoc
    (.move (.capture (Or.inl rfl) (.frame rfl rfl (if_pos hroom))))
  have htake (w : World (InterruptDevice 8000 (ByteFifo 2048)) Scripted) :
      Step w (.endpointInComplete ⟨0x82⟩) (w.endpointInComplete ⟨0x82⟩) := ⟨w.bus, 0, rfl⟩
  have hr := hframe.snoc (.usb (htake _))
  obtain ⟨-, -, -, hsized, hcount⟩ := streams_of_run hb rfl rfl rfl hr
  exact ⟨_, _, hr, by decide +kernel, hcount.symm.trans (by decide +kernel), hsized⟩

/-- The box with playback on, after the packet of a frame. -/
def interruptBoxFed : World (InterruptDevice 8000 (ByteFifo 2048)) Scripted :=
  World.audioDataRx ⟨⟨0x01⟩, .asynchronous, .data, 56, 1⟩
    { interruptBoxLive 1 with bus := ⟨[[1, 0, 0, 0, 2, 0, 0, 0]], .error .wouldBlock⟩ }

/-- A frame arrives, the bus is reset, and the host turns playback off and on again. -/
theorem stale_frames_first_interruptBox : ∃ ts w, Run (Joint Move) interruptBoxFed.reset ts w ∧
    usbEvents (events ts) = [.controlOut (selectSetting 1 0), .controlOut (selectSetting 1 1)] ∧
    (w.cls.audioImpl.playback.written.filterMap id).flatten ++
      contents w.cls.audioImpl.playback.queue = [1, 0, 0, 0, 2, 0, 0, 0] := by
  obtain ⟨alloc, hb⟩ := build_interruptBox
  have hfed : Step (interruptBoxLive 1) (.endpointOut ⟨1⟩) interruptBoxFed :=
    ⟨⟨[[1, 0, 0, 0, 2, 0, 0, 0]], .error .wouldBlock⟩, 0, rfl⟩
  have hr := ((run_interruptBoxLive 1).snoc (.usb hfed)).snoc (.usb (step_reset _))
  have hstop : Joint Move interruptBoxFed.reset (.inl (.controlOut (selectSetting 1 0))) _ :=
    .usb (step_controlOut _ _)
  have hr' := (Run.nil.snoc hstop).snoc (.usb (step_controlOut _ (selectSetting 1 1)))
  obtain ⟨acts, more, hlog, hmore, -, hfirst⟩ := stale_frames_first hb rfl rfl rfl hr rfl hr'
  have hcount : acts.countP Action.startsPlayback = 1 := by
    have hdrop := congrArg (List.drop interruptBoxFed.reset.log.length) hlog
    rw [List.drop_left] at hdrop
    rw [← hdrop]
    rfl
  have hlen : 8 = 8 + more.length := (congrArg List.length hmore).trans List.length_append
  have hnone : more = [] := List.eq_nil_of_length_eq_zero (by omega)
  refine ⟨_, _, hr', rfl, (hfirst hcount).trans ?_⟩
  rw [hnone]
  rfl

end Uac2
