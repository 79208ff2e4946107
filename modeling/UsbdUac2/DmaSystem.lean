import UsbdUac2.Bench
import UsbdUac2.DmaDevice
import UsbdUac2.Player
import UsbdUac2.FeedbackPackets

/-!
# The DMA example as a system

The class, the device of the DMA example and its controller run together, with a host that
may send anything.  `player_of_run` shows that the class and the device are a player, and
what the interrupt of the controller does follows from the requests of the host alone.

While playback is on, the channel sends what the device received since it was started, in
order.  A reset of the bus turns playback off and leaves the setting selected, so that a
host that selects the same setting again does not turn it on.
-/

namespace Uac2

open Runs (Run Transition events)

/-! ## The device as a player -/

namespace DmaDevice

variable {usbFrameRate : UInt32} {N maxSlotBytes : Nat}
  {d d' : DmaDevice usbFrameRate N maxSlotBytes} {B : Type} [UsbBus B]

theorem call_unmasked {a : Action} (hc : Call B d a d') :
    d'.unmasked = a.switches (fun _ => true) d.unmasked := by
  cases hc with
  | @rx ep bus =>
      show (audioDataRx ep d bus).1.unmasked = d.unmasked
      unfold audioDataRx
      split <;> rfl
  | @changed terminal alt =>
      show (d.alternateSettingChanged alt).unmasked = Player.switch alt d.unmasked
      unfold alternateSettingChanged Player.switch
      split_ifs <;> rfl
  | @quiet a hquiet =>
      cases a with
      | alternateSettingChanged => exact absurd hquiet id
      | _ => rfl
  | _ => rfl

/-- The interrupt mask follows the notices for both terminals. -/
theorem switched (B : Type) [UsbBus B] :
    Switched B (fun _ => true) Move
      (unmasked : DmaDevice usbFrameRate N maxSlotBytes → Bool) where
  call := call_unmasked
  move hm := by cases hm <;> rfl

end DmaDevice

/-! ## Runs -/

open DmaDevice (Sound InOrder Move Timely)

section

variable {usbFrameRate : UInt32} {N maxSlotBytes : Nat} {ring : DmaRing N maxSlotBytes}
  {B : Type} [UsbBus B] {w w' : World (DmaDevice usbFrameRate N maxSlotBytes) B}
  {ts ts' : List (Transition (World (DmaDevice usbFrameRate N maxSlotBytes) B)
    (Event ⊕ PlaybackEvent))} {n : InterfaceNumber}

theorem sound_step (hN : 2 ≤ N) {e : Event ⊕ PlaybackEvent} (h : Sound ring w.cls.audioImpl)
    (hs : Joint Move w e w') : Sound ring w'.cls.audioImpl := by
  cases hs with
  | usb hs =>
      obtain ⟨us, hr, -⟩ := hs.calls
      exact hr.invariant h fun h hc => h.call hN hc
  | move hm => exact h.move hm

theorem sound_run (hN : 2 ≤ N) (h : Sound ring w.cls.audioImpl)
    (hr : Run (Joint Move) w ts w') : Sound ring w'.cls.audioImpl := by
  induction hr with
  | nil => exact h
  | snoc _ hs ih => exact sound_step hN ih hs

/-- A system whose device is sound and has sent in order. -/
def InStep (ring : DmaRing N maxSlotBytes)
    (w : World (DmaDevice usbFrameRate N maxSlotBytes) B) : Prop :=
  InOrder ring w.cls.audioImpl

theorem InStep.step (hN : 2 ≤ N) (ha : ring.Aligned) {e : Event ⊕ PlaybackEvent}
    (h : InStep ring w) (hs : Joint Move w e w')
    (ht : ∀ e', e = .inr e' → Timely w.cls.audioImpl e') : InStep ring w' := by
  cases hs with
  | usb hs =>
      obtain ⟨us, hr, -⟩ := hs.calls
      have h0 : InOrder ring w.cls.audioImpl := h
      exact hr.invariant h0 fun h hc => h.call hN ha hc
  | move hm => exact ⟨h.sound.move hm, h.ordered.move h.sound ha hm (ht _ rfl)⟩

variable {A : Type} [UsbBusAllocator A] [DocumentedAllocator A]
  {config : UsbAudioClassConfig (DmaDevice usbFrameRate N maxSlotBytes)} {alloc alloc' : A}
  {c : UsbAudioClass (DmaDevice usbFrameRate N maxSlotBytes)} {bus : B}

omit [UsbBus B] in
theorem sound_start (hb : config.build alloc = .ok (c, alloc')) (hd : config.audioImpl = .new ring)
    (hfresh : ring.Fresh) : InStep ring (World.start c bus) := by
  obtain ⟨rate, hbuilt⟩ := build_ok hb
  have hdevice : (World.start c bus).cls.audioImpl = .new ring := hbuilt.audioImpl_eq.trans hd
  refine ⟨?_, ?_⟩
  · rw [hdevice]
    exact DmaDevice.sound_new hfresh
  · rw [hdevice]
    exact nofun

omit [UsbBus B] in
theorem plays_start (hb : config.build alloc = .ok (c, alloc')) (hd : config.audioImpl = .new ring)
    (hin : config.inputConfig = none) (hn : c.number .out = some n) :
    Plays (fun _ => true) DmaDevice.unmasked .out n ⟨0, false⟩ (World.start c bus) := by
  obtain ⟨rate, hbuilt⟩ := build_ok hb
  refine hbuilt.plays ⟨rfl, fun d' _ => ?_⟩ hn (by rw [hd]; rfl)
  cases d' with
  | out => exact Or.inl rfl
  | «in» =>
      have hinput := hbuilt.input_eq
      rw [hin] at hinput
      rw [UsbAudioClass.number, Option.map_eq_none_iff.mp hinput]
      exact Or.inr rfl

/-- In every run from build, the selected setting and the interrupt mask of the device are
what the requests of the host and the resets of the bus make of a player. -/
theorem player_of_run (hb : config.build alloc = .ok (c, alloc'))
    (hd : config.audioImpl = .new ring) (hin : config.inputConfig = none)
    (hn : c.number .out = some n) (hr : Run (Joint Move) (World.start c bus) ts w) :
    w.cls.stored .out = some (Player.after n (usbEvents (events ts)) ⟨0, false⟩).alt ∧
      w.cls.audioImpl.unmasked = (Player.after n (usbEvents (events ts)) ⟨0, false⟩).on :=
  have h := (plays_start hb hd hin hn).run (DmaDevice.switched B) hr
  ⟨h.stored, h.on_eq⟩

/-- In every run from build, the channel is enabled exactly when half of the ring was
received since the last start or stop. -/
theorem channel_of_run (hN : 2 ≤ N) (hb : config.build alloc = .ok (c, alloc'))
    (hd : config.audioImpl = .new ring) (hfresh : ring.Fresh)
    (hr : Run (Joint Move) (World.start c bus) ts w) :
    w.cls.audioImpl.playback.running = true ↔
      N / 2 * ring.slotBytes ≤ w.cls.audioImpl.playback.received.length := by
  have h : Sound ring w.cls.audioImpl := sound_run hN (sound_start hb hd hfresh).sound hr
  exact h.running_iff hN

/-- As long as the channel reads in time, a device that is on has sent a front part of
what it received since it was started, and of all packets when nothing was dropped. -/
theorem played_in_order (hN : 2 ≤ N) (ha : ring.Aligned)
    (hb : config.build alloc = .ok (c, alloc')) (hd : config.audioImpl = .new ring)
    (hfresh : ring.Fresh) (hr : Run (Joint Move) (World.start c bus) ts w)
    (ht : ∀ t ∈ ts, ∀ e, t.event = .inr e → Timely t.pre.cls.audioImpl e)
    (hon : w.cls.audioImpl.unmasked = true) :
    let s := w.cls.audioImpl.playback
    s.sent <+: s.received ∧ (s.dropped = 0 → s.sent <+: s.offered) := by
  have h : InStep ring w :=
    hr.invariant_of ht (sound_start hb hd hfresh) fun h hs ht => h.step hN ha hs ht
  obtain ⟨r, hlayout, horder⟩ := h.ordered hon
  have hfront : w.cls.audioImpl.playback.sent <+: w.cls.audioImpl.playback.received := by
    rw [horder.sent_eq]
    exact List.take_prefix _ _
  refine ⟨hfront, fun h0 => ?_⟩
  rw [horder.inv.offered h0]
  exact hfront.trans (List.prefix_append _ _)

/-- The rate of a device is within 0.2% of the nominal one, as the host reads it. -/
def NearNominal (c : UsbAudioClass (DmaDevice usbFrameRate N maxSlotBytes)) (r : Nat) : Prop :=
  c.nominalFb.v.toNat - c.nominalFb.v.toNat / 500 ≤ r + 2 ∧
    r ≤ c.nominalFb.v.toNat + c.nominalFb.v.toNat / 500 + 2

theorem RatePacket.near {c : UsbAudioClass (DmaDevice usbFrameRate N maxSlotBytes)}
    {au' : DmaDevice usbFrameRate N maxSlotBytes} {p : EndpointAddress × List UInt8}
    (h : RatePacket B c au' p)
    (hn : c.nominalFb.v.toNat + c.nominalFb.v.toNat / 500 + 2 < 67108864) :
    ∃ r, readRate c.speed p.2 = some r ∧ NearNominal c r := by
  obtain ⟨-, au, fb, hfb, hbytes⟩ := h
  have hbelow : c.nominalFb.v.toNat + c.nominalFb.v.toNat / 500 < 2147483648 := by omega
  have hrate : DmaAudio.feedback au.playback.running au.playback.ring.producedBytes
      (au.playback.ring.bytesAt au.playback.ring.consumed (UInt32.ofNat au.playback.countdown))
      c.nominalFb = some fb := congrArg Prod.fst hfb
  obtain ⟨fb', hfb', hlower, hupper⟩ := DmaAudio.feedback_within au.playback.running
    au.playback.ring.producedBytes (au.playback.ring.bytesAt au.playback.ring.consumed
      (UInt32.ofNat au.playback.countdown)) hbelow
  cases hrate.symm.trans hfb'
  have hsmall : fb.v.toNat + 2 < 67108864 := by omega
  obtain ⟨r, hread, hle, hge⟩ := readRate_feedbackBytes c.speed hsmall
  rw [hbytes]
  exact ⟨r, hread, by omega, by omega⟩

/-- A device that sent a rate sends the next one. -/
theorem next_rate {w : World (DmaDevice usbFrameRate N maxSlotBytes) B} (hw : Wired w.cls)
    {addr : EndpointAddress} (h : IsFeedback w.cls addr.index)
    (hn : w.cls.nominalFb.v.toNat + w.cls.nominalFb.v.toNat / 500 < 2147483648)
    (hs : Step w (.endpointInComplete addr) w') :
    ∃ p, writes (actionsOf w w') = [p] := by
  obtain ⟨bus, fuel, hs⟩ := hs
  cases hs
  obtain ⟨ep, hep, hindex⟩ := id h
  obtain ⟨acts, hlog, hwrites⟩ := writes_emitFeedback { w with bus }
  obtain ⟨fb, hfb, -⟩ := DmaAudio.feedback_within w.cls.audioImpl.playback.running
    w.cls.audioImpl.playback.ring.producedBytes (w.cls.audioImpl.playback.ring.bytesAt
      w.cls.audioImpl.playback.ring.consumed (UInt32.ofNat w.cls.audioImpl.playback.countdown)) hn
  have hanswer : (AudioHandler.feedback (B := B) w.cls.nominalFb w.cls.audioImpl).1 = some fb := hfb
  rw [hep, hanswer] at hwrites
  refine ⟨(ep.address, World.feedbackBytes w.cls.speed fb), ?_⟩
  rw [actionsOf, endpointInComplete_feedback (w := { w with bus }) hw h, hlog, List.drop_left,
    hwrites]

theorem rates_step (hw : Wired w.cls) {e : Event ⊕ PlaybackEvent} (hs : Joint Move w e w')
    (hn : w.cls.nominalFb.v.toNat + w.cls.nominalFb.v.toNat / 500 + 2 < 67108864) :
    (∀ p ∈ writes (actionsOf w w'),
      ∃ r, readRate w.cls.speed p.2 = some r ∧ NearNominal w.cls r) ∧
    ∀ addr, e = .inl (.endpointInComplete addr) → IsFeedback w.cls addr.index →
      ∃ p, writes (actionsOf w w') = [p] := by
  cases hs with
  | usb hs =>
      refine ⟨fun p hp => ?_, fun addr he h => ?_⟩
      · rcases hs.writes with hnone | ⟨p', hone, hpacket⟩
        · rw [hnone] at hp
          cases hp
        · rw [hone, List.mem_singleton] at hp
          rw [hp]
          exact hpacket.near hn
      · cases Sum.inl.inj he
        exact next_rate hw h (by omega) hs
  | move hm =>
      refine ⟨fun p hp => ?_, nofun⟩
      rw [actionsOf, List.drop_length] at hp
      cases hp

end

/-! ## A run -/

theorem fresh_shortRing : DmaRing.shortRing.Fresh :=
  ((DmaRing.Configured.new DmaRing.new_boardRing).setSlotSize
    DmaRing.setSlotSize_boardRing).fresh

/-- The box of the DMA example, with short slots. -/
def dmaBox : UsbAudioClassConfig (DmaDevice 8000 8 384) where
  speed := .high
  deviceCategory := .ioBox
  audioImpl := .new DmaRing.shortRing
  inputConfig := none
  outputConfig := some (stereo 2)
  additionalDescriptors := none

/-- What build makes of it. -/
def dmaBoxClass : UsbAudioClass (DmaDevice 8000 8 384) where
  controlIface := 0
  audioImpl := .new DmaRing.shortRing
  output := some ⟨stereo 2, 1, ⟨⟨0x01⟩, .asynchronous, .data, 104, 1⟩, 0⟩
  input := none
  feedback := some ⟨⟨0x81⟩, .noSynchronization, .feedback, 4, 4⟩
  additionalDescriptors := none
  deviceCategory := .ioBox
  inIface := 0
  outIface := 1
  inEp := 0
  outEp := 1
  fbEp := 1
  speed := .high
  nominalFb := nominal 96000 8000
  audioRate := 8000

theorem build_dmaBox : ∃ alloc, dmaBox.build Counters.fresh = .ok (dmaBoxClass, alloc) := ⟨_, rfl⟩

/-- The box before the first event. -/
def dmaBoxStart : World (DmaDevice 8000 8 384) Scripted :=
  World.start dmaBoxClass ⟨[], .error .wouldBlock⟩

/-- The box with playback on. -/
def dmaBoxOn : World (DmaDevice 8000 8 384) Scripted :=
  dmaBoxStart.controlOut (selectSetting 1 1)

theorem run_dmaBoxOn :
    Run (Joint Move) dmaBoxStart [⟨dmaBoxStart, .inl (.controlOut (selectSetting 1 1)), dmaBoxOn⟩]
      dmaBoxOn :=
  Run.nil.snoc (.usb (step_controlOut dmaBoxStart (selectSetting 1 1)))

/-- A packet of half of the ring arrives. -/
theorem received_dmaBoxOn (data : List UInt8) (h : data.length = 16) :
    ∃ w, Step dmaBoxOn (.endpointOut ⟨1⟩) w ∧ w.cls.audioImpl.unmasked = true ∧
      w.cls.audioImpl.playback.received = data ∧ w.cls.audioImpl.playback.dropped = 0 ∧
      w.cls.audioImpl.playback.read = 0 ∧ w.cls.audioImpl.playback.word = 0 := by
  have ht : DmaRing.Tracks (Playback.start DmaRing.shortRing).ring [] 0 0 :=
    DmaRing.tracks_resetProducer _
  obtain ⟨-, -, -, hresult⟩ := ht.push data
  have hfree : (Playback.start DmaRing.shortRing).ring.free 0 0 = 28 := rfl
  have hdropped : ((Playback.start DmaRing.shortRing).ring.push data).1.dropped = 0 := by
    rw [hresult, hfree, h]
  refine ⟨_, ⟨⟨[data], .error .wouldBlock⟩, 0, rfl⟩, rfl, ?_, ?_, rfl, rfl⟩
  · show [] ++ data.take (data.length -
      ((Playback.start DmaRing.shortRing).ring.push data).1.dropped) = data
    rw [hdropped, Nat.sub_zero, List.take_length, List.nil_append]
  · show 0 + ((Playback.start DmaRing.shortRing).ring.push data).1.dropped = 0
    rw [hdropped]

theorem player_of_run_dmaBox : dmaBoxOn.cls.audioImpl.unmasked = true := by
  obtain ⟨alloc, hb⟩ := build_dmaBox
  exact (player_of_run hb rfl rfl rfl run_dmaBoxOn).2

theorem channel_of_run_dmaBox : ∃ ts w, Run (Joint Move) dmaBoxStart ts w ∧
    w.cls.audioImpl.playback.running = true := by
  obtain ⟨alloc, hb⟩ := build_dmaBox
  have hlen : (List.replicate 16 (1 : UInt8)).length = 16 := List.length_replicate
  obtain ⟨w, hs, -, hreceived, -⟩ := received_dmaBoxOn _ hlen
  have hr := run_dmaBoxOn.snoc (.usb hs)
  refine ⟨_, w, hr, (channel_of_run (by decide) hb rfl fresh_shortRing hr).mpr ?_⟩
  rw [hreceived, hlen]
  decide

/-- The first word of a packet is sent. -/
theorem played_in_order_dmaBox : ∃ ts w, Run (Joint Move) dmaBoxStart ts w ∧
    w.cls.audioImpl.playback.sent.length = 4 ∧
    w.cls.audioImpl.playback.sent <+: w.cls.audioImpl.playback.offered := by
  obtain ⟨alloc, hb⟩ := build_dmaBox
  have ha := Playback.aligned_shortRing
  have hlen : (List.replicate 16 (1 : UInt8)).length = 16 := List.length_replicate
  obtain ⟨w, hs, hon, hreceived, hdropped, hread, hword⟩ := received_dmaBoxOn _ hlen
  obtain ⟨ts, hr, hts⟩ : ∃ ts, Run (Joint Move) dmaBoxStart ts w ∧
      ∀ t ∈ ts, ∀ e, t.event = .inr e → Timely t.pre.cls.audioImpl e :=
    ⟨_, run_dmaBoxOn.snoc (.usb hs), by simp⟩
  have h : InStep DmaRing.shortRing w := hr.invariant_of hts (sound_start hb rfl fresh_shortRing)
    fun h hs ht => h.step (by decide) ha hs ht
  have hrunning : w.cls.audioImpl.playback.running = true := by
    rw [h.sound.running_iff (by decide), hreceived, hlen]
    decide
  obtain ⟨r, hlayout, horder⟩ := h.ordered hon
  obtain ⟨s, hs', hposition⟩ := Playback.word_step (ha.of_layout hlayout) horder.inv hrunning
  have htimely : Timely w.cls.audioImpl .word := by
    intro _ _ hhalf
    rw [hread] at hhalf
    exact absurd hhalf (by decide)
  obtain ⟨hreceived', hdropped'⟩ : s.received = w.cls.audioImpl.playback.received ∧
      s.dropped = w.cls.audioImpl.playback.dropped := by
    cases hs' with
    | word => exact ⟨rfl, rfl⟩
    | lastWord => exact ⟨rfl, rfl⟩
  have hlast : Playback.InOrder r s := horder.step (ha.of_layout hlayout) hs' fun _ hhalf => by
    rw [hread] at hhalf
    exact absurd hhalf (by decide)
  have hfour : r.wordBytes = 4 := by
    simp only [DmaRing.layout, Prod.mk.injEq] at hlayout
    exact hlayout.2.1
  have hplayed := played_in_order (by decide) ha hb rfl fresh_shortRing
    (hr.snoc (.move (.word hon hs'))) (Runs.forall_snoc.mpr ⟨hts, fun e he =>
      Sum.inr.inj he ▸ htimely⟩) hon
  refine ⟨_, _, hr.snoc (.move (.word hon hs')), ?_, hplayed.2 (hdropped'.trans hdropped)⟩
  show s.sent.length = 4
  rw [hlast.sent_eq, hposition, Playback.position, hread, hword, hfour, List.length_take,
    hreceived', hreceived, hlen, Nat.zero_mul]
  rfl

/-- The box with playback on, after a packet of half of the ring. -/
def dmaBoxFed : World (DmaDevice 8000 8 384) Scripted :=
  World.audioDataRx ⟨⟨0x01⟩, .asynchronous, .data, 104, 1⟩
    { dmaBoxOn with bus := ⟨[List.replicate 16 1], .error .wouldBlock⟩ }

end Uac2
