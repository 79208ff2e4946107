import UsbdUac2.Feedback
import UsbdUac2.Settings
import UsbdUac2.Routing

/-!
# The packets of the feedback endpoint

The class writes packets of its own to one endpoint only.  Each of them holds the rate that
the device gave for the nominal rate of the class, in the format of the bus speed, and no
event writes more than one.  `packets_of_run` says so for every run, and that the packets
fit the endpoint.

`readRate` is the host's side of the format.
-/

namespace Uac2

open Runs (Run Transition)
open Frames (le32 ofLe32)

/-- The rate that the host reads from a packet, as a 16.16 number. -/
def readRate : UsbSpeed → List UInt8 → Option Nat
  | .low, [b0, b1, b2] => some (4 * FixedPoint.ofBytes [b0, b1, b2])
  | .full, [b0, b1, b2] => some (4 * FixedPoint.ofBytes [b0, b1, b2])
  | .high, [b0, b1, b2, b3] => some (ofLe32 b0 b1 b2 b3).toNat
  | .super, [b0, b1, b2, b3] => some (ofLe32 b0 b1 b2 b3).toNat
  | _, _ => none

/-- The rate is read back exactly from four bytes, and to half a step from three, where it
is in the range of these. -/
theorem readRate_feedbackBytes (speed : UsbSpeed) {fb : UsbIsochronousFeedback}
    (h : fb.v.toNat + 2 < 67108864) :
    ∃ r, readRate speed (World.feedbackBytes speed fb) = some r ∧
      r ≤ fb.v.toNat + 2 ∧ fb.v.toNat ≤ r + 2 := by
  have hsaturates := (UsbIsochronousFeedback.saturates_iff fb).mpr (Or.inl h)
  have hround : FixedPoint.roundDiv 4 fb.v.toNat = (fb.v.toNat + 2) / 4 := rfl
  have htop : UsbIsochronousFeedback.top_10_14 = 16777215 := rfl
  obtain ⟨hle, hge⟩ := hsaturates.near (by rw [hround, htop]; omega)
  cases speed with
  | low => exact ⟨_, rfl, hle, hge⟩
  | full => exact ⟨_, rfl, hle, hge⟩
  | high =>
      refine ⟨fb.v.toNat, ?_, Nat.le_add_right _ 2, Nat.le_add_right _ 2⟩
      exact congrArg (fun v : UInt32 => some v.toNat) (Frames.ofLe32_le32 fb.v)
  | super =>
      refine ⟨fb.v.toNat, ?_, Nat.le_add_right _ 2, Nat.le_add_right _ 2⟩
      exact congrArg (fun v : UInt32 => some v.toNat) (Frames.ofLe32_le32 fb.v)

theorem length_feedbackBytes_le (speed : UsbSpeed) (fb : UsbIsochronousFeedback) :
    (World.feedbackBytes speed fb).length ≤ 4 := by
  cases speed with
  | low => exact Nat.le_succ 3
  | full => exact Nat.le_succ 3
  | high => exact Nat.le_refl 4
  | super => exact Nat.le_refl 4

/-! ## What an event writes -/

/-- The packets that are written among some actions. -/
def writes (acts : List Action) : List (EndpointAddress × List UInt8) :=
  acts.filterMap fun
    | .write addr bytes => some (addr, bytes)
    | _ => none

@[simp] theorem writes_append (a b : List Action) : writes (a ++ b) = writes a ++ writes b :=
  List.filterMap_append

theorem writes_quiet {acts : List Action} (h : ∀ a ∈ acts, a.Quiet) : writes acts = [] := by
  rw [writes, List.filterMap_eq_nil_iff]
  intro a ha
  cases a with
  | write => exact absurd (h _ ha) id
  | _ => rfl

section

variable {AU : Type} (B : Type) [AudioHandler AU B]

/-- The packet is on the feedback endpoint, and holds the rate that the device gave for the
nominal rate when it became `au'`. -/
structure RatePacket (c : UsbAudioClass AU) (au' : AU) (p : EndpointAddress × List UInt8) :
    Prop where
  endpoint : ∃ ep, c.feedback = some ep ∧ p.1 = ep.address
  rate : ∃ (au : AU) (fb : UsbIsochronousFeedback),
    AudioHandler.feedback (B := B) c.nominalFb au = (some fb, au') ∧
      p.2 = World.feedbackBytes c.speed fb

/-- No packet, or one with a rate. -/
def OnePacket (c : UsbAudioClass AU) (au' : AU) (ps : List (EndpointAddress × List UInt8)) :
    Prop :=
  ps = [] ∨ ∃ p, ps = [p] ∧ RatePacket B c au' p

variable {B} [UsbBus B]

/-- An update of the feedback writes the rate that the device gives, if it gives one. -/
theorem writes_emitFeedback (w : World AU B) :
    ∃ acts, w.emitFeedback.log = w.log ++ acts ∧
      writes acts =
        match w.cls.feedback,
          (AudioHandler.feedback (B := B) w.cls.nominalFb w.cls.audioImpl).1 with
        | some ep, some fb => [(ep.address, World.feedbackBytes w.cls.speed fb)]
        | _, _ => [] := by
  cases hep : w.cls.feedback with
  | none =>
      refine ⟨[], ?_, rfl⟩
      rw [World.emitFeedback, hep, List.append_nil]
  | some ep =>
      rcases hr : AudioHandler.feedback (B := B) w.cls.nominalFb w.cls.audioImpl with ⟨r, au⟩
      have hasked : w.feedback = (r, { w with
          cls := { w.cls with audioImpl := au }
          log := w.log ++ [.feedback w.cls.nominalFb] }) := by
        rw [World.feedback, hr]
      cases r with
      | none =>
          refine ⟨[.feedback w.cls.nominalFb], ?_, rfl⟩
          rw [World.emitFeedback, hep, hasked]
      | some fb =>
          refine ⟨[.feedback w.cls.nominalFb,
            .write ep.address (World.feedbackBytes w.cls.speed fb)], ?_, rfl⟩
          rw [World.emitFeedback, hep, hasked]
          simp [World.writePacket]

theorem audioImpl_emitFeedback {w : World AU B} {ep : Endpoint .in}
    (hep : w.cls.feedback = some ep) :
    w.emitFeedback.cls.audioImpl =
      (AudioHandler.feedback (B := B) w.cls.nominalFb w.cls.audioImpl).2 := by
  rw [World.emitFeedback, hep]
  rcases hr : AudioHandler.feedback (B := B) w.cls.nominalFb w.cls.audioImpl with ⟨r, au⟩
  cases r <;> simp [World.feedback, hr, World.writePacket]

theorem onePacket_emitFeedback (w : World AU B) :
    ∃ acts, w.emitFeedback.log = w.log ++ acts ∧
      OnePacket B w.cls w.emitFeedback.cls.audioImpl (writes acts) := by
  obtain ⟨acts, hlog, hwrites⟩ := writes_emitFeedback w
  refine ⟨acts, hlog, ?_⟩
  rw [hwrites]
  split
  · rename_i ep fb hep hfb
    refine Or.inr ⟨_, rfl, ⟨ep, hep, rfl⟩, w.cls.audioImpl, fb, ?_, rfl⟩
    rw [audioImpl_emitFeedback hep, ← hfb]
  · exact Or.inl rfl

theorem writes_setOutputAlt (s : AudioStream .out) (alt : UInt8) (w : World AU B) :
    ∃ acts, (w.setOutputAlt s alt).log = w.log ++ acts ∧
      OnePacket B w.cls (w.setOutputAlt s alt).cls.audioImpl (writes acts) := by
  unfold World.setOutputAlt
  split
  · obtain ⟨acts, hlog, hpacket⟩ := onePacket_emitFeedback (w.alternateSettingChanged .out alt)
    refine ⟨.alternateSettingChanged .out alt :: (acts ++ [.accept]), ?_, ?_⟩
    · simp only [World.accept, World.note]
      rw [hlog]
      simp [World.alternateSettingChanged]
    · have hsame : writes (.alternateSettingChanged .out alt :: (acts ++ [.accept])) =
          writes acts := by
        rw [← List.singleton_append, writes_append, writes_append]
        exact List.append_nil _
      rw [hsame]
      rcases hpacket with hnone | ⟨p, hp, hendpoint, hrate⟩
      · exact Or.inl hnone
      · exact Or.inr ⟨p, hp, hendpoint, hrate⟩
  · exact ⟨[], (List.append_nil _).symm, Or.inl rfl⟩

omit [UsbBus B] in
/-- Actions without a packet. -/
theorem onePacket_of_nil {c : UsbAudioClass AU} {w w' : World AU B} {acts : List Action}
    (hlog : w'.log = w.log ++ acts) (h : writes acts = []) :
    ∃ acts, w'.log = w.log ++ acts ∧ OnePacket B c w'.cls.audioImpl (writes acts) :=
  ⟨acts, hlog, Or.inl h⟩

theorem writes_setAltInterface (xfer : ControlOut) (w : World AU B) :
    ∃ acts, (w.setAltInterface xfer).log = w.log ++ acts ∧
      OnePacket B w.cls (w.setAltInterface xfer).cls.audioImpl (writes acts) := by
  unfold World.setAltInterface
  dsimp only
  split
  · rename_i s _
    unfold World.setInputAlt
    split
    · refine ⟨[.alternateSettingChanged .in xfer.request.value.toUInt8, .audioDataTx s.endpoint,
        .accept], ?_, .inl rfl⟩
      simp [World.accept, World.note, World.audioDataTx, World.alternateSettingChanged]
    · exact onePacket_of_nil (List.append_nil _).symm rfl
  · split
    · exact writes_setOutputAlt _ _ w
    · exact onePacket_of_nil (List.append_nil _).symm rfl

theorem writes_endpointInComplete (addr : EndpointAddress) (w : World AU B) :
    ∃ acts, (w.endpointInComplete addr).log = w.log ++ acts ∧
      OnePacket B w.cls (w.endpointInComplete addr).cls.audioImpl (writes acts) := by
  unfold World.endpointInComplete
  split
  · exact onePacket_emitFeedback w
  · split
    · exact onePacket_of_nil rfl rfl
    · exact onePacket_of_nil (List.append_nil _).symm rfl

variable [ClockSource AU]

/-- A transfer that is no `SET_INTERFACE` writes nothing. -/
theorem writes_controlOut_unselected {xfer : ControlOut} (hx : ¬ xfer.request.IsSetInterface)
    (w : World AU B) :
    ∃ acts, (w.controlOut xfer).log = w.log ++ acts ∧
      OnePacket B w.cls (w.controlOut xfer).cls.audioImpl (writes acts) := by
  have hselects : (Event.controlOut xfer).selects = none := if_neg hx
  obtain ⟨acts, hlog, heffect⟩ := World.effective_controlOut (w := w) xfer
  refine onePacket_of_nil hlog ?_
  generalize (w.controlOut xfer).cls = c at heffect
  cases heffect with
  | selectIn _ he => cases hselects.symm.trans he
  | selectOut _ _ he => cases hselects.symm.trans he
  | setRate => rfl
  | quiet _ hquiet => exact writes_quiet hquiet

/-- An event writes one packet with a rate, or none. -/
theorem writes_handle {fuel : Nat} {e : Event} {w w' : World AU B}
    (h : w.handle fuel e = some w') :
    ∃ acts, w'.log = w.log ++ acts ∧ OnePacket B w.cls w'.cls.audioImpl (writes acts) := by
  cases e with
  | controlOut xfer =>
      cases h
      by_cases hx : xfer.request.IsSetInterface
      · have hrun : w.controlOut xfer = w.setAltInterface xfer := by
          simp only [World.controlOut, World.standardRequestOut, hx.1, hx.2.1, hx.2.2, and_self,
            if_true]
        rw [hrun]
        exact writes_setAltInterface xfer w
      · exact writes_controlOut_unselected hx w
  | controlIn xfer =>
      cases h
      obtain ⟨-, acts, hquiet, hlog⟩ := World.quiet_controlIn xfer w
      exact onePacket_of_nil hlog (writes_quiet hquiet)
  | endpointOut addr =>
      obtain ⟨acts, hlog, heffect⟩ := World.effective_endpointOut h
      refine onePacket_of_nil hlog ?_
      generalize w'.cls = c at heffect
      cases heffect with
      | receive => rfl
      | quiet _ hquiet => exact writes_quiet hquiet
      | selectIn _ he => cases he
      | selectOut _ _ he => cases he
      | setRate he => cases he
  | endpointInComplete addr =>
      cases h
      exact writes_endpointInComplete addr w
  | poll =>
      obtain ⟨-, acts, hquiet, hlog⟩ := World.quiet_poll h
      exact onePacket_of_nil hlog (writes_quiet hquiet)
  | reset =>
      cases h
      refine ⟨[.alternateSettingChanged .in 0, .alternateSettingChanged .out 0], ?_, .inl rfl⟩
      simp [World.reset, World.alternateSettingChanged]

theorem Step.writes {e : Event} {w w' : World AU B} (h : Step w e w') :
    OnePacket B w.cls w'.cls.audioImpl (writes (actionsOf w w')) := by
  obtain ⟨bus, fuel, h⟩ := h
  obtain ⟨acts, hlog, hpacket⟩ := writes_handle (w := { w with bus }) h
  rw [actionsOf, hlog, List.drop_left]
  exact hpacket

/-! ## Runs -/

section

variable {A : Type} [UsbBusAllocator A] [DocumentedAllocator A]
  {config : UsbAudioClassConfig AU} {alloc alloc' : A} {c c' : UsbAudioClass AU}
  {e : Event} {acts : List Action}

/-- The feedback endpoint has room for a rate. -/
def FeedbackFits (c : UsbAudioClass AU) : Prop := ∀ ep ∈ c.feedback, ep.maxPacketSize = 4

omit [UsbBus B] in
theorem Effect.feedback_eq (h : Effect B c e c' acts) :
    c'.feedback = c.feedback ∧ c'.speed = c.speed := by
  cases h <;> exact ⟨rfl, rfl⟩

omit [UsbBus B] [AudioHandler AU B] in
theorem feedbackFits_of_build (h : config.build alloc = .ok (c, alloc')) : FeedbackFits c := by
  obtain ⟨⟨interval, fbInterval, audioRate⟩, -, h⟩ := bind_eq_ok h
  obtain ⟨rate, -, h⟩ := bind_eq_ok h
  obtain ⟨⟨c₁, alloc₁⟩, houtput, hinput⟩ := bind_eq_ok h
  have hfits : FeedbackFits c₁ := by
    cases hout : config.outputConfig with
    | none =>
        rw [hout] at houtput
        cases houtput
        exact fun _ hep => nomatch hep
    | some out =>
        rw [hout] at houtput
        obtain ⟨ep, fb, alloc₂, -, hfb, rfl⟩ := UsbAudioClass.addOutput_ok houtput
        rintro _ ⟨⟩
        exact (DocumentedAllocator.isochronous_endpoint hfb).2.2.2.1
  cases hin : config.inputConfig with
  | none =>
      rw [hin] at hinput
      cases hinput
      exact hfits
  | some inp =>
      rw [hin] at hinput
      obtain ⟨ep, -, rfl⟩ := UsbAudioClass.addInput_ok hinput
      exact hfits

end

/-- In every run from build, the class writes one packet or none at an event.  It is on the
feedback endpoint, which has room for it, and holds the rate that the device gave last for
the nominal rate of the class. -/
theorem packets_of_run {A : Type} [UsbBusAllocator A] [DocumentedAllocator A]
    {config : UsbAudioClassConfig AU} {alloc alloc' : A} {c : UsbAudioClass AU}
    (hb : config.build alloc = .ok (c, alloc')) {bus : B}
    {ts : List (Transition (World AU B) Event)} {w : World AU B}
    (hr : Run Step (World.start c bus) ts w) :
    ∀ t ∈ ts,
      OnePacket B t.pre.cls t.post.cls.audioImpl (writes (actionsOf t.pre t.post)) ∧
      ∀ p ∈ writes (actionsOf t.pre t.post), ∀ ep ∈ t.pre.cls.feedback,
        p.2.length ≤ ep.maxPacketSize.toNat := by
  refine hr.forall_mem (fun w => FeedbackFits w.cls) (feedbackFits_of_build hb) ?_ ?_
  · intro w e w' hfits hs
    obtain ⟨acts, -, heffect⟩ := hs.effect
    intro ep hep
    rw [heffect.feedback_eq.1] at hep
    exact hfits ep hep
  · intro t hfits hs
    refine ⟨hs.writes, fun p hp ep hep => ?_⟩
    rw [hfits ep hep]
    rcases hs.writes with hnone | ⟨p', hone, -, au, fb, -, hbytes⟩
    · rw [hnone] at hp
      cases hp
    · rw [hone, List.mem_singleton] at hp
      rw [hp, hbytes]
      exact length_feedbackBytes_le _ fb

end

/-- The OUT stream of the box is selected, and one packet goes out with the rate that
the device gave. -/
theorem packets_of_run_ioBox :
    ∃ ts, Run Step ioBoxStart ts (ioBoxLive 1) ∧
      ts.map (fun t => writes (actionsOf t.pre t.post)) =
        [[(⟨0x81⟩, World.feedbackBytes .high (nominal 48000 8000))]] ∧
      ∀ t ∈ ts,
        OnePacket Silence t.pre.cls t.post.cls.audioImpl (writes (actionsOf t.pre t.post)) := by
  obtain ⟨alloc, hb⟩ := build_ioBox
  have hr := Run.nil.snoc (step_controlOut ioBoxStart (selectSetting 1 1))
  exact ⟨_, hr, rfl, fun t ht => (packets_of_run hb hr t ht).1⟩

end Uac2
