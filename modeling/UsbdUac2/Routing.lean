import UsbdUac2.Settings
import UsbdUac2.Bench

/-!
# Routing of endpoint events

usb-device reports a packet by the address of its endpoint, and the class compares
the index with the ones it keeps.  The index that it keeps for an absent stream is
0, which is the control endpoint.

An allocator gives out no index 0 and no index twice in one direction.  So an event
of another endpoint reaches the device only through the method of the stream whose
endpoint it is, and reaching for an absent stream does not happen.  An IN and an
OUT endpoint may have the same index.
-/

namespace Uac2

open Runs

variable {AU B : Type}

/-- A call of a method of the device. -/
def Action.IsCall : Action → Bool
  | .audioDataRx _ => true
  | .audioDataTx _ => true
  | .feedback _ => true
  | .alternateSettingChanged _ _ => true
  | .sampleRate => true
  | .setSampleRate _ => true
  | .clockValidity => true
  | .sampleRates => true
  | .accept => false
  | .answer _ => false
  | .write _ _ => false
  | .read _ => false

/-- The calls of the device among some actions. -/
def calls (acts : List Action) : List Action := acts.filter Action.IsCall

/-- The actions of a step between two worlds. -/
def actionsOf (w w' : World AU B) : List Action := w'.log.drop w.log.length

/-- The index is that of the data endpoint of the OUT stream. -/
def IsOutput (c : UsbAudioClass AU) (index : Nat) (ep : Endpoint .out) : Prop :=
  ∃ s, c.output = some s ∧ s.endpoint = ep ∧ index = ep.address.index

/-- The index is that of the data endpoint of the IN stream. -/
def IsInput (c : UsbAudioClass AU) (index : Nat) (ep : Endpoint .in) : Prop :=
  ∃ s, c.input = some s ∧ s.endpoint = ep ∧ index = ep.address.index

/-- The index is that of the feedback endpoint. -/
def IsFeedback (c : UsbAudioClass AU) (index : Nat) : Prop :=
  ∃ ep, c.feedback = some ep ∧ index = ep.address.index

/-- What a packet from the host may call. -/
structure RoutedOut (c : UsbAudioClass AU) (index : Nat) (acts : List Action) : Prop where
  data : ∀ ep, IsOutput c index ep → calls acts = [.audioDataRx ep]
  other : (∀ ep, ¬ IsOutput c index ep) → calls acts = []

/-- What a packet sent to the host may call. -/
structure RoutedIn (c : UsbAudioClass AU) (index : Nat) (acts : List Action) : Prop where
  feedback : IsFeedback c index → calls acts = [.feedback c.nominalFb]
  data : ∀ ep, IsInput c index ep → calls acts = [.audioDataTx ep]
  other : ¬ IsFeedback c index → (∀ ep, ¬ IsInput c index ep) → calls acts = []
  never_both : ¬ (IsFeedback c index ∧ ∃ ep, IsInput c index ep)

/-- The streams with their settings and the nominal rate are as before. -/
def Undisturbed (c c' : UsbAudioClass AU) : Prop :=
  c'.output = c.output ∧ c'.input = c.input ∧ c'.nominalFb = c.nominalFb

/-- The two endpoints for packets to the host are different. -/
theorem Wired.never_both {c : UsbAudioClass AU} (hw : Wired c) (index : Nat) :
    ¬ (IsFeedback c index ∧ ∃ ep, IsInput c index ep) := by
  rintro ⟨⟨fb, hfb, hfbIndex⟩, ep, s, hs, rfl, hsIndex⟩
  refine hw.input_ne_feedback hs hfb ?_
  rw [(hw.input_ep hs).1, (hw.feedback_ep hfb).1, ← hfbIndex, ← hsIndex]

/-- The guard of the feedback endpoint. -/
theorem filter_feedback {c : UsbAudioClass AU} (hw : Wired c) {index : Nat}
    (h : ¬ IsFeedback c index) : (c.feedback.filter fun _ => index = c.fbEp) = none := by
  rw [Option.filter_eq_none_iff]
  intro fb hfb heq
  exact h ⟨fb, hfb, (of_decide_eq_true heq).trans (hw.feedback_ep hfb).1⟩

section

variable [AudioHandler AU B]

/-- A packet from the host.  Index 0 is no endpoint of a stream. -/
theorem endpointOut_routed {w : World AU B} (hw : Wired w.cls) {addr : EndpointAddress}
    (haddr : 1 ≤ addr.index) :
    ∃ w' acts, w.endpointOut addr = some w' ∧ w'.log = w.log ++ acts ∧
      RoutedOut w.cls addr.index acts ∧ Undisturbed w.cls w'.cls := by
  cases ho : w.cls.output with
  | none =>
      have hne : addr.index ≠ w.cls.outEp := by
        rw [hw.output_absent ho]
        omega
      refine ⟨w, [], if_neg hne, (List.append_nil _).symm, ⟨?_, fun _ => rfl⟩, rfl, rfl, rfl⟩
      rintro ep ⟨s, hs, -, -⟩
      cases ho.symm.trans hs
  | some s =>
      obtain ⟨hindex, -⟩ := hw.output_ep ho
      by_cases heq : addr.index = w.cls.outEp
      · have hrun : w.endpointOut addr = some (w.audioDataRx s.endpoint) := by
          rw [World.endpointOut, if_pos heq, ho, Option.map_some]
        refine ⟨_, [.audioDataRx s.endpoint], hrun, rfl, ⟨?_, ?_⟩, rfl, rfl, rfl⟩
        · rintro ep ⟨s', hs, rfl, -⟩
          cases ho.symm.trans hs
          rfl
        · intro hnone
          exact absurd ⟨s, ho, rfl, heq.trans hindex⟩ (hnone s.endpoint)
      · refine ⟨w, [], if_neg heq, (List.append_nil _).symm, ⟨?_, fun _ => rfl⟩, rfl, rfl, rfl⟩
        rintro ep ⟨s', hs, rfl, hep⟩
        cases ho.symm.trans hs
        exact absurd (hep.trans hindex.symm) heq

variable [UsbBus B]

theorem calls_of_feedbackActions {c : UsbAudioClass AU} {acts : List Action}
    (hacts : FeedbackActions c acts) (hfb : c.feedback.isSome) :
    calls acts = [.feedback c.nominalFb] := by
  obtain ⟨ep, hep⟩ := Option.isSome_iff_exists.mp hfb
  rw [FeedbackActions, hep] at hacts
  rcases hacts with rfl | ⟨bytes, rfl⟩
  · rfl
  · rfl

theorem endpointInComplete_feedback {w : World AU B} (hw : Wired w.cls) {addr : EndpointAddress}
    (h : IsFeedback w.cls addr.index) : w.endpointInComplete addr = w.emitFeedback := by
  obtain ⟨fb, hfb, hindex⟩ := h
  have hep : addr.index = w.cls.fbEp := hindex.trans (hw.feedback_ep hfb).1.symm
  simp only [World.endpointInComplete, hfb, hep, decide_true, Option.filter_some, if_true]

theorem endpointInComplete_data {w : World AU B} (hw : Wired w.cls) {addr : EndpointAddress}
    (hno : ¬ IsFeedback w.cls addr.index) {ep : Endpoint .in}
    (h : IsInput w.cls addr.index ep) : w.endpointInComplete addr = w.audioDataTx ep := by
  obtain ⟨s, hs, rfl, hindex⟩ := h
  have hep : addr.index = w.cls.inEp := hindex.trans (hw.input_ep hs).1.symm
  simp only [World.endpointInComplete, filter_feedback hw hno]
  simp only [hs, hep, decide_true, Option.filter_some, if_true]

theorem endpointInComplete_other {w : World AU B} (hw : Wired w.cls) {addr : EndpointAddress}
    (hno : ¬ IsFeedback w.cls addr.index) (hnone : ¬ ∃ ep, IsInput w.cls addr.index ep) :
    w.endpointInComplete addr = w := by
  have hfilter : (w.cls.input.filter fun _ => addr.index = w.cls.inEp) = none := by
    rw [Option.filter_eq_none_iff]
    intro s hs heq
    exact hnone ⟨s.endpoint, s, hs, rfl, (of_decide_eq_true heq).trans (hw.input_ep hs).1⟩
  simp only [World.endpointInComplete, filter_feedback hw hno, hfilter]

/-- A packet sent to the host. -/
theorem endpointInComplete_routed {w : World AU B} (hw : Wired w.cls) (addr : EndpointAddress) :
    ∃ acts, (w.endpointInComplete addr).log = w.log ++ acts ∧
      RoutedIn w.cls addr.index acts ∧ Undisturbed w.cls (w.endpointInComplete addr).cls := by
  have hnever := hw.never_both addr.index
  by_cases hfeedback : IsFeedback w.cls addr.index
  · obtain ⟨au, acts, -, hacts, hcls, hlog⟩ := World.emitFeedback_spec w
    rw [endpointInComplete_feedback hw hfeedback, hcls]
    refine ⟨acts, hlog, ⟨?_, ?_, ?_, hnever⟩, rfl, rfl, rfl⟩
    · rintro ⟨fb, hfb, -⟩
      exact calls_of_feedbackActions hacts (Option.isSome_iff_exists.mpr ⟨fb, hfb⟩)
    · intro ep hep
      exact absurd ⟨hfeedback, ep, hep⟩ hnever
    · intro hno _
      exact absurd hfeedback hno
  · by_cases hinput : ∃ ep, IsInput w.cls addr.index ep
    · obtain ⟨ep, hep⟩ := hinput
      rw [endpointInComplete_data hw hfeedback hep]
      refine ⟨[.audioDataTx ep], rfl, ⟨?_, ?_, ?_, hnever⟩, rfl, rfl, rfl⟩
      · intro h
        exact absurd h hfeedback
      · rintro ep' ⟨s', hs', rfl, -⟩
        obtain ⟨s, hs, rfl, -⟩ := hep
        cases hs.symm.trans hs'
        rfl
      · intro _ hnone
        exact absurd hep (hnone ep)
    · rw [endpointInComplete_other hw hfeedback hinput]
      refine ⟨[], (List.append_nil _).symm, ⟨?_, ?_, fun _ _ => rfl, hnever⟩, rfl, rfl, rfl⟩
      · intro h
        exact absurd h hfeedback
      · intro ep hep
        exact absurd ⟨ep, hep⟩ hinput

variable [ClockSource AU]

/-- In every state that is reached from build, and whatever the bus has done since,
endpoint events are routed and do not panic. -/
theorem endpoint_events_routed {A : Type} [UsbBusAllocator A] [DocumentedAllocator A]
    {config : UsbAudioClassConfig AU} {alloc alloc' : A} {c : UsbAudioClass AU}
    (hb : config.build alloc = .ok (c, alloc')) {bus : B}
    {ts : List (Transition (World AU B) Event)} {w : World AU B}
    (hr : Run Step (World.start c bus) ts w) (bus' : B) {addr : EndpointAddress}
    (haddr : 1 ≤ addr.index) :
    (∃ w' acts, World.endpointOut addr { w with bus := bus' } = some w' ∧
      w'.log = w.log ++ acts ∧ RoutedOut w.cls addr.index acts ∧ Undisturbed w.cls w'.cls) ∧
    ∃ w' acts, World.endpointInComplete addr { w with bus := bus' } = w' ∧
      w'.log = w.log ++ acts ∧ RoutedIn w.cls addr.index acts ∧ Undisturbed w.cls w'.cls := by
  obtain ⟨rate, hbuilt⟩ := build_ok hb
  obtain ⟨hw, -, -⟩ := wired_run hbuilt.wired hr
  have hw' : Wired ({ w with bus := bus' } : World AU B).cls := hw
  obtain ⟨acts, hin⟩ := endpointInComplete_routed hw' addr
  exact ⟨endpointOut_routed hw' haddr, _, acts, rfl, hin⟩

/-- The box with the OUT stream selected: its data endpoint and its feedback endpoint
both have index 1. -/
theorem endpoint_events_routed_ioBox :
    (∃ w' acts, (ioBoxLive 1).endpointOut ⟨0x01⟩ = some w' ∧ w'.log = (ioBoxLive 1).log ++ acts ∧
      RoutedOut (ioBoxLive 1).cls 1 acts ∧ Undisturbed (ioBoxLive 1).cls w'.cls) ∧
    ∃ w' acts, (ioBoxLive 1).endpointInComplete ⟨0x81⟩ = w' ∧
      w'.log = (ioBoxLive 1).log ++ acts ∧ RoutedIn (ioBoxLive 1).cls 1 acts ∧
      Undisturbed (ioBoxLive 1).cls w'.cls := by
  obtain ⟨alloc, hb⟩ := build_ioBox
  have hr := Run.nil.snoc (step_controlOut ioBoxStart (selectSetting 1 1))
  exact ⟨(endpoint_events_routed hb hr ⟨⟩ (by decide)).1,
    (endpoint_events_routed hb hr ⟨⟩ (by decide)).2⟩

end

end Uac2
