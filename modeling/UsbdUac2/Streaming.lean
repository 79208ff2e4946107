import UsbdUac2.Settings
import UsbdUac2.Bench

/-!
# Data moves only for a live stream

A stream is live when a setting other than 0 is selected.  The device is asked
for data, handed data, or asked for its rate in three places: on a change of the
setting, and on the two endpoint events.  None of them looks at the setting.

`Timely` says when no harm comes of it: the event does not stop a live stream,
and it does not come from an endpoint of a stream that is stopped.
-/

namespace Uac2

open Runs

variable {AU B : Type}

/-- The direction an action moves data in.  The feedback belongs to the OUT stream. -/
def Action.moves : Action → Option UsbDirection
  | .audioDataTx _ => some .in
  | .audioDataRx _ => some .out
  | .feedback _ => some .out
  | .write _ _ => some .out
  | _ => none

/-- The stream of a direction is present and not at setting 0. -/
def Live (c : UsbAudioClass AU) (d : UsbDirection) : Prop :=
  ∃ alt, c.stored d = some alt ∧ alt ≠ 0

/-- All data the actions move is of streams that are live. -/
def MoveLive (c : UsbAudioClass AU) (acts : List Action) : Prop :=
  ∀ a ∈ acts, ∀ d, a.moves = some d → Live c d

/-- The event neither stops a live stream nor comes late. -/
structure Timely (c : UsbAudioClass AU) (e : Event) : Prop where
  no_stop : ∀ {d n}, c.number d = some n → e.selects = some (n, 0) → c.stored d = some 0
  no_late_rx : ∀ {addr}, e = .endpointOut addr → addr.index = c.outEp → Live c .out
  no_late_feedback : ∀ {addr}, e = .endpointInComplete addr → c.feedback ≠ none →
    addr.index = c.fbEp → Live c .out
  no_late_tx : ∀ {addr}, e = .endpointInComplete addr → c.input ≠ none →
    addr.index = c.inEp → (c.feedback = none ∨ addr.index ≠ c.fbEp) → Live c .in

theorem live_iff {c : UsbAudioClass AU} {d : UsbDirection} {alt : UInt8}
    (h : c.stored d = some alt) : Live c d ↔ alt ≠ 0 := by
  constructor
  · rintro ⟨alt', halt', hlive⟩
    cases h.symm.trans halt'
    exact hlive
  · intro hne
    exact ⟨alt, h, hne⟩

/-- A request is timely if it stops no live stream. -/
theorem timely_controlOut {c : UsbAudioClass AU} {xfer : ControlOut}
    (h : ∀ {d n}, c.number d = some n → (Event.controlOut xfer).selects = some (n, 0) →
      c.stored d = some 0) : Timely c (.controlOut xfer) where
  no_stop := h
  no_late_rx he := Event.noConfusion he
  no_late_feedback he := Event.noConfusion he
  no_late_tx he := Event.noConfusion he

theorem timely_reset {c : UsbAudioClass AU} : Timely c .reset where
  no_stop _ he := by cases he
  no_late_rx he := Event.noConfusion he
  no_late_feedback he := Event.noConfusion he
  no_late_tx he := Event.noConfusion he

/-- A request for a new setting is timely when the setting is not 0. -/
theorem timely_select {c : UsbAudioClass AU} {e : Event} {d : UsbDirection}
    {n : InterfaceNumber} {alt : UInt8} (hn : c.number d = some n)
    (he : e.selects = some (n, alt)) (hne : c.stored d ≠ some alt) : Timely c e ↔ alt ≠ 0 := by
  constructor
  · rintro ht rfl
    exact hne (ht.no_stop hn he)
  · intro halt
    obtain ⟨xfer, rfl, -⟩ := Event.selects_eq he
    refine timely_controlOut fun _ hs => ?_
    cases he.symm.trans hs
    exact absurd rfl halt

/-- The actions of one update of the feedback move data of the OUT stream, and
there are some when there is a feedback endpoint. -/
theorem moveLive_feedback {c c' : UsbAudioClass AU} {acts : List Action}
    (h : FeedbackActions c acts) (hfb : c.feedback ≠ none) : MoveLive c' acts ↔ Live c' .out := by
  unfold FeedbackActions at h
  split at h
  · rename_i hnone
    exact absurd hnone hfb
  · constructor
    · intro hm
      rcases h with rfl | ⟨bytes, rfl⟩
      · exact hm _ (.head _) .out rfl
      · exact hm _ (.head _) .out rfl
    · intro hlive a ha d hd
      have hout : a.moves = some .out := by
        rcases h with rfl | ⟨bytes, rfl⟩
        · obtain rfl := List.mem_singleton.mp ha
          rfl
        · rcases List.mem_cons.mp ha with rfl | ha
          · rfl
          · obtain rfl := List.mem_singleton.mp ha
            rfl
      cases hout.symm.trans hd
      exact hlive

theorem moveLive_selectIn {c : UsbAudioClass AU} {alt : UInt8} {ep : Endpoint .in} :
    MoveLive c [.alternateSettingChanged .in alt, .audioDataTx ep, .accept] ↔ Live c .in := by
  simp [MoveLive, Action.moves]

theorem moveLive_selectOut {c c' : UsbAudioClass AU} {alt : UInt8} {acts : List Action}
    (h : FeedbackActions c acts) (hfb : c.feedback ≠ none) :
    MoveLive c' (.alternateSettingChanged .out alt :: (acts ++ [.accept])) ↔ Live c' .out := by
  rw [← moveLive_feedback h hfb]
  simp [MoveLive, or_imp, forall_and, Action.moves]

theorem moveLive_rx {c : UsbAudioClass AU} {ep : Endpoint .out} :
    MoveLive c [.audioDataRx ep] ↔ Live c .out := by
  simp [MoveLive, Action.moves]

theorem moveLive_tx {c : UsbAudioClass AU} {ep : Endpoint .in} :
    MoveLive c [.audioDataTx ep] ↔ Live c .in := by
  simp [MoveLive, Action.moves]

theorem moveLive_still {c : UsbAudioClass AU} {acts : List Action}
    (h : ∀ a ∈ acts, a.moves = none) : MoveLive c acts := by
  intro a ha d hd
  cases (h a ha).symm.trans hd

theorem Action.Quiet.moves {a : Action} (h : a.Quiet) : a.moves = none := by
  cases a with
  | audioDataRx => exact absurd h id
  | audioDataTx => exact absurd h id
  | feedback => exact absurd h id
  | write => exact absurd h id
  | _ => rfl

/-! ## Endpoint events -/

theorem timely_rx {c : UsbAudioClass AU} {addr : EndpointAddress} (h : addr.index = c.outEp) :
    Timely c (.endpointOut addr) ↔ Live c .out := by
  constructor
  · intro ht
    exact ht.no_late_rx rfl h
  · intro hlive
    exact {
      no_stop := fun _ he => nomatch he
      no_late_rx := fun _ _ => hlive
      no_late_feedback := fun he => nomatch he
      no_late_tx := fun he => nomatch he }

theorem timely_feedback {c : UsbAudioClass AU} {addr : EndpointAddress}
    (hfb : c.feedback ≠ none) (h : addr.index = c.fbEp) :
    Timely c (.endpointInComplete addr) ↔ Live c .out := by
  constructor
  · intro ht
    exact ht.no_late_feedback rfl hfb h
  · intro hlive
    exact {
      no_stop := fun _ he => nomatch he
      no_late_rx := fun he => nomatch he
      no_late_feedback := fun _ _ _ => hlive
      no_late_tx := by
        rintro _ ⟨⟩ _ _ hno
        exact (hno.elim hfb fun hne => hne h).elim }

theorem timely_tx {c : UsbAudioClass AU} {addr : EndpointAddress} (hin : c.input ≠ none)
    (h : addr.index = c.inEp) (hfb : c.feedback = none ∨ addr.index ≠ c.fbEp) :
    Timely c (.endpointInComplete addr) ↔ Live c .in := by
  constructor
  · intro ht
    exact ht.no_late_tx rfl hin h hfb
  · intro hlive
    exact {
      no_stop := fun _ he => nomatch he
      no_late_rx := fun he => nomatch he
      no_late_feedback := by
        rintro _ ⟨⟩ hep haddr
        exact (hfb.elim hep fun hne => hne haddr).elim
      no_late_tx := fun _ _ _ _ => hlive }

/-- An event without an effect is timely. -/
theorem timely_idle {c : UsbAudioClass AU} {e : Event} (hi : Idle c e)
    (hkeep : ∀ {d n alt}, c.number d = some n → e.selects = some (n, alt) →
      c.stored d = some alt) : Timely c e where
  no_stop := hkeep
  no_late_rx he h := absurd h (hi.not_receive he)
  no_late_feedback he hfb h := ((hi.not_transmit he).2.elim hfb fun hne => hne h).elim
  no_late_tx he hin h _ := ((hi.not_transmit he).1.elim hin fun hne => hne h).elim

/-! ## Effects -/

section

variable [AudioHandler AU B] [ClockSource AU]

/-- The actions of an effect move data of live streams exactly when the event is
timely. -/
theorem Effect.moveLive_iff {c c' : UsbAudioClass AU} {e : Event} {acts : List Action}
    (h : Effect B c e c' acts) (hw : Wired c) : MoveLive c' acts ↔ Timely c e := by
  cases h with
  | @selectIn _ s alt _ hs he hne =>
      rw [(hw.input_number hs).1] at he
      have hstored : c.stored .in ≠ some alt := by
        simpa [UsbAudioClass.stored_input hs] using hne
      exact moveLive_selectIn.trans ((live_iff rfl).trans
        (timely_select (UsbAudioClass.number_input hs) he hstored).symm)
  | @selectOut _ s alt _ acts hs _ he hne _ hacts =>
      rw [(hw.output_number hs).1] at he
      have hstored : c.stored .out ≠ some alt := by
        simpa [UsbAudioClass.stored_output hs] using hne
      have hfb : c.feedback ≠ none := by
        rw [← Option.isSome_iff_ne_none, hw.feedback_isSome, hs]
        rfl
      exact (moveLive_selectOut hacts hfb).trans ((live_iff rfl).trans
        (timely_select (UsbAudioClass.number_output hs) he hstored).symm)
  | @setRate e _ _ hclock =>
      have hselects := selects_of_clockData hclock
      refine iff_of_true (moveLive_still (by simp [Action.moves])) ?_
      cases e with
      | controlOut xfer =>
          refine timely_controlOut fun _ he => ?_
          cases hselects.symm.trans he
      | _ => cases hclock
  | receive haddr => exact moveLive_rx.trans (timely_rx haddr).symm
  | transmit hs haddr hfb =>
      exact moveLive_tx.trans (timely_tx (by rw [hs]; simp) haddr hfb).symm
  | feedback hep haddr _ hacts =>
      have hfb : c.feedback ≠ none := by rw [hep]; simp
      exact (moveLive_feedback hacts hfb).trans (timely_feedback hfb haddr).symm
  | reset => exact iff_of_true (moveLive_still (by simp [Action.moves])) timely_reset
  | quiet hi hq hacts =>
      exact iff_of_true (moveLive_still fun a ha => (hq a ha).moves) (timely_idle hi (hi.keeps hw))

variable [UsbBus B]

/-- The actions of a step move data of streams that are live after it. -/
def MovesLive (t : Transition (World AU B) Event) : Prop :=
  MoveLive t.post.cls (t.post.log.drop t.pre.log.length)

/-- In a run from build, the device moves data of live streams only, exactly when
every event is timely. -/
theorem moves_live_iff_timely {A : Type} [UsbBusAllocator A] [DocumentedAllocator A]
    {config : UsbAudioClassConfig AU} {alloc alloc' : A} {c : UsbAudioClass AU}
    (hb : config.build alloc = .ok (c, alloc')) {bus : B}
    {ts : List (Transition (World AU B) Event)} {w : World AU B}
    (hr : Run Step (World.start c bus) ts w) :
    (∀ t ∈ ts, MovesLive t) ↔ ∀ t ∈ ts, Timely t.pre.cls t.event := by
  obtain ⟨rate, hbuilt⟩ := build_ok hb
  refine hr.forall_iff (fun w => Wired w.cls) (fun _ => True) hbuilt.wired
    (fun hw hs => hs.wired hw) trivial ?_ fun _ _ _ => trivial
  intro t hw _ hs
  obtain ⟨acts, hlog, heffect⟩ := hs.effect
  rw [MovesLive, hlog, List.drop_left]
  exact heffect.moveLive_iff hw

end

/-! ## Runs of the box -/

theorem moves_live_iff_timely_ioBox : ∃ ts, Run Step ioBoxStart ts (ioBoxLive 2) ∧
    ∀ t ∈ ts, MovesLive t := by
  obtain ⟨alloc, hb⟩ := build_ioBox
  have hr := Run.nil.snoc (step_controlOut ioBoxStart (selectSetting 2 1))
  refine ⟨_, hr, (moves_live_iff_timely hb hr).mpr ?_⟩
  intro t ht
  rw [List.nil_append, List.mem_singleton] at ht
  subst ht
  exact (timely_select (c := ioBoxClass) (d := .in) (n := 2) rfl rfl (by decide)).mpr (by decide)

/-- Stopping the IN stream asks the device for data, and stopping the OUT stream
asks it for its rate. -/
theorem stop_moves_data : (∃ alloc, ioBox.build Counters.fresh = .ok (ioBoxClass, alloc)) ∧
    (∀ n, ∃ ts, Run Step ioBoxStart ts (ioBoxStopped n)) ∧
    (ioBoxStopped 2).cls.stored .in = some 0 ∧ (ioBoxStopped 1).cls.stored .out = some 0 ∧
    .audioDataTx ⟨⟨0x82⟩, .asynchronous, .data, 56, 1⟩ ∈
      (ioBoxStopped 2).log.drop (ioBoxLive 2).log.length ∧
    .feedback (nominal 48000 8000) ∈ (ioBoxStopped 1).log.drop (ioBoxLive 1).log.length ∧
    ¬ MovesLive ⟨ioBoxLive 2, .controlOut (selectSetting 2 0), ioBoxStopped 2⟩ ∧
    ¬ MovesLive ⟨ioBoxLive 1, .controlOut (selectSetting 1 0), ioBoxStopped 1⟩ := by
  have htx : .audioDataTx ⟨⟨0x82⟩, .asynchronous, .data, 56, 1⟩ ∈
      (ioBoxStopped 2).log.drop (ioBoxLive 2).log.length := .tail _ (.head _)
  have hfb : .feedback (nominal 48000 8000) ∈
      (ioBoxStopped 1).log.drop (ioBoxLive 1).log.length := .tail _ (.head _)
  refine ⟨build_ioBox, fun n => ⟨_, (Run.nil.snoc (step_controlOut ioBoxStart
    (selectSetting n 1))).snoc (step_controlOut (ioBoxLive n) (selectSetting n 0))⟩, rfl, rfl,
    htx, hfb, fun h => ?_, fun h => ?_⟩
  · exact absurd (h _ htx .in rfl) fun hlive =>
      (live_iff (c := (ioBoxStopped 2).cls) rfl).mp hlive rfl
  · exact absurd (h _ hfb .out rfl) fun hlive =>
      (live_iff (c := (ioBoxStopped 1).cls) rfl).mp hlive rfl

end Uac2
