import UsbdUac2.Events
import UsbdUac2.Wiring
import UsbdUac2.Lib.Runs

/-!
# What an event can do

`Effect` says once what an event does to the class and which actions it causes.
There are seven ways in which an event has an effect, and `Idle` says that none
of them applies.  Idle events only ask, answer and read.  `Step.effect` shows
that every step of the system is one of these, and the results about runs follow
from it without another look at the functions.

The calls of the device are kept apart from each other by `Played`: it changes
under the methods of `AudioHandler`, and its rate is set by `set_sample_rate`
alone.
-/

namespace Uac2

open ByteWriter

/-! ## What an event asks for -/

/-- The request is `SET_INTERFACE`. -/
def Request.IsSetInterface (req : Request) : Prop :=
  req.requestType = .standard ∧ req.recipient = .interface ∧
    req.request = Request.setInterface

/-- The request is `GET_INTERFACE`. -/
def Request.IsGetInterface (req : Request) : Prop :=
  req.requestType = .standard ∧ req.recipient = .interface ∧
    req.request = Request.getInterface

/-- The request is `CUR` for the sampling frequency of the clock, at interface `n`. -/
def Request.IsClockCur (req : Request) (n : InterfaceNumber) : Prop :=
  req.requestType = .class ∧ req.recipient = .interface ∧
    ClassSpecificRequest.ofUInt8 req.request = .cur ∧ req.interface = n ∧ req.entity = 1 ∧
    ClockSourceControlSelector.ofUInt8 req.control = .samFreqControl

instance (req : Request) : Decidable req.IsSetInterface :=
  inferInstanceAs (Decidable (_ ∧ _))

instance (req : Request) : Decidable req.IsGetInterface :=
  inferInstanceAs (Decidable (_ ∧ _))

instance (req : Request) (n : InterfaceNumber) : Decidable (req.IsClockCur n) :=
  inferInstanceAs (Decidable (_ ∧ _))

namespace Event

/-- The low bytes of `wIndex` and `wValue` of a `SET_INTERFACE`. -/
def selects : Event → Option (InterfaceNumber × UInt8)
  | .controlOut xfer =>
      if xfer.request.IsSetInterface then
        some (xfer.request.index.toUInt8, xfer.request.value.toUInt8)
      else none
  | _ => none

/-- The data stage of a `SET CUR` for the sampling frequency of the clock. -/
def clockData (n : InterfaceNumber) : Event → Option (List UInt8)
  | .controlOut xfer => if xfer.request.IsClockCur n then some xfer.data else none
  | _ => none

end Event

/-- The action neither moves data nor changes anything. -/
def Action.Quiet : Action → Prop
  | .sampleRate => True
  | .clockValidity => True
  | .sampleRates => True
  | .answer _ => True
  | .read _ => True
  | _ => False

section

variable {AU : Type} (B : Type) [AudioHandler AU B]

/-- The device after some calls of its audio methods. -/
inductive Played : AU → AU → Prop where
  | refl {au : AU} : Played au au
  | rx {au au' : AU} {ep : Endpoint .out} {bus : B} :
      Played au au' → Played au (AudioHandler.audioDataRx ep au' bus).1
  | tx {au au' : AU} {ep : Endpoint .in} {bus : B} :
      Played au au' → Played au (AudioHandler.audioDataTx ep au' bus).1
  | feedback {au au' : AU} {fb : UsbIsochronousFeedback} :
      Played au au' → Played au (AudioHandler.feedback (B := B) fb au').2
  | changed {au au' : AU} {terminal : UsbDirection} {alt : UInt8} :
      Played au au' → Played au (AudioHandler.alternateSettingChanged (B := B) terminal alt au')

variable {B} in
theorem Played.trans {au au₁ au₂ : AU} (h₁ : Played B au au₁) (h₂ : Played B au₁ au₂) :
    Played B au au₂ := by
  induction h₂ with
  | refl => exact h₁
  | rx _ ih => exact .rx ih
  | tx _ ih => exact .tx ih
  | feedback _ ih => exact .feedback ih
  | changed _ ih => exact .changed ih

/-- The actions of one update of the feedback. -/
def FeedbackActions (c : UsbAudioClass AU) (acts : List Action) : Prop :=
  match c.feedback with
  | none => acts = []
  | some ep => acts = [.feedback c.nominalFb] ∨
      ∃ bytes, acts = [.feedback c.nominalFb, .write ep.address bytes]

/-- The event has no effect on the class. -/
structure Idle (c : UsbAudioClass AU) (e : Event) : Prop where
  not_selectIn : ∀ {s alt}, c.input = some s → e.selects = some (c.inIface, alt) →
    s.altSetting = alt
  not_selectOut : ∀ {s alt}, c.output = some s → (c.input = none ∨ c.inIface ≠ c.outIface) →
    e.selects = some (c.outIface, alt) → s.altSetting = alt
  not_setRate : ∀ {data}, e.clockData c.controlIface = some data → readU32 data = none
  not_receive : ∀ {addr}, e = .endpointOut addr → addr.index ≠ c.outEp
  not_transmit : ∀ {addr}, e = .endpointInComplete addr →
    (c.input = none ∨ addr.index ≠ c.inEp) ∧ (c.feedback = none ∨ addr.index ≠ c.fbEp)
  not_reset : e ≠ .reset

variable [ClockSource AU]

/-- What an event does to the class, and the actions it causes. -/
inductive Effect (c : UsbAudioClass AU) : Event → UsbAudioClass AU → List Action → Prop where
  | selectIn {e : Event} {s : AudioStream .in} {alt : UInt8} {au : AU} :
      c.input = some s → e.selects = some (c.inIface, alt) → s.altSetting ≠ alt →
      Played B c.audioImpl au →
      Effect c e { c with audioImpl := au, input := some { s with altSetting := alt } }
        [.alternateSettingChanged .in alt, .audioDataTx s.endpoint, .accept]
  | selectOut {e : Event} {s : AudioStream .out} {alt : UInt8} {au : AU} {acts : List Action} :
      c.output = some s → (c.input = none ∨ c.inIface ≠ c.outIface) →
      e.selects = some (c.outIface, alt) → s.altSetting ≠ alt →
      Played B c.audioImpl au → FeedbackActions c acts →
      Effect c e { c with audioImpl := au, output := some { s with altSetting := alt } }
        (.alternateSettingChanged .out alt :: (acts ++ [.accept]))
  | setRate {e : Event} {data : List UInt8} {rate : UInt32} :
      e.clockData c.controlIface = some data → readU32 data = some rate →
      Effect c e
        { c with
          audioImpl := (ClockSource.setSampleRate rate c.audioImpl).2
          nominalFb := nominal rate c.audioRate }
        [.setSampleRate rate, .accept]
  | receive {addr : EndpointAddress} {s : AudioStream .out} {au : AU} :
      addr.index = c.outEp → c.output = some s → Played B c.audioImpl au →
      Effect c (.endpointOut addr) { c with audioImpl := au } [.audioDataRx s.endpoint]
  | transmit {addr : EndpointAddress} {s : AudioStream .in} {au : AU} :
      c.input = some s → addr.index = c.inEp → (c.feedback = none ∨ addr.index ≠ c.fbEp) →
      Played B c.audioImpl au →
      Effect c (.endpointInComplete addr) { c with audioImpl := au } [.audioDataTx s.endpoint]
  | feedback {addr : EndpointAddress} {ep : Endpoint .in} {au : AU} {acts : List Action} :
      c.feedback = some ep → addr.index = c.fbEp → Played B c.audioImpl au →
      FeedbackActions c acts →
      Effect c (.endpointInComplete addr) { c with audioImpl := au } acts
  | reset {au : AU} :
      Played B c.audioImpl au →
      Effect c .reset { c with audioImpl := au }
        [.alternateSettingChanged .in 0, .alternateSettingChanged .out 0]
  | quiet {e : Event} {acts : List Action} :
      Idle c e → (∀ a ∈ acts, a.Quiet) → (e.selects = none ∨ acts = []) → Effect c e c acts

end

/-! ## Quiet functions -/

/-- The class is unchanged, and only quiet actions were added. -/
def QuietStep {AU B : Type} (w w' : World AU B) : Prop :=
  w'.cls = w.cls ∧ ∃ acts, (∀ a ∈ acts, a.Quiet) ∧ w'.log = w.log ++ acts

namespace World

variable {AU B : Type} {w w₁ w₂ : World AU B}

theorem quiet_refl (w : World AU B) : QuietStep w w := ⟨rfl, [], by simp, by simp⟩

theorem QuietStep.trans (h₁ : QuietStep w w₁) (h₂ : QuietStep w₁ w₂) : QuietStep w w₂ := by
  obtain ⟨hc₁, acts₁, hq₁, hl₁⟩ := h₁
  obtain ⟨hc₂, acts₂, hq₂, hl₂⟩ := h₂
  refine ⟨hc₂.trans hc₁, acts₁ ++ acts₂, ?_, by rw [hl₂, hl₁, List.append_assoc]⟩
  intro a ha
  exact (List.mem_append.mp ha).elim (hq₁ a) (hq₂ a)

theorem quiet_note {a : Action} (ha : a.Quiet) (w : World AU B) : QuietStep w (w.note a) :=
  ⟨rfl, [a], by simpa using ha, rfl⟩

theorem quiet_answer (r : Option (List UInt8)) (w : World AU B) : QuietStep w (w.answer r) := by
  cases r with
  | none => exact quiet_refl w
  | some bytes => exact quiet_note (a := .answer bytes) trivial w

section

variable [UsbBus B]

theorem quiet_readPacket {D : UsbDirection} (ep : Endpoint D) (w : World AU B) :
    QuietStep w (w.readPacket ep).2 :=
  ⟨rfl, [.read ep.address], by simp [Action.Quiet], rfl⟩

theorem quiet_pollLoop (fuel : Nat) :
    ∀ {w w' : World AU B}, w.pollLoop fuel = some w' → QuietStep w w' := by
  induction fuel with
  | zero =>
      intro w w' h
      cases h
  | succ fuel ih =>
      intro w w' h
      rw [pollLoop] at h
      split at h
      · exact ih h
      · rename_i output _
        have hread := quiet_readPacket output.endpoint w
        split at h
        all_goals
          rename_i hr
          rw [hr] at hread
        · split at h
          · exact QuietStep.trans hread (ih h)
          · cases h
            exact hread
        · cases h
          exact hread
        · exact QuietStep.trans hread (ih h)

theorem quiet_poll {fuel : Nat} {w w' : World AU B} (h : w.poll fuel = some w') :
    QuietStep w w' := by
  unfold poll at h
  split at h
  · cases h
    exact quiet_refl w
  · exact quiet_pollLoop fuel h

end

variable [ClockSource AU]

theorem quiet_getClockCur (xfer : ControlIn) (channel control : UInt8) (w : World AU B) :
    QuietStep w (w.getClockCur xfer channel control) := by
  unfold getClockCur
  split
  · exact QuietStep.trans (quiet_note (a := .sampleRate) trivial w) (quiet_answer _ _)
  · refine QuietStep.trans (quiet_note (a := .clockValidity) trivial w) ?_
    dsimp only
    split
    · exact quiet_answer _ _
    · exact quiet_refl _
  · exact quiet_refl w

theorem quiet_getClockRange (xfer : ControlIn) (channel control : UInt8) (w : World AU B) :
    QuietStep w (w.getClockRange xfer channel control) := by
  unfold getClockRange
  split
  · refine QuietStep.trans (quiet_note (a := .sampleRates) trivial w) ?_
    dsimp only
    split
    · exact quiet_answer _ _
    · exact quiet_refl _
  · exact quiet_refl w

theorem quiet_classRequestIn (xfer : ControlIn) (w : World AU B) :
    QuietStep w (w.classRequestIn xfer) := by
  unfold classRequestIn
  split
  · dsimp only [getInterfaceCur, getControlInterfaceCur]
    split_ifs
    · exact quiet_getClockCur _ _ _ w
    · exact quiet_refl w
    · exact quiet_refl w
  · dsimp only [getInterfaceRange, getControlInterfaceRange]
    split_ifs
    · exact quiet_getClockRange _ _ _ w
    · exact quiet_refl w
    · exact quiet_refl w
  all_goals exact quiet_refl w

theorem quiet_controlIn (xfer : ControlIn) (w : World AU B) : QuietStep w (w.controlIn xfer) := by
  unfold controlIn
  split
  · dsimp only [standardRequestIn, getAltInterface]
    split
    · split
      · exact quiet_answer _ w
      · split
        · exact quiet_answer _ w
        · exact quiet_refl w
    · exact quiet_refl w
  · exact quiet_classRequestIn xfer w
  · exact quiet_refl w

end World

/-! ## Every step has an effect -/

theorem filter_eq_some {α : Type} {x : Option α} {a : α} {p : Prop} [Decidable p]
    (h : x.filter (fun _ => p) = some a) : x = some a ∧ p := by
  simpa [Option.filter_eq_some_iff] using h

theorem filter_eq_none {α : Type} {x : Option α} {p : Prop} [Decidable p]
    (h : x.filter (fun _ => p) = none) : x = none ∨ ¬ p := by
  cases x with
  | none => exact Or.inl rfl
  | some a => exact Or.inr (by simpa using h)

section

variable {AU B : Type} [AudioHandler AU B] [ClockSource AU] [UsbBus B]

/-- The step from `w` to `w'` at `e` is an effect. -/
def Effective (w : World AU B) (e : Event) (w' : World AU B) : Prop :=
  ∃ acts, w'.log = w.log ++ acts ∧ Effect B w.cls e w'.cls acts

omit [UsbBus B] in
theorem QuietStep.effective {w w' : World AU B} {e : Event} (h : QuietStep w w')
    (hi : Idle w.cls e) (hselects : e.selects = none) : Effective w e w' := by
  obtain ⟨hc, acts, hq, hl⟩ := h
  refine ⟨acts, hl, ?_⟩
  rw [hc]
  exact .quiet hi hq (Or.inl hselects)

omit [UsbBus B] in
theorem Idle.effective {w : World AU B} {e : Event} (hi : Idle w.cls e) : Effective w e w :=
  ⟨[], by simp, .quiet hi (by simp) (Or.inr rfl)⟩

namespace World

variable {w : World AU B}

omit [ClockSource AU] in
theorem emitFeedback_spec (w : World AU B) :
    ∃ au acts, Played B w.cls.audioImpl au ∧ FeedbackActions w.cls acts ∧
      w.emitFeedback.cls = { w.cls with audioImpl := au } ∧
      w.emitFeedback.log = w.log ++ acts := by
  cases hfb : w.cls.feedback with
  | none =>
      have hrun : w.emitFeedback = w := by rw [emitFeedback, hfb]
      have hacts : FeedbackActions w.cls [] := by rw [FeedbackActions, hfb]
      rw [hrun]
      exact ⟨w.cls.audioImpl, [], .refl, hacts, rfl, by simp⟩
  | some ep =>
      have hplayed : Played B w.cls.audioImpl w.feedback.2.cls.audioImpl := .feedback .refl
      cases hr : w.feedback.1 with
      | none =>
          have hrun : w.emitFeedback = w.feedback.2 := by
            rw [emitFeedback, hfb, ← Prod.eta w.feedback, hr]
          have hacts : FeedbackActions w.cls [.feedback w.cls.nominalFb] := by
            rw [FeedbackActions, hfb]
            exact Or.inl rfl
          rw [hrun]
          exact ⟨_, _, hplayed, hacts, rfl, rfl⟩
      | some fb =>
          have hrun : w.emitFeedback =
              w.feedback.2.writePacket ep (feedbackBytes w.feedback.2.cls.speed fb) := by
            rw [emitFeedback, hfb, ← Prod.eta w.feedback, hr]
          have hacts : FeedbackActions w.cls [.feedback w.cls.nominalFb,
              .write ep.address (feedbackBytes w.feedback.2.cls.speed fb)] := by
            rw [FeedbackActions, hfb]
            exact Or.inr ⟨_, rfl⟩
          rw [hrun]
          exact ⟨_, _, hplayed, hacts, rfl, by simp [writePacket, feedback]⟩

omit [UsbBus B] in
theorem effective_setInputAlt {s : AudioStream .in} {alt : UInt8} {e : Event}
    (hs : w.cls.input = some s) (he : e.selects = some (w.cls.inIface, alt))
    (hne : s.altSetting ≠ alt) : Effective w e (w.setInputAlt s alt) := by
  unfold setInputAlt
  rw [if_pos hne]
  refine ⟨_, ?_, .selectIn hs he hne (.tx (.changed .refl))⟩
  simp [accept, note, audioDataTx, alternateSettingChanged]

theorem effective_setOutputAlt {s : AudioStream .out} {alt : UInt8} {e : Event}
    (hs : w.cls.output = some s) (hin : w.cls.input = none ∨ w.cls.inIface ≠ w.cls.outIface)
    (he : e.selects = some (w.cls.outIface, alt)) (hne : s.altSetting ≠ alt) :
    Effective w e (w.setOutputAlt s alt) := by
  unfold setOutputAlt
  rw [if_pos hne]
  obtain ⟨au, acts, hplayed, hacts, hcls, hlog⟩ :=
    emitFeedback_spec (w.alternateSettingChanged .out alt)
  refine ⟨.alternateSettingChanged .out alt :: (acts ++ [.accept]), ?_, ?_⟩
  · simp only [accept, note]
    rw [hlog]
    simp [alternateSettingChanged]
  · simp only [accept, note]
    rw [hcls]
    exact .selectOut hs hin he hne (Played.trans (.changed .refl) hplayed) hacts

omit [UsbBus B] [ClockSource AU] [AudioHandler AU B] in
/-- A transfer whose two possible effects are excluded. -/
theorem idle_controlOut {c : UsbAudioClass AU} {xfer : ControlOut}
    (hin : ∀ {s alt}, c.input = some s →
      (Event.controlOut xfer).selects = some (c.inIface, alt) → s.altSetting = alt)
    (hout : ∀ {s alt}, c.output = some s → (c.input = none ∨ c.inIface ≠ c.outIface) →
      (Event.controlOut xfer).selects = some (c.outIface, alt) → s.altSetting = alt)
    (hrate : ∀ {data}, (Event.controlOut xfer).clockData c.controlIface = some data →
      readU32 data = none) : Idle c (.controlOut xfer) where
  not_selectIn := hin
  not_selectOut := hout
  not_setRate := hrate
  not_receive h := nomatch h
  not_transmit h := nomatch h
  not_reset h := nomatch h

omit [UsbBus B] in
/-- A request that selects what is selected has no effect. -/
theorem effective_selected {xfer : ControlOut} (hx : xfer.request.IsSetInterface)
    (hin : ∀ {s}, w.cls.input = some s → xfer.request.index.toUInt8 = w.cls.inIface →
      s.altSetting = xfer.request.value.toUInt8)
    (hout : ∀ {s}, w.cls.output = some s → (w.cls.input = none ∨ w.cls.inIface ≠ w.cls.outIface) →
      xfer.request.index.toUInt8 = w.cls.outIface →
      s.altSetting = xfer.request.value.toUInt8) :
    Effective w (.controlOut xfer) w := by
  have hselects : (Event.controlOut xfer).selects =
      some (xfer.request.index.toUInt8, xfer.request.value.toUInt8) := if_pos hx
  have hclock : (Event.controlOut xfer).clockData w.cls.controlIface = none :=
    if_neg fun h => absurd (hx.1.symm.trans h.1) (by decide)
  refine (idle_controlOut ?_ ?_ ?_).effective
  · intro s alt hs he
    obtain ⟨hiface, halt⟩ := Prod.mk.inj (Option.some.inj (hselects.symm.trans he))
    exact (hin hs hiface).trans halt
  · intro s alt hs hne he
    obtain ⟨hiface, halt⟩ := Prod.mk.inj (Option.some.inj (hselects.symm.trans he))
    exact (hout hs hne hiface).trans halt
  · intro data he
    cases hclock.symm.trans he

omit [UsbBus B] in
theorem effective_inputSelected {xfer : ControlOut} (hx : xfer.request.IsSetInterface)
    {s : AudioStream .in} (hs : w.cls.input = some s)
    (hiface : xfer.request.index.toUInt8 = w.cls.inIface) :
    Effective w (.controlOut xfer) (w.setInputAlt s xfer.request.value.toUInt8) := by
  by_cases halt : s.altSetting = xfer.request.value.toUInt8
  · rw [setInputAlt, if_neg (not_not_intro halt)]
    refine effective_selected hx ?_ ?_
    · intro s' hs' _
      cases hs.symm.trans hs'
      exact halt
    · intro s' _ hne hiface'
      rcases hne with hne | hne
      · cases hs.symm.trans hne
      · exact absurd (hiface.symm.trans hiface') hne
  · have hselects : (Event.controlOut xfer).selects =
        some (w.cls.inIface, xfer.request.value.toUInt8) := hiface ▸ if_pos hx
    exact effective_setInputAlt hs hselects halt

theorem effective_outputSelected {xfer : ControlOut} (hx : xfer.request.IsSetInterface)
    (hin : w.cls.input = none ∨ xfer.request.index.toUInt8 ≠ w.cls.inIface)
    {s : AudioStream .out} (hs : w.cls.output = some s)
    (hiface : xfer.request.index.toUInt8 = w.cls.outIface) :
    Effective w (.controlOut xfer) (w.setOutputAlt s xfer.request.value.toUInt8) := by
  by_cases halt : s.altSetting = xfer.request.value.toUInt8
  · rw [setOutputAlt, if_neg (not_not_intro halt)]
    refine effective_selected hx ?_ ?_
    · intro s' hs' hiface'
      rcases hin with hin | hin
      · cases hin.symm.trans hs'
      · exact absurd hiface' hin
    · intro s' hs' _ _
      cases hs.symm.trans hs'
      exact halt
  · have hselects : (Event.controlOut xfer).selects =
        some (w.cls.outIface, xfer.request.value.toUInt8) := hiface ▸ if_pos hx
    exact effective_setOutputAlt hs (hin.imp id fun h h' => h (hiface.trans h'.symm)) hselects halt

theorem effective_setAltInterface {xfer : ControlOut} (hx : xfer.request.IsSetInterface) :
    Effective w (.controlOut xfer) (w.setAltInterface xfer) := by
  unfold setAltInterface
  dsimp only
  split
  · rename_i s hs
    obtain ⟨hs, hiface⟩ := filter_eq_some hs
    exact effective_inputSelected hx hs hiface
  · rename_i hin
    split
    · rename_i s hs
      obtain ⟨hs, hiface⟩ := filter_eq_some hs
      exact effective_outputSelected hx (filter_eq_none hin) hs hiface
    · rename_i hout
      refine effective_selected hx (fun hi h => ?_) fun ho _ h => ?_
      · exact ((filter_eq_none hin).elim (fun hn => by cases hn.symm.trans hi) (· h)).elim
      · exact ((filter_eq_none hout).elim (fun hn => by cases hn.symm.trans ho) (· h)).elim

omit [UsbBus B] in
/-- A transfer that is neither a `SET_INTERFACE` nor for the clock has no effect. -/
theorem effective_unhandled {xfer : ControlOut} (hx : ¬ xfer.request.IsSetInterface)
    (hrate : ¬ xfer.request.IsClockCur w.cls.controlIface) :
    Effective w (.controlOut xfer) w := by
  have hselects : (Event.controlOut xfer).selects = none := if_neg hx
  have hclock : (Event.controlOut xfer).clockData w.cls.controlIface = none := if_neg hrate
  refine (idle_controlOut ?_ ?_ ?_).effective
  · intro s alt _ he
    cases hselects.symm.trans he
  · intro s alt _ _ he
    cases hselects.symm.trans he
  · intro data he
    cases hclock.symm.trans he

omit [UsbBus B] in
theorem effective_setClockCur {xfer : ControlOut} {channel : UInt8}
    (hx : xfer.request.IsClockCur w.cls.controlIface) :
    Effective w (.controlOut xfer) (w.setClockCur xfer channel xfer.request.control) := by
  have hclock : (Event.controlOut xfer).clockData w.cls.controlIface = some xfer.data := if_pos hx
  have hselects : (Event.controlOut xfer).selects = none :=
    if_neg fun h => absurd (h.1.symm.trans hx.1) (by decide)
  have hcontrol := hx.2.2.2.2.2
  cases hrate : readU32 xfer.data with
  | some rate =>
      have hrun : w.setClockCur xfer channel xfer.request.control =
          ({ w.setSampleRate rate with
            cls := { (w.setSampleRate rate).cls with
              nominalFb := nominal rate w.cls.audioRate } } : World AU B).accept := by
        simp only [setClockCur, hcontrol, hrate]
        rfl
      rw [hrun]
      exact ⟨[.setSampleRate rate, .accept], by simp [accept, note, setSampleRate],
        .setRate hclock hrate⟩
  | none =>
      have hrun : w.setClockCur xfer channel xfer.request.control = w := by
        simp only [setClockCur, hcontrol, hrate]
      rw [hrun]
      refine (idle_controlOut ?_ ?_ ?_).effective
      · intro s alt _ he
        cases hselects.symm.trans he
      · intro s alt _ _ he
        cases hselects.symm.trans he
      · intro data he
        cases hclock.symm.trans he
        exact hrate

omit [UsbBus B] [AudioHandler AU B] in
theorem setClockCur_of_ne {xfer : ControlOut} {channel control : UInt8}
    (h : ClockSourceControlSelector.ofUInt8 control ≠ .samFreqControl) :
    w.setClockCur xfer channel control = w := by
  unfold setClockCur
  split
  · rename_i hcontrol
    exact absurd hcontrol h
  · rfl

/-- Every other transfer is left alone. -/
theorem controlOut_unhandled {xfer : ControlOut} (hx : ¬ xfer.request.IsSetInterface)
    (hrate : ¬ xfer.request.IsClockCur w.cls.controlIface) : w.controlOut xfer = w := by
  unfold controlOut
  split
  · rename_i htype
    exact if_neg fun h => hx ⟨htype, h⟩
  · rename_i htype
    unfold classRequestOut
    split
    · rename_i hrecipient hcur
      dsimp only [setInterfaceCur]
      split
      · rename_i hnumber
        unfold setControlInterfaceCur
        split
        · rename_i hentity
          exact setClockCur_of_ne fun h =>
            hrate ⟨htype, hrecipient, hcur, hnumber, hentity, h⟩
        · rfl
      · simp only [setStreamingInterfaceCur, ite_self]
    all_goals rfl
  · rfl

theorem effective_controlOut (xfer : ControlOut) :
    Effective w (.controlOut xfer) (w.controlOut xfer) := by
  by_cases hx : xfer.request.IsSetInterface
  · have hrun : w.controlOut xfer = w.setAltInterface xfer := by
      simp only [controlOut, standardRequestOut, hx.1, hx.2.1, hx.2.2, and_self, if_true]
    rw [hrun]
    exact effective_setAltInterface hx
  · by_cases hrate : xfer.request.IsClockCur w.cls.controlIface
    · obtain ⟨hclass, hrecipient, hcur, hnumber, hentity, -⟩ := id hrate
      have hrun : w.controlOut xfer =
          w.setClockCur xfer xfer.request.channel xfer.request.control := by
        simp only [controlOut, classRequestOut, setInterfaceCur, setControlInterfaceCur, hclass,
          hrecipient, hcur, hnumber, hentity, if_true]
      rw [hrun]
      exact effective_setClockCur hrate
    · rw [controlOut_unhandled hx hrate]
      exact effective_unhandled hx hrate

omit [UsbBus B] [ClockSource AU] [AudioHandler AU B] in
/-- An event that is no transfer to the device and hits no endpoint. -/
theorem idle_of_quiet {c : UsbAudioClass AU} {e : Event} (hselects : e.selects = none)
    (hclock : e.clockData c.controlIface = none)
    (hout : ∀ {addr}, e = .endpointOut addr → addr.index ≠ c.outEp)
    (hin : ∀ {addr}, e = .endpointInComplete addr →
      (c.input = none ∨ addr.index ≠ c.inEp) ∧ (c.feedback = none ∨ addr.index ≠ c.fbEp))
    (hreset : e ≠ .reset) : Idle c e where
  not_selectIn _ he := by cases hselects.symm.trans he
  not_selectOut _ _ he := by cases hselects.symm.trans he
  not_setRate he := by cases hclock.symm.trans he
  not_receive := hout
  not_transmit := hin
  not_reset := hreset

theorem effective_endpointInComplete (addr : EndpointAddress) :
    Effective w (.endpointInComplete addr) (w.endpointInComplete addr) := by
  unfold endpointInComplete
  split
  · rename_i ep hep
    obtain ⟨hep, haddr⟩ := filter_eq_some hep
    obtain ⟨au, acts, hplayed, hacts, hcls, hlog⟩ := emitFeedback_spec w
    refine ⟨acts, hlog, ?_⟩
    rw [hcls]
    exact .feedback hep haddr hplayed hacts
  · rename_i hfb
    split
    · rename_i s hs
      obtain ⟨hs, haddr⟩ := filter_eq_some hs
      exact ⟨_, rfl, .transmit hs haddr (filter_eq_none hfb) (.tx .refl)⟩
    · rename_i hin
      refine Idle.effective (idle_of_quiet rfl rfl (fun h => nomatch h) ?_ (by simp))
      rintro _ ⟨⟩
      exact ⟨filter_eq_none hin, filter_eq_none hfb⟩

omit [UsbBus B] in
theorem effective_endpointOut {addr : EndpointAddress} {w' : World AU B}
    (h : w.endpointOut addr = some w') : Effective w (.endpointOut addr) w' := by
  unfold endpointOut at h
  split at h
  · rename_i haddr
    obtain ⟨s, hs, rfl⟩ := Option.map_eq_some_iff.mp h
    exact ⟨_, rfl, .receive haddr hs (.rx .refl)⟩
  · rename_i haddr
    cases h
    refine Idle.effective (idle_of_quiet rfl rfl ?_ (fun h => nomatch h) (by simp))
    rintro _ ⟨⟩
    exact haddr

omit [UsbBus B] in
theorem effective_reset : Effective w .reset w.reset := by
  refine ⟨_, ?_, .reset (.changed (.changed .refl))⟩
  simp [reset, alternateSettingChanged]

theorem effective_handle {fuel : Nat} {e : Event} {w' : World AU B}
    (h : w.handle fuel e = some w') : Effective w e w' := by
  cases e with
  | controlOut xfer =>
      cases h
      exact effective_controlOut xfer
  | controlIn xfer =>
      cases h
      exact (quiet_controlIn xfer w).effective
        (idle_of_quiet rfl rfl (fun h => nomatch h) (fun h => nomatch h) (by simp)) rfl
  | endpointOut addr => exact effective_endpointOut h
  | endpointInComplete addr =>
      cases h
      exact effective_endpointInComplete addr
  | poll =>
      exact (quiet_poll h).effective
        (idle_of_quiet rfl rfl (fun h => nomatch h) (fun h => nomatch h) (by simp)) rfl
  | reset =>
      cases h
      exact effective_reset

end World

/-! ## What no event changes -/

omit [UsbBus B] in
/-- No event changes how the parts belong together. -/
theorem Effect.wired {c c' : UsbAudioClass AU} {e : Event} {acts : List Action}
    (h : Effect B c e c' acts) (hw : Wired c) : Wired c' := by
  cases h with
  | selectIn hs =>
      have hnumber := hw.input_number hs
      have hep := hw.input_ep hs
      exact {
        feedback_isSome := hw.feedback_isSome
        output_number := hw.output_number
        input_number := by rintro _ ⟨⟩; exact hnumber
        output_ep := hw.output_ep
        output_absent := hw.output_absent
        feedback_ep := hw.feedback_ep
        input_ep := by rintro _ ⟨⟩; exact hep
        input_ne_feedback := by rintro _ _ ⟨⟩ hfb; exact hw.input_ne_feedback hs hfb }
  | selectOut hs =>
      have hnumber := hw.output_number hs
      have hep := hw.output_ep hs
      exact {
        feedback_isSome := by rw [hw.feedback_isSome, hs]; rfl
        output_number := by rintro _ ⟨⟩; exact hnumber
        input_number := by
          intro i hi
          have := hw.input_number hi
          rwa [hs] at this
        output_ep := by rintro _ ⟨⟩; exact hep
        output_absent := fun h => nomatch h
        feedback_ep := hw.feedback_ep
        input_ep := hw.input_ep
        input_ne_feedback := hw.input_ne_feedback }
  | setRate => exact { hw with }
  | receive => exact { hw with }
  | transmit => exact { hw with }
  | feedback => exact { hw with }
  | reset => exact { hw with }
  | quiet => exact hw

/-- Every step of the system is an effect. -/
theorem Step.effect {w w' : World AU B} {e : Event} (h : Step w e w') : Effective w e w' := by
  obtain ⟨bus, fuel, h⟩ := h
  exact World.effective_handle (w := { w with bus }) h

theorem Step.wired {w w' : World AU B} {e : Event} (hw : Wired w.cls) (h : Step w e w') :
    Wired w'.cls := by
  obtain ⟨acts, -, he⟩ := h.effect
  exact he.wired hw

end

end Uac2
