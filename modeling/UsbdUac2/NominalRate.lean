import UsbdUac2.Settings
import UsbdUac2.Bench

/-!
# The nominal rate

The class keeps the nominal feedback of the sample rate that the device runs at.
It is set by build, and by every `SET CUR` of the sampling frequency that carries
four bytes, whether the device takes the new rate or not.

So the nominal rate describes the rate of the device, and what the device refuses
is not accepted, exactly when the device refuses no rate that it is asked for.
-/

namespace Uac2

open Runs

variable {AU B : Type}

/-- The rate of the device is set by `set_sample_rate` and changed by nothing else. -/
structure LawfulClock (AU B : Type) [AudioHandler AU B] [ClockSource AU] : Prop where
  set_ok : ∀ {rate : UInt32} {au : AU}, (ClockSource.setSampleRate rate au).1 = .ok () →
    ClockSource.sampleRate (ClockSource.setSampleRate rate au).2 = rate
  set_error : ∀ {rate : UInt32} {au : AU} {e}, (ClockSource.setSampleRate rate au).1 = .error e →
    ClockSource.sampleRate (ClockSource.setSampleRate rate au).2 = ClockSource.sampleRate au
  rx : ∀ (ep : Endpoint .out) (au : AU) (bus : B),
    ClockSource.sampleRate (AudioHandler.audioDataRx ep au bus).1 = ClockSource.sampleRate au
  tx : ∀ (ep : Endpoint .in) (au : AU) (bus : B),
    ClockSource.sampleRate (AudioHandler.audioDataTx ep au bus).1 = ClockSource.sampleRate au
  feedback : ∀ (fb : UsbIsochronousFeedback) (au : AU),
    ClockSource.sampleRate (AudioHandler.feedback (B := B) fb au).2 = ClockSource.sampleRate au
  changed : ∀ (d : UsbDirection) (alt : UInt8) (au : AU),
    ClockSource.sampleRate (AudioHandler.alternateSettingChanged (B := B) d alt au) =
      ClockSource.sampleRate au

section

variable [AudioHandler AU B] [ClockSource AU]

theorem Played.sampleRate (hl : LawfulClock AU B) {au au' : AU} (h : Played B au au') :
    ClockSource.sampleRate au' = ClockSource.sampleRate au := by
  induction h with
  | refl => rfl
  | rx _ ih => exact (hl.rx _ _ _).trans ih
  | tx _ ih => exact (hl.tx _ _ _).trans ih
  | feedback _ ih => exact (hl.feedback _ _).trans ih
  | changed _ ih => exact (hl.changed _ _ _).trans ih

/-- The nominal rate is the one of the rate the device reports. -/
def RateKnown (c : UsbAudioClass AU) : Prop :=
  c.nominalFb = nominal (ClockSource.sampleRate c.audioImpl) c.audioRate

/-- The data stage sets no rate: it is too short, or the device refuses the rate. -/
def Refused (c : UsbAudioClass AU) (data : List UInt8) : Prop :=
  ∀ rate, readU32 data = some rate →
    ∃ e, (ClockSource.setSampleRate rate c.audioImpl).1 = .error e

/-- What is refused leaves the nominal rate and is not accepted. -/
def RefusalKept (c c' : UsbAudioClass AU) (e : Event) (acts : List Action) : Prop :=
  ∀ data, e.clockData c.controlIface = some data → Refused c data →
    c'.nominalFb = c.nominalFb ∧ .accept ∉ acts

/-- A rate that the event carries is taken by the device. -/
def RateTaken (c : UsbAudioClass AU) (e : Event) : Prop :=
  ∀ data rate, e.clockData c.controlIface = some data → readU32 data = some rate →
    (ClockSource.setSampleRate rate c.audioImpl).1 = .ok ()

theorem clockData_of_selects {e : Event} {n : InterfaceNumber} {p : InterfaceNumber × UInt8}
    (h : e.selects = some p) : e.clockData n = none := by
  cases hdata : e.clockData n with
  | none => rfl
  | some data => cases (selects_of_clockData hdata).symm.trans h

/-- Without a clock request, the rates stay together. -/
theorem kept_of_clockData_none {c c' : UsbAudioClass AU} {e : Event} {acts : List Action}
    (hk : RateKnown c) (hdata : e.clockData c.controlIface = none)
    (hfb : c'.nominalFb = c.nominalFb) (hrate : c'.audioRate = c.audioRate)
    (hau : ClockSource.sampleRate c'.audioImpl = ClockSource.sampleRate c.audioImpl) :
    (RateKnown c' ∧ RefusalKept c c' e acts) ↔ RateTaken c e := by
  refine iff_of_true ⟨?_, ?_⟩ ?_
  · rw [RateKnown, hfb, hau, hrate]
    exact hk
  · intro data h
    cases hdata.symm.trans h
  · intro data rate h
    cases hdata.symm.trans h

/-- An effect keeps the rates together and refuses cleanly exactly when the device
takes the rate that the event carries. -/
theorem Effect.rate_iff (hl : LawfulClock AU B) {c c' : UsbAudioClass AU} {e : Event}
    {acts : List Action} (h : Effect B c e c' acts) (hk : RateKnown c) :
    (RateKnown c' ∧ RefusalKept c c' e acts) ↔ RateTaken c e := by
  cases h with
  | selectIn _ he _ hp =>
      exact kept_of_clockData_none hk (clockData_of_selects he) rfl rfl (hp.sampleRate hl)
  | selectOut _ _ he _ hp =>
      exact kept_of_clockData_none hk (clockData_of_selects he) rfl rfl (hp.sampleRate hl)
  | receive _ _ hp => exact kept_of_clockData_none hk rfl rfl rfl (hp.sampleRate hl)
  | transmit _ _ _ hp => exact kept_of_clockData_none hk rfl rfl rfl (hp.sampleRate hl)
  | feedback _ _ hp => exact kept_of_clockData_none hk rfl rfl rfl (hp.sampleRate hl)
  | reset hp => exact kept_of_clockData_none hk rfl rfl rfl (hp.sampleRate hl)
  | @setRate _ data rate hdata hrate =>
      constructor
      · rintro ⟨-, hrefused⟩ data' rate' hdata' hrate'
        cases hdata.symm.trans hdata'
        cases hrate.symm.trans hrate'
        cases hset : (ClockSource.setSampleRate rate c.audioImpl).1 with
        | ok u => rfl
        | error e =>
            have hno := (hrefused data hdata fun _ h => by
              cases hrate.symm.trans h
              exact ⟨e, hset⟩).2
            exact absurd (List.mem_cons_of_mem _ (List.mem_singleton_self _)) hno
      · intro ht
        have hset := ht data rate hdata hrate
        refine ⟨?_, ?_⟩
        · rw [RateKnown, hl.set_ok hset]
        · intro data' hdata' hrefused
          cases hdata.symm.trans hdata'
          obtain ⟨e, he⟩ := hrefused rate hrate
          cases hset.symm.trans he
  | quiet hi hq =>
      refine iff_of_true ⟨hk, fun data _ _ => ⟨rfl, fun hmem => hq _ hmem⟩⟩ ?_
      intro data rate hdata hrate
      cases (hi.not_setRate hdata).symm.trans hrate

variable [UsbBus B]

/-- What the claim of a known rate says about one step. -/
def KeepsRate (t : Transition (World AU B) Event) : Prop :=
  RateKnown t.post.cls ∧
    RefusalKept t.pre.cls t.post.cls t.event (t.post.log.drop t.pre.log.length)

/-- In a run from build over a lawful clock, the nominal rate describes the rate of
the device in every state and refusals are kept, exactly when the device takes
every rate it is asked for. -/
theorem rate_known_iff_taken {A : Type} [UsbBusAllocator A] [DocumentedAllocator A]
    (hl : LawfulClock AU B) {config : UsbAudioClassConfig AU} {alloc alloc' : A}
    {c : UsbAudioClass AU} (hb : config.build alloc = .ok (c, alloc')) {bus : B}
    {ts : List (Transition (World AU B) Event)} {w : World AU B}
    (hr : Run Step (World.start c bus) ts w) :
    (RateKnown c ∧ ∀ t ∈ ts, KeepsRate t) ↔ ∀ t ∈ ts, RateTaken t.pre.cls t.event := by
  obtain ⟨rate, hbuilt⟩ := build_ok hb
  have hstart : RateKnown c := by
    rw [RateKnown, hbuilt.audioImpl_eq]
    exact hbuilt.nominal_eq
  rw [and_iff_right hstart]
  refine hr.forall_iff (fun _ => True) (fun w => RateKnown w.cls) trivial
    (fun _ _ => trivial) hstart ?_ fun _ _ h => h.1
  intro t _ hk hs
  obtain ⟨acts, hlog, heffect⟩ := hs.effect
  rw [KeepsRate, hlog, List.drop_left]
  exact heffect.rate_iff hl hk

end

/-! ## Runs of two boxes -/

/-- A device whose clock runs at the rate that it was asked for last. -/
structure SettableClock where
  rate : UInt32
deriving DecidableEq, Repr

instance : ClockSource SettableClock where
  clockType := .internalProgrammable
  sofSync := false
  sampleRate au := au.rate
  setSampleRate rate _ := (.ok (), ⟨rate⟩)
  sampleRates _ := .ok [.newFixed 44100, .newFixed 48000]

instance : AudioHandler SettableClock Silence where
  audioDataRx _ au bus := (au, bus)
  audioDataTx _ au bus := (au, bus)
  feedback fb au := (some fb, au)
  alternateSettingChanged _ _ au := au

theorem lawful_settableClock : LawfulClock SettableClock Silence where
  set_ok _ := rfl
  set_error h := nomatch h
  rx _ _ _ := rfl
  tx _ _ _ := rfl
  feedback _ _ := rfl
  changed _ _ _ := rfl

/-- The box with a clock that takes every rate, and runs at 48 kHz at first. -/
def settableBox : UsbAudioClassConfig SettableClock where
  speed := .high
  deviceCategory := .ioBox
  audioImpl := ⟨48000⟩
  inputConfig := some (stereo 4)
  outputConfig := some (stereo 2)
  additionalDescriptors := none

/-- What build makes of it. -/
def settableBoxClass : UsbAudioClass SettableClock := { ioBoxClass with audioImpl := ⟨48000⟩ }

theorem build_settableBox :
    ∃ alloc, settableBox.build Counters.fresh = .ok (settableBoxClass, alloc) := ⟨_, rfl⟩

/-- `SET CUR` of the sampling frequency, at interface 0. -/
def setClock (data : List UInt8) : ControlOut where
  request := ⟨.class, .interface, 1, 0x0100, 0x0100, 4⟩
  data := data

/-- The box after a data stage of two bytes. -/
def settableBoxAsked : World SettableClock Silence :=
  (World.start settableBoxClass ⟨⟩).controlOut (setClock [0x44, 0xAC])

/-- The box after 44100 Hz was set. -/
def settableBoxSet : World SettableClock Silence :=
  settableBoxAsked.controlOut (setClock [0x44, 0xAC, 0, 0])

/-- A data stage of two bytes changes nothing, and one of four bytes sets the rate of the
clock and the nominal one. -/
theorem rate_known_iff_taken_settableBox :
    ∃ ts, Run Step (World.start settableBoxClass ⟨⟩) ts settableBoxSet ∧
      ts.map (fun t => ClockSource.sampleRate t.post.cls.audioImpl) = [48000, 44100] ∧
      RateKnown settableBoxAsked.cls ∧ RateKnown settableBoxSet.cls := by
  obtain ⟨alloc, hb⟩ := build_settableBox
  have hr := (Run.nil.snoc (step_controlOut (World.start settableBoxClass ⟨⟩)
    (setClock [0x44, 0xAC]))).snoc (step_controlOut settableBoxAsked
      (setClock [0x44, 0xAC, 0, 0]))
  have hknown := ((rate_known_iff_taken lawful_settableClock hb hr).mpr
    fun _ _ _ _ _ _ => rfl).2
  exact ⟨_, hr, rfl, (hknown _ List.mem_cons_self).1,
    (hknown _ (List.mem_cons_of_mem _ (List.mem_singleton_self _))).1⟩

theorem lawful_fixedClock : LawfulClock FixedClock Silence where
  set_ok h := nomatch h
  set_error _ := rfl
  rx _ _ _ := rfl
  tx _ _ _ := rfl
  feedback _ _ := rfl
  changed _ _ _ := rfl

/-- A clock that is fixed at 48 kHz refuses 44100 Hz.  The request is accepted, and the
nominal rate becomes that of 44100 Hz. -/
theorem refused_rate_accepted :
    LawfulClock FixedClock Silence ∧
    (∃ alloc, ioBox.build Counters.fresh = .ok (ioBoxClass, alloc)) ∧
    (∃ ts, Run Step ioBoxStart ts (ioBoxStart.controlOut (setClock [0x44, 0xAC, 0, 0]))) ∧
    readU32 [0x44, 0xAC, 0, 0] = some 44100 ∧
    (ClockSource.setSampleRate 44100 ioBoxClass.audioImpl).1 = .error .notImplemented ∧
    ClockSource.sampleRate (ioBoxStart.controlOut
      (setClock [0x44, 0xAC, 0, 0])).cls.audioImpl = 48000 ∧
    (ioBoxStart.controlOut (setClock [0x44, 0xAC, 0, 0])).cls.nominalFb = nominal 44100 8000 ∧
    .accept ∈ (ioBoxStart.controlOut (setClock [0x44, 0xAC, 0, 0])).log ∧
    ¬ KeepsRate ⟨ioBoxStart, .controlOut (setClock [0x44, 0xAC, 0, 0]),
      ioBoxStart.controlOut (setClock [0x44, 0xAC, 0, 0])⟩ := by
  refine ⟨lawful_fixedClock, build_ioBox, ⟨_, Run.nil.snoc (step_controlOut ioBoxStart _)⟩, rfl,
    rfl, rfl, rfl, .tail _ (.head _), fun h => ?_⟩
  exact (h.2 _ rfl fun _ _ => ⟨.notImplemented, rfl⟩).2 (.tail _ (.head _))

end Uac2
