import UsbdUac2.Agreement
import UsbdUac2.Routing

/-!
# The acknowledgement of SET_INTERFACE

A host may repeat a `SET_INTERFACE`, and a device acknowledges it again.  The
class accepts the request in the branch in which the setting changes, so a request
for the setting that is already selected is left unaccepted.  It is handled as it
should be otherwise: nothing changes, and the device is not called.

The request that repeats another always is of this kind, so no request is
acknowledged each time it is made.
-/

namespace Uac2

open Runs

variable {AU B : Type}

section

variable [AudioHandler AU B] [ClockSource AU] [UsbBus B]

/-- The request is acknowledged in a world. -/
def Acknowledges (w : World AU B) (xfer : ControlOut) : Prop :=
  .accept ∈ actionsOf w (w.controlOut xfer)

/-- `GET_INTERFACE` of the interface answers the setting. -/
def Answers (w : World AU B) (n : InterfaceNumber) (alt : UInt8) : Prop :=
  ∀ xfer : ControlIn, xfer.request.IsGetInterface → xfer.request.index.toUInt8 = n →
    xfer.buf ≠ [] → 0 < xfer.request.length →
    (w.controlIn xfer).log = w.log ++ [.answer [alt]]

/-- What a `SET_INTERFACE` does that is acknowledged and may be repeated. -/
structure Repeatable (w : World AU B) (xfer : ControlOut) : Prop where
  acknowledged : Acknowledges w xfer
  answers : Answers (w.controlOut xfer) xfer.request.index.toUInt8 xfer.request.value.toUInt8
  again : Acknowledges (w.controlOut xfer) xfer
  unchanged : ((w.controlOut xfer).controlOut xfer).cls = (w.controlOut xfer).cls
  silent : calls (actionsOf (w.controlOut xfer) ((w.controlOut xfer).controlOut xfer)) = []

theorem selects_of_isSetInterface {xfer : ControlOut} (hx : xfer.request.IsSetInterface) :
    (Event.controlOut xfer).selects =
      some (xfer.request.index.toUInt8, xfer.request.value.toUInt8) := if_pos hx

/-- A request for the setting that is selected does nothing. -/
theorem controlOut_selected {w : World AU B} (hw : Wired w.cls) {xfer : ControlOut}
    (hx : xfer.request.IsSetInterface) {d : UsbDirection}
    (hn : w.cls.number d = some xfer.request.index.toUInt8)
    (hs : w.cls.stored d = some xfer.request.value.toUInt8) :
    (w.controlOut xfer).cls = w.cls ∧ actionsOf w (w.controlOut xfer) = [] := by
  obtain ⟨acts, hlog, heffect⟩ := World.effective_controlOut (w := w) xfer
  rw [actionsOf, hlog, List.drop_left]
  cases heffect.change hw with
  | select hn' he hne =>
      cases (selects_of_isSetInterface hx).symm.trans he
      cases hw.number_injective hn hn'
      exact absurd hs hne
  | keep _ _ _ _ hquiet =>
      rcases hquiet with hselects | ⟨hcls, hacts⟩
      · cases (selects_of_isSetInterface hx).symm.trans hselects
      · exact ⟨hcls, hacts⟩

/-- A request for another setting is accepted. -/
theorem acknowledges_of_ne {w : World AU B} (hw : Wired w.cls) {xfer : ControlOut}
    (hx : xfer.request.IsSetInterface) {d : UsbDirection}
    (hn : w.cls.number d = some xfer.request.index.toUInt8)
    (hs : w.cls.stored d ≠ some xfer.request.value.toUInt8) : Acknowledges w xfer := by
  obtain ⟨acts, hlog, heffect⟩ := World.effective_controlOut (w := w) xfer
  rw [Acknowledges, actionsOf, hlog, List.drop_left]
  cases heffect.change hw with
  | select _ _ _ _ _ haccept => exact haccept
  | keep _ hkeep => exact absurd (hkeep hn (selects_of_isSetInterface hx)) hs

/-- A request is accepted exactly when it changes the setting. -/
theorem acknowledges_iff {w : World AU B} (hw : Wired w.cls) {xfer : ControlOut}
    (hx : xfer.request.IsSetInterface) {d : UsbDirection}
    (hn : w.cls.number d = some xfer.request.index.toUInt8) :
    Acknowledges w xfer ↔ w.cls.stored d ≠ some xfer.request.value.toUInt8 := by
  refine ⟨fun h hs => ?_, acknowledges_of_ne hw hx hn⟩
  rw [Acknowledges, (controlOut_selected hw hx hn hs).2] at h
  cases h

/-- After a request the setting is stored. -/
theorem stored_controlOut {w : World AU B} (hw : Wired w.cls) {xfer : ControlOut}
    (hx : xfer.request.IsSetInterface) {d : UsbDirection}
    (hn : w.cls.number d = some xfer.request.index.toUInt8) :
    (w.controlOut xfer).cls.stored d = some xfer.request.value.toUInt8 := by
  obtain ⟨acts, -, heffect⟩ := World.effective_controlOut (w := w) xfer
  cases heffect.change hw with
  | select hn' he _ hstored =>
      cases (selects_of_isSetInterface hx).symm.trans he
      cases hw.number_injective hn hn'
      rw [hstored, if_pos rfl]
  | keep _ hkeep hstored =>
      rw [hstored]
      exact hkeep hn (selects_of_isSetInterface hx)

omit [AudioHandler AU B] [UsbBus B] in
theorem answers_of_stored {w : World AU B} (hw : Wired w.cls) {d : UsbDirection}
    {n : InterfaceNumber} {alt : UInt8} (hn : w.cls.number d = some n)
    (hs : w.cls.stored d = some alt) : Answers w n alt := by
  rintro xfer hx rfl hbuf hlen
  rw [controlIn_getInterface hw hx hn hs, acceptWith_single alt hbuf hlen]
  rfl

/-- In every state that is reached from build, a `SET_INTERFACE` for a stream is not
repeatable, whatever it selects.  It is accepted when it changes the setting, and
its repetition is not.  The rest is as it should be. -/
theorem set_interface_not_repeatable {A : Type} [UsbBusAllocator A] [DocumentedAllocator A]
    {config : UsbAudioClassConfig AU} {alloc alloc' : A} {c : UsbAudioClass AU}
    (hb : config.build alloc = .ok (c, alloc')) {bus : B}
    {ts : List (Transition (World AU B) Event)} {w : World AU B}
    (hr : Run Step (World.start c bus) ts w) {xfer : ControlOut}
    (hx : xfer.request.IsSetInterface) {d : UsbDirection}
    (hn : w.cls.number d = some xfer.request.index.toUInt8) :
    ¬ Repeatable w xfer ∧
    (Acknowledges w xfer ↔ w.cls.stored d ≠ some xfer.request.value.toUInt8) ∧
    Answers (w.controlOut xfer) xfer.request.index.toUInt8 xfer.request.value.toUInt8 ∧
    ((w.controlOut xfer).controlOut xfer).cls = (w.controlOut xfer).cls ∧
    actionsOf (w.controlOut xfer) ((w.controlOut xfer).controlOut xfer) = [] := by
  obtain ⟨rate, hbuilt⟩ := build_ok hb
  obtain ⟨hw, -, -⟩ := wired_run hbuilt.wired hr
  obtain ⟨hw', hnumber, -⟩ := wired_run hw (Run.nil.snoc (step_controlOut w xfer))
  have hn' : (w.controlOut xfer).cls.number d = some xfer.request.index.toUInt8 := by
    rw [hnumber]
    exact hn
  have hs' := stored_controlOut hw hx hn
  obtain ⟨hcls, hacts⟩ := controlOut_selected hw' hx hn' hs'
  refine ⟨fun h => ?_, acknowledges_iff hw hx hn, answers_of_stored hw' hn' hs', hcls, hacts⟩
  exact (acknowledges_iff hw' hx hn').mp h.again hs'

end

/-! ## Runs of the box -/

/-- The IN stream of the box is selected twice. -/
theorem set_interface_not_repeatable_ioBox :
    ¬ Repeatable ioBoxStart (selectSetting 2 1) ∧ Answers (ioBoxLive 2) 2 1 := by
  obtain ⟨alloc, hb⟩ := build_ioBox
  have hx : (selectSetting 2 1).request.IsSetInterface := by decide
  have hn : ioBoxStart.cls.number .in = some (selectSetting 2 1).request.index.toUInt8 := rfl
  have h := set_interface_not_repeatable hb Run.nil hx hn
  exact ⟨h.1, h.2.2.1⟩

/-- A retried `SET_INTERFACE` for setting 1 of the IN stream.  The first is accepted, and
the second is not. -/
theorem retry_not_accepted :
    (∃ alloc, ioBox.build Counters.fresh = .ok (ioBoxClass, alloc)) ∧
    (∃ ts, Run Step ioBoxStart ts (ioBoxLive 2)) ∧
    (selectSetting 2 1).request.IsSetInterface ∧
    ioBoxStart.cls.number .in = some (selectSetting 2 1).request.index.toUInt8 ∧
    Acknowledges ioBoxStart (selectSetting 2 1) ∧
    (ioBoxLive 2).controlOut (selectSetting 2 1) = ioBoxLive 2 ∧
    ¬ Acknowledges (ioBoxLive 2) (selectSetting 2 1) ∧
    ¬ Repeatable ioBoxStart (selectSetting 2 1) := by
  have hrun : (ioBoxLive 2).controlOut (selectSetting 2 1) = ioBoxLive 2 := rfl
  have hno : ¬ Acknowledges (ioBoxLive 2) (selectSetting 2 1) := by
    rw [Acknowledges, hrun, actionsOf, List.drop_length]
    exact List.not_mem_nil
  refine ⟨build_ioBox, ⟨_, Run.nil.snoc (step_controlOut ioBoxStart (selectSetting 2 1))⟩,
    by decide, rfl, ?_, hrun, hno, fun h => hno h.again⟩
  show Action.accept ∈ [_, _, _]
  exact .tail _ (.tail _ (.head _))

end Uac2
