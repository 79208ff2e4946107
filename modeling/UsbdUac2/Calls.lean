import Mathlib.Data.List.Induction
import UsbdUac2.Settings

/-!
# The device beside the class

The class changes its device by calls alone, and logs each of them.  `Call` is what a
logged call does to the device, and `Step.calls` takes the device through the calls that
a step adds to the log, in order.

A device may move by itself as well, as its hardware does.  In a `Joint` system the
class and the device take turns.  What is stored for a stream does not depend on the
device.
-/

namespace Uac2

open ByteWriter
open Runs (Run Transition events)

variable {AU : Type} (B : Type) [AudioHandler AU B] [ClockSource AU]

/-- What a logged action does to the device, with the bus in any state. -/
inductive Call : AU → Action → AU → Prop where
  | rx {au : AU} {ep : Endpoint .out} {bus : B} :
      Call au (.audioDataRx ep) (AudioHandler.audioDataRx ep au bus).1
  | tx {au : AU} {ep : Endpoint .in} {bus : B} :
      Call au (.audioDataTx ep) (AudioHandler.audioDataTx ep au bus).1
  | feedback {au : AU} {fb : UsbIsochronousFeedback} :
      Call au (.feedback fb) (AudioHandler.feedback (B := B) fb au).2
  | changed {au : AU} {terminal : UsbDirection} {alt : UInt8} :
      Call au (.alternateSettingChanged terminal alt)
        (AudioHandler.alternateSettingChanged (B := B) terminal alt au)
  | setRate {au : AU} {rate : UInt32} :
      Call au (.setSampleRate rate) (ClockSource.setSampleRate rate au).2
  | accept {au : AU} : Call au .accept au
  | write {au : AU} {ep : EndpointAddress} {bytes : List UInt8} : Call au (.write ep bytes) au
  | quiet {au : AU} {a : Action} : a.Quiet → Call au a au

variable {B}

/-- The device went through the calls that were added to the log. -/
def Calls (w w' : World AU B) : Prop :=
  ∃ ts, Run (Call B) w.cls.audioImpl ts w'.cls.audioImpl ∧ w'.log = w.log ++ events ts

namespace Calls

variable {w w₁ w₂ : World AU B}

theorem refl (w : World AU B) : Calls w w := ⟨[], .nil, (List.append_nil _).symm⟩

theorem trans (h : Calls w w₁) (h' : Calls w₁ w₂) : Calls w w₂ := by
  obtain ⟨ts, hr, hlog⟩ := h
  obtain ⟨ts', hr', hlog'⟩ := h'
  refine ⟨ts ++ ts', hr.append hr', ?_⟩
  rw [hlog', hlog, List.append_assoc]
  simp only [events, List.map_append]

/-- One call. -/
theorem single {a : Action} (hc : Call B w.cls.audioImpl a w₁.cls.audioImpl)
    (hlog : w₁.log = w.log ++ [a]) : Calls w w₁ := ⟨_, Run.nil.snoc hc, hlog⟩

/-- Quiet actions are no calls of the audio methods. -/
theorem quiet (h : QuietStep w w₁) : Calls w w₁ := by
  obtain ⟨hcls, acts, hquiet, hlog⟩ := h
  suffices hrun : ∃ ts, Run (Call B) w.cls.audioImpl ts w.cls.audioImpl ∧ events ts = acts by
    obtain ⟨ts, hr, rfl⟩ := hrun
    exact ⟨ts, hcls ▸ hr, hlog⟩
  clear hlog
  induction acts using List.reverseRecOn with
  | nil => exact ⟨[], .nil, rfl⟩
  | append_singleton acts a ih =>
      obtain ⟨ts, hr, rfl⟩ := ih fun b hb => hquiet b (List.mem_append_left _ hb)
      have ha : a.Quiet := hquiet a (List.mem_append_right _ List.mem_cons_self)
      exact ⟨_, hr.snoc (.quiet ha), Runs.events_snoc _ _⟩

end Calls

namespace World

variable {w w' : World AU B}

theorem calls_accept (w : World AU B) : Calls w w.accept := .single .accept rfl

theorem calls_changed (terminal : UsbDirection) (alt : UInt8) (w : World AU B) :
    Calls w (w.alternateSettingChanged terminal alt) := .single .changed rfl

theorem calls_setInputAlt (s : AudioStream .in) (alt : UInt8) (w : World AU B) :
    Calls w (w.setInputAlt s alt) := by
  unfold setInputAlt
  split
  · have hchanged := calls_changed .in alt w
    have htx : Calls (w.alternateSettingChanged .in alt)
        (audioDataTx s.endpoint
          { w.alternateSettingChanged .in alt with
            cls := { (w.alternateSettingChanged .in alt).cls with
              input := some { s with altSetting := alt } } }) := .single .tx rfl
    exact (hchanged.trans htx).trans (calls_accept _)
  · exact .refl w

theorem calls_setClockCur (xfer : ControlOut) (channel control : UInt8) (w : World AU B) :
    Calls w (w.setClockCur xfer channel control) := by
  unfold setClockCur
  split
  · split
    · rename_i rate _
      have hset : Calls w
          { w.setSampleRate rate with
            cls := { (w.setSampleRate rate).cls with
              nominalFb := nominal rate (w.setSampleRate rate).cls.audioRate } } :=
        .single .setRate rfl
      exact hset.trans (calls_accept _)
    · exact .refl w
  · exact .refl w

theorem calls_classRequestOut (xfer : ControlOut) (w : World AU B) :
    Calls w (w.classRequestOut xfer) := by
  unfold classRequestOut
  split
  · dsimp only [setInterfaceCur, setControlInterfaceCur, setStreamingInterfaceCur]
    split_ifs
    · exact calls_setClockCur _ _ _ w
    all_goals exact .refl w
  all_goals exact .refl w

theorem calls_reset (w : World AU B) : Calls w w.reset :=
  (calls_changed .in 0 w).trans (calls_changed .out 0 _)

theorem calls_endpointOut {addr : EndpointAddress} (h : w.endpointOut addr = some w') :
    Calls w w' := by
  unfold endpointOut at h
  split at h
  · obtain ⟨s, -, rfl⟩ := Option.map_eq_some_iff.mp h
    exact .single .rx rfl
  · cases h
    exact .refl w

variable [UsbBus B]

theorem calls_emitFeedback (w : World AU B) : Calls w w.emitFeedback := by
  unfold emitFeedback
  split
  · exact .refl w
  · have hasked : Calls w w.feedback.2 := .single .feedback rfl
    split
    · rename_i hr
      rwa [hr] at hasked
    · rename_i hr
      rw [hr] at hasked
      exact hasked.trans (.single .write rfl)

theorem calls_setOutputAlt (s : AudioStream .out) (alt : UInt8) (w : World AU B) :
    Calls w (w.setOutputAlt s alt) := by
  unfold setOutputAlt
  split
  · have hasked := (calls_changed .out alt w).trans (calls_emitFeedback _)
    refine hasked.trans ?_
    exact .single .accept rfl
  · exact .refl w

theorem calls_standardRequestOut (xfer : ControlOut) (w : World AU B) :
    Calls w (w.standardRequestOut xfer) := by
  unfold standardRequestOut
  split
  · dsimp only [setAltInterface]
    split
    · exact calls_setInputAlt _ _ w
    · split
      · exact calls_setOutputAlt _ _ w
      · exact .refl w
  · exact .refl w

theorem calls_controlOut (xfer : ControlOut) (w : World AU B) : Calls w (w.controlOut xfer) := by
  unfold controlOut
  split
  · exact calls_standardRequestOut xfer w
  · exact calls_classRequestOut xfer w
  · exact .refl w

theorem calls_endpointInComplete (addr : EndpointAddress) (w : World AU B) :
    Calls w (w.endpointInComplete addr) := by
  unfold endpointInComplete
  split
  · exact calls_emitFeedback w
  · split
    · exact .single .tx rfl
    · exact .refl w

theorem calls_handle {fuel : Nat} {e : Event} (h : w.handle fuel e = some w') : Calls w w' := by
  cases e with
  | controlOut xfer =>
      cases h
      exact calls_controlOut xfer w
  | controlIn xfer =>
      cases h
      exact .quiet (quiet_controlIn xfer w)
  | endpointOut addr => exact calls_endpointOut h
  | endpointInComplete addr =>
      cases h
      exact calls_endpointInComplete addr w
  | poll => exact .quiet (quiet_poll h)
  | reset =>
      cases h
      exact calls_reset w

end World

variable [UsbBus B] {w w' : World AU B}

/-- A step takes the device through its calls. -/
theorem Step.calls {e : Event} (h : Step w e w') : Calls w w' := by
  obtain ⟨bus, fuel, h⟩ := h
  exact World.calls_handle (w := { w with bus }) h

/-- The calls of a step are the actions of its effect. -/
theorem Step.effect_calls {e : Event} (h : Step w e w') :
    ∃ ts, Run (Call B) w.cls.audioImpl ts w'.cls.audioImpl ∧
      Effect B w.cls e w'.cls (events ts) := by
  obtain ⟨ts, hr, hlog⟩ := h.calls
  obtain ⟨acts, hlog', heffect⟩ := h.effect
  rw [hlog] at hlog'
  exact ⟨ts, hr, List.append_cancel_left hlog' ▸ heffect⟩

/-! ## A device that moves by itself -/

variable {E : Type}

/-- A step of the class, or a move of the device. -/
inductive Joint (move : AU → E → AU → Prop) : World AU B → Event ⊕ E → World AU B → Prop where
  | usb {w w' : World AU B} {e : Event} : Step w e w' → Joint move w (.inl e) w'
  | move {w : World AU B} {e : E} {au : AU} :
      move w.cls.audioImpl e au →
      Joint move w (.inr e) { w with cls := { w.cls with audioImpl := au } }

/-- The events of the class among those of a system. -/
def usbEvents (es : List (Event ⊕ E)) : List Event := es.filterMap Sum.getLeft?

@[simp] theorem usbEvents_snoc_inl (es : List (Event ⊕ E)) (e : Event) :
    usbEvents (es ++ [.inl e]) = usbEvents es ++ [e] := by
  simp [usbEvents]

@[simp] theorem usbEvents_snoc_inr (es : List (Event ⊕ E)) (e : E) :
    usbEvents (es ++ [.inr e]) = usbEvents es := by
  simp [usbEvents]

variable {move : AU → E → AU → Prop} {ts : List (Transition (World AU B) (Event ⊕ E))}

/-- A move changes neither how the parts belong together nor the numbers. -/
theorem joint_wired (hw : Wired w.cls) (hr : Run (Joint move) w ts w') :
    Wired w'.cls ∧ w'.cls.number = w.cls.number := by
  induction hr with
  | nil => exact ⟨hw, rfl⟩
  | snoc _ hs ih =>
      obtain ⟨hw, hnumber⟩ := ih
      cases hs with
      | usb hs =>
          obtain ⟨acts, -, heffect⟩ := hs.effect
          exact ⟨heffect.wired hw, heffect.number.trans hnumber⟩
      | move => exact ⟨{ hw with }, hnumber⟩

end Uac2
