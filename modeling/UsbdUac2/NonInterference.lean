import UsbdUac2.Settings
import UsbdUac2.Bench

/-!
# Non-interference

The setting of a stream, and what the device is told of it, depend on the resets
and on the `SET_INTERFACE` requests for the interface of the stream.  Two runs
with the same such events end with the same setting and the same notifications.

A request for an interface of another function is left alone.  An absent stream
claims no interface, although its number stays 0 in the class.
-/

namespace Uac2

open Runs

variable {AU B : Type}

/-- The event is a reset, or a `SET_INTERFACE` for interface `n`. -/
def Event.concerns (n : InterfaceNumber) (e : Event) : Bool :=
  match e.selects with
  | some (n', _) => n' == n
  | none => e == .reset

/-- A stored setting and the notifications, after an event that concerns them. -/
def track (p : Option UInt8 × List UInt8) (e : Event) : Option UInt8 × List UInt8 :=
  match e.selects with
  | some (_, alt) => if p.1 = some alt then p else (some alt, p.2 ++ [alt])
  | none => (p.1, p.2 ++ [0])

/-- What can be seen of the stream of a direction. -/
def seen (d : UsbDirection) (w : World AU B) : Option UInt8 × List UInt8 :=
  (w.cls.stored d, notices d w.log)

/-- The interfaces that the class allocated. -/
def UsbAudioClass.interfaces (c : UsbAudioClass AU) : List InterfaceNumber :=
  c.controlIface :: ((c.number .in).toList ++ (c.number .out).toList)

section

variable [AudioHandler AU B] [ClockSource AU] [UsbBus B]

theorem seen_step {w w' : World AU B} {e : Event} {d : UsbDirection} {n : InterfaceNumber}
    (hw : Wired w.cls) (hn : w.cls.number d = some n) (hs : Step w e w') :
    seen d w' = if e.concerns n then track (seen d w) e else seen d w := by
  obtain ⟨acts, hlog, heffect⟩ := hs.effect
  cases heffect.change hw with
  | @select _ d' n' alt hn' he hne hstored hnotices =>
      rw [seen, hlog, notices_append, hnotices, hstored, Event.concerns, track, he]
      by_cases hd : d = d'
      · subst hd
        cases hn.symm.trans hn'
        simp [seen, hne]
      · have hnn : n' ≠ n := fun h => hd (hw.number_injective hn (h ▸ hn'))
        simp [seen, hd, hnn]
  | reset hstored hnotices =>
      rw [seen, hlog, notices_append, hnotices, hstored]
      rfl
  | keep hreset hkeep hstored hnotices =>
      rw [seen, hlog, notices_append, hnotices, hstored, List.append_nil, Event.concerns, track]
      cases he : e.selects with
      | none => simp [seen, hreset]
      | some p =>
          obtain ⟨n', alt⟩ := p
          by_cases hnn : n' = n
          · subst hnn
            simp [seen, hkeep hn he]
          · simp [seen, hnn]

/-- After a run, what can be seen of a stream follows from the events that concern
it. -/
theorem seen_run {w w' : World AU B} {ts : List (Transition (World AU B) Event)}
    {d : UsbDirection} {n : InterfaceNumber} (hw : Wired w.cls) (hn : w.cls.number d = some n)
    (hr : Run Step w ts w') :
    seen d w' = ((events ts).filter (Event.concerns n)).foldl track (seen d w) := by
  refine hr.project (fun w => Wired w.cls ∧ w.cls.number d = some n) (seen d) track
    (Event.concerns n) ⟨hw, hn⟩ ?_ fun h hs => seen_step h.1 h.2 hs
  rintro s₁ e s₂ ⟨hw, hn⟩ hs
  obtain ⟨acts, -, heffect⟩ := hs.effect
  exact ⟨heffect.wired hw, by rw [heffect.number, hn]⟩

/-! ## Requests for other functions -/

omit [AudioHandler AU B] [ClockSource AU] [UsbBus B] in
theorem Request.interface_eq (req : Request) : req.interface = req.index.toUInt8 := by
  rw [Request.interface, UInt16.toUInt8_and]
  exact UInt8.and_neg_one

omit [AudioHandler AU B] [ClockSource AU] [UsbBus B] in
/-- Neither stream has a number that is not one of the class. -/
theorem filters_foreign {c : UsbAudioClass AU} (hw : Wired c) {n : InterfaceNumber}
    (hn : n ∉ c.interfaces) : (c.input.filter fun _ => n = c.inIface) = none ∧
      (c.output.filter fun _ => n = c.outIface) = none := by
  simp only [UsbAudioClass.interfaces, List.mem_cons, List.mem_append, Option.mem_toList,
    not_or] at hn
  obtain ⟨-, hin, hout⟩ := hn
  simp only [Option.filter_eq_none_iff, decide_eq_true_eq]
  constructor
  · rintro s hs rfl
    exact hin (Option.map_eq_some_iff.mpr ⟨s, hs, (hw.input_number hs).1.symm⟩)
  · rintro s hs rfl
    exact hout (Option.map_eq_some_iff.mpr ⟨s, hs, (hw.output_number hs).1.symm⟩)

omit [AudioHandler AU B] [ClockSource AU] [UsbBus B] in
theorem interface_ne_control {c : UsbAudioClass AU} {req : Request}
    (hn : req.index.toUInt8 ∉ c.interfaces) : req.interface ≠ c.controlIface := by
  intro h
  rw [req.interface_eq] at h
  exact hn (h ▸ List.mem_cons_self)

theorem controlOut_foreign {w : World AU B} (hw : Wired w.cls) {xfer : ControlOut}
    (hx : xfer.request.index.toUInt8 ∉ w.cls.interfaces) : w.controlOut xfer = w := by
  by_cases hset : xfer.request.IsSetInterface
  · obtain ⟨hin, hout⟩ := filters_foreign hw hx
    simp only [World.controlOut, World.standardRequestOut, World.setAltInterface, hset.1,
      hset.2.1, hset.2.2, hin, hout, and_self, if_true]
  · refine World.controlOut_unhandled hset fun h => ?_
    exact interface_ne_control hx h.2.2.2.1

omit [AudioHandler AU B] [UsbBus B] in
theorem controlIn_foreign {w : World AU B} (hw : Wired w.cls) {xfer : ControlIn}
    (hx : xfer.request.index.toUInt8 ∉ w.cls.interfaces) : w.controlIn xfer = w := by
  obtain ⟨hin, hout⟩ := filters_foreign hw hx
  have hcontrol := interface_ne_control hx
  unfold World.controlIn
  split
  · unfold World.standardRequestIn
    split
    · simp only [World.getAltInterface, hin, hout]
    · rfl
  · unfold World.classRequestIn
    split
    · exact if_neg hcontrol
    · exact if_neg hcontrol
    all_goals rfl
  · rfl

/-! ## The two together -/

/-- Two runs from build with the same events for a stream end with the same setting
and the same notifications for it.  A request for another function changes
nothing, in any state that is reached. -/
theorem streams_do_not_interfere {A : Type} [UsbBusAllocator A] [DocumentedAllocator A]
    {config : UsbAudioClassConfig AU} {alloc alloc' : A} {c : UsbAudioClass AU}
    (hb : config.build alloc = .ok (c, alloc')) :
    (∀ (d : UsbDirection) (n : InterfaceNumber), c.number d = some n →
      ∀ (bus₁ bus₂ : B) (ts₁ ts₂ : List (Transition (World AU B) Event)) (w₁ w₂ : World AU B),
        Run Step (World.start c bus₁) ts₁ w₁ → Run Step (World.start c bus₂) ts₂ w₂ →
        (events ts₁).filter (Event.concerns n) = (events ts₂).filter (Event.concerns n) →
        w₁.cls.stored d = w₂.cls.stored d ∧ notices d w₁.log = notices d w₂.log) ∧
    ∀ (bus : B) (ts : List (Transition (World AU B) Event)) (w : World AU B),
      Run Step (World.start c bus) ts w →
      (∀ xfer : ControlOut, xfer.request.index.toUInt8 ∉ c.interfaces →
        w.controlOut xfer = w) ∧
      ∀ xfer : ControlIn, xfer.request.index.toUInt8 ∉ c.interfaces → w.controlIn xfer = w := by
  obtain ⟨rate, hbuilt⟩ := build_ok hb
  constructor
  · intro d n hn bus₁ bus₂ ts₁ ts₂ w₁ w₂ hr₁ hr₂ hsame
    have h₁ := seen_run (w := World.start c bus₁) hbuilt.wired hn hr₁
    have h₂ := seen_run (w := World.start c bus₂) hbuilt.wired hn hr₂
    rw [hsame] at h₁
    exact Prod.mk.inj (h₁.trans h₂.symm)
  · intro bus ts w hr
    obtain ⟨hw, hnumber, hcontrol⟩ := wired_run hbuilt.wired hr
    have hinterfaces : w.cls.interfaces = c.interfaces := by
      rw [UsbAudioClass.interfaces, hnumber, hcontrol]
      rfl
    rw [← hinterfaces]
    exact ⟨fun xfer => controlOut_foreign hw, fun xfer => controlIn_foreign hw⟩

end

/-! ## Runs of the box -/

/-- Selecting the OUT stream makes no difference to the IN stream, and interface 7
is another function's. -/
theorem streams_do_not_interfere_ioBox :
    notices .in ((ioBoxLive 2).controlOut (selectSetting 1 1)).log =
      notices .in (ioBoxLive 2).log ∧
    (ioBoxLive 2).controlOut (selectSetting 7 1) = ioBoxLive 2 := by
  obtain ⟨alloc, hb⟩ := build_ioBox
  have hshort := Run.nil.snoc (step_controlOut ioBoxStart (selectSetting 2 1))
  have hlong := hshort.snoc (step_controlOut (ioBoxLive 2) (selectSetting 1 1))
  obtain ⟨hruns, hforeign⟩ := streams_do_not_interfere (B := Silence) hb
  refine ⟨(hruns .in 2 rfl _ _ _ _ _ _ hlong hshort rfl).2, ?_⟩
  exact (hforeign _ _ _ hshort).1 _ (by decide)

end Uac2
