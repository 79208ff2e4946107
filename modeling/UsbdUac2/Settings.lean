import UsbdUac2.Effects
import UsbdUac2.Lib.LastWrite

/-!
# Selected settings and notifications

The setting of a stream is kept twice: the class stores it, and the device is
told of every change.  `Change` is an effect seen through these two.  A
`SET_INTERFACE` for a stream changes both or none, and a reset tells the device
of setting 0 without a change of what is stored.

After a run from build, what is stored for a stream is the setting of the last
`SET_INTERFACE` for its interface (`stored_run`).
-/

namespace Uac2

variable {AU : Type}

namespace UsbAudioClass

/-- The setting that is stored for a direction, if its stream is present. -/
def stored (c : UsbAudioClass AU) : UsbDirection → Option UInt8
  | .out => c.output.map AudioStream.altSetting
  | .in => c.input.map AudioStream.altSetting

/-- The number of the streaming interface of a direction. -/
def number (c : UsbAudioClass AU) : UsbDirection → Option InterfaceNumber
  | .out => c.output.map AudioStream.interface
  | .in => c.input.map AudioStream.interface

variable {c c' : UsbAudioClass AU}

theorem stored_output {s : AudioStream .out} (h : c.output = some s) :
    c.stored .out = some s.altSetting := by
  simp [stored, h]

theorem stored_input {s : AudioStream .in} (h : c.input = some s) :
    c.stored .in = some s.altSetting := by
  simp [stored, h]

theorem number_output {s : AudioStream .out} (h : c.output = some s) :
    c.number .out = some s.interface := by
  simp [number, h]

theorem number_input {s : AudioStream .in} (h : c.input = some s) :
    c.number .in = some s.interface := by
  simp [number, h]

theorem stored_of_number {d : UsbDirection} {n : InterfaceNumber} (h : c.number d = some n) :
    ∃ alt, c.stored d = some alt := by
  cases d with
  | out =>
      obtain ⟨s, hs, -⟩ := Option.map_eq_some_iff.mp h
      exact ⟨s.altSetting, stored_output hs⟩
  | «in» =>
      obtain ⟨s, hs, -⟩ := Option.map_eq_some_iff.mp h
      exact ⟨s.altSetting, stored_input hs⟩

theorem number_of_stored {d : UsbDirection} {alt : UInt8} (h : c.stored d = some alt) :
    ∃ n, c.number d = some n := by
  cases d with
  | out =>
      obtain ⟨s, hs, -⟩ := Option.map_eq_some_iff.mp h
      exact ⟨s.interface, number_output hs⟩
  | «in» =>
      obtain ⟨s, hs, -⟩ := Option.map_eq_some_iff.mp h
      exact ⟨s.interface, number_input hs⟩

/-- The settings are stored with the streams. -/
theorem stored_congr (hout : c'.output = c.output) (hin : c'.input = c.input) :
    c'.stored = c.stored := by
  funext d
  cases d with
  | out => simp [stored, hout]
  | «in» => simp [stored, hin]

end UsbAudioClass

/-- Build selects setting 0. -/
theorem Built.stored_eq [ClockSource AU] {config : UsbAudioClassConfig AU} {rate : UInt32}
    {c : UsbAudioClass AU} (hb : Built config rate c) {d : UsbDirection} {alt : UInt8}
    (h : c.stored d = some alt) : alt = 0 := by
  cases d with
  | out =>
      obtain ⟨s, hs, rfl⟩ := Option.map_eq_some_iff.mp h
      exact (hb.output_fresh hs).1
  | «in» =>
      obtain ⟨s, hs, rfl⟩ := Option.map_eq_some_iff.mp h
      exact (hb.input_fresh hs).1

/-- The streams that are present have different numbers. -/
theorem Wired.number_injective {c : UsbAudioClass AU} (hw : Wired c) {d d' : UsbDirection}
    {n : InterfaceNumber} (h : c.number d = some n) (h' : c.number d' = some n) : d = d' := by
  have hne : ¬ (c.number .in = some n ∧ c.number .out = some n) := by
    rintro ⟨hin, hout⟩
    obtain ⟨i, hi, rfl⟩ := Option.map_eq_some_iff.mp hin
    obtain ⟨o, ho, hio⟩ := Option.map_eq_some_iff.mp hout
    exact hw.inIface_ne_outIface hi ho
      ((hw.input_number hi).1.trans (hio.symm.trans (hw.output_number ho).1.symm))
  cases d <;> cases d'
  · rfl
  · exact absurd ⟨h', h⟩ hne
  · exact absurd ⟨h, h'⟩ hne
  · rfl

/-- The settings of a direction that a device was told of, oldest first. -/
def notices (d : UsbDirection) (log : List Action) : List UInt8 :=
  log.filterMap fun
    | .alternateSettingChanged d' alt => if d' = d then some alt else none
    | _ => none

@[simp] theorem notices_nil (d : UsbDirection) : notices d [] = [] := rfl

@[simp] theorem notices_append (d : UsbDirection) (a b : List Action) :
    notices d (a ++ b) = notices d a ++ notices d b := List.filterMap_append

theorem mem_notices {d : UsbDirection} {alt : UInt8} {log : List Action} :
    alt ∈ notices d log ↔ .alternateSettingChanged d alt ∈ log := by
  rw [notices, List.mem_filterMap]
  constructor
  · rintro ⟨a, ha, heq⟩
    cases a with
    | alternateSettingChanged d' alt' =>
        simp only [Option.ite_none_right_eq_some, Option.some.injEq] at heq
        obtain ⟨rfl, rfl⟩ := heq
        exact ha
    | _ => cases heq
  · intro h
    exact ⟨_, h, if_pos rfl⟩

theorem notices_quiet {acts : List Action} (d : UsbDirection) (h : ∀ a ∈ acts, a.Quiet) :
    notices d acts = [] := by
  rw [notices, List.filterMap_eq_nil_iff]
  intro a ha
  cases a with
  | alternateSettingChanged => exact absurd (h _ ha) id
  | _ => rfl

theorem notices_feedback {c : UsbAudioClass AU} {acts : List Action} (d : UsbDirection)
    (h : FeedbackActions c acts) : notices d acts = [] := by
  unfold FeedbackActions at h
  split at h
  · subst h
    rfl
  · rcases h with rfl | ⟨bytes, rfl⟩ <;> rfl

theorem Event.selects_eq {e : Event} {n : InterfaceNumber} {alt : UInt8}
    (h : e.selects = some (n, alt)) : ∃ xfer, e = .controlOut xfer ∧
      xfer.request.IsSetInterface ∧ xfer.request.index.toUInt8 = n ∧
      xfer.request.value.toUInt8 = alt := by
  cases e with
  | controlOut xfer =>
      by_cases hx : xfer.request.IsSetInterface
      · obtain ⟨hn, halt⟩ := Prod.mk.inj (Option.some.inj ((if_pos hx).symm.trans h))
        exact ⟨xfer, rfl, hx, hn, halt⟩
      · cases (if_neg hx).symm.trans h
  | _ => cases h

theorem selects_of_clockData {e : Event} {n : InterfaceNumber} {data : List UInt8}
    (h : e.clockData n = some data) : e.selects = none := by
  cases e with
  | controlOut xfer =>
      have hclock : xfer.request.IsClockCur n := by
        by_contra hno
        cases (if_neg hno).symm.trans h
      exact if_neg fun hset => absurd (hset.1.symm.trans hclock.1) (by decide)
  | _ => rfl

/-- An idle request selects what is selected. -/
theorem Idle.keeps {c : UsbAudioClass AU} {e : Event} (hi : Idle c e) (hw : Wired c)
    {d : UsbDirection} {n : InterfaceNumber} {alt : UInt8} (hn : c.number d = some n)
    (he : e.selects = some (n, alt)) : c.stored d = some alt := by
  cases d with
  | out =>
      obtain ⟨s, hs, rfl⟩ := Option.map_eq_some_iff.mp hn
      have hne : c.input = none ∨ c.inIface ≠ c.outIface := by
        cases hi : c.input with
        | none => exact Or.inl rfl
        | some i => exact Or.inr (hw.inIface_ne_outIface hi hs)
      rw [← (hw.output_number hs).1] at he
      rw [UsbAudioClass.stored_output hs, hi.not_selectOut hs hne he]
  | «in» =>
      obtain ⟨s, hs, rfl⟩ := Option.map_eq_some_iff.mp hn
      rw [← (hw.input_number hs).1] at he
      rw [UsbAudioClass.stored_input hs, hi.not_selectIn hs he]

/-- What an event does to the stored settings, and what the device is told. -/
inductive Change (c c' : UsbAudioClass AU) (acts : List Action) : Event → Prop where
  | select {e : Event} {d : UsbDirection} {n : InterfaceNumber} {alt : UInt8} :
      c.number d = some n → e.selects = some (n, alt) → c.stored d ≠ some alt →
      (∀ d', c'.stored d' = if d' = d then some alt else c.stored d') →
      (∀ d', notices d' acts = if d' = d then [alt] else []) → .accept ∈ acts →
      Change c c' acts e
  | reset : c'.stored = c.stored → (∀ d, notices d acts = [0]) → Change c c' acts .reset
  | keep {e : Event} :
      e ≠ .reset →
      (∀ {d n alt}, c.number d = some n → e.selects = some (n, alt) → c.stored d = some alt) →
      c'.stored = c.stored → (∀ d, notices d acts = []) →
      (e.selects = none ∨ c' = c ∧ acts = []) → Change c c' acts e

/-- An event that is neither a reset nor a `SET_INTERFACE` keeps the settings. -/
theorem Change.of_selects_none {c c' : UsbAudioClass AU} {acts : List Action} {e : Event}
    (hreset : e ≠ .reset) (hselects : e.selects = none) (hstored : c'.stored = c.stored)
    (hnotices : ∀ d, notices d acts = []) : Change c c' acts e :=
  .keep hreset (fun _ he => by cases hselects.symm.trans he) hstored hnotices (Or.inl hselects)

variable {B : Type} [AudioHandler AU B] [ClockSource AU]

/-- No event changes the interface numbers. -/
theorem Effect.number {c c' : UsbAudioClass AU} {e : Event} {acts : List Action}
    (h : Effect B c e c' acts) : c'.number = c.number := by
  funext d
  cases h with
  | selectIn hs =>
      cases d
      · rfl
      · simp [UsbAudioClass.number, hs]
  | selectOut hs =>
      cases d
      · simp [UsbAudioClass.number, hs]
      · rfl
  | _ => cases d <;> rfl

theorem Effect.controlIface {c c' : UsbAudioClass AU} {e : Event} {acts : List Action}
    (h : Effect B c e c' acts) : c'.controlIface = c.controlIface := by
  cases h <;> rfl

theorem Effect.change {c c' : UsbAudioClass AU} {e : Event} {acts : List Action}
    (h : Effect B c e c' acts) (hw : Wired c) : Change c c' acts e := by
  cases h with
  | selectIn hs he hne =>
      rw [(hw.input_number hs).1] at he
      refine .select (UsbAudioClass.number_input hs) he ?_ ?_ ?_ (by simp)
      · simpa [UsbAudioClass.stored_input hs] using hne
      · intro d
        cases d <;> rfl
      · intro d
        cases d <;> rfl
  | selectOut hs _ he hne _ hacts =>
      rw [(hw.output_number hs).1] at he
      refine .select (UsbAudioClass.number_output hs) he ?_ ?_ ?_ (by simp)
      · simpa [UsbAudioClass.stored_output hs] using hne
      · intro d
        cases d <;> rfl
      · intro d
        have hfb := notices_feedback d hacts
        rw [← List.singleton_append, notices_append, notices_append, hfb]
        cases d <;> rfl
  | setRate hclock =>
      have hselects := selects_of_clockData hclock
      refine .of_selects_none ?_ hselects (UsbAudioClass.stored_congr rfl rfl) (fun _ => rfl)
      rintro rfl
      cases hclock
  | receive =>
      exact .of_selects_none (fun h => nomatch h) rfl (UsbAudioClass.stored_congr rfl rfl)
        fun _ => rfl
  | transmit =>
      exact .of_selects_none (fun h => nomatch h) rfl (UsbAudioClass.stored_congr rfl rfl)
        fun _ => rfl
  | feedback _ _ _ hacts =>
      exact .of_selects_none (fun h => nomatch h) rfl (UsbAudioClass.stored_congr rfl rfl)
        fun d => notices_feedback d hacts
  | reset =>
      refine .reset (UsbAudioClass.stored_congr rfl rfl) fun d => ?_
      cases d <;> rfl
  | quiet hi hq hacts =>
      exact .keep hi.not_reset (hi.keeps hw) rfl (fun d => notices_quiet d hq)
        (hacts.imp id fun h => ⟨rfl, h⟩)

/-! ## Runs -/

/-- The setting that an event selects for interface `n`. -/
def Event.selectsFor (n : InterfaceNumber) (e : Event) : Option UInt8 :=
  e.selects.bind fun p => if p.1 = n then some p.2 else none

/-- The setting of the last `SET_INTERFACE` for interface `n`, or 0 before the first. -/
def lastSelected (n : InterfaceNumber) (es : List Event) : UInt8 :=
  (LastWrite.lastWrite (Event.selectsFor n) es).getD 0

theorem lastSelected_snoc (n : InterfaceNumber) (es : List Event) (e : Event) :
    lastSelected n (es ++ [e]) = (e.selectsFor n).getD (lastSelected n es) := by
  rw [lastSelected, LastWrite.lastWrite_append, LastWrite.lastWrite_cons,
    LastWrite.lastWrite_nil, Option.none_or, lastSelected]
  cases e.selectsFor n with
  | none => rfl
  | some alt => rfl

section

variable [UsbBus B] {w w' : World AU B} {ts : List (Runs.Transition (World AU B) Event)}

/-- A run changes neither how the parts belong together nor the numbers. -/
theorem wired_run (hw : Wired w.cls) (hr : Runs.Run Step w ts w') :
    Wired w'.cls ∧ w'.cls.number = w.cls.number ∧ w'.cls.controlIface = w.cls.controlIface := by
  induction hr with
  | nil => exact ⟨hw, rfl, rfl⟩
  | snoc _ hs ih =>
      obtain ⟨hw, hnumber, hcontrol⟩ := ih
      obtain ⟨acts, -, heffect⟩ := hs.effect
      exact ⟨heffect.wired hw, heffect.number.trans hnumber, heffect.controlIface.trans hcontrol⟩

/-- An event stores the setting that it selects for a stream, and keeps all others. -/
theorem stored_step {w w' : World AU B} {e : Event} {d : UsbDirection} {n : InterfaceNumber}
    (hw : Wired w.cls) (hn : w.cls.number d = some n) {alt : UInt8}
    (halt : w.cls.stored d = some alt) (hs : Step w e w') :
    w'.cls.stored d = some ((e.selectsFor n).getD alt) := by
  obtain ⟨acts, -, heffect⟩ := hs.effect
  cases heffect.change hw with
  | @select _ d' n' alt' hn' he _ hstored =>
      rw [hstored, Event.selectsFor, he, Option.bind_some]
      by_cases hd : d = d'
      · subst hd
        cases hn.symm.trans hn'
        rw [if_pos rfl, if_pos rfl, Option.getD_some]
      · have hne : n' ≠ n := fun h => hd (hw.number_injective hn (h ▸ hn'))
        rw [if_neg hd, if_neg hne, Option.getD_none, halt]
  | reset hstored =>
      rw [hstored]
      exact halt
  | keep _ hkeep hstored =>
      rw [hstored, halt, Event.selectsFor]
      cases he : e.selects with
      | none => rfl
      | some p =>
          obtain ⟨n', alt'⟩ := p
          rw [Option.bind_some]
          by_cases hne : n' = n
          · subst hne
            cases halt.symm.trans (hkeep hn he)
            rw [if_pos rfl, Option.getD_some]
          · rw [if_neg hne, Option.getD_none]

/-- After a run from build, a stream is at the setting that was selected last. -/
theorem stored_run {config : UsbAudioClassConfig AU} {rate : UInt32} {c : UsbAudioClass AU}
    (hb : Built config rate c) {bus : B} (hr : Runs.Run Step (World.start c bus) ts w)
    {d : UsbDirection} {n : InterfaceNumber} (hn : c.number d = some n) :
    w.cls.stored d = some (lastSelected n (Runs.events ts)) := by
  induction hr with
  | nil =>
      obtain ⟨alt, halt⟩ := UsbAudioClass.stored_of_number hn
      obtain rfl := hb.stored_eq halt
      exact halt
  | @snoc ts s₁ s₂ e hr hs ih =>
      obtain ⟨hw, hnumber, -⟩ := wired_run (w := World.start c bus) hb.wired hr
      have hn₁ : s₁.cls.number d = some n := by
        rw [hnumber]
        exact hn
      rw [Runs.events_snoc, lastSelected_snoc]
      exact stored_step hw hn₁ ih hs

end

end Uac2
