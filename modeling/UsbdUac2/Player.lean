import UsbdUac2.Calls

/-!
# Streams as players

Seen from the host, a stream is a player: it has a setting that is selected, and it is on
or off.  A bus reset turns it off and leaves the setting selected, and a request for the
setting that is selected does nothing.

A `Switched` device has a switch that follows the notices for some of the terminals.
`Plays.run` says that such a device and the class are the player over any run, whatever
else they do.
-/

namespace Uac2

open Runs (Run Transition events)

/-! ## The player -/

/-- A player as the host sees it. -/
structure Player where
  /-- The setting that is selected. -/
  alt : UInt8
  /-- Playback is on. -/
  on : Bool
deriving DecidableEq, Repr

/-- A setting of 0 turns a player off, and a setting of 1 turns it on. -/
def Player.switch (alt : UInt8) (on : Bool) : Bool :=
  if alt = 0 then false else if alt = 1 then true else on

/-- The player of the stream at interface `n` after an event. -/
def Player.next (n : InterfaceNumber) (p : Player) (e : Event) : Player :=
  match e.selectsFor n with
  | some alt => if alt = p.alt then p else ⟨alt, switch alt p.on⟩
  | none => if e = .reset then { p with on := false } else p

/-- The player after some events. -/
def Player.after (n : InterfaceNumber) (es : List Event) (p : Player) : Player :=
  es.foldl (next n) p

@[simp] theorem Player.after_snoc (n : InterfaceNumber) (es : List Event) (e : Event)
    (p : Player) : Player.after n (es ++ [e]) p = (Player.after n es p).next n e := by
  simp [after]

theorem Player.next_alt (n : InterfaceNumber) (p : Player) (e : Event) :
    (p.next n e).alt = (e.selectsFor n).getD p.alt := by
  rw [next]
  cases e.selectsFor n with
  | none =>
      dsimp only
      split <;> rfl
  | some alt =>
      dsimp only
      split
      · rename_i hsame
        exact hsame.symm
      · rfl

/-- A player that is off stays off while no other setting is selected. -/
theorem Player.after_off {n : InterfaceNumber} {es : List Event} {alt : UInt8}
    (h : ∀ e ∈ es, e.selectsFor n = none ∨ e.selectsFor n = some alt) :
    Player.after n es ⟨alt, false⟩ = ⟨alt, false⟩ := by
  induction es with
  | nil => rfl
  | cons e es ih =>
      have hnext : Player.next n ⟨alt, false⟩ e = ⟨alt, false⟩ := by
        rw [Player.next]
        rcases h e List.mem_cons_self with he | he
        · rw [he]
          dsimp only
          split <;> rfl
        · rw [he]
          exact if_pos rfl
      rw [Player.after, List.foldl_cons, hnext]
      exact ih fun e he => h e (List.mem_cons_of_mem _ he)

/-! ## What the actions switch -/

/-- What an action does to a switch that hears the notices for some terminals. -/
def Action.switches (hears : UsbDirection → Bool) (on : Bool) : Action → Bool
  | .alternateSettingChanged terminal alt => if hears terminal then Player.switch alt on else on
  | _ => on

variable {hears : UsbDirection → Bool}

theorem switches_quiet {acts : List Action} (h : ∀ a ∈ acts, a.Quiet) (on : Bool) :
    acts.foldl (Action.switches hears) on = on := by
  induction acts with
  | nil => rfl
  | cons a acts ih =>
      have ha : a.Quiet := h a List.mem_cons_self
      have hacts := ih fun b hb => h b (List.mem_cons_of_mem a hb)
      cases a with
      | alternateSettingChanged => exact absurd ha id
      | _ => exact hacts

theorem switches_feedback {AU : Type} {c : UsbAudioClass AU} {acts : List Action}
    (h : FeedbackActions c acts) (on : Bool) : acts.foldl (Action.switches hears) on = on := by
  unfold FeedbackActions at h
  split at h
  · rw [h]
    rfl
  · rcases h with rfl | ⟨bytes, rfl⟩ <;> rfl

section

variable {AU : Type} {d : UsbDirection} {n : InterfaceNumber} {alt : UInt8}

/-- The switch belongs to the stream `d`, and hears no other stream of the class. -/
structure Listens (hears : UsbDirection → Bool) (c : UsbAudioClass AU) (d : UsbDirection) :
    Prop where
  self : hears d = true
  others : ∀ d', hears d' = true → d' = d ∨ c.number d' = none

/-- A new setting of a stream switches what hears it. -/
theorem switch_selected {c : UsbAudioClass AU} (hw : Wired c) (hl : Listens hears c d)
    (hn : c.number d = some n) (halt : c.stored d = some alt) {d' : UsbDirection}
    {n' : InterfaceNumber} {alt' : UInt8} {e : Event} (hn' : c.number d' = some n')
    (he : e.selects = some (n', alt')) (hne : c.stored d' ≠ some alt') (on : Bool) :
    (if hears d' then Player.switch alt' on else on) = (Player.next n ⟨alt, on⟩ e).on := by
  have hreset : e ≠ .reset := by
    rintro rfl
    cases he
  by_cases hd : d' = d
  · subst hd
    cases hn.symm.trans hn'
    have hother : alt' ≠ alt := fun h => hne (h ▸ halt)
    simp [Player.next, Event.selectsFor, he, hl.self, hother]
  · have hnumber : n' ≠ n := fun h => hd (hw.number_injective (h ▸ hn') hn)
    have hdeaf : hears d' = false := by
      cases hhears : hears d' with
      | false => rfl
      | true =>
          rcases hl.others d' hhears with h | h
          · exact absurd h hd
          · cases hn'.symm.trans h
    simp [Player.next, Event.selectsFor, he, hdeaf, hnumber, hreset]

variable {B : Type} [AudioHandler AU B] [ClockSource AU]

/-- The actions of an event switch what hears them as the player does. -/
theorem Effect.switches {c c' : UsbAudioClass AU} {e : Event} {acts : List Action}
    (h : Effect B c e c' acts) (hw : Wired c) (hl : Listens hears c d)
    (hn : c.number d = some n) (halt : c.stored d = some alt) (on : Bool) :
    acts.foldl (Action.switches hears) on = (Player.next n ⟨alt, on⟩ e).on := by
  cases h with
  | @selectIn _ s alt' au hs he hne =>
      have hn' : c.number .in = some c.inIface := by
        rw [UsbAudioClass.number_input hs, (hw.input_number hs).1]
      have hother : c.stored .in ≠ some alt' := by
        simpa [UsbAudioClass.stored_input hs] using hne
      exact switch_selected hw hl hn halt hn' he hother on
  | @selectOut _ s alt' au acts hs _ he hne _ hacts =>
      have hn' : c.number .out = some c.outIface := by
        rw [UsbAudioClass.number_output hs, (hw.output_number hs).1]
      have hother : c.stored .out ≠ some alt' := by
        simpa [UsbAudioClass.stored_output hs] using hne
      rw [List.foldl_cons, List.foldl_append, switches_feedback hacts]
      exact switch_selected hw hl hn halt hn' he hother on
  | setRate hclock =>
      have hselects := selects_of_clockData hclock
      have hreset : e ≠ .reset := by
        rintro rfl
        cases hclock
      simp [Player.next, Event.selectsFor, hselects, hreset, Action.switches]
  | receive => rfl
  | transmit => rfl
  | feedback _ _ _ hacts => exact switches_feedback hacts on
  | reset =>
      cases d with
      | out => simp [Player.next, Event.selectsFor, Event.selects, Action.switches, hl.self,
          Player.switch]
      | «in» => simp [Player.next, Event.selectsFor, Event.selects, Action.switches, hl.self,
          Player.switch]
  | quiet hi hquiet _ =>
      rw [switches_quiet hquiet, Player.next, Event.selectsFor]
      cases he : e.selects with
      | none => simp [hi.not_reset]
      | some p =>
          obtain ⟨n', alt'⟩ := p
          by_cases hne : n' = n
          · subst hne
            have hsame := Option.some.inj ((hi.keeps hw hn he).symm.trans halt)
            simp [hsame]
          · simp [hne, hi.not_reset]

end

/-! ## The device -/

section

variable {AU E : Type} (B : Type) [AudioHandler AU B] [ClockSource AU]

/-- A device with a switch that follows the notices it hears, and nothing else. -/
structure Switched (hears : UsbDirection → Bool) (move : AU → E → AU → Prop) (on : AU → Bool) :
    Prop where
  call : ∀ {au au' : AU} {a : Action}, Call B au a au' → on au' = a.switches hears (on au)
  move : ∀ {au au' : AU} {e : E}, move au e au' → on au' = on au

variable {B} {move : AU → E → AU → Prop} {on : AU → Bool}

theorem Switched.calls (h : Switched B hears move on) {au au' : AU}
    {ts : List (Transition AU Action)} (hr : Run (Call B) au ts au') :
    on au' = (events ts).foldl (Action.switches hears) (on au) := by
  induction hr with
  | nil => rfl
  | snoc _ hc ih =>
      rw [Runs.events_snoc, List.foldl_append, ← ih]
      exact h.call hc

variable {d : UsbDirection} {n : InterfaceNumber} {p : Player}

/-- The class and the device are the player `p`. -/
structure Plays (hears : UsbDirection → Bool) (on : AU → Bool) (d : UsbDirection)
    (n : InterfaceNumber) (p : Player) (w : World AU B) : Prop where
  wired : Wired w.cls
  listens : Listens hears w.cls d
  number : w.cls.number d = some n
  stored : w.cls.stored d = some p.alt
  on_eq : on w.cls.audioImpl = p.on

variable [UsbBus B] {w w' : World AU B}

theorem Plays.usb (hdevice : Switched B hears move on) (h : Plays hears on d n p w) {e : Event}
    (hs : Step w e w') : Plays hears on d n (p.next n e) w' := by
  obtain ⟨us, hr, heffect⟩ := hs.effect_calls
  have hnumber := heffect.number
  have hstored := stored_step h.wired h.number h.stored hs
  have hswitch := heffect.switches h.wired h.listens h.number h.stored (on w.cls.audioImpl)
  rw [← hdevice.calls hr, h.on_eq] at hswitch
  refine ⟨heffect.wired h.wired, ⟨h.listens.self, ?_⟩, ?_, ?_, hswitch⟩
  · rw [hnumber]
    exact h.listens.others
  · rw [hnumber]
    exact h.number
  · rw [hstored, Player.next_alt]

/-- The class and the device stay the player over any run. -/
theorem Plays.run (hdevice : Switched B hears move on) (h : Plays hears on d n p w)
    {ts : List (Transition (World AU B) (Event ⊕ E))} (hr : Run (Joint move) w ts w') :
    Plays hears on d n (p.after n (usbEvents (events ts))) w' := by
  induction hr with
  | nil => exact h
  | snoc _ hs ih =>
      rw [Runs.events_snoc]
      cases hs with
      | usb hs =>
          rw [usbEvents_snoc_inl, Player.after_snoc]
          exact ih.usb hdevice hs
      | move hm =>
          rw [usbEvents_snoc_inr]
          exact ⟨{ ih.wired with }, ⟨ih.listens.self, ih.listens.others⟩, ih.number, ih.stored,
            (hdevice.move hm).trans ih.on_eq⟩

end

/-- A class is built as a player that is off, with a device that is off. -/
theorem Built.plays {AU B : Type} [ClockSource AU] {config : UsbAudioClassConfig AU}
    {rate : UInt32} {c : UsbAudioClass AU} (h : Built config rate c) {bus : B}
    {on : AU → Bool} {d : UsbDirection} {n : InterfaceNumber} (hl : Listens hears c d)
    (hn : c.number d = some n) (hoff : on config.audioImpl = false) :
    Plays hears on d n ⟨0, false⟩ (World.start c bus) := by
  obtain ⟨alt, halt⟩ := UsbAudioClass.stored_of_number hn
  obtain rfl := h.stored_eq halt
  refine ⟨h.wired, hl, hn, halt, ?_⟩
  show on c.audioImpl = false
  rw [h.audioImpl_eq, hoff]

end Uac2
