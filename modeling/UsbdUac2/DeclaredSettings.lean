import UsbdUac2.Settings
import UsbdUac2.Bench

/-!
# Declared settings

The descriptors of a streaming interface declare the settings 0 and 1.  A
`SET_INTERFACE` is looked at through the low bytes of its 16-bit fields, and any
setting is taken.  So a run stays within the declared settings, and acts only on
requests for them, exactly when no request that would change a setting has more
than the low byte of `wIndex`, or more than 1 in `wValue`.
-/

namespace Uac2

open Runs

variable {AU B : Type}

/-- A setting that the descriptors declare. -/
def Declared (alt : UInt8) : Prop := alt = 0 ∨ alt = 1

/-- All settings that are stored and that the device was told of are declared. -/
structure AllDeclared (w : World AU B) : Prop where
  stored : ∀ {d alt}, w.cls.stored d = some alt → Declared alt
  told : ∀ {d alt}, alt ∈ notices d w.log → Declared alt

/-- The class changed, or something others can see happened. -/
def Acts (w w' : World AU B) : Prop := ¬ (w'.cls = w.cls ∧ w'.log = w.log)

/-- The request names a streaming interface in full, and a declared setting. -/
def Addressed (c : UsbAudioClass AU) (req : Request) : Prop :=
  ∃ d n, c.number d = some n ∧ req.index = n.toUInt16 ∧ (req.value = 0 ∨ req.value = 1)

/-- If the low bytes of the request select a new setting, there is nothing in its
other bits. -/
def Proper (c : UsbAudioClass AU) (req : Request) : Prop :=
  ∀ d, c.number d = some req.index.toUInt8 → c.stored d ≠ some req.value.toUInt8 →
    req.index < 256 ∧ req.value ≤ 1

theorem toUInt16_toUInt8_of_lt {x : UInt16} (h : x < 256) : x.toUInt8.toUInt16 = x := by
  rw [UInt16.toUInt16_toUInt8]
  apply UInt16.toNat_inj.mp
  rw [UInt16.toNat_mod]
  exact Nat.mod_eq_of_lt (UInt16.lt_iff_toNat_lt.mp h)

theorem declared_of_le {x : UInt16} (h : x ≤ 1) : (x = 0 ∨ x = 1) ∧ Declared x.toUInt8 := by
  have hle : x.toNat ≤ 1 := UInt16.le_iff_toNat_le.mp h
  have hx : x = 0 ∨ x = 1 := by
    rcases Nat.le_one_iff_eq_zero_or_eq_one.mp hle with h0 | h1
    · exact Or.inl (UInt16.toNat_inj.mp h0)
    · exact Or.inr (UInt16.toNat_inj.mp h1)
  refine ⟨hx, ?_⟩
  rcases hx with rfl | rfl
  · exact Or.inl rfl
  · exact Or.inr rfl

theorem Addressed.proper {c : UsbAudioClass AU} {req : Request} (h : Addressed c req) :
    req.index < 256 ∧ req.value ≤ 1 := by
  obtain ⟨d, n, -, hindex, hvalue⟩ := h
  refine ⟨?_, ?_⟩
  · rw [hindex]
    exact UInt16.lt_iff_toNat_lt.mpr (by rw [UInt8.toNat_toUInt16]; exact n.toNat_lt)
  · rcases hvalue with h | h <;> rw [h] <;> decide

section

variable [AudioHandler AU B] [ClockSource AU] [UsbBus B]

/-- What the claim of declared settings says about one step. -/
def KeepsDeclared (t : Transition (World AU B) Event) : Prop :=
  AllDeclared t.post ∧ ∀ xfer, t.event = .controlOut xfer → xfer.request.IsSetInterface →
    Acts t.pre t.post → Addressed t.pre.cls xfer.request

/-- The step is not a request with other bits set. -/
def OnlyProper (t : Transition (World AU B) Event) : Prop :=
  ∀ xfer, t.event = .controlOut xfer → xfer.request.IsSetInterface →
    Proper t.pre.cls xfer.request

omit [AudioHandler AU B] [ClockSource AU] [UsbBus B] in
/-- What was declared stays so, if all that is new is declared. -/
theorem AllDeclared.step {w w' : World AU B} {acts : List Action} (hd : AllDeclared w)
    (hstored : ∀ {d alt}, w'.cls.stored d = some alt → w.cls.stored d = some alt ∨ Declared alt)
    (hlog : w'.log = w.log ++ acts) (htold : ∀ {d alt}, alt ∈ notices d acts → Declared alt) :
    AllDeclared w' where
  stored h := (hstored h).elim hd.stored id
  told h := by
    rw [hlog, notices_append, List.mem_append] at h
    exact h.elim hd.told htold

/-- A request that changes a setting, and is acted upon only if it is addressed in
full, has nothing in its other bits. -/
theorem proper_of_keepsDeclared {w w' : World AU B} {xfer : ControlOut} (hw : Wired w.cls)
    (hs : Step w (.controlOut xfer) w') (hx : xfer.request.IsSetInterface)
    (hacts : Acts w w' → Addressed w.cls xfer.request) : Proper w.cls xfer.request := by
  intro d hn hne
  obtain ⟨acts, hlog, heffect⟩ := hs.effect
  refine (hacts ?_).proper
  rintro ⟨-, hsame⟩
  rw [hlog, List.append_right_eq_self] at hsame
  subst hsame
  cases heffect.change hw with
  | select _ _ _ _ _ haccept => cases haccept
  | keep _ hkeep => exact hne (hkeep hn (if_pos hx))

theorem keepsDeclared_of_onlyProper {t : Transition (World AU B) Event} (hw : Wired t.pre.cls)
    (hd : AllDeclared t.pre) (hs : Step t.pre t.event t.post) (h : OnlyProper t) :
    KeepsDeclared t := by
  obtain ⟨w, e, w'⟩ := t
  obtain ⟨acts, hlog, heffect⟩ := hs.effect
  cases heffect.change hw with
  | select hn he hne hstored hnotices =>
      obtain ⟨xfer, rfl, hx, rfl, rfl⟩ := Event.selects_eq he
      obtain ⟨hindex, hvalue⟩ := h xfer rfl hx _ hn hne
      obtain ⟨hvalue, hdeclared⟩ := declared_of_le hvalue
      refine ⟨hd.step ?_ hlog ?_, ?_⟩
      · intro d' alt' hs'
        rw [hstored] at hs'
        split at hs'
        · cases hs'
          exact Or.inr hdeclared
        · exact Or.inl hs'
      · intro d' alt' hmem
        rw [hnotices] at hmem
        split at hmem
        · rw [List.mem_singleton.mp hmem]
          exact hdeclared
        · cases hmem
      · rintro _ ⟨⟩ _ _
        exact ⟨_, _, hn, (toUInt16_toUInt8_of_lt hindex).symm, hvalue⟩
  | reset hstored hnotices =>
      refine ⟨hd.step ?_ hlog ?_, fun _ he => nomatch he⟩
      · intro d alt hs'
        exact Or.inl (by rw [← hstored]; exact hs')
      · intro d alt hmem
        rw [hnotices] at hmem
        exact Or.inl (List.mem_singleton.mp hmem)
  | keep _ _ hstored hnotices hquiet =>
      refine ⟨hd.step ?_ hlog ?_, ?_⟩
      · intro d alt hs'
        exact Or.inl (by rw [← hstored]; exact hs')
      · intro d alt hmem
        rw [hnotices] at hmem
        cases hmem
      · rintro xfer rfl hx hacts
        rcases hquiet with hquiet | ⟨hcls, rfl⟩
        · cases (if_pos hx).symm.trans hquiet
        · exact absurd ⟨hcls, by rw [hlog, List.append_nil]⟩ hacts

theorem keepsDeclared_step {t : Transition (World AU B) Event} (hw : Wired t.pre.cls)
    (hd : AllDeclared t.pre) (hs : Step t.pre t.event t.post) :
    KeepsDeclared t ↔ OnlyProper t := by
  constructor
  · rintro ⟨-, hacts⟩ xfer he hx
    rw [he] at hs
    exact proper_of_keepsDeclared hw hs hx (hacts xfer he hx)
  · exact keepsDeclared_of_onlyProper hw hd hs

omit [AudioHandler AU B] [UsbBus B] in
theorem allDeclared_start {config : UsbAudioClassConfig AU} {rate : UInt32}
    {c : UsbAudioClass AU} (hb : Built config rate c) (bus : B) :
    AllDeclared (World.start c bus) where
  stored hd := Or.inl (hb.stored_eq hd)
  told h := nomatch h

/-- A run from build stays within the declared settings, and acts only on requests
for them, exactly when all its requests for a new setting are proper. -/
theorem declared_iff_proper {A : Type} [UsbBusAllocator A] [DocumentedAllocator A]
    {config : UsbAudioClassConfig AU} {alloc alloc' : A} {c : UsbAudioClass AU}
    (hb : config.build alloc = .ok (c, alloc')) {bus : B}
    {ts : List (Transition (World AU B) Event)} {w : World AU B}
    (hr : Run Step (World.start c bus) ts w) :
    (AllDeclared (World.start c bus) ∧ ∀ t ∈ ts, KeepsDeclared t) ↔ ∀ t ∈ ts, OnlyProper t := by
  obtain ⟨rate, hbuilt⟩ := build_ok hb
  have hstart := allDeclared_start hbuilt bus
  rw [and_iff_right hstart]
  exact hr.forall_iff (fun w => Wired w.cls) AllDeclared hbuilt.wired
    (fun hw hs => hs.wired hw) hstart keepsDeclared_step fun _ _ h => h.1

end

/-! ## Runs of the box -/

theorem declared_iff_proper_ioBox :
    ∃ ts, Run Step ioBoxStart ts (ioBoxLive 2) ∧ AllDeclared (ioBoxLive 2) := by
  obtain ⟨alloc, hb⟩ := build_ioBox
  have hr := Run.nil.snoc (step_controlOut ioBoxStart (selectSetting 2 1))
  refine ⟨_, hr, (((declared_iff_proper hb hr).mpr ?_).2 _ (List.mem_singleton_self _)).1⟩
  intro t ht
  rw [List.nil_append, List.mem_singleton] at ht
  subst ht
  rintro _ ⟨⟩ _ d _ _
  exact ⟨by decide, by decide⟩

/-- `SET_INTERFACE` with `wIndex` 0x0102 and `wValue` 7. -/
def strayRequest : ControlOut where
  request := ⟨.standard, .interface, Request.setInterface, 7, 0x0102, 0⟩
  data := []

/-- The request is taken as one for setting 7 of the IN stream, and accepted. -/
theorem strayRequest_accepted : (∃ alloc, ioBox.build Counters.fresh = .ok (ioBoxClass, alloc)) ∧
    (∃ ts, Run Step ioBoxStart ts (ioBoxStart.controlOut strayRequest)) ∧
    (ioBoxStart.controlOut strayRequest).cls.stored .in = some 7 ∧
    .alternateSettingChanged .in 7 ∈ (ioBoxStart.controlOut strayRequest).log ∧
    .accept ∈ (ioBoxStart.controlOut strayRequest).log ∧
    ¬ AllDeclared (ioBoxStart.controlOut strayRequest) ∧
    ¬ Addressed ioBoxClass strayRequest.request := by
  refine ⟨build_ioBox, ⟨_, Run.nil.snoc (step_controlOut ioBoxStart strayRequest)⟩, rfl,
    .head _, .tail _ (.tail _ (.head _)), fun h => ?_, fun h => ?_⟩
  · exact absurd (h.stored (d := .in) (rfl : _ = some (7 : UInt8))) (by rw [Declared]; decide)
  · exact absurd h.proper.1 (by decide)

end Uac2
