import UsbdUac2.Settings
import UsbdUac2.Bench

/-!
# The two copies of the selected setting

The class and the device each know which setting is selected.  They agree when
what is stored is what the device was told last, or 0 before it was told
anything.

A reset tells the device of setting 0 and leaves what is stored.  So a run keeps
the agreement exactly when every reset finds the streams at setting 0, and then
a host that starts over is served.
-/

namespace Uac2

open Runs

variable {AU B : Type}

/-- The last setting of a direction that a device was told of. -/
def lastNotice (d : UsbDirection) (log : List Action) : UInt8 := (notices d log).getLastD 0

/-- What is stored is what the device was told last. -/
def Agrees (w : World AU B) : Prop :=
  ∀ d alt, w.cls.stored d = some alt → alt = lastNotice d w.log

/-- The streams that are present are at setting 0. -/
def AllStopped (w : World AU B) : Prop := ∀ d alt, w.cls.stored d = some alt → alt = 0

theorem lastNotice_append (d : UsbDirection) (log acts : List Action) :
    lastNotice d (log ++ acts) = (notices d acts).getLastD (lastNotice d log) := by
  rw [lastNotice, notices_append, lastNotice]
  cases List.eq_nil_or_concat (notices d acts) with
  | inl h => rw [h, List.append_nil, List.getLastD_nil]
  | inr h =>
      obtain ⟨l, a, h⟩ := h
      rw [h, List.concat_eq_append, ← List.append_assoc, List.getLastD_concat,
        List.getLastD_concat]

section

variable [AudioHandler AU B] [ClockSource AU] [UsbBus B]

/-- A host that starts over on interface `n` is served: the setting reads 0, and
selecting setting 1 tells the device and is accepted. -/
def Restarts (w : World AU B) (d : UsbDirection) (n : InterfaceNumber) : Prop :=
  (∀ xfer : ControlIn, xfer.request.IsGetInterface → xfer.request.index.toUInt8 = n →
    xfer.buf ≠ [] → 0 < xfer.request.length →
    (w.controlIn xfer).log = w.log ++ [.answer [0]]) ∧
  ∀ xfer : ControlOut, xfer.request.IsSetInterface → xfer.request.index.toUInt8 = n →
    xfer.request.value = 1 →
    ∃ acts, (w.controlOut xfer).log = w.log ++ acts ∧
      .alternateSettingChanged d 1 ∈ acts ∧ .accept ∈ acts

omit [AudioHandler AU B] [UsbBus B] in
/-- `GET_INTERFACE` answers what is stored. -/
theorem controlIn_getInterface {w : World AU B} (hw : Wired w.cls) {xfer : ControlIn}
    (hx : xfer.request.IsGetInterface) {d : UsbDirection} {alt : UInt8}
    (hn : w.cls.number d = some xfer.request.index.toUInt8) (hs : w.cls.stored d = some alt) :
    w.controlIn xfer = w.answer (xfer.acceptWith [alt]) := by
  have hrun : w.controlIn xfer = w.getAltInterface xfer := by
    simp only [World.controlIn, World.standardRequestIn, hx.1, hx.2.1, hx.2.2, and_self, if_true]
  rw [hrun]
  cases d with
  | «in» =>
      obtain ⟨s, hi, hsn⟩ := Option.map_eq_some_iff.mp hn
      obtain ⟨s', hi', rfl⟩ := Option.map_eq_some_iff.mp hs
      cases hi.symm.trans hi'
      simp only [World.getAltInterface, hi, (hw.input_number hi).1, hsn, decide_true,
        Option.filter_some, if_true]
  | out =>
      obtain ⟨s, ho, hsn⟩ := Option.map_eq_some_iff.mp hn
      obtain ⟨s', ho', rfl⟩ := Option.map_eq_some_iff.mp hs
      cases ho.symm.trans ho'
      have hin : (w.cls.input.filter fun _ =>
          xfer.request.index.toUInt8 = w.cls.inIface) = none := by
        rw [Option.filter_eq_none_iff]
        intro i hi
        have := hw.inIface_ne_outIface hi ho
        rw [(hw.output_number ho).1, hsn] at this
        simpa using this.symm
      simp only [World.getAltInterface, hin, ho, (hw.output_number ho).1, hsn, decide_true,
        Option.filter_some, if_true]

theorem acceptWith_single {xfer : ControlIn} (alt : UInt8) (hbuf : xfer.buf ≠ [])
    (hlen : 0 < xfer.request.length) : xfer.acceptWith [alt] = some [alt] := by
  obtain ⟨request, buf⟩ := xfer
  have hmin : min 1 request.length.toNat = 1 :=
    Nat.min_eq_left (UInt16.lt_iff_toNat_lt.mp hlen)
  cases buf with
  | nil => exact absurd rfl hbuf
  | cons b buf => simp [ControlIn.acceptWith, ControlIn.acceptBuf, copyInto, hmin]

theorem restarts_of_allStopped {w : World AU B} (hw : Wired w.cls) (h : AllStopped w)
    {d : UsbDirection} {n : InterfaceNumber} (hn : w.cls.number d = some n) :
    Restarts w d n := by
  obtain ⟨alt, hs⟩ := UsbAudioClass.stored_of_number hn
  obtain rfl := h d alt hs
  refine ⟨?_, ?_⟩
  · rintro xfer hx rfl hbuf hlen
    rw [controlIn_getInterface hw hx hn hs, acceptWith_single 0 hbuf hlen]
    rfl
  · rintro xfer hx rfl hvalue
    have hselects : (Event.controlOut xfer).selects = some (xfer.request.index.toUInt8, 1) := by
      rw [Event.selects, if_pos hx, hvalue]
      rfl
    obtain ⟨acts, hlog, heffect⟩ := World.effective_controlOut (w := w) xfer
    refine ⟨acts, hlog, ?_⟩
    cases heffect.change hw with
    | select hn' he _ _ hnotices haccept =>
        cases hselects.symm.trans he
        cases hw.number_injective hn hn'
        refine ⟨mem_notices.mp ?_, haccept⟩
        rw [hnotices d, if_pos rfl]
        exact List.mem_singleton_self 1
    | keep _ hkeep =>
        cases hs.symm.trans (hkeep hn hselects)

/-- A step from an agreeing state agrees again exactly when it is not a reset of
a stream at another setting than 0. -/
theorem agrees_step {w w' : World AU B} {e : Event} (hw : Wired w.cls) (ha : Agrees w)
    (hs : Step w e w') : Agrees w' ↔ (e = .reset → AllStopped w) := by
  obtain ⟨acts, hlog, heffect⟩ := hs.effect
  cases heffect.change hw with
  | select _ he _ hstored hnotices =>
      refine ⟨fun _ hreset => ?_, fun _ d' alt' h => ?_⟩
      · subst hreset
        cases he
      · rw [hstored] at h
        rw [hlog, lastNotice_append, hnotices]
        split at h
        · rename_i hd
          rw [if_pos hd]
          exact (Option.some.inj h).symm
        · rename_i hd
          rw [if_neg hd]
          exact ha d' alt' h
  | reset hstored hnotices =>
      refine ⟨fun h _ d alt hd => ?_, fun h d alt hd => ?_⟩
      · have := h d alt (by rw [hstored]; exact hd)
        rwa [hlog, lastNotice_append, hnotices] at this
      · rw [hlog, lastNotice_append, hnotices]
        exact h rfl d alt (by rw [← hstored]; exact hd)
  | keep hreset _ hstored hnotices =>
      refine ⟨fun _ h => absurd h hreset, fun _ d alt hd => ?_⟩
      rw [hlog, lastNotice_append, hnotices]
      exact ha d alt (by rw [← hstored]; exact hd)

theorem allStopped_reset {w w' : World AU B} (hw : Wired w.cls) (hs : Step w .reset w')
    (h : AllStopped w) : AllStopped w' := by
  obtain ⟨acts, -, heffect⟩ := hs.effect
  intro d alt hd
  cases heffect.change hw with
  | select _ he => cases he
  | reset hstored => exact h d alt (by rw [← hstored]; exact hd)
  | keep hreset => exact absurd rfl hreset

omit [AudioHandler AU B] [UsbBus B] in
theorem agrees_start {config : UsbAudioClassConfig AU} {rate : UInt32} {c : UsbAudioClass AU}
    (hb : Built config rate c) (bus : B) : Agrees (World.start c bus) :=
  fun _ _ hd => hb.stored_eq hd

/-- In a run from build, the two copies agree in every state and every reset lets
the host start over, exactly when every reset finds the streams stopped. -/
theorem agrees_iff_resets_stopped {A : Type} [UsbBusAllocator A] [DocumentedAllocator A]
    {config : UsbAudioClassConfig AU} {alloc alloc' : A} {c : UsbAudioClass AU}
    (hb : config.build alloc = .ok (c, alloc')) {bus : B}
    {ts : List (Transition (World AU B) Event)} {w : World AU B}
    (hr : Run Step (World.start c bus) ts w) :
    (Agrees (World.start c bus) ∧ ∀ t ∈ ts, Agrees t.post ∧
      (t.event = .reset → ∀ d n, t.post.cls.number d = some n → Restarts t.post d n)) ↔
    ∀ t ∈ ts, t.event = .reset → AllStopped t.pre := by
  obtain ⟨rate, hbuilt⟩ := build_ok hb
  have hstart := agrees_start hbuilt bus
  rw [and_iff_right hstart]
  refine hr.forall_iff (fun w => Wired w.cls) Agrees hbuilt.wired (fun hw hs => hs.wired hw)
    hstart ?_ fun _ _ h => h.1
  intro t hw ha hs
  constructor
  · rintro ⟨hpost, -⟩
    exact (agrees_step hw ha hs).mp hpost
  · intro h
    refine ⟨(agrees_step hw ha hs).mpr h, fun hreset d n hn => ?_⟩
    rw [hreset] at hs
    exact restarts_of_allStopped (hs.wired hw) (allStopped_reset hw hs (h hreset)) hn

end

/-! ## Runs of the box -/

theorem agrees_iff_resets_stopped_ioBox : ∃ ts, Run Step ioBoxStart ts (ioBoxStopped 2).reset ∧
    Agrees (ioBoxStopped 2).reset ∧ Restarts (ioBoxStopped 2).reset .in 2 := by
  obtain ⟨alloc, hb⟩ := build_ioBox
  have hr := ((Run.nil.snoc (step_controlOut ioBoxStart (selectSetting 2 1))).snoc
    (step_controlOut (ioBoxLive 2) (selectSetting 2 0))).snoc (step_reset (ioBoxStopped 2))
  have hall := ((agrees_iff_resets_stopped hb hr).mpr ?_).2 _
    (List.mem_append_right _ (List.mem_singleton_self _))
  · exact ⟨_, hr, hall.1, hall.2 rfl .in 2 rfl⟩
  · intro t ht hreset d alt hd
    simp only [List.nil_append, List.mem_append, List.mem_singleton] at ht
    obtain ((rfl | rfl) | rfl) := ht
    · cases hreset
    · cases hreset
    · have hstopped : ∀ d, (ioBoxStopped 2).cls.stored d = some 0 := by
        intro d
        cases d <;> rfl
      exact (Option.some.inj ((hstopped d).symm.trans hd)).symm

/-- A reset while the IN stream is selected.  Setting 1 is still stored, and selecting
it again does nothing. -/
theorem reset_keeps_setting : (∃ alloc, ioBox.build Counters.fresh = .ok (ioBoxClass, alloc)) ∧
    (∃ ts, Run Step ioBoxStart ts (ioBoxLive 2).reset) ∧
    (ioBoxLive 2).reset.cls.stored .in = some 1 ∧ lastNotice .in (ioBoxLive 2).reset.log = 0 ∧
    ¬ Agrees (ioBoxLive 2).reset ∧
    (ioBoxLive 2).reset.controlOut (selectSetting 2 1) = (ioBoxLive 2).reset := by
  refine ⟨build_ioBox, ⟨_, (Run.nil.snoc (step_controlOut ioBoxStart (selectSetting 2 1))).snoc
    (step_reset (ioBoxLive 2))⟩, rfl, rfl, fun h => ?_, rfl⟩
  exact absurd (h .in 1 rfl) (by decide)

end Uac2
