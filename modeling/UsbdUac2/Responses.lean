import UsbdUac2.Acknowledgement
import UsbdUac2.ClockRange

/-!
# Responses on the control pipe

A control request is accepted, answered, or left to usb-device, which stalls it.
`Reply` is the table of the requests that the class answers, with the full answer to
each, and `Accepts` says which requests it accepts.  A full answer is cut to the
length that the host asks for, and is dropped when it does not fit the buffer of the
control pipe.

`responses_of_run` says that this is all that happens: in any run, a request gets the
one response of the table or none, and nothing else gets a response.  What is not
accepted or only answered leaves the class as it was.
-/

namespace Uac2

open ByteWriter
open Frames (le32)
open Runs (Run Transition)

variable {AU B : Type}

/-! ## The table -/

/-- The request is one of the clock, at interface `n`. -/
structure Request.IsClock (req : Request) (n : InterfaceNumber) (code : ClassSpecificRequest)
    (control : ClockSourceControlSelector) : Prop where
  type_eq : req.requestType = .class
  recipient_eq : req.recipient = .interface
  code_eq : ClassSpecificRequest.ofUInt8 req.request = code
  interface_eq : req.interface = n
  entity_eq : req.entity = 1
  control_eq : ClockSourceControlSelector.ofUInt8 req.control = control

/-- The full answer to a request to the host. -/
inductive Reply [ClockSource AU] (c : UsbAudioClass AU) (req : Request) : List UInt8 → Prop where
  | setting {d : UsbDirection} {alt : UInt8} :
      req.IsGetInterface → c.number d = some req.index.toUInt8 → c.stored d = some alt →
      Reply c req [alt]
  | sampleRate :
      req.IsClock c.controlIface .cur .samFreqControl →
      Reply c req (le32 (ClockSource.sampleRate c.audioImpl))
  | validity {valid : Bool} :
      req.IsClock c.controlIface .cur .clockValidControl →
      ClockSource.clockValidity c.audioImpl = .ok valid → Reply c req [valid.toUInt8]
  | range {rates : List (RangeEntry UInt32)} :
      req.IsClock c.controlIface .range .samFreqControl →
      ClockSource.sampleRates c.audioImpl = .ok rates →
      Reply c req (requestedBytes req.length rates)

/-- The class accepts a request from the host when it selects another setting of a
stream, or sets the rate of the clock with four bytes of data at least. -/
inductive Accepts (c : UsbAudioClass AU) (xfer : ControlOut) : Prop where
  | select {d : UsbDirection} {alt : UInt8} :
      xfer.request.IsSetInterface → c.number d = some xfer.request.index.toUInt8 →
      c.stored d = some alt → alt ≠ xfer.request.value.toUInt8 → Accepts c xfer
  | setRate {rate : UInt32} :
      xfer.request.IsClockCur c.controlIface → readU32 xfer.data = some rate → Accepts c xfer

def Action.IsResponse : Action → Bool
  | .accept => true
  | .answer _ => true
  | _ => false

/-- The responses among some actions. -/
def responses (acts : List Action) : List Action := acts.filter Action.IsResponse

/-- The responses that an event may get from a class. -/
inductive Responded [ClockSource AU] (c : UsbAudioClass AU) : Event → List Action → Prop where
  | accepted {xfer : ControlOut} : Accepts c xfer → Responded c (.controlOut xfer) [.accept]
  | ignored {xfer : ControlOut} : ¬ Accepts c xfer → Responded c (.controlOut xfer) []
  | answered {xfer : ControlIn} {bs : List UInt8} :
      Reply c xfer.request bs → bs.length ≤ xfer.buf.length →
      Responded c (.controlIn xfer) [.answer (bs.take xfer.request.length.toNat)]
  | unanswered {xfer : ControlIn} :
      (∀ bs, Reply c xfer.request bs → xfer.buf.length < bs.length) →
      Responded c (.controlIn xfer) []
  | endpointOut {addr : EndpointAddress} : Responded c (.endpointOut addr) []
  | endpointInComplete {addr : EndpointAddress} : Responded c (.endpointInComplete addr) []
  | poll : Responded c .poll []
  | reset : Responded c .reset []

/-! ### The table has one answer for a request -/

theorem Request.IsClock.unique {req : Request} {n m : InterfaceNumber}
    {code code' : ClassSpecificRequest} {control control' : ClockSourceControlSelector}
    (h : req.IsClock n code control) (h' : req.IsClock m code' control') :
    code = code' ∧ control = control' :=
  ⟨h.code_eq.symm.trans h'.code_eq, h.control_eq.symm.trans h'.control_eq⟩

theorem Request.IsGetInterface.not_isClock {req : Request} (h : req.IsGetInterface)
    {n : InterfaceNumber} {code : ClassSpecificRequest} {control : ClockSourceControlSelector} :
    ¬ req.IsClock n code control := by
  intro hc
  cases h.1.symm.trans hc.type_eq

theorem Reply.unique [ClockSource AU] {c : UsbAudioClass AU} (hw : Wired c) {req : Request}
    {bs bs' : List UInt8} (h : Reply c req bs) (h' : Reply c req bs') : bs = bs' := by
  cases h with
  | setting hget hn hs =>
      cases h' with
      | setting _ hn' hs' =>
          cases hw.number_injective hn hn'
          cases hs.symm.trans hs'
          rfl
      | sampleRate hc => exact absurd hc hget.not_isClock
      | validity hc => exact absurd hc hget.not_isClock
      | range hc => exact absurd hc hget.not_isClock
  | sampleRate hc =>
      cases h' with
      | setting hget => exact absurd hc hget.not_isClock
      | sampleRate => rfl
      | validity hc' => cases (hc.unique hc').2
      | range hc' => cases (hc.unique hc').1
  | validity hc hvalid =>
      cases h' with
      | setting hget => exact absurd hc hget.not_isClock
      | sampleRate hc' => cases (hc.unique hc').2
      | validity _ hvalid' =>
          cases hvalid.symm.trans hvalid'
          rfl
      | range hc' => cases (hc.unique hc').1
  | range hc hrates =>
      cases h' with
      | setting hget => exact absurd hc hget.not_isClock
      | sampleRate hc' => cases (hc.unique hc').1
      | validity hc' => cases (hc.unique hc').1
      | range _ hrates' =>
          cases hrates.symm.trans hrates'
          rfl

/-! ## Actions without a response -/

/-- The log grows by actions with the given responses. -/
def Responds (w w' : World AU B) (rs : List Action) : Prop :=
  ∃ acts, w'.log = w.log ++ acts ∧ responses acts = rs

namespace Responds

variable {w w₁ w₂ : World AU B} {rs rs' : List Action}

theorem refl (w : World AU B) : Responds w w [] := ⟨[], (List.append_nil _).symm, rfl⟩

theorem trans (h : Responds w w₁ rs) (h' : Responds w₁ w₂ rs') : Responds w w₂ (rs ++ rs') := by
  obtain ⟨acts, hlog, rfl⟩ := h
  obtain ⟨acts', hlog', rfl⟩ := h'
  refine ⟨acts ++ acts', ?_, List.filter_append ..⟩
  rw [hlog', hlog, List.append_assoc]

theorem note (a : Action) (w : World AU B) : Responds w (w.note a) (responses [a]) :=
  ⟨[a], rfl, rfl⟩

end Responds

/-! ## Requests from the host -/

section

variable {w : World AU B} {xfer : ControlOut}

/-- A request for the setting of a stream that is selected already is not accepted. -/
theorem not_accepts_selected (hw : Wired w.cls) (hx : xfer.request.IsSetInterface)
    {d : UsbDirection} (hn : w.cls.number d = some xfer.request.index.toUInt8)
    (hs : w.cls.stored d = some xfer.request.value.toUInt8) : ¬ Accepts w.cls xfer := by
  intro h
  cases h with
  | select _ hn' hs' hne =>
      cases hw.number_injective hn hn'
      cases hs.symm.trans hs'
      exact hne rfl
  | setRate hcur => cases hx.1.symm.trans hcur.1

/-- Nor is a request for another interface. -/
theorem not_accepts_foreign (hx : xfer.request.IsSetInterface)
    (hno : ∀ d, w.cls.number d ≠ some xfer.request.index.toUInt8) : ¬ Accepts w.cls xfer := by
  intro h
  cases h with
  | select _ hn => exact hno _ hn
  | setRate hcur => cases hx.1.symm.trans hcur.1

variable [AudioHandler AU B] [UsbBus B]

theorem responds_emitFeedback (w : World AU B) : Responds w w.emitFeedback [] := by
  obtain ⟨au, acts, -, hacts, -, hlog⟩ := World.emitFeedback_spec w
  refine ⟨acts, hlog, ?_⟩
  unfold FeedbackActions at hacts
  split at hacts
  · rw [hacts]
    rfl
  · rcases hacts with rfl | ⟨bytes, rfl⟩ <;> rfl

/-- The outcome of a request from the host: it is accepted, or nothing happens. -/
def Settled (w : World AU B) (xfer : ControlOut) (w' : World AU B) : Prop :=
  (Accepts w.cls xfer ∧ Responds w w' [.accept]) ∨ (¬ Accepts w.cls xfer ∧ w' = w)

omit [UsbBus B] in
theorem settled_setInputAlt (hw : Wired w.cls) (hx : xfer.request.IsSetInterface)
    {s : AudioStream .in} (hs : w.cls.input = some s)
    (hiface : xfer.request.index.toUInt8 = w.cls.inIface) :
    Settled w xfer (w.setInputAlt s xfer.request.value.toUInt8) := by
  have hn : w.cls.number .in = some xfer.request.index.toUInt8 := by
    rw [UsbAudioClass.number_input hs, hiface, (hw.input_number hs).1]
  have hstored := UsbAudioClass.stored_input hs
  unfold World.setInputAlt
  split
  · rename_i hne
    refine Or.inl ⟨.select hx hn hstored hne, [.alternateSettingChanged .in
      xfer.request.value.toUInt8, .audioDataTx s.endpoint, .accept], ?_, rfl⟩
    simp [World.accept, World.note, World.audioDataTx, World.alternateSettingChanged]
  · rename_i heq
    rw [Decidable.not_not.mp heq] at hstored
    exact Or.inr ⟨not_accepts_selected hw hx hn hstored, rfl⟩

theorem settled_setOutputAlt (hw : Wired w.cls) (hx : xfer.request.IsSetInterface)
    {s : AudioStream .out} (hs : w.cls.output = some s)
    (hiface : xfer.request.index.toUInt8 = w.cls.outIface) :
    Settled w xfer (w.setOutputAlt s xfer.request.value.toUInt8) := by
  have hn : w.cls.number .out = some xfer.request.index.toUInt8 := by
    rw [UsbAudioClass.number_output hs, hiface, (hw.output_number hs).1]
  have hstored := UsbAudioClass.stored_output hs
  unfold World.setOutputAlt
  split
  · rename_i hne
    have hchange : Responds w (w.alternateSettingChanged .out xfer.request.value.toUInt8) [] :=
      ⟨_, rfl, rfl⟩
    obtain ⟨acts, hlog, hacts⟩ := hchange.trans (responds_emitFeedback _)
    refine Or.inl ⟨.select hx hn hstored hne, acts ++ [.accept], ?_, ?_⟩
    · simp only [World.accept, World.note]
      rw [hlog, List.append_assoc]
    · rw [responses, List.filter_append]
      exact congrArg (· ++ [.accept]) hacts
  · rename_i heq
    rw [Decidable.not_not.mp heq] at hstored
    exact Or.inr ⟨not_accepts_selected hw hx hn hstored, rfl⟩

theorem settled_setAltInterface (hw : Wired w.cls) (hx : xfer.request.IsSetInterface) :
    Settled w xfer (w.setAltInterface xfer) := by
  unfold World.setAltInterface
  dsimp only
  split
  · rename_i s hs
    obtain ⟨hs, hiface⟩ := filter_eq_some hs
    exact settled_setInputAlt hw hx hs hiface
  · rename_i hin
    split
    · rename_i s hs
      obtain ⟨hs, hiface⟩ := filter_eq_some hs
      exact settled_setOutputAlt hw hx hs hiface
    · rename_i hout
      refine Or.inr ⟨not_accepts_foreign hx fun d hn => ?_, rfl⟩
      cases d with
      | «in» =>
          obtain ⟨s, hs, hsn⟩ := Option.map_eq_some_iff.mp hn
          rcases filter_eq_none hin with hnone | hne
          · cases hnone.symm.trans hs
          · exact hne (hsn.symm.trans (hw.input_number hs).1.symm)
      | out =>
          obtain ⟨s, hs, hsn⟩ := Option.map_eq_some_iff.mp hn
          rcases filter_eq_none hout with hnone | hne
          · cases hnone.symm.trans hs
          · exact hne (hsn.symm.trans (hw.output_number hs).1.symm)

end

/-! ## Requests to the host -/

/-- A full answer, as the host gets it. -/
def ControlIn.cut (xfer : ControlIn) (bs : List UInt8) : Option (List UInt8) :=
  if bs.length ≤ xfer.buf.length then some (bs.take xfer.request.length.toNat) else none

/-- The response that an answer is. -/
def answers : Option (List UInt8) → List Action
  | some bytes => [.answer bytes]
  | none => []

/-- The front of a buffer that begins with an answer. -/
theorem take_front (bs rest : List UInt8) (n : Nat) :
    (bs ++ rest).take (min bs.length n) = bs.take n := by
  rw [List.take_append_of_le_length (Nat.min_le_left _ _), Nat.min_comm, ← List.take_take,
    List.take_length]

theorem acceptWith_eq (xfer : ControlIn) (bs : List UInt8) : xfer.acceptWith bs = xfer.cut bs := by
  rw [ControlIn.acceptWith, ControlIn.acceptBuf, copyInto, ControlIn.cut]
  by_cases hfit : bs.length ≤ xfer.buf.length
  · have hlen : bs.length ≤ (bs ++ xfer.buf.drop bs.length).length := by
      rw [List.length_append]
      exact Nat.le_add_right _ _
    rw [if_neg (Nat.not_lt.mpr hfit), if_pos hfit]
    simp only [if_pos hlen, take_front]
  · rw [if_pos (Nat.lt_of_not_le hfit), if_neg hfit]

theorem acceptBuf_fillValid (xfer : ControlIn) (valid : Bool) :
    xfer.acceptBuf (fillValid valid) = xfer.cut [valid.toUInt8] := by
  obtain ⟨request, buf⟩ := xfer
  cases buf with
  | nil => rfl
  | cons b buf =>
      have hfill : fillValid valid (b :: buf) = (.ok 1, [valid.toUInt8] ++ buf) := rfl
      have hlen : 1 ≤ ([valid.toUInt8] ++ buf).length := Nat.le_add_left 1 buf.length
      have hfront := take_front [valid.toUInt8] buf request.length.toNat
      rw [List.length_singleton] at hfront
      rw [ControlIn.acceptBuf, hfill, ControlIn.cut]
      simp only [if_pos hlen, hfront]
      rfl

section

variable {w : World AU B} {xfer : ControlIn}

theorem responds_answer (r : Option (List UInt8)) (w : World AU B) :
    Responds w (w.answer r) (answers r) := by
  cases r with
  | none => exact .refl w
  | some bytes => exact .note _ w

/-- A query of the device, and the answer to the host. -/
theorem responds_query {a : Action} (ha : a.IsResponse = false) (r : Option (List UInt8)) :
    Responds w ((w.note a).answer r) (answers r) := by
  have hnote := Responds.note a w
  rw [responses, List.filter_cons_of_neg (by simp [ha])] at hnote
  exact hnote.trans (responds_answer r _)

variable [ClockSource AU]

/-- The request is handled by the methods for the clock. -/
theorem controlIn_clock {code : ClassSpecificRequest} {control : ClockSourceControlSelector}
    (h : xfer.request.IsClock w.cls.controlIface code control) :
    w.controlIn xfer =
      match code with
      | .cur => w.getClockCur xfer xfer.request.channel xfer.request.control
      | .range => w.getClockRange xfer xfer.request.channel xfer.request.control
      | _ => w := by
  simp only [World.controlIn, World.classRequestIn, h.type_eq, h.recipient_eq, h.code_eq]
  cases code with
  | cur =>
      simp only [World.getInterfaceCur, World.getControlInterfaceCur, h.interface_eq, h.entity_eq,
        if_true]
  | range =>
      simp only [World.getInterfaceRange, World.getControlInterfaceRange, h.interface_eq,
        h.entity_eq, if_true]
  | undefined => rfl
  | mem => rfl

/-- A request of the table gets its answer. -/
theorem responds_reply (hw : Wired w.cls) {bs : List UInt8} (h : Reply w.cls xfer.request bs) :
    Responds w (w.controlIn xfer) (answers (xfer.cut bs)) := by
  cases h with
  | @setting d alt hget hn hs =>
      rw [controlIn_getInterface hw hget hn hs, acceptWith_eq]
      exact responds_answer _ w
  | sampleRate hc =>
      have hword : Yields (do writeU32 (ClockSource.sampleRate w.cls.audioImpl); pure 4 :
          WriteM Slice SliceWriteError Nat) (le32 (ClockSource.sampleRate w.cls.audioImpl)) 4 := by
        have hall := (emits_writeAll (σ := Slice) (le32 (ClockSource.sampleRate
          w.cls.audioImpl))).followed (yields_pure 4)
        rwa [List.append_nil] at hall
      rw [controlIn_clock hc]
      simp only [World.getClockCur, hc.control_eq]
      rw [acceptBuf_fillBuf hword]
      exact responds_query rfl _
  | @validity valid hc hvalid =>
      have hnoted : ClockSource.clockValidity (w.note .clockValidity).cls.audioImpl = .ok valid :=
        hvalid
      rw [controlIn_clock hc]
      simp only [World.getClockCur, hc.control_eq, hnoted]
      rw [acceptBuf_fillValid]
      exact responds_query rfl _
  | @range rates hc hrates =>
      have hnoted : ClockSource.sampleRates (w.note .sampleRates).cls.audioImpl = .ok rates :=
        hrates
      rw [controlIn_clock hc]
      simp only [World.getClockRange, hc.control_eq, hnoted]
      rw [acceptBuf_fillBuf (yields_writeRange _ rates)]
      exact responds_query rfl _

omit [ClockSource AU] in
/-- A query of the device that it fails. -/
theorem responds_note {a : Action} (ha : a.IsResponse = false) : Responds w (w.note a) [] := by
  have hnote := Responds.note a w
  rwa [responses, List.filter_cons_of_neg (by simp [ha])] at hnote

theorem responds_noSetting (hw : Wired w.cls) (hx : xfer.request.IsGetInterface)
    (h : ∀ bs, ¬ Reply w.cls xfer.request bs) : w.getAltInterface xfer = w := by
  unfold World.getAltInterface
  dsimp only
  split
  · rename_i s hs
    obtain ⟨hs, hiface⟩ := filter_eq_some hs
    have hn : w.cls.number .in = some xfer.request.index.toUInt8 := by
      rw [UsbAudioClass.number_input hs, hiface, (hw.input_number hs).1]
    exact absurd (.setting hx hn (UsbAudioClass.stored_input hs)) (h _)
  · split
    · rename_i s hs
      obtain ⟨hs, hiface⟩ := filter_eq_some hs
      have hn : w.cls.number .out = some xfer.request.index.toUInt8 := by
        rw [UsbAudioClass.number_output hs, hiface, (hw.output_number hs).1]
      exact absurd (.setting hx hn (UsbAudioClass.stored_output hs)) (h _)
    · rfl

theorem responds_noClockCur (h : ∀ bs, ¬ Reply w.cls xfer.request bs) (channel : UInt8)
    (hx : ∀ control, ClockSourceControlSelector.ofUInt8 xfer.request.control = control →
      xfer.request.IsClock w.cls.controlIface .cur control) :
    Responds w (w.getClockCur xfer channel xfer.request.control) [] := by
  unfold World.getClockCur
  split
  · rename_i hcontrol
    exact absurd (.sampleRate (hx _ hcontrol)) (h _)
  · rename_i hcontrol
    dsimp only
    split
    · rename_i valid hvalid
      exact absurd (.validity (hx _ hcontrol) hvalid) (h _)
    · exact responds_note rfl
  · exact .refl w

theorem responds_noClockRange (h : ∀ bs, ¬ Reply w.cls xfer.request bs) (channel : UInt8)
    (hx : ∀ control, ClockSourceControlSelector.ofUInt8 xfer.request.control = control →
      xfer.request.IsClock w.cls.controlIface .range control) :
    Responds w (w.getClockRange xfer channel xfer.request.control) [] := by
  unfold World.getClockRange
  split
  · rename_i hcontrol
    dsimp only
    split
    · rename_i rates hrates
      exact absurd (.range (hx _ hcontrol) hrates) (h _)
    · exact responds_note rfl
  · exact .refl w

/-- A request that is not in the table gets no answer. -/
theorem responds_unsupported (hw : Wired w.cls) (h : ∀ bs, ¬ Reply w.cls xfer.request bs) :
    Responds w (w.controlIn xfer) [] := by
  unfold World.controlIn
  split
  · rename_i htype
    unfold World.standardRequestIn
    split
    · rename_i hget
      rw [responds_noSetting hw ⟨htype, hget⟩ h]
      exact .refl w
    · exact .refl w
  · rename_i htype
    unfold World.classRequestIn
    split
    · rename_i hrecipient hcur
      dsimp only [World.getInterfaceCur, World.getControlInterfaceCur]
      split_ifs with hiface hentity
      · exact responds_noClockCur h _ fun _ hcontrol =>
          ⟨htype, hrecipient, hcur, hiface, hentity, hcontrol⟩
      · exact .refl w
      · exact .refl w
    · rename_i hrecipient hrange
      dsimp only [World.getInterfaceRange, World.getControlInterfaceRange]
      split_ifs with hiface hentity
      · exact responds_noClockRange h _ fun _ hcontrol =>
          ⟨htype, hrecipient, hrange, hiface, hentity, hcontrol⟩
      · exact .refl w
      · exact .refl w
    all_goals exact .refl w
  · exact .refl w

/-- What a request to the host gets is in the table. -/
theorem responded_controlIn (hw : Wired w.cls) (xfer : ControlIn) :
    ∃ rs, Responds w (w.controlIn xfer) rs ∧ Responded w.cls (.controlIn xfer) rs := by
  by_cases hreply : ∃ bs, Reply w.cls xfer.request bs
  · obtain ⟨bs, hbs⟩ := hreply
    refine ⟨_, responds_reply hw hbs, ?_⟩
    rw [ControlIn.cut]
    by_cases hfit : bs.length ≤ xfer.buf.length
    · rw [if_pos hfit]
      exact .answered hbs hfit
    · rw [if_neg hfit]
      refine .unanswered fun bs' hbs' => ?_
      rw [hbs'.unique hw hbs]
      exact Nat.lt_of_not_le hfit
  · have hnone : ∀ bs, ¬ Reply w.cls xfer.request bs := fun bs hbs => hreply ⟨bs, hbs⟩
    exact ⟨[], responds_unsupported hw hnone, .unanswered fun bs hbs => absurd hbs (hnone bs)⟩

end

/-! ## Every event -/

section

variable [AudioHandler AU B] [ClockSource AU] [UsbBus B] {w : World AU B}

/-- A request from the host is accepted or does nothing. -/
theorem settled_controlOut (hw : Wired w.cls) (xfer : ControlOut) :
    Settled w xfer (w.controlOut xfer) := by
  by_cases hx : xfer.request.IsSetInterface
  · have hrun : w.controlOut xfer = w.setAltInterface xfer := by
      simp only [World.controlOut, World.standardRequestOut, hx.1, hx.2.1, hx.2.2, and_self,
        if_true]
    rw [hrun]
    exact settled_setAltInterface hw hx
  · by_cases hcur : xfer.request.IsClockCur w.cls.controlIface
    · obtain ⟨hclass, hrecipient, hcode, hnumber, hentity, hcontrol⟩ := id hcur
      have hrun : w.controlOut xfer =
          w.setClockCur xfer xfer.request.channel xfer.request.control := by
        simp only [World.controlOut, World.classRequestOut, World.setInterfaceCur,
          World.setControlInterfaceCur, hclass, hrecipient, hcode, hnumber, hentity, if_true]
      rw [hrun]
      cases hrate : readU32 xfer.data with
      | some rate =>
          refine Or.inl ⟨.setRate hcur hrate, [.setSampleRate rate, .accept], ?_, rfl⟩
          simp only [World.setClockCur, hcontrol, hrate]
          simp [World.accept, World.note, World.setSampleRate]
      | none =>
          refine Or.inr ⟨?_, by simp only [World.setClockCur, hcontrol, hrate]⟩
          intro h
          cases h with
          | select hset => exact hx hset
          | setRate _ hsome => cases hrate.symm.trans hsome
    · refine Or.inr ⟨?_, World.controlOut_unhandled hx hcur⟩
      intro h
      cases h with
      | select hset => exact hx hset
      | setRate hset => exact hcur hset

omit [AudioHandler AU B] [ClockSource AU] in
theorem responds_pollLoop (fuel : Nat) :
    ∀ {w w' : World AU B}, w.pollLoop fuel = some w' → Responds w w' [] := by
  induction fuel with
  | zero =>
      intro w w' h
      cases h
  | succ fuel ih =>
      intro w w' h
      rw [World.pollLoop] at h
      split at h
      · exact ih h
      · rename_i output _
        have hread : Responds w (w.readPacket output.endpoint).2 [] := ⟨_, rfl, rfl⟩
        split at h
        all_goals
          rename_i hr
          rw [hr] at hread
        · split at h
          · exact hread.trans (ih h)
          · cases h
            exact hread
        · cases h
          exact hread
        · exact hread.trans (ih h)

omit [ClockSource AU] in
theorem responds_endpointInComplete (addr : EndpointAddress) (w : World AU B) :
    Responds w (w.endpointInComplete addr) [] := by
  unfold World.endpointInComplete
  split
  · exact responds_emitFeedback w
  · split
    · exact ⟨_, rfl, rfl⟩
    · exact .refl w

/-- What a step does on the control pipe, and that the class stays as it was when it is
not to change. -/
structure Served (t : Transition (World AU B) Event) : Prop where
  responded : Responded t.pre.cls t.event (responses (actionsOf t.pre t.post))
  asked : ∀ xfer, t.event = .controlIn xfer → t.post.cls = t.pre.cls
  ignored : ∀ xfer, t.event = .controlOut xfer → ¬ Accepts t.pre.cls xfer →
    t.post.cls = t.pre.cls ∧ actionsOf t.pre t.post = []

omit [AudioHandler AU B] [ClockSource AU] [UsbBus B] in
theorem Responds.responses_eq {w' : World AU B} {rs : List Action} (h : Responds w w' rs) :
    responses (actionsOf w w') = rs := by
  obtain ⟨acts, hlog, hacts⟩ := h
  rwa [actionsOf, hlog, List.drop_left]

omit [AudioHandler AU B] [UsbBus B] in
/-- An event that is no request and causes no response. -/
theorem served_of_silent {w' : World AU B} {e : Event} (h : Responds w w' [])
    (he : Responded w.cls e []) (hin : ∀ xfer, e ≠ .controlIn xfer)
    (hout : ∀ xfer, e ≠ .controlOut xfer) : Served ⟨w, e, w'⟩ where
  responded := by
    rw [h.responses_eq]
    exact he
  asked xfer hx := absurd hx (hin xfer)
  ignored xfer hx := absurd hx (hout xfer)

theorem served_controlOut (hw : Wired w.cls) (xfer : ControlOut) :
    Served ⟨w, .controlOut xfer, w.controlOut xfer⟩ := by
  rcases settled_controlOut hw xfer with ⟨haccepts, hresponds⟩ | ⟨hnot, hsame⟩
  · refine ⟨?_, fun _ h => (nomatch h), ?_⟩
    · show Responded w.cls _ (responses (actionsOf w _))
      rw [hresponds.responses_eq]
      exact .accepted haccepts
    · rintro _ ⟨⟩ hnot
      exact absurd haccepts hnot
  · have hnone : actionsOf w (w.controlOut xfer) = [] := by
      rw [hsame, actionsOf, List.drop_length]
    refine ⟨?_, fun _ h => (nomatch h), fun _ _ _ => ⟨congrArg World.cls hsame, hnone⟩⟩
    show Responded w.cls _ (responses (actionsOf w _))
    rw [hnone]
    exact .ignored hnot

omit [AudioHandler AU B] [UsbBus B] in
theorem served_controlIn (hw : Wired w.cls) (xfer : ControlIn) :
    Served ⟨w, .controlIn xfer, w.controlIn xfer⟩ := by
  obtain ⟨rs, hresponds, hresponded⟩ := responded_controlIn hw xfer
  refine ⟨?_, fun _ _ => (World.quiet_controlIn xfer w).1, fun _ h => (nomatch h)⟩
  show Responded w.cls _ (responses (actionsOf w _))
  rw [hresponds.responses_eq]
  exact hresponded

/-- An event that is handled is served. -/
theorem served_handle (hw : Wired w.cls) {fuel : Nat} {e : Event} {w' : World AU B}
    (h : w.handle fuel e = some w') : Served ⟨w, e, w'⟩ := by
  cases e with
  | controlOut xfer =>
      cases h
      exact served_controlOut hw xfer
  | controlIn xfer =>
      cases h
      exact served_controlIn hw xfer
  | endpointOut addr =>
      refine served_of_silent ?_ .endpointOut (by simp) (by simp)
      simp only [World.handle, World.endpointOut] at h
      split at h
      · obtain ⟨s, -, rfl⟩ := Option.map_eq_some_iff.mp h
        exact ⟨_, rfl, rfl⟩
      · cases h
        exact .refl w
  | endpointInComplete addr =>
      cases h
      exact served_of_silent (responds_endpointInComplete addr w) .endpointInComplete (by simp)
        (by simp)
  | poll =>
      refine served_of_silent ?_ .poll (by simp) (by simp)
      simp only [World.handle, World.poll] at h
      split at h
      · cases h
        exact .refl w
      · exact responds_pollLoop fuel h
  | reset =>
      cases h
      exact served_of_silent ⟨[.alternateSettingChanged .in 0, .alternateSettingChanged .out 0],
        by simp [World.reset, World.alternateSettingChanged], rfl⟩ .reset (by simp) (by simp)

/-- In every run from build, a request gets the response of the table or none, and no
other event gets one.  A request to the host leaves the class as it was, and so does a
request from the host that is not accepted, which does nothing at all. -/
theorem responses_of_run {A : Type} [UsbBusAllocator A] [DocumentedAllocator A]
    {config : UsbAudioClassConfig AU} {alloc alloc' : A} {c : UsbAudioClass AU}
    (hb : config.build alloc = .ok (c, alloc')) {bus : B}
    {ts : List (Transition (World AU B) Event)} (hr : Run Step (World.start c bus) ts w) :
    ∀ t ∈ ts, Served t := by
  obtain ⟨rate, hbuilt⟩ := build_ok hb
  refine hr.forall_mem (fun w => Wired w.cls) hbuilt.wired (fun hw hs => hs.wired hw) ?_
  rintro ⟨pre, e, post⟩ hw ⟨bus', fuel, hs⟩
  have hserved := served_handle (w := { pre with bus := bus' }) hw hs
  exact ⟨hserved.responded, hserved.asked, hserved.ignored⟩

end

/-- The box is asked for a stream, for the same again, and for its rates. -/
theorem responses_of_run_ioBox : ∃ ts, Run Step ioBoxStart ts
    (((ioBoxLive 2).controlOut (selectSetting 2 1)).controlIn (World.getRange 14)) ∧
    ts.map (fun t => responses (actionsOf t.pre t.post)) =
      [[.accept], [], [.answer (sentRange 14 [.newFixed 48000])]] ∧
    ∀ t ∈ ts, Served t := by
  obtain ⟨alloc, hb⟩ := build_ioBox
  have hlast : Step ((ioBoxLive 2).controlOut (selectSetting 2 1))
      (.controlIn (World.getRange 14))
      (((ioBoxLive 2).controlOut (selectSetting 2 1)).controlIn (World.getRange 14)) :=
    ⟨⟨⟩, 0, rfl⟩
  have hr := ((Run.nil.snoc (step_controlOut ioBoxStart (selectSetting 2 1))).snoc
    (step_controlOut (ioBoxLive 2) (selectSetting 2 1))).snoc hlast
  exact ⟨_, hr, rfl, responses_of_run hb hr⟩

end Uac2
