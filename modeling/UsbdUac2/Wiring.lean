import UsbdUac2.AudioClass

/-!
# What build leaves

`Wired` says how the parts of the class belong together: which interface number
and which endpoint index is whose, and that there is a feedback endpoint exactly
when there is an OUT stream.  Events change the selected settings, the nominal
rate and the device, and nothing of this.

`Built` adds what holds only at first, and how the streams come from the
configuration.
-/

namespace Uac2

open ByteWriter

variable {AU A : Type}

/-- The parts of the class that belong together. -/
structure Wired (c : UsbAudioClass AU) : Prop where
  feedback_isSome : c.feedback.isSome = c.output.isSome
  output_number : ∀ {s}, c.output = some s →
    c.outIface = s.interface ∧ s.interface = c.controlIface + 1
  input_number : ∀ {s}, c.input = some s →
    c.inIface = s.interface ∧ s.interface = c.controlIface + if c.output.isSome then 2 else 1
  output_ep : ∀ {s}, c.output = some s → c.outEp = s.endpoint.address.index ∧ c.outEp ≠ 0
  output_absent : c.output = none → c.outEp = 0
  feedback_ep : ∀ {ep}, c.feedback = some ep → c.fbEp = ep.address.index ∧ c.fbEp ≠ 0
  input_ep : ∀ {s}, c.input = some s → c.inEp = s.endpoint.address.index ∧ c.inEp ≠ 0
  input_ne_feedback : ∀ {s ep}, c.input = some s → c.feedback = some ep → c.inEp ≠ c.fbEp

/-- The class as it is built from a configuration, for rates up to `rate`. -/
structure Built (config : UsbAudioClassConfig AU) [ClockSource AU] (rate : UInt32)
    (c : UsbAudioClass AU) : Prop where
  maxRate_eq : maxRate config.audioImpl = .ok rate
  timing_eq : ∃ interval fbInterval,
    config.speed.timing = .ok (interval, fbInterval, c.audioRate)
  audioImpl_eq : c.audioImpl = config.audioImpl
  additional_eq : c.additionalDescriptors = config.additionalDescriptors
  category_eq : c.deviceCategory = config.deviceCategory
  nominal_eq : c.nominalFb = nominal (ClockSource.sampleRate config.audioImpl) c.audioRate
  output_eq : c.output.map AudioStream.config = config.outputConfig
  input_eq : c.input.map AudioStream.config = config.inputConfig
  output_fresh : ∀ {s}, c.output = some s → s.altSetting = 0 ∧ s.endpoint.usage = .data ∧
    s.endpoint.maxPacketSize = packetSize rate c.audioRate s.config
  input_fresh : ∀ {s}, c.input = some s → s.altSetting = 0 ∧ s.endpoint.usage = .data ∧
    s.endpoint.maxPacketSize = packetSize rate c.audioRate s.config
  feedback_usage : ∀ {ep}, c.feedback = some ep → ep.usage = .feedback
  wired : Wired c

section

variable [UsbBusAllocator A]

theorem isochronous_ok {D : UsbDirection} {sync : IsochronousSynchronizationType}
    {usage : IsochronousUsageType} {size : UInt16} {interval : UInt8} {alloc : A}
    {r : Endpoint D × A} (h : isochronous D sync usage size interval alloc = .ok r) :
    UsbBusAllocator.isochronous D sync usage size interval alloc = some r := by
  unfold isochronous at h
  split at h
  · rename_i h'
    cases h
    exact h'
  · cases h

theorem bind_eq_ok {ε α β : Type} {x : Except ε α} {f : α → Except ε β} {b : β}
    (h : x >>= f = .ok b) : ∃ a, x = .ok a ∧ f a = .ok b := by
  cases x with
  | error e => cases h
  | ok a => exact ⟨a, rfl, h⟩

theorem bind_eq_error {ε α β : Type} {x : Except ε α} {f : α → Except ε β} {e : ε}
    (h : x >>= f = .error e) : x = .error e ∨ ∃ a, x = .ok a ∧ f a = .error e := by
  cases x with
  | error e' =>
      cases h
      exact Or.inl rfl
  | ok a => exact Or.inr ⟨a, rfl, h⟩

namespace UsbAudioClass

variable {ac ac' : UsbAudioClass AU} {rate : UInt32} {interval fbInterval : UInt8}
  {alloc alloc' : A}

/-- An OUT stream is made of an interface and two endpoints. -/
theorem addOutput_ok {config : TerminalConfig .out}
    (h : ac.addOutput rate interval fbInterval alloc (some config) = .ok (ac', alloc')) :
    ∃ ep fb alloc₁, UsbBusAllocator.isochronous .out config.syncType .data
        (packetSize rate ac.audioRate config) interval (UsbBusAllocator.interface alloc).2 =
          some (ep, alloc₁) ∧
      UsbBusAllocator.isochronous .in .noSynchronization .feedback 4 fbInterval alloc₁ =
        some (fb, alloc') ∧
      ac' = { ac with
        outIface := (UsbBusAllocator.interface alloc).1
        outEp := ep.address.index
        fbEp := fb.address.index
        output := some ⟨config, (UsbBusAllocator.interface alloc).1, ep, 0⟩
        feedback := some fb } := by
  obtain ⟨⟨ep, alloc₁⟩, hep, h⟩ := bind_eq_ok h
  obtain ⟨⟨fb, alloc₂⟩, hfb, h⟩ := bind_eq_ok h
  cases h
  exact ⟨ep, fb, alloc₁, isochronous_ok hep, isochronous_ok hfb, rfl⟩

/-- An IN stream is made of an interface and an endpoint. -/
theorem addInput_ok {config : TerminalConfig .in}
    (h : ac.addInput rate interval alloc (some config) = .ok (ac', alloc')) :
    ∃ ep, UsbBusAllocator.isochronous .in config.syncType .data
        (packetSize rate ac.audioRate config) interval (UsbBusAllocator.interface alloc).2 =
          some (ep, alloc') ∧
      ac' = { ac with
        inIface := (UsbBusAllocator.interface alloc).1
        inEp := ep.address.index
        input := some ⟨config, (UsbBusAllocator.interface alloc).1, ep, 0⟩ } := by
  obtain ⟨⟨ep, alloc₁⟩, hep, h⟩ := bind_eq_ok h
  cases h
  exact ⟨ep, isochronous_ok hep, rfl⟩

end UsbAudioClass

/-! ## The stages of build -/

variable [ClockSource AU] [DocumentedAllocator A]

open DocumentedAllocator (nextInterface Taken)

/-- An index that an allocation gives out was free, and is taken after it. -/
theorem index_ne_zero {D : UsbDirection} {sync : IsochronousSynchronizationType}
    {usage : IsochronousUsageType} {size : UInt16} {interval : UInt8} {alloc alloc' : A}
    {ep : Endpoint D}
    (h : UsbBusAllocator.isochronous D sync usage size interval alloc = some (ep, alloc')) :
    ep.address.index ≠ 0 := by
  intro h0
  apply (DocumentedAllocator.isochronous_fresh h).1
  rw [h0]
  exact DocumentedAllocator.taken_control alloc D

omit [ClockSource AU] in
/-- The data endpoint of an OUT stream that is added is one for OUT packets. -/
theorem UsbAudioClass.addOutput_direction {ac ac' : UsbAudioClass AU} {rate : UInt32}
    {interval fbInterval : UInt8} {alloc alloc' : A} {config : Option (TerminalConfig .out)}
    (hnone : ac.output = none)
    (h : ac.addOutput rate interval fbInterval alloc config = .ok (ac', alloc')) :
    (∀ s ∈ ac'.output, s.endpoint.address.direction = .out) ∧ ac'.input = ac.input := by
  cases config with
  | none =>
      cases h
      exact ⟨fun s hs => absurd (hnone.symm.trans hs) (by simp), rfl⟩
  | some out =>
      obtain ⟨ep, fb, alloc₁, hep, -, rfl⟩ := addOutput_ok h
      refine ⟨?_, rfl⟩
      rintro s ⟨⟩
      exact (DocumentedAllocator.isochronous_endpoint hep).1

omit [ClockSource AU] in
/-- The data endpoint of an IN stream that is added is one for IN packets. -/
theorem UsbAudioClass.addInput_direction {ac ac' : UsbAudioClass AU} {rate : UInt32}
    {interval : UInt8} {alloc alloc' : A} {config : Option (TerminalConfig .in)}
    (hnone : ac.input = none)
    (h : ac.addInput rate interval alloc config = .ok (ac', alloc')) :
    (∀ s ∈ ac'.input, s.endpoint.address.direction = .in) ∧ ac'.output = ac.output := by
  cases config with
  | none =>
      cases h
      exact ⟨fun s hs => absurd (hnone.symm.trans hs) (by simp), rfl⟩
  | some inp =>
      obtain ⟨ep, hep, rfl⟩ := addInput_ok h
      refine ⟨?_, rfl⟩
      rintro s ⟨⟩
      exact (DocumentedAllocator.isochronous_endpoint hep).1

/-- The class behind the OUT stage, and what the allocator has given out by then. -/
structure OutputStage (config : UsbAudioClassConfig AU) (rate : UInt32) (c : UsbAudioClass AU)
    (alloc : A) : Prop where
  built : Built { config with inputConfig := none } rate c
  next_eq : nextInterface alloc = c.controlIface + if c.output.isSome then 2 else 1
  feedback_taken : ∀ {ep}, c.feedback = some ep → Taken alloc .in ep.address.index

variable {config : UsbAudioClassConfig AU} {rate : UInt32} {c c' : UsbAudioClass AU}
  {interval fbInterval : UInt8} {alloc alloc' : A}

omit [ClockSource AU] [UsbBusAllocator A] [DocumentedAllocator A] in
/-- The parts of an OUT stream belong together, whatever there was. -/
theorem wired_output (hinput : c.input = none) {out : TerminalConfig .out}
    {number : InterfaceNumber} (hnumber : number = c.controlIface + 1) {ep : Endpoint .out}
    (hep : ep.address.index ≠ 0) {fb : Endpoint .in} (hfb : fb.address.index ≠ 0) :
    Wired { c with
      outIface := number
      outEp := ep.address.index
      fbEp := fb.address.index
      output := some ⟨out, number, ep, 0⟩
      feedback := some fb } where
  feedback_isSome := rfl
  output_number := by rintro s ⟨⟩; exact ⟨rfl, hnumber⟩
  input_number hs := absurd (hinput.symm.trans hs) (by simp)
  output_ep := by rintro s ⟨⟩; exact ⟨rfl, hep⟩
  output_absent hs := absurd hs (by simp)
  feedback_ep := by rintro s ⟨⟩; exact ⟨rfl, hfb⟩
  input_ep hs := absurd (hinput.symm.trans hs) (by simp)
  input_ne_feedback hs := absurd (hinput.symm.trans hs) (by simp)

theorem Built.addOutput
    (hb : Built { config with inputConfig := none, outputConfig := none } rate c)
    (hnext : nextInterface alloc = c.controlIface + 1)
    (h : c.addOutput rate interval fbInterval alloc config.outputConfig = .ok (c', alloc')) :
    OutputStage config rate c' alloc' := by
  have houtput : c.output = none := Option.map_eq_none_iff.mp hb.output_eq
  have hinput : c.input = none := Option.map_eq_none_iff.mp hb.input_eq
  have hfeedback : c.feedback = none := by
    rw [← Option.isNone_iff_eq_none, ← Option.not_isSome, hb.wired.feedback_isSome, houtput]
    rfl
  cases hconfig : config.outputConfig with
  | none =>
      rw [hconfig] at h
      cases h
      refine ⟨{ hb with output_eq := hb.output_eq.trans hconfig.symm }, ?_, fun he => ?_⟩
      · rw [hnext, houtput]
        rfl
      · rw [hfeedback] at he
        cases he
  | some out =>
      rw [hconfig] at h
      obtain ⟨ep, fb, alloc₁, hep, hfb, rfl⟩ := UsbAudioClass.addOutput_ok h
      have hnumber : (UsbBusAllocator.interface alloc).1 = c.controlIface + 1 :=
        (DocumentedAllocator.interface_fst alloc).trans hnext
      obtain ⟨-, -, husage, hsize, -⟩ := DocumentedAllocator.isochronous_endpoint hep
      obtain ⟨-, -, hfbUsage, -, -⟩ := DocumentedAllocator.isochronous_endpoint hfb
      refine ⟨{
        maxRate_eq := hb.maxRate_eq
        timing_eq := hb.timing_eq
        audioImpl_eq := hb.audioImpl_eq
        additional_eq := hb.additional_eq
        category_eq := hb.category_eq
        nominal_eq := hb.nominal_eq
        output_eq := hconfig.symm
        input_eq := hb.input_eq
        output_fresh := ?_
        input_fresh := hb.input_fresh
        feedback_usage := ?_
        wired := wired_output hinput hnumber (index_ne_zero hep) (index_ne_zero hfb) }, ?_, ?_⟩
      · rintro s ⟨⟩
        exact ⟨rfl, husage, hsize⟩
      · rintro _ ⟨⟩
        exact hfbUsage
      · rw [DocumentedAllocator.isochronous_interface hfb,
          DocumentedAllocator.isochronous_interface hep,
          DocumentedAllocator.nextInterface_interface, hnext]
        exact UInt8.add_assoc _ _ _
      · rintro _ ⟨⟩
        exact ((DocumentedAllocator.isochronous_fresh hfb).2 _ _).mpr (Or.inr ⟨rfl, rfl⟩)

theorem OutputStage.addInput (hs : OutputStage config rate c alloc)
    (h : c.addInput rate interval alloc config.inputConfig = .ok (c', alloc')) :
    Built config rate c' := by
  have hb := hs.built
  have hinput : c.input = none := Option.map_eq_none_iff.mp hb.input_eq
  cases hconfig : config.inputConfig with
  | none =>
      rw [hconfig] at h
      cases h
      exact { hb with input_eq := hb.input_eq.trans hconfig.symm }
  | some inp =>
      rw [hconfig] at h
      obtain ⟨ep, hep, rfl⟩ := UsbAudioClass.addInput_ok h
      have hnumber : (UsbBusAllocator.interface alloc).1 =
          c.controlIface + if c.output.isSome then 2 else 1 :=
        (DocumentedAllocator.interface_fst alloc).trans hs.next_eq
      obtain ⟨-, -, husage, hsize, -⟩ := DocumentedAllocator.isochronous_endpoint hep
      refine {
        maxRate_eq := hb.maxRate_eq
        timing_eq := hb.timing_eq
        audioImpl_eq := hb.audioImpl_eq
        additional_eq := hb.additional_eq
        category_eq := hb.category_eq
        nominal_eq := hb.nominal_eq
        output_eq := hb.output_eq
        input_eq := hconfig.symm
        output_fresh := hb.output_fresh
        input_fresh := ?_
        feedback_usage := hb.feedback_usage
        wired := { hb.wired with
          input_number := by rintro s ⟨⟩; exact ⟨rfl, hnumber⟩
          input_ep := by rintro s ⟨⟩; exact ⟨rfl, index_ne_zero hep⟩
          input_ne_feedback := ?_ } }
      · rintro s ⟨⟩
        exact ⟨rfl, husage, hsize⟩
      · rintro _ fb ⟨⟩ hfb heq
        apply (DocumentedAllocator.isochronous_fresh hep).1
        rw [DocumentedAllocator.taken_interface]
        have hindex : ep.address.index = fb.address.index :=
          heq.trans (hb.wired.feedback_ep hfb).1
        rw [hindex]
        exact hs.feedback_taken hfb

/-- What build returns is built from the configuration. -/
theorem build_ok (h : config.build alloc = .ok (c, alloc')) : ∃ rate, Built config rate c := by
  obtain ⟨⟨interval, fbInterval, audioRate⟩, htiming, h⟩ := bind_eq_ok h
  obtain ⟨rate, hrate, h⟩ := bind_eq_ok h
  obtain ⟨⟨c₁, alloc₁⟩, houtput, hinput⟩ := bind_eq_ok h
  refine ⟨rate, OutputStage.addInput (Built.addOutput ?_ ?_ houtput) hinput⟩
  · exact {
      maxRate_eq := hrate
      timing_eq := ⟨interval, fbInterval, htiming⟩
      audioImpl_eq := rfl
      additional_eq := rfl
      category_eq := rfl
      nominal_eq := rfl
      output_eq := rfl
      input_eq := rfl
      output_fresh := fun hs => nomatch hs
      input_fresh := fun hs => nomatch hs
      feedback_usage := fun hs => nomatch hs
      wired := {
        feedback_isSome := rfl
        output_number := fun hs => nomatch hs
        input_number := fun hs => nomatch hs
        output_ep := fun hs => nomatch hs
        output_absent := fun _ => rfl
        feedback_ep := fun hs => nomatch hs
        input_ep := fun hs => nomatch hs
        input_ne_feedback := fun hs => nomatch hs } }
  · exact (DocumentedAllocator.nextInterface_interface alloc).trans
      (congrArg (· + 1) (DocumentedAllocator.interface_fst alloc).symm)

/-- The data endpoints of the streams have the directions of the streams. -/
theorem directions_of_build (h : config.build alloc = .ok (c, alloc')) :
    (∀ s ∈ c.output, s.endpoint.address.direction = .out) ∧
      ∀ s ∈ c.input, s.endpoint.address.direction = .in := by
  obtain ⟨⟨interval, fbInterval, audioRate⟩, -, h⟩ := bind_eq_ok h
  obtain ⟨rate, -, h⟩ := bind_eq_ok h
  obtain ⟨⟨c₁, alloc₁⟩, houtput, hinput⟩ := bind_eq_ok h
  obtain ⟨hout, hsame⟩ := UsbAudioClass.addOutput_direction rfl houtput
  obtain ⟨hin, hkept⟩ := UsbAudioClass.addInput_direction hsame hinput
  exact ⟨fun s hs => hout s (by rwa [hkept] at hs), hin⟩

end

/-! ## Numbers of the interfaces -/

namespace Wired

variable {c : UsbAudioClass AU}

/-- Two streams that are present have different interface numbers. -/
theorem inIface_ne_outIface (hw : Wired c) {i : AudioStream .in} {o : AudioStream .out}
    (hi : c.input = some i) (ho : c.output = some o) : c.inIface ≠ c.outIface := by
  obtain ⟨hin, hinput⟩ := hw.input_number hi
  obtain ⟨hout, houtput⟩ := hw.output_number ho
  rw [hin, hinput, hout, houtput, ho]
  intro h
  have htwo : (2 : UInt8) = 1 := (UInt8.add_right_inj c.controlIface).mp h
  exact absurd htwo (by decide)

end Wired

end Uac2
