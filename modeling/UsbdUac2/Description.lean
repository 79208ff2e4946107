import UsbdUac2.Topology
import UsbdUac2.ReadBack
import UsbdUac2.Effects

/-!
# What a host learns of a function

`readDescription` reads the descriptors of a function as the configuration that it
was made of.  The block gives the category, the clock and the terminals.  A setting
that moves data gives a stream, and the direction of its data endpoint says which of
the terminals are its own.  What is left of the block are the additional descriptors.

`description_of_run` says that nothing is lost, and that it makes no difference when
the host asks.
-/

namespace Uac2

open Frames (Frame flatten ofLe16)
open Runs (Run Transition)
open Descriptors (AudioClassDescriptor InputTerminal OutputTerminal decodeFrames)

/-! ## Endpoints -/

/-- Bits 2 and 3 of the attributes. -/
def IsochronousSynchronizationType.ofAttributes (b : UInt8) : IsochronousSynchronizationType :=
  match (b >>> 2) &&& 3 with
  | 0 => .noSynchronization
  | 1 => .asynchronous
  | 2 => .adaptive
  | _ => .synchronous

/-- Bits 4 and 5 of the attributes. -/
def IsochronousUsageType.ofAttributes (b : UInt8) : Option IsochronousUsageType :=
  match (b >>> 4) &&& 3 with
  | 0 => some .data
  | 1 => some .feedback
  | 2 => some .implicitFeedbackData
  | _ => none

theorem Endpoint.ofAttributes_bmAttributes {D : UsbDirection} (ep : Endpoint D) :
    IsochronousSynchronizationType.ofAttributes ep.bmAttributes = ep.synchronization ∧
      IsochronousUsageType.ofAttributes ep.bmAttributes = some ep.usage := by
  rw [Endpoint.bmAttributes]
  cases ep.usage <;> cases ep.synchronization <;> exact ⟨rfl, rfl⟩

/-- An endpoint of direction `D`, from its standard descriptor. -/
def readEndpoint (D : UsbDirection) : Frame → Option (Endpoint D)
  | ⟨0x05, [addr, attributes, low, high, interval], _⟩ =>
      if (⟨addr⟩ : EndpointAddress).direction = D then do
        let usage ← IsochronousUsageType.ofAttributes attributes
        return ⟨⟨addr⟩, .ofAttributes attributes, usage, ofLe16 low high, interval⟩
      else none
  | _ => none

theorem readEndpoint_frame {D : UsbDirection} {ep : Endpoint D} (h : ep.address.direction = D) :
    readEndpoint D (endpointFrame ep) = some ep := by
  obtain ⟨hsync, husage⟩ := ep.ofAttributes_bmAttributes
  have hread : readEndpoint D (endpointFrame ep) =
      if ep.address.direction = D then do
        let usage ← IsochronousUsageType.ofAttributes ep.bmAttributes
        return ⟨ep.address, .ofAttributes ep.bmAttributes, usage,
          ofLe16 ep.maxPacketSize.toUInt8 (ep.maxPacketSize >>> 8).toUInt8, ep.interval⟩
      else none := rfl
  rw [hread, if_pos h, husage, hsync, Frames.ofLe16_le16]
  rfl

/-! ## Streams -/

/-- The terminal of a stream that is not the USB terminal has its type. -/
def terminalTypeOf (D : UsbDirection) (terminals : InputTerminal × OutputTerminal) :
    TerminalType :=
  match D with
  | .out => terminals.2.terminalType
  | .in => terminals.1.terminalType

/-- A stream from its terminals and its setting, and what the setting has behind it. -/
def readStream (D : UsbDirection) (terminals : InputTerminal × OutputTerminal) (s : Setting) :
    Option (AudioStream D × List Frame) :=
  match s.body with
  | general :: format :: endpoint :: csEndpoint :: more =>
      match AnyDescriptor.readRecord general, AnyDescriptor.readRecord format,
        readEndpoint D endpoint, AnyDescriptor.readRecord csEndpoint with
      | some (.audioStreamingInterface g), some (.formatType1 f), some ep,
        some (.audioStreamingEndpoint e) =>
          let config : TerminalConfig D :=
            { baseId := g.terminalId
              clockSourceId := terminals.1.clockSource
              numChannels := g.numChannels
              format := f
              terminalType := terminalTypeOf D terminals
              channelConfig := g.channelConfig
              syncType := ep.synchronization
              lockDelay := e.lockDelay
              string := g.string }
          some (⟨config, s.head.number, ep, defaultAlternateSetting⟩, more)
      | _, _, _, _ => none
  | _ => none

/-- The stream before a setting is selected. -/
def AudioStream.atRest {D : UsbDirection} (s : AudioStream D) : AudioStream D :=
  { s with altSetting := defaultAlternateSetting }

/-- A stream whose endpoint is as its configuration and its direction say. -/
structure AudioStream.Fitting {D : UsbDirection} (s : AudioStream D) : Prop where
  string : StringOk s.config.string
  sync : s.endpoint.synchronization = s.config.syncType
  usage : s.endpoint.usage = .data
  direction : s.endpoint.address.direction = D

theorem AudioStream.readStream_body {D : UsbDirection} {s : AudioStream D} (h : s.Fitting)
    (n : UInt8) (more : List Frame) :
    readStream D s.config.getConfigurationDescriptors ⟨s.head 1, n, s.body ++ more⟩ =
      some (s.atRest, more) := by
  have hgeneral : AnyDescriptor.readRecord (record s.asGeneral (by show 16 < 256; decide)) =
      some (.audioStreamingInterface s.asGeneral) :=
    AnyDescriptor.readRecord_frame (v := .audioStreamingInterface s.asGeneral) trivial h.string
      (by show 16 < 256; decide)
  have hformat : AnyDescriptor.readRecord (record s.config.format (by show 6 < 256; decide)) =
      some (.formatType1 s.config.format) := rfl
  have hcs : AnyDescriptor.readRecord (record s.csEndpoint (by show 8 < 256; decide)) =
      some (.audioStreamingEndpoint s.csEndpoint) :=
    AnyDescriptor.readRecord_frame (v := .audioStreamingEndpoint s.csEndpoint) trivial trivial
      (by show 8 < 256; decide)
  simp only [readStream, AudioStream.body, List.cons_append, List.nil_append, hgeneral, hformat,
    readEndpoint_frame h.direction, hcs, h.sync]
  cases D <;> rfl

/-! ## Functions -/

/-- What the descriptors of a function say. -/
structure Description where
  category : FunctionCode
  clock : Descriptors.ClockSource
  /-- The OUT stream with its feedback endpoint. -/
  output : Option (AudioStream .out × Endpoint .in)
  input : Option (AudioStream .in)
  additional : List AudioClassDescriptor

/-- The direction of the data endpoint of a setting. -/
def Setting.direction (s : Setting) : Option UsbDirection :=
  (s.body.filterMap readDataEndpoint).head?.map EndpointAddress.direction

/-- The setting that moves data in a direction. -/
def dataSetting (D : UsbDirection) (ss : List Setting) : Option Setting :=
  (ss.filter Setting.movesData).find? fun s => s.direction = some D

/-- The first two descriptors are the terminals of a stream. -/
def takeTerminals : List AudioClassDescriptor →
    Option ((InputTerminal × OutputTerminal) × List AudioClassDescriptor)
  | .inputTerminal a :: .outputTerminal b :: ds => some ((a, b), ds)
  | _ => none

/-- The OUT stream, if there is a setting for it, and the descriptors that are left. -/
def readOutput : Option Setting → List AudioClassDescriptor →
    Option (Option (AudioStream .out × Endpoint .in) × List AudioClassDescriptor)
  | none, ds => some (none, ds)
  | some s, ds => do
      let (terminals, ds) ← takeTerminals ds
      match ← readStream .out terminals s with
      | (stream, [f]) =>
          let feedback ← readEndpoint .in f
          return (some (stream, feedback), ds)
      | _ => none

/-- The IN stream likewise. -/
def readInput : Option Setting → List AudioClassDescriptor →
    Option (Option (AudioStream .in) × List AudioClassDescriptor)
  | none, ds => some (none, ds)
  | some s, ds => do
      let (terminals, ds) ← takeTerminals ds
      match ← readStream .in terminals s with
      | (stream, []) => return (some stream, ds)
      | _ => none

/-- Read the bytes of a function, with an association in front or without. -/
def readDescription (bs : List UInt8) : Option Description := do
  let ss ← readInterfaces bs
  let control ← ss.head?
  match ← decodeFrames (flatten control.body).length control.body with
  | (category, .clockSource clock :: ds) =>
      let (output, ds) ← readOutput (dataSetting .out ss) ds
      let (input, ds) ← readInput (dataSetting .in ss) ds
      return ⟨category, clock, output, input, ds⟩
  | _ => none

/-! ### What is read from a class -/

namespace UsbAudioClass

variable {AU : Type}

/-- The OUT stream with the feedback endpoint, before a setting is selected. -/
def outputAtRest (c : UsbAudioClass AU) : Option (AudioStream .out × Endpoint .in) :=
  match c.output, c.feedback with
  | some s, some fb => some (s.atRest, fb)
  | _, _ => none

/-- What the class describes. -/
def description (c : UsbAudioClass AU) (clock : Descriptors.ClockSource) : Description where
  category := c.deviceCategory
  clock := clock
  output := c.outputAtRest
  input := c.input.map AudioStream.atRest
  additional := c.additionalDescriptors.getD []

/-- A class whose endpoints are as its configuration says. -/
structure Fitting (c : UsbAudioClass AU) : Prop where
  feedback_isSome : c.feedback.isSome = c.output.isSome
  output : ∀ s ∈ c.output, s.Fitting
  input : ∀ s ∈ c.input, s.Fitting
  feedback : ∀ ep ∈ c.feedback, ep.usage = .feedback ∧ ep.address.direction = .in

end UsbAudioClass

namespace AudioStream

variable {D : UsbDirection} {s : AudioStream D}

theorem direction_setting (h : s.Fitting) (n : UInt8) (more : List Frame) :
    Setting.direction ⟨s.head 1, n, s.body ++ more⟩ = some D := by
  have hread := readDataEndpoint_frame s.endpoint
  rw [if_pos h.usage] at hread
  have hfirst : s.body.filterMap readDataEndpoint = [s.endpoint.address] := by
    have hshape : s.body.filterMap readDataEndpoint =
        [endpointFrame s.endpoint].filterMap readDataEndpoint := rfl
    rw [hshape, List.filterMap_cons_some hread, List.filterMap_nil]
  rw [Setting.direction, List.filterMap_append, hfirst]
  exact congrArg some h.direction

/-- Of the two settings of a stream the second moves data. -/
theorem filter_settings (n : UInt8) (more : List Frame) :
    (s.settings n more).filter Setting.movesData = [⟨s.head 1, n, s.body ++ more⟩] := rfl

end AudioStream

namespace UsbAudioClass

variable {AU : Type} {c : UsbAudioClass AU} {clock : Descriptors.ClockSource}

/-- The setting of an IN stream that moves data. -/
def inputData (input : Option (AudioStream .in)) : Option Setting :=
  input.map fun s => ⟨s.head 1, 1, s.body ++ []⟩

/-- The setting of an OUT stream that moves data, with its feedback endpoint. -/
def outputData : Option (AudioStream .out) → Option (Endpoint .in) → Option Setting
  | some s, some fb => some ⟨s.head 1, 2, s.body ++ [endpointFrame fb]⟩
  | _, _ => none

theorem find_input {input : Option (AudioStream .in)} (h : ∀ s ∈ input, s.Fitting)
    (D : UsbDirection) :
    ((inputSettings input).filter Setting.movesData).find? (fun t => t.direction = some D) =
      if D = .in then inputData input else none := by
  cases input with
  | none => cases D <;> rfl
  | some s =>
      rw [inputSettings, AudioStream.filter_settings, List.find?_singleton,
        AudioStream.direction_setting (h s rfl)]
      cases D <;> rfl

theorem find_output {output : Option (AudioStream .out)} {feedback : Option (Endpoint .in)}
    (h : ∀ s ∈ output, s.Fitting) (D : UsbDirection) :
    ((outputSettings output feedback).filter Setting.movesData).find?
        (fun t => t.direction = some D) =
      if D = .out then outputData output feedback else none := by
  cases output with
  | none => cases D <;> rfl
  | some s =>
      cases feedback with
      | none => cases D <;> rfl
      | some fb =>
          rw [outputSettings, AudioStream.filter_settings, List.find?_singleton,
            AudioStream.direction_setting (h s rfl)]
          cases D <;> rfl

theorem dataSetting_function (h : c.Fitting) (clock : Descriptors.ClockSource) :
    dataSetting .out (c.function clock).settings = outputData c.output c.feedback ∧
      dataSetting .in (c.function clock).settings = inputData c.input := by
  have hskip : Setting.movesData ⟨c.controlHead, 0, (c.block clock).frames⟩ ≠ true :=
    Bool.false_ne_true
  have hfind (D : UsbDirection) : dataSetting D (c.function clock).settings =
      (if D = .in then inputData c.input else none).or
        (if D = .out then outputData c.output c.feedback else none) := by
    rw [dataSetting, function, List.filter_cons_of_neg hskip, List.filter_append,
      List.find?_append, find_input h.input, find_output h.output]
  exact ⟨(hfind .out).trans (Option.none_or ..), (hfind .in).trans (Option.or_none ..)⟩

theorem readOutput_data (h : c.Fitting) (ds : List AudioClassDescriptor) :
    readOutput (outputData c.output c.feedback)
        (terminalPair ((c.output.map AudioStream.config).map
          TerminalConfig.getConfigurationDescriptors) ++ ds) = some (c.outputAtRest, ds) := by
  have hfb := h.feedback_isSome
  rw [outputAtRest]
  cases ho : c.output with
  | none => rfl
  | some s =>
      rw [ho, Option.isSome_some, Option.isSome_iff_exists] at hfb
      obtain ⟨fb, hfb⟩ := hfb
      have hstream := AudioStream.readStream_body (h.output s ho) 2 [endpointFrame fb]
      rw [hfb]
      simp only [outputData, Option.map_some, terminalPair, List.cons_append, List.nil_append,
        readOutput, takeTerminals, Option.bind_eq_bind, Option.bind_some, Prod.eta, hstream,
        readEndpoint_frame (h.feedback fb hfb).2]
      rfl

theorem readInput_data (h : c.Fitting) (ds : List AudioClassDescriptor) :
    readInput (inputData c.input)
        (terminalPair ((c.input.map AudioStream.config).map
          TerminalConfig.getConfigurationDescriptors) ++ ds) =
      some (c.input.map AudioStream.atRest, ds) := by
  cases hi : c.input with
  | none => rfl
  | some s =>
      have hstream := AudioStream.readStream_body (h.input s hi) 1 []
      simp only [inputData, Option.map_some, terminalPair, List.cons_append, List.nil_append,
        readInput, takeTerminals, Option.bind_eq_bind, Option.bind_some, Prod.eta, hstream]
      rfl

/-- The function of a class is read back as what the class describes. -/
theorem readDescription_function (h : c.Fitting) (hblock : (c.block clock).Readable)
    (iads : Bool) :
    readDescription ((c.function clock).iadBytes iads ++
      flatten ((c.function clock).settings.flatMap Setting.frames)) =
        some (c.description clock) := by
  obtain ⟨hout, hin⟩ := dataSetting_function h clock
  have hhead : (c.function clock).settings.head? =
      some ⟨c.controlHead, 0, (c.block clock).frames⟩ := rfl
  have hframes : decodeFrames (flatten (c.block clock).frames).length (c.block clock).frames =
      some (c.deviceCategory, (c.block clock).inner) := Descriptors.decodeFrames_frames hblock
  have hinner : (c.block clock).inner = .clockSource clock ::
      (terminalPair ((c.output.map AudioStream.config).map
          TerminalConfig.getConfigurationDescriptors) ++
        (terminalPair ((c.input.map AudioStream.config).map
            TerminalConfig.getConfigurationDescriptors) ++
          c.additionalDescriptors.getD [])) := rfl
  rw [readDescription, readInterfaces_bytes (readable_function c clock)]
  simp only [Option.bind_eq_bind, Option.bind_some, hhead, hframes, hinner, hout, hin,
    readOutput_data h, readInput_data h]
  rfl

/-! ## In every run -/

/-- The classes differ in the device, its rate and the selected settings at most. -/
structure SameParts (c c' : UsbAudioClass AU) : Prop where
  controlIface_eq : c'.controlIface = c.controlIface
  category_eq : c'.deviceCategory = c.deviceCategory
  additional_eq : c'.additionalDescriptors = c.additionalDescriptors
  output_eq : c'.output.map AudioStream.atRest = c.output.map AudioStream.atRest
  input_eq : c'.input.map AudioStream.atRest = c.input.map AudioStream.atRest
  feedback_eq : c'.feedback = c.feedback

theorem inputSettings_atRest (input : Option (AudioStream .in)) :
    inputSettings (input.map AudioStream.atRest) = inputSettings input := by
  cases input <;> rfl

theorem outputSettings_atRest (output : Option (AudioStream .out))
    (feedback : Option (Endpoint .in)) :
    outputSettings (output.map AudioStream.atRest) feedback = outputSettings output feedback := by
  cases output <;> cases feedback <;> rfl

theorem config_atRest {D : UsbDirection} (stream : Option (AudioStream D)) :
    (stream.map AudioStream.atRest).map AudioStream.config = stream.map AudioStream.config := by
  cases stream <;> rfl

/-- Such classes have the same descriptors. -/
theorem SameParts.function_eq {c' : UsbAudioClass AU} (h : SameParts c c')
    (clock : Descriptors.ClockSource) : c'.function clock = c.function clock := by
  have hin : c'.input.isSome = c.input.isSome := by
    rw [← Option.isSome_map (f := AudioStream.atRest), h.input_eq, Option.isSome_map]
  have hout : c'.output.isSome = c.output.isSome := by
    rw [← Option.isSome_map (f := AudioStream.atRest), h.output_eq, Option.isSome_map]
  have hhead : c'.controlHead = c.controlHead := by
    rw [controlHead, controlHead, h.controlIface_eq]
  have hblock : c'.block clock = c.block clock := by
    rw [block, block, ← config_atRest c'.output, h.output_eq, config_atRest,
      ← config_atRest c'.input, h.input_eq, config_atRest, h.additional_eq, h.category_eq]
  have hinput : inputSettings c'.input = inputSettings c.input := by
    rw [← inputSettings_atRest, h.input_eq, inputSettings_atRest]
  have houtput : outputSettings c'.output c'.feedback = outputSettings c.output c.feedback := by
    rw [← outputSettings_atRest, h.output_eq, h.feedback_eq, outputSettings_atRest]
  rw [function, function, hin, hout, hhead, hblock, hinput, houtput, h.controlIface_eq]

/-- No event changes more. -/
theorem SameParts.effect {B : Type} [AudioHandler AU B] [ClockSource AU]
    {c₁ c₂ : UsbAudioClass AU} {e : Event} {acts : List Action} (h : SameParts c c₁)
    (he : Effect B c₁ e c₂ acts) : SameParts c c₂ := by
  cases he with
  | selectIn hs =>
      have hinput := h.input_eq
      rw [hs] at hinput
      exact { h with input_eq := hinput }
  | selectOut hs =>
      have houtput := h.output_eq
      rw [hs] at houtput
      exact { h with output_eq := houtput }
  | setRate => exact { h with }
  | receive => exact { h with }
  | transmit => exact { h with }
  | feedback => exact { h with }
  | reset => exact { h with }
  | quiet => exact h

theorem SameParts.refl (c : UsbAudioClass AU) : SameParts c c := ⟨rfl, rfl, rfl, rfl, rfl, rfl⟩

end UsbAudioClass

/-! ## After build -/

section

variable {AU A : Type} [ClockSource AU] [UsbBusAllocator A] [DocumentedAllocator A]
  {config : UsbAudioClassConfig AU} {alloc alloc' : A} {c : UsbAudioClass AU}
  {clock : Descriptors.ClockSource}

/-- The endpoints have the synchronization of the configuration, and the feedback
endpoint is an IN endpoint. -/
structure EndpointsAsConfigured (c : UsbAudioClass AU) : Prop where
  output : ∀ s ∈ c.output, s.endpoint.synchronization = s.config.syncType
  input : ∀ s ∈ c.input, s.endpoint.synchronization = s.config.syncType
  feedback : ∀ ep ∈ c.feedback, ep.address.direction = .in

omit [ClockSource AU] in
theorem UsbAudioClass.addOutput_endpoints {ac ac' : UsbAudioClass AU} {rate : UInt32}
    {interval fbInterval : UInt8} {out : Option (TerminalConfig .out)}
    (hac : EndpointsAsConfigured ac)
    (h : ac.addOutput rate interval fbInterval alloc out = .ok (ac', alloc')) :
    EndpointsAsConfigured ac' := by
  cases out with
  | none =>
      cases h
      exact hac
  | some out =>
      obtain ⟨ep, fb, alloc₁, hep, hfb, rfl⟩ := addOutput_ok h
      refine { output := ?_, input := hac.input, feedback := ?_ }
      · rintro _ ⟨⟩
        exact (DocumentedAllocator.isochronous_endpoint hep).2.1
      · rintro _ ⟨⟩
        exact (DocumentedAllocator.isochronous_endpoint hfb).1

omit [ClockSource AU] in
theorem UsbAudioClass.addInput_endpoints {ac ac' : UsbAudioClass AU} {rate : UInt32}
    {interval : UInt8} {inp : Option (TerminalConfig .in)} (hac : EndpointsAsConfigured ac)
    (h : ac.addInput rate interval alloc inp = .ok (ac', alloc')) :
    EndpointsAsConfigured ac' := by
  cases inp with
  | none =>
      cases h
      exact hac
  | some inp =>
      obtain ⟨ep, hep, rfl⟩ := addInput_ok h
      refine { hac with input := ?_ }
      rintro _ ⟨⟩
      exact (DocumentedAllocator.isochronous_endpoint hep).2.1

theorem endpoints_of_build (h : config.build alloc = .ok (c, alloc')) :
    EndpointsAsConfigured c := by
  obtain ⟨⟨interval, fbInterval, audioRate⟩, -, h⟩ := bind_eq_ok h
  obtain ⟨rate, -, h⟩ := bind_eq_ok h
  obtain ⟨⟨c₁, alloc₁⟩, houtput, hinput⟩ := bind_eq_ok h
  refine UsbAudioClass.addInput_endpoints (UsbAudioClass.addOutput_endpoints ?_ houtput) hinput
  exact {
    output := fun _ hs => nomatch hs
    input := fun _ hs => nomatch hs
    feedback := fun _ hs => nomatch hs }

/-- The strings of a block that can be read back are those of the streams. -/
theorem stringOk_terminals {D : UsbDirection} {s : TerminalConfig D}
    {ds : List AudioClassDescriptor} (h : ∀ d ∈ ds, d.StringsOk)
    (hmem : terminalPair (some s.getConfigurationDescriptors) ⊆ ds) : StringOk s.string := by
  have hin := h (.inputTerminal s.getConfigurationDescriptors.1) (hmem (List.mem_cons_self ..))
  cases D <;> exact hin

theorem fitting_of_build (h : config.build alloc = .ok (c, alloc'))
    (hstrings : ∀ d ∈ (config.block clock).inner, d.StringsOk) : c.Fitting := by
  obtain ⟨rate, hbuilt⟩ := build_ok h
  obtain ⟨hout, hin⟩ := directions_of_build h
  have hendpoints := endpoints_of_build h
  refine ⟨hbuilt.wired.feedback_isSome, fun s hs => ?_, fun s hs => ?_, fun ep hep => ?_⟩
  · have hconfig : config.outputConfig = some s.config := by rw [← hbuilt.output_eq, hs]; rfl
    exact ⟨stringOk_terminals hstrings (output_subset_block hconfig), hendpoints.output s hs,
      (hbuilt.output_fresh hs).2.1, hout s hs⟩
  · have hconfig : config.inputConfig = some s.config := by rw [← hbuilt.input_eq, hs]; rfl
    exact ⟨stringOk_terminals hstrings (input_subset_block hconfig), hendpoints.input s hs,
      (hbuilt.input_fresh hs).2.1, hin s hs⟩
  · exact ⟨hbuilt.feedback_usage hep, hendpoints.feedback ep hep⟩

/-- The description has all of the configuration, and the interfaces and endpoints that
build has allocated. -/
structure Describes (config : UsbAudioClassConfig AU) (c : UsbAudioClass AU)
    (clock : Descriptors.ClockSource) (d : Description) : Prop where
  category_eq : d.category = config.deviceCategory
  clock_eq : d.clock = clock
  additional_eq : d.additional = config.additionalDescriptors.getD []
  outputConfig_eq : (d.output.map fun o => o.1.config) = config.outputConfig
  inputConfig_eq : d.input.map AudioStream.config = config.inputConfig
  output_eq : d.output.map Prod.fst = c.output
  feedback_eq : d.output.map Prod.snd = c.feedback
  input_eq : d.input = c.input

theorem atRest_of_fresh {D : UsbDirection} {stream : Option (AudioStream D)}
    (h : ∀ s ∈ stream, s.altSetting = 0) : stream.map AudioStream.atRest = stream := by
  cases stream with
  | none => rfl
  | some s =>
      have halt := h s rfl
      obtain ⟨config, interface, endpoint, altSetting⟩ := s
      cases halt
      rfl

theorem describes_description (h : config.build alloc = .ok (c, alloc')) :
    Describes config c clock (c.description clock) := by
  obtain ⟨rate, hbuilt⟩ := build_ok h
  have hinput : c.input.map AudioStream.atRest = c.input :=
    atRest_of_fresh fun s hs => (hbuilt.input_fresh hs).1
  have houtput : c.outputAtRest.map Prod.fst = c.output ∧
      c.outputAtRest.map Prod.snd = c.feedback := by
    have hfb := hbuilt.wired.feedback_isSome
    have hrest : c.output.map AudioStream.atRest = c.output :=
      atRest_of_fresh fun s hs => (hbuilt.output_fresh hs).1
    rw [UsbAudioClass.outputAtRest]
    cases ho : c.output with
    | none =>
        rw [ho, Option.isSome_none, Option.isSome_eq_false_iff, Option.isNone_iff_eq_none] at hfb
        rw [hfb]
        exact ⟨rfl, rfl⟩
    | some s =>
        rw [ho, Option.isSome_some, Option.isSome_iff_exists] at hfb
        obtain ⟨fb, hfb⟩ := hfb
        rw [ho] at hrest
        rw [hfb]
        exact ⟨hrest, rfl⟩
  exact {
    category_eq := hbuilt.category_eq
    clock_eq := rfl
    additional_eq := by rw [← hbuilt.additional_eq]; rfl
    outputConfig_eq := by
      rw [← hbuilt.output_eq, ← houtput.1, Option.map_map]
      rfl
    inputConfig_eq := by
      rw [← hbuilt.input_eq]
      exact congrArg (Option.map AudioStream.config) hinput
    output_eq := houtput.1
    feedback_eq := houtput.2
    input_eq := hinput }

variable {B W : Type} [AudioHandler AU B] [UsbBus B] [DescriptorWriter W] [DocumentedWriter W]
  {bus : B} {ts : List (Transition (World AU B) Event)} {world : World AU B} {w : W}

/-- A world that was reached from the class `c`. -/
structure Reached (c : UsbAudioClass AU) (world : World AU B) : Prop where
  same : UsbAudioClass.SameParts c world.cls
  wired : Wired world.cls

theorem Reached.step {world' : World AU B} {e : Event} (h : Reached c world)
    (hs : Step world e world') : Reached c world' := by
  obtain ⟨acts, -, heffect⟩ := hs.effect
  exact ⟨h.same.effect heffect, heffect.wired h.wired⟩

theorem reached_run (hw : Wired c) (hr : Run Step (World.start c bus) ts world) :
    Reached c world := by
  have h0 : Reached c (World.start c bus) := ⟨.refl c, hw⟩
  exact hr.invariant h0 Reached.step

/-- Whenever the host asks, it reads the configuration from the descriptors of the
class, and the interfaces and endpoints of the streams. -/
theorem description_of_run (hb : config.build alloc = .ok (c, alloc'))
    (hr : Run Step (World.start c bus) ts world)
    (hclock : ClockSource.clockConfigurationDescriptor world.cls.audioImpl 1 none = .ok clock)
    (hreadable : (config.block clock).Readable)
    (hroom : (c.function clock).bytes.length ≤ (view w).room) :
    ∃ w' bs d, world.cls.getConfigurationDescriptors w = .ok w' ∧
      (view w').written = (view w).written ++ bs ∧ readDescription bs = some d ∧
      Describes config c clock d := by
  obtain ⟨rate, hbuilt⟩ := build_ok hb
  have hreached := reached_run hbuilt.wired hr
  have hfunction := hreached.same.function_eq clock
  rw [← hfunction] at hroom
  obtain ⟨w', hrun, hwritten⟩ := UsbAudioClass.getConfigurationDescriptors_ok
    hreached.wired.feedback_isSome hclock hroom
  rw [hfunction] at hwritten
  exact ⟨w', _, _, hrun, hwritten,
    UsbAudioClass.readDescription_function (fitting_of_build hb hreadable.strings)
      (hbuilt.block_eq ▸ hreadable) _, describes_description hb⟩

end

theorem readable_ioBox : (ioBox.block ioBoxClock).Readable where
  fits := by decide
  strings := by
    intro d hd
    simp only [UsbAudioClassConfig.block, acBlock, ioBox, Option.map_some, terminalPair,
      List.cons_append, List.nil_append, List.mem_cons, Option.getD_none, List.not_mem_nil,
      or_false] at hd
    rcases hd with rfl | rfl | rfl | rfl | rfl <;> intro i hi <;> cases hi

/-- The box is read with both streams while one of them is live. -/
theorem description_of_run_ioBox : ∃ w' bs d,
    (ioBoxLive 2).cls.getConfigurationDescriptors (BufferWriter.empty 256) = .ok w' ∧
      w'.done = bs ∧ readDescription bs = some d ∧ Describes ioBox ioBoxClass ioBoxClock d := by
  obtain ⟨alloc, hb⟩ := build_ioBox
  have hr := Run.nil.snoc (step_controlOut ioBoxStart (selectSetting 2 1))
  exact description_of_run (w := BufferWriter.empty 256) hb hr rfl readable_ioBox room_ioBox

end Uac2
