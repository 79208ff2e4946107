import UsbdUac2.Layout
import UsbdUac2.Wiring
import UsbdUac2.Bench
import UsbdUac2.BufferWriter

/-!
# The configuration descriptors

The class writes the AudioControl block piece by piece, from a header that it puts
together by hand.  `appends_block` says that these are the bytes of the block that
`AudioClassInterfaceDescriptor` makes of the list of the same descriptors.

`function` is the function that the class describes, and `writes_function` that
its bytes are what the class writes.  The feedback endpoint is written last and on
its own.  It continues the setting of the OUT stream, because that is there
whenever a feedback endpoint is, and comes after the IN stream.
-/

namespace Uac2

open ByteWriter
open Frames (Frame flatten ofLe16)
open Descriptors (AudioClassDescriptor AudioClassInterfaceDescriptor InputTerminal OutputTerminal)

/-! ## The AudioControl block -/

/-- The terminals of a stream, as part of a list. -/
def terminalPair : Option (InputTerminal × OutputTerminal) → List AudioClassDescriptor
  | some (a, b) => [.inputTerminal a, .outputTerminal b]
  | none => []

/-- The block of a clock and two optional streams. -/
def acBlock (clock : Descriptors.ClockSource) (output : Option (TerminalConfig .out))
    (input : Option (TerminalConfig .in)) (additional : List AudioClassDescriptor)
    (category : FunctionCode) : AudioClassInterfaceDescriptor where
  inner := .clockSource clock ::
    (terminalPair (output.map TerminalConfig.getConfigurationDescriptors) ++
      (terminalPair (input.map TerminalConfig.getConfigurationDescriptors) ++ additional))
  category := category

namespace Descriptors

theorem foldl_sizes (ds : List AudioClassDescriptor) :
    ∀ acc : UInt16, ds.foldl (fun acc d => acc + d.size.toUInt16) acc = acc + sumSizes ds := by
  induction ds with
  | nil =>
      intro acc
      exact (UInt16.add_zero acc).symm
  | cons d ds ih =>
      intro acc
      have hsum : sumSizes (d :: ds) = d.size.toUInt16 + sumSizes ds := by
        rw [sumSizes, List.foldl_cons, UInt16.zero_add]
        exact ih _
      rw [List.foldl_cons, ih, hsum, UInt16.add_assoc]

theorem sumSizes_cons (d : AudioClassDescriptor) (ds : List AudioClassDescriptor) :
    sumSizes (d :: ds) = d.size.toUInt16 + sumSizes ds := by
  rw [sumSizes, List.foldl_cons, foldl_sizes, UInt16.zero_add]

theorem sumSizes_append (as bs : List AudioClassDescriptor) :
    sumSizes (as ++ bs) = sumSizes as + sumSizes bs := by
  rw [sumSizes, List.foldl_append, foldl_sizes]
  rfl

theorem AudioClassInterfaceDescriptor.kind_frames {d : AudioClassInterfaceDescriptor} {f : Frame}
    (h : f ∈ d.frames) : f.kind = ClassSpecificDescriptorType.interface.code := by
  obtain _ | ⟨_, h⟩ := h
  · rfl
  · obtain ⟨x, -, rfl⟩ := List.mem_map.mp h
    cases x <;> rfl

end Descriptors

namespace UsbAudioClass

open Descriptors (sumSizes sumSizes_cons sumSizes_append headerFrame)

theorem terminalsSize_eq (pair : Option (InputTerminal × OutputTerminal)) :
    terminalsSize pair = sumSizes (terminalPair pair) := by
  cases pair with
  | none => rfl
  | some p => rfl

variable {AU : Type}

/-- The block of the class. -/
def block (c : UsbAudioClass AU) (clock : Descriptors.ClockSource) :
    AudioClassInterfaceDescriptor :=
  acBlock clock (c.output.map AudioStream.config) (c.input.map AudioStream.config)
    (c.additionalDescriptors.getD []) c.deviceCategory

theorem terminals_eq {D : UsbDirection} (stream : Option (AudioStream D)) :
    terminals stream =
      (stream.map AudioStream.config).map TerminalConfig.getConfigurationDescriptors := by
  cases stream <;> rfl

/-- The total that the class adds up is the one of the block. -/
theorem totalLength_eq (c : UsbAudioClass AU) (clock : Descriptors.ClockSource) :
    9 + (Descriptor.size clock).toUInt16 + terminalsSize (terminals c.output) +
        terminalsSize (terminals c.input) + sumSizes (c.additionalDescriptors.getD []) =
      (c.block clock).totalLength := by
  rw [AudioClassInterfaceDescriptor.totalLength, block, acBlock, sumSizes_cons, sumSizes_append,
    sumSizes_append, terminalsSize_eq, terminalsSize_eq, terminals_eq, terminals_eq]
  simp only [UInt16.add_assoc]
  rfl

theorem low_byte (v : UInt16) : (v &&& 0xff).toUInt8 = v.toUInt8 := by
  apply UInt8.toNat_inj.mp
  simp only [UInt16.toNat_toUInt8, UInt16.toNat_and]
  exact (congrArg (· % 256) (Nat.and_two_pow_sub_one_eq_mod v.toNat 8)).trans
    (Nat.mod_mod _ _)

section

variable {W : Type} [DescriptorWriter W] [DocumentedWriter W]

theorem appends_descriptor (d : AudioClassDescriptor) :
    Appends (d.writeDescriptor : W → Attempt W) d.frame.bytes := by
  cases d with
  | clockSource d => exact appends_writeDescriptor trivial _
  | clockMultiplier d => exact appends_writeDescriptor trivial _
  | inputTerminal d => exact appends_writeDescriptor trivial _
  | outputTerminal d => exact appends_writeDescriptor trivial _

theorem appends_additional (ds : List AudioClassDescriptor) :
    Appends (writeAdditional ds : W → Attempt W)
      (flatten (ds.map AudioClassDescriptor.frame)) := by
  induction ds with
  | nil => exact appends_pure
  | cons d ds ih => exact (appends_descriptor d).bind ih

theorem appends_terminals (pair : Option (InputTerminal × OutputTerminal)) :
    Appends (writeTerminals pair : W → Attempt W)
      (flatten ((terminalPair pair).map AudioClassDescriptor.frame)) := by
  obtain _ | ⟨a, b⟩ := pair
  · exact appends_pure
  · have hpair := (appends_descriptor (W := W) (.inputTerminal a)).bind
      (appends_descriptor (.outputTerminal b))
    rw [terminalPair, List.map_cons, List.map_singleton, Frames.flatten_cons,
      Frames.flatten_cons, Frames.flatten_nil, List.append_nil]
    exact hpair

theorem appends_header (category : FunctionCode) (totalLength : UInt16) :
    Appends (DescriptorWriter.write ClassSpecificDescriptorType.interface.code
      [ClassSpecificACInterfaceDescriptorSubtype.header.code, 0, 2, category.code,
        (totalLength &&& 0xff).toUInt8, ((totalLength >>> 8) &&& 0xff).toUInt8, 0] :
        W → Attempt W) (headerFrame category totalLength).bytes := by
  intro w hroom
  rw [low_byte, low_byte]
  exact DocumentedWriter.write_ok _ (by rwa [Frame.length_bytes] at hroom)

/-- The pieces that the class writes are the block. -/
theorem appends_block (c : UsbAudioClass AU) (clock : Descriptors.ClockSource) :
    Appends (fun w : W => (do
      let w ← DescriptorWriter.write ClassSpecificDescriptorType.interface.code
        [ClassSpecificACInterfaceDescriptorSubtype.header.code, 0, 2, c.deviceCategory.code,
          ((c.block clock).totalLength &&& 0xff).toUInt8,
          (((c.block clock).totalLength >>> 8) &&& 0xff).toUInt8, 0] w
      let w ← Descriptor.writeDescriptor clock w
      let w ← writeTerminals (terminals c.output) w
      let w ← writeTerminals (terminals c.input) w
      writeAdditional (c.additionalDescriptors.getD []) w : Attempt W))
      (c.block clock).bytes := by
  have hbytes : (c.block clock).bytes =
      (headerFrame c.deviceCategory (c.block clock).totalLength).bytes ++
        ((AudioClassDescriptor.clockSource clock).frame.bytes ++
          (flatten ((terminalPair (terminals c.output)).map AudioClassDescriptor.frame) ++
            (flatten ((terminalPair (terminals c.input)).map AudioClassDescriptor.frame) ++
              flatten ((c.additionalDescriptors.getD []).map AudioClassDescriptor.frame)))) := by
    rw [terminals_eq, terminals_eq, ← Frames.flatten_append, ← Frames.flatten_append,
      ← List.map_append, ← List.map_append]
    rfl
  rw [hbytes]
  exact (appends_header _ _).bind <| (appends_descriptor (.clockSource clock)).bind <|
    (appends_terminals _).bind <| (appends_terminals _).bind (appends_additional _)

end

end UsbAudioClass

/-! ## The function -/

namespace AudioStream

variable {D : UsbDirection}

/-- The interface of the stream, at an alternate setting. -/
def head (s : AudioStream D) (alt : UInt8) : AltSetting where
  number := s.interface
  alt := alt
  cls := usbClassAudio
  sub := InterfaceSubclass.audioStreaming.code
  protocol := InterfaceProtocol.version2.code
  string := none

/-- The descriptors of the setting that moves data. -/
def body (s : AudioStream D) : List Frame :=
  [record s.asGeneral (by show 16 < 256; decide),
    record s.config.format (by show 6 < 256; decide),
    endpointFrame s.endpoint,
    record s.csEndpoint (by show 8 < 256; decide)]

/-- The setting without endpoints, and the one that moves data. -/
def settings (s : AudioStream D) (numEndpoints : UInt8) (more : List Frame) : List Setting :=
  [⟨s.head 0, 0, []⟩, ⟨s.head 1, numEndpoints, s.body ++ more⟩]

end AudioStream

namespace UsbAudioClass

variable {AU : Type}

/-- The control interface. -/
def controlHead (c : UsbAudioClass AU) : AltSetting where
  number := c.controlIface
  alt := 0
  cls := usbClassAudio
  sub := InterfaceSubclass.audioControl.code
  protocol := InterfaceProtocol.version2.code
  string := none

def inputSettings : Option (AudioStream .in) → List Setting
  | some s => s.settings 1 []
  | none => []

def outputSettings : Option (AudioStream .out) → Option (Endpoint .in) → List Setting
  | some s, some fb => s.settings 2 [endpointFrame fb]
  | _, _ => []

/-- The function that the class describes. -/
def function (c : UsbAudioClass AU) (clock : Descriptors.ClockSource) : AudioFunction where
  first := c.controlIface
  count := 1 + c.input.isSome.toUInt8 + c.output.isSome.toUInt8
  cls := usbClassAudio
  sub := InterfaceSubclass.undefined.code
  protocol := FunctionProtocol.version2.code
  string := none
  settings := ⟨c.controlHead, 0, (c.block clock).frames⟩ ::
    (inputSettings c.input ++ outputSettings c.output c.feedback)

/-! ## Writing the function -/

section

variable {W : Type} [DescriptorWriter W] [DocumentedWriter W]

theorem continues_pure : Continues (fun w : W => .ok w) [] := appends_pure.continues rfl

theorem continues_record {D : Type} [Descriptor D] [Encoded D] {d : D} (hd : Valid d)
    (small : (payload d).length + 2 < 256) (h : isEndpoint (record d small) = false) :
    Continues (Descriptor.writeDescriptor d : W → Attempt W) [record d small] := by
  refine Appends.continues ?_ (by rw [List.countP_cons, h]; rfl)
  rw [Frames.flatten_cons, Frames.flatten_nil, List.append_nil]
  exact appends_writeDescriptor hd small

/-- The descriptors of a stream are its two settings.  What comes behind the stream
continues the second. -/
theorem writes_settings {D : UsbDirection} (s : AudioStream D) {p : W → Attempt W}
    {more : List Frame} (hp : Continues p more) :
    Writes (fun w => s.writeInterfaceDescriptors w >>= fun w =>
      s.writeEndpointDescriptors w >>= p)
      (flatten ((s.settings (UInt8.ofNat (1 + more.countP isEndpoint)) more).flatMap
        Setting.frames)) := by
  have hdata : Continues (fun w : W => (do
      let w ← Descriptor.writeDescriptor s.asGeneral w
      let w ← Descriptor.writeDescriptor s.config.format w
      let w ← DescriptorWriter.endpoint s.endpoint w
      let w ← Descriptor.writeDescriptor s.csEndpoint w
      p w : Attempt W)) (s.body ++ more) :=
    (continues_record trivial (by show 16 < 256; decide) rfl).bind <|
      (continues_record trivial (by show 6 < 256; decide) rfl).bind <|
      (continues_endpoint s.endpoint).bind <|
      (continues_record trivial (by show 8 < 256; decide) rfl).bind hp
  have hcount : (s.body ++ more).countP isEndpoint = 1 + more.countP isEndpoint := by
    rw [List.countP_append]
    rfl
  have hwrites := (writes_interfaceAlt (s.head 0)).bind (hdata.writes (s.head 1))
  rw [hcount] at hwrites
  rw [AudioStream.settings, List.flatMap_cons, List.flatMap_singleton, Frames.flatten_append]
  convert hwrites using 2 with w
  simp only [AudioStream.writeInterfaceDescriptors, AudioStream.writeEndpointDescriptors,
    bind_assoc, DocumentedWriter.interface_eq]
  rfl

theorem writes_input (input : Option (AudioStream .in)) :
    Writes (writeStream input : W → Attempt W)
      (flatten ((inputSettings input).flatMap Setting.frames)) := by
  cases input with
  | none => exact writes_pure
  | some s =>
      convert writes_settings s continues_pure using 2 with w
      · simp only [writeStream]
        exact congrArg _ (funext fun w => (bind_pure (s.writeEndpointDescriptors w)).symm)
      · rfl

theorem writes_output {output : Option (AudioStream .out)} {feedback : Option (Endpoint .in)}
    (h : feedback.isSome = output.isSome) :
    Writes (fun w : W => writeStream output w >>= writeFeedback feedback)
      (flatten ((outputSettings output feedback).flatMap Setting.frames)) := by
  cases output with
  | none =>
      cases feedback with
      | none => exact writes_pure
      | some fb => cases h
  | some s =>
      cases feedback with
      | none => cases h
      | some fb =>
          convert writes_settings s (continues_endpoint fb) using 2 with w
          · simp only [writeStream, bind_assoc]
            rfl
          · rfl

theorem endpoints_block (c : UsbAudioClass AU) (clock : Descriptors.ClockSource) :
    (c.block clock).frames.countP isEndpoint = 0 := by
  refine List.countP_eq_zero.mpr fun f hf => ?_
  rw [isEndpoint, AudioClassInterfaceDescriptor.kind_frames hf]
  decide

/-- The association is written unless the writer writes none. -/
theorem writes_iad (f : AudioFunction) {w : W} (hroom : 8 ≤ (view w).room) :
    ∃ w', DescriptorWriter.iad f.first f.count f.cls f.sub f.protocol f.string w = .ok w' ∧
      (view w').written = (view w).written ++ f.iadBytes (view w).iads ∧
      (view w).room ≤ (view w').room + 8 := by
  cases hiads : (view w).iads with
  | false =>
      exact ⟨w, DocumentedWriter.iad_skip _ _ _ _ _ _ hiads, (List.append_nil _).symm,
        Nat.le_add_right _ _⟩
  | true =>
      obtain ⟨w', hrun, hview⟩ := DocumentedWriter.iad_ok f.first f.count f.cls f.sub f.protocol
        f.string hiads hroom
      refine ⟨w', hrun, ?_, ?_⟩
      · rw [hview]
        rfl
      · rw [hview, View.append_room]
        exact Nat.le_add_of_sub_le (Nat.le_refl _)

/-- With room, the class writes the function. -/
theorem getConfigurationDescriptors_ok [ClockSource AU] {c : UsbAudioClass AU}
    (hfb : c.feedback.isSome = c.output.isSome) {clock : Descriptors.ClockSource}
    (hclock : ClockSource.clockConfigurationDescriptor c.audioImpl 1 none = .ok clock) {w : W}
    (hroom : (c.function clock).bytes.length ≤ (view w).room) :
    ∃ w', c.getConfigurationDescriptors w = .ok w' ∧
      (view w').written = (view w).written ++ ((c.function clock).iadBytes (view w).iads ++
        flatten ((c.function clock).settings.flatMap Setting.frames)) := by
  have hsettings : flatten ((c.function clock).settings.flatMap Setting.frames) =
      flatten (Setting.frames ⟨c.controlHead, 0, (c.block clock).frames⟩) ++
        (flatten ((inputSettings c.input).flatMap Setting.frames) ++
          flatten ((outputSettings c.output c.feedback).flatMap Setting.frames)) := by
    rw [function, List.flatMap_cons, List.flatMap_append, Frames.flatten_append,
      Frames.flatten_append]
  have hlen : (c.function clock).bytes.length =
      8 + (flatten ((c.function clock).settings.flatMap Setting.frames)).length := by
    rw [AudioFunction.bytes, AudioFunction.frames, Frames.flatten_cons, List.length_append]
    rfl
  obtain ⟨w₁, h₁, hw₁, hr₁⟩ := writes_iad (c.function clock) (w := w) (by omega)
  have hcontrol := ((appends_block c clock).continues (endpoints_block c clock)).writes
    (W := W) c.controlHead
  rw [endpoints_block] at hcontrol
  have hfree : (flatten ((c.function clock).settings.flatMap Setting.frames)).length ≤
      (view w₁).room := by omega
  rw [hsettings] at hfree
  obtain ⟨w₂, h₂, hw₂, -⟩ :=
    (hcontrol.bind ((writes_input c.input).bind (writes_output hfb))) w₁ hfree
  refine ⟨w₂, Eq.trans ?_ h₂, ?_⟩
  · have hiad : DescriptorWriter.iad c.controlIface
        (1 + c.input.isSome.toUInt8 + c.output.isSome.toUInt8) usbClassAudio
        InterfaceSubclass.undefined.code FunctionProtocol.version2.code none w = .ok w₁ := h₁
    simp only [getConfigurationDescriptors, hclock, orReturn, totalLength_eq, hiad,
      DocumentedWriter.interface_eq, bind_assoc]
    rfl
  · rw [hw₂, hw₁, List.append_assoc, hsettings]
    rfl

end

/-! ## Reading it back -/

theorem readable_settings {D : UsbDirection} {s : AudioStream D} {n : UInt8} {more : List Frame}
    (h : ∀ f ∈ more, isInterface f = false) {t : Setting} (ht : t ∈ s.settings n more) :
    t.Readable := by
  simp only [AudioStream.settings, List.mem_cons, List.not_mem_nil, or_false] at ht
  obtain rfl | rfl := ht
  · exact ⟨by rintro _ ⟨⟩, by rintro _ ⟨⟩⟩
  · refine ⟨by rintro _ ⟨⟩, fun f hf => ?_⟩
    obtain hf | hf := List.mem_append.mp hf
    · simp only [AudioStream.body, List.mem_cons, List.not_mem_nil, or_false] at hf
      obtain rfl | rfl | rfl | rfl := hf <;> rfl
    · exact h f hf

/-- A setting of the function is the one of the control interface or one of a
stream. -/
theorem forall_settings {c : UsbAudioClass AU} {clock : Descriptors.ClockSource}
    {P : Setting → Prop} (hcontrol : P ⟨c.controlHead, 0, (c.block clock).frames⟩)
    (hinput : ∀ {s}, c.input = some s → ∀ t ∈ s.settings 1 [], P t)
    (houtput : ∀ {s fb}, c.output = some s → c.feedback = some fb →
      ∀ t ∈ s.settings 2 [endpointFrame fb], P t) :
    ∀ t ∈ (c.function clock).settings, P t := by
  intro t ht
  obtain _ | ⟨_, ht⟩ := ht
  · exact hcontrol
  · obtain ht | ht := List.mem_append.mp ht
    · cases hi : c.input with
      | none => simp [hi, inputSettings] at ht
      | some s => exact hinput hi t (by rwa [hi] at ht)
    · cases ho : c.output with
      | none => simp [ho, outputSettings] at ht
      | some s =>
          cases hf : c.feedback with
          | none => simp [hf, outputSettings] at ht
          | some fb => exact houtput ho hf t (by rwa [ho, hf] at ht)

theorem readable_function (c : UsbAudioClass AU) (clock : Descriptors.ClockSource) :
    ∀ t ∈ (c.function clock).settings, t.Readable := by
  refine forall_settings ⟨by rintro _ ⟨⟩, fun f hf => ?_⟩ (fun _ t ht => ?_) fun _ _ t ht => ?_
  · rw [isInterface, AudioClassInterfaceDescriptor.kind_frames hf]
    decide
  · exact readable_settings (fun f hf => absurd hf List.not_mem_nil) ht
  · refine readable_settings (fun f hf => ?_) ht
    rw [List.mem_singleton.mp hf]
    rfl

theorem endpoints_settings {D : UsbDirection} {s : AudioStream D} {n : UInt8} {more : List Frame}
    (h : n.toNat = 1 + more.countP isEndpoint) {t : Setting} (ht : t ∈ s.settings n more) :
    t.numEndpoints.toNat = t.body.countP isEndpoint := by
  simp only [AudioStream.settings, List.mem_cons, List.not_mem_nil, or_false] at ht
  obtain rfl | rfl := ht
  · rfl
  · rw [List.countP_append]
    exact h

/-- The interface numbers of a class whose parts belong together, in the order in
which they are written. -/
theorem numbers_function {c : UsbAudioClass AU} (hw : Wired c) (clock : Descriptors.ClockSource) :
    (c.function clock).numbers = c.controlIface ::
      ((c.input.toList.map fun _ => c.controlIface + if c.output.isSome then 2 else 1) ++
        c.output.toList.map fun _ => c.controlIface + 1) := by
  have hin : (inputSettings c.input).map (fun t => t.head.number) =
      c.input.toList.flatMap fun _ => List.replicate 2
        (c.controlIface + if c.output.isSome then 2 else 1) := by
    cases hi : c.input with
    | none => rfl
    | some s =>
        rw [← (hw.input_number hi).2]
        rfl
  have hout : (outputSettings c.output c.feedback).map (fun t => t.head.number) =
      c.output.toList.flatMap fun _ => List.replicate 2 (c.controlIface + 1) := by
    have hfb := hw.feedback_isSome
    cases ho : c.output with
    | none => rfl
    | some s =>
        rw [ho, Option.isSome_some, Option.isSome_iff_exists] at hfb
        obtain ⟨fb, hfb⟩ := hfb
        rw [← (hw.output_number ho).2, hfb]
        rfl
  rw [AudioFunction.numbers, function, List.map_cons, List.map_append, hin, hout]
  cases c.input <;> cases c.output <;> simp [controlHead, List.replicate]

/-- What the descriptors of the class declare is what follows. -/
theorem consistent_function {c : UsbAudioClass AU} (hw : Wired c)
    (clock : Descriptors.ClockSource) : (c.function clock).Consistent := by
  have hnumbers := numbers_function hw clock
  refine ⟨?_, ?_, ?_⟩
  · rw [hnumbers, function]
    cases c.input <;> cases c.output <;> rfl
  · have hzero : c.controlIface = c.controlIface + UInt8.ofNat 0 :=
      (UInt8.add_zero c.controlIface).symm
    rw [hnumbers, function]
    cases c.input with
    | none =>
        cases c.output with
        | none => exact List.Perm.of_eq (congrArg (· :: []) hzero)
        | some _ => exact List.Perm.of_eq (congrArg (· :: [c.controlIface + 1]) hzero)
    | some _ =>
        cases c.output with
        | none => exact List.Perm.of_eq (congrArg (· :: [c.controlIface + 1]) hzero)
        | some _ =>
            -- The IN stream has the greater number and is written first.
            exact (List.Perm.of_eq (congrArg (· :: [c.controlIface + 2, c.controlIface + 1])
              hzero)).trans ((List.Perm.swap _ _ []).cons _)
  · refine forall_settings ?_ (fun _ t ht => endpoints_settings rfl ht)
      fun _ _ t ht => endpoints_settings rfl ht
    rw [endpoints_block]
    rfl

end UsbAudioClass

/-! ## After build -/

/-- The block of a configuration and a clock. -/
def UsbAudioClassConfig.block {AU : Type} (config : UsbAudioClassConfig AU)
    (clock : Descriptors.ClockSource) : AudioClassInterfaceDescriptor :=
  acBlock clock config.outputConfig config.inputConfig (config.additionalDescriptors.getD [])
    config.deviceCategory

/-- The function `f` has the control interface with the block, and the two settings of
every stream that is configured. -/
structure Layout {AU : Type} (config : UsbAudioClassConfig AU) (c : UsbAudioClass AU)
    (clock : Descriptors.ClockSource) (f : AudioFunction) : Prop where
  consistent : f.Consistent
  first_eq : f.first = c.controlIface
  settings_eq : f.settings = ⟨c.controlHead, 0, (config.block clock).frames⟩ ::
    (UsbAudioClass.inputSettings c.input ++ UsbAudioClass.outputSettings c.output c.feedback)
  input_eq : c.input.map AudioStream.config = config.inputConfig
  output_eq : c.output.map AudioStream.config = config.outputConfig
  feedback_isSome : c.feedback.isSome = c.output.isSome
  input_usage : ∀ s ∈ c.input, s.endpoint.usage = .data
  output_usage : ∀ s ∈ c.output, s.endpoint.usage = .data
  feedback_usage : ∀ ep ∈ c.feedback, ep.usage = .feedback

/-- The length that the header of a block declares. -/
def declaredTotal (bs : List UInt8) : Nat := (ofLe16 (bs.getD 6 0) (bs.getD 7 0)).toNat

theorem declaredTotal_bytes {d : AudioClassInterfaceDescriptor} (h : d.bytes.length ≤ 65535) :
    declaredTotal d.bytes = d.bytes.length := by
  have hfield : declaredTotal d.bytes =
      (ofLe16 d.totalLength.toUInt8 (d.totalLength >>> 8).toUInt8).toNat := rfl
  rw [hfield, Frames.ofLe16_le16, AudioClassInterfaceDescriptor.toNat_totalLength h]

section

variable {AU A W : Type} [ClockSource AU] [UsbBusAllocator A] [DocumentedAllocator A]
  [DescriptorWriter W] [DocumentedWriter W] {config : UsbAudioClassConfig AU} {alloc alloc' : A}
  {c : UsbAudioClass AU} {clock : Descriptors.ClockSource} {w : W}

theorem Built.block_eq {rate : UInt32} (hb : Built config rate c) :
    c.block clock = config.block clock := by
  rw [UsbAudioClass.block, hb.output_eq, hb.input_eq, hb.additional_eq, hb.category_eq]
  rfl

/-- The descriptors that a class writes after build are read back completely, as the
control interface with its block and the settings of the streams. -/
theorem layout_of_build (hb : config.build alloc = .ok (c, alloc'))
    (hclock : ClockSource.clockConfigurationDescriptor config.audioImpl 1 none = .ok clock)
    (hiads : (view w).iads = true) (hroom : (c.function clock).bytes.length ≤ (view w).room) :
    ∃ w' bs f, c.getConfigurationDescriptors w = .ok w' ∧
      (view w').written = (view w).written ++ bs ∧ readFunction bs = some f ∧
      Layout config c clock f := by
  obtain ⟨rate, hbuilt⟩ := build_ok hb
  rw [← hbuilt.audioImpl_eq] at hclock
  obtain ⟨w', hrun, hwritten⟩ := UsbAudioClass.getConfigurationDescriptors_ok
    hbuilt.wired.feedback_isSome hclock hroom
  rw [hiads] at hwritten
  refine ⟨w', _, _, hrun, hwritten,
    readFunction_bytes (by rintro _ ⟨⟩) (UsbAudioClass.readable_function c clock), {
      consistent := UsbAudioClass.consistent_function hbuilt.wired clock
      first_eq := rfl
      settings_eq := ?_
      input_eq := hbuilt.input_eq
      output_eq := hbuilt.output_eq
      feedback_isSome := hbuilt.wired.feedback_isSome
      input_usage := fun _ hs => (hbuilt.input_fresh hs).2.1
      output_usage := fun _ hs => (hbuilt.output_fresh hs).2.1
      feedback_usage := fun _ hs => hbuilt.feedback_usage hs }⟩
  rw [← hbuilt.block_eq]
  rfl

/-- The block that a class writes is the one that the encoder of the block makes of the
list of its descriptors, and its header declares the length that it has. -/
theorem block_of_build (hb : config.build alloc = .ok (c, alloc'))
    (hclock : ClockSource.clockConfigurationDescriptor config.audioImpl 1 none = .ok clock)
    (hfits : (config.block clock).bytes.length ≤ 65535)
    (hroom : (c.function clock).bytes.length ≤ (view w).room) :
    ∃ w' bs, c.getConfigurationDescriptors w = .ok w' ∧
      (config.block clock).write (⟨[]⟩ : Sink) = .ok () ⟨bs⟩ ∧
      (view w').written = (view w).written ++ ((c.function clock).iadBytes (view w).iads ++
        ((c.controlHead.frame 0).bytes ++ (bs ++
          flatten ((UsbAudioClass.inputSettings c.input ++
            UsbAudioClass.outputSettings c.output c.feedback).flatMap Setting.frames)))) ∧
      declaredTotal bs = bs.length := by
  obtain ⟨rate, hbuilt⟩ := build_ok hb
  rw [← hbuilt.audioImpl_eq] at hclock
  obtain ⟨w', hrun, hwritten⟩ := UsbAudioClass.getConfigurationDescriptors_ok
    hbuilt.wired.feedback_isSome hclock hroom
  refine ⟨w', (config.block clock).bytes, hrun, Descriptors.write_sink _, ?_,
    declaredTotal_bytes hfits⟩
  rw [hwritten, ← hbuilt.block_eq, UsbAudioClass.function, List.flatMap_cons,
    Frames.flatten_append, Setting.frames, Frames.flatten_cons, List.append_assoc]
  rfl

end

/-! ## The descriptors of the box -/

/-- The clock of the box. -/
def ioBoxClock : Descriptors.ClockSource where
  id := 1
  clockType := .internalFixed
  sofSync := false
  frequencyAccess := .readOnly
  validityAccess := .notPresent
  assocTerminal := 0
  string := none

theorem room_ioBox :
    (ioBoxClass.function ioBoxClock).bytes.length ≤ (view (BufferWriter.empty 256)).room := by
  have hroom : (view (BufferWriter.empty 256)).room = 256 := List.length_replicate
  rw [hroom, AudioFunction.bytes, Frames.length_flatten]
  decide

theorem layout_of_build_ioBox : ∃ w' bs f,
    ioBoxClass.getConfigurationDescriptors (BufferWriter.empty 256) = .ok w' ∧
      w'.done = bs ∧ readFunction bs = some f ∧ Layout ioBox ioBoxClass ioBoxClock f := by
  obtain ⟨alloc, hb⟩ := build_ioBox
  exact layout_of_build (w := BufferWriter.empty 256) hb rfl rfl room_ioBox

theorem block_of_build_ioBox : ∃ w' bs,
    ioBoxClass.getConfigurationDescriptors (BufferWriter.empty 256) = .ok w' ∧
      (ioBox.block ioBoxClock).write (⟨[]⟩ : Sink) = .ok () ⟨bs⟩ ∧
      declaredTotal bs = bs.length := by
  obtain ⟨alloc, hb⟩ := build_ioBox
  obtain ⟨w', bs, hrun, hwrite, -, htotal⟩ :=
    block_of_build (w := BufferWriter.empty 256) hb rfl (by decide) room_ioBox
  exact ⟨w', bs, hrun, hwrite, htotal⟩

end Uac2
