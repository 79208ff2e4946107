import UsbdUac2.Decode
import UsbdUac2.Sizes

/-!
# Reading a descriptor back

A reader for one record of any type that implements `Descriptor`.  Records of the
AudioControl interface and of a streaming interface share their type byte and some
subtypes, and are told apart by their length.

Of a source array only the declared sources are written.  `canonical` is the value
with an array of exactly these, and a terminal without the wrapper.  `read_back`
says that the reader finds it, so that values with the same record have the same
`canonical`.
-/

namespace Uac2

open Frames (Frame le16 ofLe16 ofLe32)

/-! ## Fields -/

def FormatType.ofCode : UInt8 → Option FormatType
  | 0 => some .undefined
  | 1 => some .type1
  | 2 => some .type2
  | 3 => some .type3
  | _ => none

theorem FormatType.ofCode_code (t : FormatType) : FormatType.ofCode t.code = some t := by
  cases t <;> rfl

namespace Descriptors

/-- Every format of type 1. -/
def Type1FormatBitmap.all : List Type1FormatBitmap := [.pcm, .pcm8, .ieeeFloat, .alaw, .mulaw, .raw]

def Type1FormatBitmap.ofCode (c : UInt32) : Option Type1FormatBitmap :=
  Type1FormatBitmap.all.find? fun b => b.code = c

theorem Type1FormatBitmap.ofCode_code (b : Type1FormatBitmap) :
    Type1FormatBitmap.ofCode b.code = some b := by
  cases b <;> rfl

def LockDelay.ofUnits (value : UInt16) : UInt8 → Option LockDelay
  | 0 => some (.undefined value)
  | 1 => some (.milliseconds value)
  | 2 => some (.decodedSamples value)
  | _ => none

theorem LockDelay.ofUnits_units (d : LockDelay) : LockDelay.ofUnits d.value d.units = some d := by
  cases d <;> rfl

/-! The two bytes of the controls of a processing unit. -/

theorem low_code16 (c : AccessControl) :
    c.code16.toUInt8 = c.code ∧ (c.code16 <<< 2).toUInt8 = c.code <<< 2 ∧
      (c.code16 <<< 4).toUInt8 = c.code <<< 4 ∧ (c.code16 <<< 6).toUInt8 = c.code <<< 6 ∧
      (c.code16 <<< 8).toUInt8 = 0 ∧ (c.code16 <<< 10).toUInt8 = 0 := by
  cases c <;> decide

theorem high_code16 (c : AccessControl) :
    (c.code16 >>> 8).toUInt8 = 0 ∧ (c.code16 <<< 2 >>> 8).toUInt8 = 0 ∧
      (c.code16 <<< 4 >>> 8).toUInt8 = 0 ∧ (c.code16 <<< 6 >>> 8).toUInt8 = 0 ∧
      (c.code16 <<< 8 >>> 8).toUInt8 = c.code ∧
      (c.code16 <<< 10 >>> 8).toUInt8 = c.code <<< 2 := by
  cases c <;> decide

theorem ProcessingUnit.low_bmControls {N : Nat} (d : ProcessingUnit N) :
    d.bmControls.toUInt8 = d.enableControl.code ||| (d.modeSelectControl.code <<< 2) |||
      (d.clusterControl.code <<< 4) ||| (d.underflowControl.code <<< 6) := by
  simp only [bmControls, UInt16.toUInt8_or, low_code16, UInt8.or_zero]

theorem ProcessingUnit.high_bmControls {N : Nat} (d : ProcessingUnit N) :
    (d.bmControls >>> 8).toUInt8 = d.overflowControl.code ||| (d.latencyControl.code <<< 2) := by
  simp only [bmControls, UInt16.shiftRight_or, UInt16.toUInt8_or, high_code16, UInt8.zero_or]

end Descriptors

/-! ## Descriptors with sources -/

/-- An array of all of a list. -/
def ofSources (sources : List UInt8) : Vector UInt8 sources.length :=
  ⟨sources.toArray, List.size_toArray⟩

/-- The declared sources. -/
def declared {N : Nat} (sources : Vector UInt8 N) (n : UInt8) : List UInt8 :=
  sources.toList.take n.toNat

theorem take_declared {N : Nat} {sources : Vector UInt8 N} {n : UInt8} (hn : n.toNat ≤ N)
    (rest : List UInt8) : (declared sources n ++ rest).take n.toNat = declared sources n :=
  List.take_left' (AnyDescriptor.length_sources sources hn)

theorem drop_declared {N : Nat} {sources : Vector UInt8 N} {n : UInt8} (hn : n.toNat ≤ N)
    (rest : List UInt8) : (declared sources n ++ rest).drop n.toNat = rest :=
  List.drop_left' (AnyDescriptor.length_sources sources hn)

namespace AnyDescriptor

/-- The value that the bytes determine. -/
def canonical : AnyDescriptor → AnyDescriptor
  | .terminal (.input d) => .inputTerminal d
  | .terminal (.output d) => .outputTerminal d
  | .clockSelector d =>
      .clockSelector ⟨d.id, d.nSources, ofSources (declared d.sources d.nSources),
        d.selectorAccess, d.string⟩
  | .selectorUnit d =>
      .selectorUnit ⟨d.id, ofSources (declared d.sources d.nSources), d.nSources,
        d.selectorControl, d.string⟩
  | .processingUnit d =>
      .processingUnit ⟨d.id, d.processType, ofSources (declared d.sources d.nSources),
        d.numChannels, d.nSources, d.channelConfig, d.channelNames, d.enableControl,
        d.modeSelectControl, d.clusterControl, d.underflowControl, d.overflowControl,
        d.latencyControl, d.string⟩
  | .extensionUnit d =>
      .extensionUnit ⟨d.id, d.extensionCode, ofSources (declared d.sources d.nSources),
        d.nSources, d.numChannels, d.channelConfig, d.channelNames, d.enableControl,
        d.clusterControl, d.underflowControl, d.overflowControl, d.string⟩
  | v => v

/-- A string that is present can be told from a missing one. -/
def StringsOk : AnyDescriptor → Prop
  | .clockSource d => StringOk d.string
  | .inputTerminal d => StringOk d.string
  | .outputTerminal d => StringOk d.string
  | .terminal (.input d) => StringOk d.string
  | .terminal (.output d) => StringOk d.string
  | .audioStreamingInterface d => StringOk d.string
  | _ => True

/-! ## The reader -/

def readClockSelector : List UInt8 → Option AnyDescriptor
  | id :: n :: rest =>
      match rest.drop n.toNat with
      | [controls, string] => do
          let access ← accessAt controls 0
          return .clockSelector ⟨id, n, ofSources (rest.take n.toNat), access, string⟩
      | _ => none
  | _ => none

def readSelectorUnit : List UInt8 → Option AnyDescriptor
  | id :: n :: rest =>
      match rest.drop n.toNat with
      | [controls, string] => do
          let access ← accessAt controls 0
          return .selectorUnit ⟨id, ofSources (rest.take n.toNat), n, access, string⟩
      | _ => none
  | _ => none

def readProcessingUnit : List UInt8 → Option AnyDescriptor
  | id :: t0 :: t1 :: n :: rest =>
      match rest.drop n.toNat with
      | [channels, c0, c1, c2, c3, names, low, high, string] => do
          let enable ← accessAt low 0
          let modeSelect ← accessAt low 2
          let cluster ← accessAt low 4
          let underflow ← accessAt low 6
          let overflow ← accessAt high 0
          let latency ← accessAt high 2
          return .processingUnit ⟨id, ofLe16 t0 t1, ofSources (rest.take n.toNat), channels, n,
            ⟨ofLe32 c0 c1 c2 c3⟩, names, enable, modeSelect, cluster, underflow, overflow,
            latency, string⟩
      | _ => none
  | _ => none

def readExtensionUnit : List UInt8 → Option AnyDescriptor
  | id :: t0 :: t1 :: n :: rest =>
      match rest.drop n.toNat with
      | [channels, c0, c1, c2, c3, names, controls, string] => do
          let enable ← accessAt controls 0
          let cluster ← accessAt controls 2
          let underflow ← accessAt controls 4
          let overflow ← accessAt controls 6
          return .extensionUnit ⟨id, ofLe16 t0 t1, ofSources (rest.take n.toNat), n, channels,
            ⟨ofLe32 c0 c1 c2 c3⟩, names, enable, cluster, underflow, overflow, string⟩
      | _ => none
  | _ => none

end AnyDescriptor

namespace Descriptors

/-- The descriptor of a streaming interface, behind its subtype. -/
def decodeAudioStreamingInterface : List UInt8 → Option AudioStreamingInterface
  | [terminal, controls, format, b0, b1, b2, b3, channels, c0, c1, c2, c3, string] => do
      let active ← accessAt controls 0
      let valid ← accessAt controls 2
      let type ← FormatType.ofCode format
      let bitmap ← Type1FormatBitmap.ofCode (ofLe32 b0 b1 b2 b3)
      return ⟨terminal, active, valid, type, bitmap, channels, ⟨ofLe32 c0 c1 c2 c3⟩,
        stringOf string⟩
  | _ => none

def decodeAudioStreamingEndpoint : List UInt8 → Option AudioStreamingEndpoint
  | [attributes, controls, units, v0, v1] => do
      let pitch ← accessAt controls 0
      let overrun ← accessAt controls 2
      let underrun ← accessAt controls 4
      let delay ← LockDelay.ofUnits (ofLe16 v0 v1) units
      return ⟨decide (attributes &&& 0x80 ≠ 0), pitch, overrun, underrun, delay⟩
  | _ => none

theorem decodeAudioStreamingInterface_payload {d : AudioStreamingInterface}
    (h : StringOk d.string) : decodeAudioStreamingInterface (payload d).tail = some d := by
  obtain ⟨hactive, hvalid⟩ := accessAt_two d.activeAltSetting d.validAltSettings
  have hshape : (payload d).tail = [d.terminalId, d.bmControls, d.formatType.code,
      d.formatBitmap.code.toUInt8, (d.formatBitmap.code >>> 8).toUInt8,
      (d.formatBitmap.code >>> 16).toUInt8, (d.formatBitmap.code >>> 24).toUInt8, d.numChannels,
      d.channelConfig.bits.toUInt8, (d.channelConfig.bits >>> 8).toUInt8,
      (d.channelConfig.bits >>> 16).toUInt8, (d.channelConfig.bits >>> 24).toUInt8,
      stringCode d.string] := rfl
  rw [hshape, decodeAudioStreamingInterface, AudioStreamingInterface.bmControls, hactive, hvalid,
    FormatType.ofCode_code, Frames.ofLe32_le32, Type1FormatBitmap.ofCode_code,
    Frames.ofLe32_le32, stringOf_stringCode h]
  rfl

theorem decodeAudioStreamingEndpoint_payload (d : AudioStreamingEndpoint) :
    decodeAudioStreamingEndpoint (payload d).tail = some d := by
  obtain ⟨hpitch, hoverrun, hunderrun⟩ :=
    accessAt_three d.pitchControl d.overrunControl d.underrunControl
  have hpackets : decide (d.maxPacketsOnly.toUInt8 <<< 7 &&& 0x80 ≠ 0) = d.maxPacketsOnly := by
    cases d.maxPacketsOnly <;> rfl
  have hshape : (payload d).tail = [d.maxPacketsOnly.toUInt8 <<< 7, d.bmControls,
      d.lockDelay.units, d.lockDelay.value.toUInt8, (d.lockDelay.value >>> 8).toUInt8] := rfl
  rw [hshape, decodeAudioStreamingEndpoint, AudioStreamingEndpoint.bmControls, hpitch, hoverrun,
    hunderrun, Frames.ofLe16_le16, LockDelay.ofUnits_units, hpackets]
  rfl

end Descriptors

namespace AnyDescriptor

open Descriptors

/-- Read a record by its type, its subtype and, where that is not enough, its length. -/
def readRecord (f : Frame) : Option AnyDescriptor :=
  if f.kind = ClassSpecificDescriptorType.interface.code then
    match f.body with
    | [0x02, format, bytes, bits] =>
        if format = FormatType.type1.code then some (.formatType1 ⟨bytes, bits⟩) else none
    | 0x01 :: rest => (decodeAudioStreamingInterface rest).map .audioStreamingInterface
    | 0x02 :: rest => (decodeInputTerminal rest).map .inputTerminal
    | 0x03 :: rest => (decodeOutputTerminal rest).map .outputTerminal
    | 0x05 :: rest => readSelectorUnit rest
    | 0x08 :: rest => readProcessingUnit rest
    | 0x09 :: rest => readExtensionUnit rest
    | 0x0A :: rest => (decodeClockSource rest).map .clockSource
    | 0x0B :: rest => readClockSelector rest
    | 0x0C :: rest => (decodeClockMultiplier rest).map .clockMultiplier
    | _ => none
  else if f.kind = ClassSpecificDescriptorType.endpoint.code then
    match f.body with
    | 0x01 :: rest => (decodeAudioStreamingEndpoint rest).map .audioStreamingEndpoint
    | _ => none
  else none

section

variable {N : Nat}

theorem readClockSelector_payload {d : ClockSelector N} (hd : Encoded.Valid d) :
    readClockSelector (payload d).tail = some (canonical (.clockSelector d)) := by
  have hshape : (payload d).tail = d.id :: d.nSources ::
      (declared d.sources d.nSources ++ [d.selectorAccess.code, d.string]) := rfl
  rw [hshape, readClockSelector, drop_declared hd, take_declared hd]
  simp only [accessAt_one]
  rfl

theorem readSelectorUnit_payload {d : SelectorUnit N} (hd : Encoded.Valid d) :
    readSelectorUnit (payload d).tail = some (canonical (.selectorUnit d)) := by
  have hshape : (payload d).tail = d.id :: d.nSources ::
      (declared d.sources d.nSources ++ [d.selectorControl.code, d.string]) := rfl
  rw [hshape, readSelectorUnit, drop_declared hd, take_declared hd]
  simp only [accessAt_one]
  rfl

theorem readProcessingUnit_payload {d : ProcessingUnit N} (hd : Encoded.Valid d) :
    readProcessingUnit (payload d).tail = some (canonical (.processingUnit d)) := by
  obtain ⟨henable, hmode, hcluster, hunderflow⟩ := accessAt_four d.enableControl
    d.modeSelectControl d.clusterControl d.underflowControl
  obtain ⟨hoverflow, hlatency⟩ := accessAt_two d.overflowControl d.latencyControl
  have hshape : (payload d).tail = d.id :: d.processType.toUInt8 ::
      (d.processType >>> 8).toUInt8 :: d.nSources :: (declared d.sources d.nSources ++
        [d.numChannels, d.channelConfig.bits.toUInt8, (d.channelConfig.bits >>> 8).toUInt8,
          (d.channelConfig.bits >>> 16).toUInt8, (d.channelConfig.bits >>> 24).toUInt8,
          d.channelNames, d.bmControls.toUInt8, (d.bmControls >>> 8).toUInt8, d.string]) := rfl
  rw [hshape, readProcessingUnit, drop_declared hd, take_declared hd]
  simp only [d.low_bmControls, d.high_bmControls, henable, hmode, hcluster, hunderflow,
    hoverflow, hlatency, Frames.ofLe16_le16, Frames.ofLe32_le32]
  rfl

theorem readExtensionUnit_payload {d : ExtensionUnit N} (hd : Encoded.Valid d) :
    readExtensionUnit (payload d).tail = some (canonical (.extensionUnit d)) := by
  obtain ⟨henable, hcluster, hunderflow, hoverflow⟩ := accessAt_four d.enableControl
    d.clusterControl d.underflowControl d.overflowControl
  have hshape : (payload d).tail = d.id :: d.extensionCode.toUInt8 ::
      (d.extensionCode >>> 8).toUInt8 :: d.nSources :: (declared d.sources d.nSources ++
        [d.numChannels, d.channelConfig.bits.toUInt8, (d.channelConfig.bits >>> 8).toUInt8,
          (d.channelConfig.bits >>> 16).toUInt8, (d.channelConfig.bits >>> 24).toUInt8,
          d.channelNames, d.bmControls, d.string]) := rfl
  rw [hshape, readExtensionUnit, drop_declared hd, take_declared hd]
  simp only [ExtensionUnit.bmControls, henable, hcluster, hunderflow, hoverflow,
    Frames.ofLe16_le16, Frames.ofLe32_le32]
  rfl

end

theorem encodedLength_eq (v : AnyDescriptor) :
    v.encodedLength = (v.elim fun d => payload d).length + 2 := by
  cases v <;> rfl

/-- The record that usb-device makes of a value. -/
def frame (v : AnyDescriptor) (small : v.encodedLength < 256) : Frame where
  kind := v.elim fun d => Descriptor.descriptorType d
  body := v.elim fun d => payload d
  small := by rwa [encodedLength_eq] at small

/-- The record of a value is read back as the value that its bytes determine. -/
theorem readRecord_frame {v : AnyDescriptor} (hv : v.Valid) (hstring : v.StringsOk)
    (small : v.encodedLength < 256) : readRecord (v.frame small) = some v.canonical := by
  cases v with
  | clockSource d =>
      exact congrArg (Option.map AnyDescriptor.clockSource) (decodeClockSource_payload hstring)
  | inputTerminal d =>
      exact congrArg (Option.map AnyDescriptor.inputTerminal) (decodeInputTerminal_payload hstring)
  | outputTerminal d =>
      exact congrArg (Option.map AnyDescriptor.outputTerminal)
        (decodeOutputTerminal_payload hstring)
  | terminal d =>
      cases d with
      | input d =>
          exact congrArg (Option.map AnyDescriptor.inputTerminal)
            (decodeInputTerminal_payload hstring)
      | output d =>
          exact congrArg (Option.map AnyDescriptor.outputTerminal)
            (decodeOutputTerminal_payload hstring)
  | clockSelector d => exact readClockSelector_payload hv
  | clockMultiplier d =>
      exact congrArg (Option.map AnyDescriptor.clockMultiplier) (decodeClockMultiplier_payload d)
  | selectorUnit d => exact readSelectorUnit_payload hv
  | processingUnit d => exact readProcessingUnit_payload hv
  | extensionUnit d => exact readExtensionUnit_payload hv
  | formatType1 d => rfl
  | audioStreamingInterface d =>
      exact congrArg (Option.map AnyDescriptor.audioStreamingInterface)
        (decodeAudioStreamingInterface_payload hstring)
  | audioStreamingEndpoint d =>
      exact congrArg (Option.map AnyDescriptor.audioStreamingEndpoint)
        (decodeAudioStreamingEndpoint_payload d)

/-! ## Through the descriptor writer -/

section

variable {W : Type} [DescriptorWriter W] [DocumentedWriter W] {v : AnyDescriptor} {w : W}

def writeDescriptor (writer : W) (v : AnyDescriptor) : Attempt W :=
  v.elim fun d => Descriptor.writeDescriptor d writer

theorem appends_frame (hv : v.Valid) (small : v.encodedLength < 256) :
    Appends (fun w : W => v.writeDescriptor w) (v.frame small).bytes := by
  have hsmall := small
  rw [encodedLength_eq] at hsmall
  cases v with
  | clockSource d => exact appends_writeDescriptor hv hsmall
  | inputTerminal d => exact appends_writeDescriptor hv hsmall
  | outputTerminal d => exact appends_writeDescriptor hv hsmall
  | terminal d => exact appends_writeDescriptor hv hsmall
  | clockSelector d => exact appends_writeDescriptor hv hsmall
  | clockMultiplier d => exact appends_writeDescriptor hv hsmall
  | selectorUnit d => exact appends_writeDescriptor hv hsmall
  | processingUnit d => exact appends_writeDescriptor hv hsmall
  | extensionUnit d => exact appends_writeDescriptor hv hsmall
  | formatType1 d => exact appends_writeDescriptor hv hsmall
  | audioStreamingInterface d => exact appends_writeDescriptor hv hsmall
  | audioStreamingEndpoint d => exact appends_writeDescriptor hv hsmall

/-- Read the bytes of one record. -/
def read (bs : List UInt8) : Option AnyDescriptor :=
  match Frames.split bs with
  | some [f] => readRecord f
  | _ => none

theorem read_frame (hv : v.Valid) (hstring : v.StringsOk) (small : v.encodedLength < 256) :
    read (v.frame small).bytes = some v.canonical := by
  have hsplit : Frames.split (v.frame small).bytes = some [v.frame small] := by
    have hone := Frames.split_flatten [v.frame small]
    rwa [Frames.flatten_cons, Frames.flatten_nil, List.append_nil] at hone
  rw [read, hsplit]
  exact readRecord_frame hv hstring small

/-- What the descriptor writer appends for a value of any of the types is read back.
Values for which the same is appended differ in sources that they do not declare. -/
theorem read_back (hv : v.Valid) (hstring : v.StringsOk) (small : v.encodedLength < 256)
    (hroom : v.encodedLength ≤ (view w).room) :
    ∃ w' bs, v.writeDescriptor w = .ok w' ∧ (view w').written = (view w).written ++ bs ∧
      read bs = some v.canonical ∧
      ∀ (u : AnyDescriptor) (w₂ w₂' : W), u.Valid → u.StringsOk → u.encodedLength < 256 →
        u.encodedLength ≤ (view w₂).room → u.writeDescriptor w₂ = .ok w₂' →
        (view w₂').written = (view w₂).written ++ bs → u.canonical = v.canonical := by
  have hlen {u : AnyDescriptor} (hu : u.encodedLength < 256) :
      (u.frame hu).bytes.length = u.encodedLength := by
    rw [Frame.length_bytes, Frame.length, encodedLength_eq]
    rfl
  have hread := read_frame hv hstring small
  obtain ⟨w', hrun, hview⟩ := appends_frame (W := W) hv small w (by rwa [hlen])
  refine ⟨w', _, hrun, by rw [hview, View.append_written], hread, ?_⟩
  intro u w₂ w₂' hu hustring husmall huroom hurun hsame
  obtain ⟨w₃, hrun₃, hview₃⟩ := appends_frame (W := W) hu husmall w₂ (by rwa [hlen])
  cases hurun.symm.trans hrun₃
  rw [hview₃, View.append_written] at hsame
  have hbytes := List.append_cancel_left hsame
  have huread := read_frame hu hustring husmall
  rw [hbytes, hread] at huread
  exact (Option.some.inj huread).symm

end

/-- A selector with two of three sources. -/
theorem read_back_selector : ∃ w' bs,
    writeDescriptor (BufferWriter.empty 32)
      (.selectorUnit (N := 3) ⟨5, #v[2, 4, 9], 2, .programmable, 0⟩) = .ok w' ∧
    w'.done = bs ∧
    read bs = some (.selectorUnit (N := 2) ⟨5, #v[2, 4], 2, .programmable, 0⟩) := by
  have hvalid : Valid (.selectorUnit (N := 3) ⟨5, #v[2, 4, 9], 2, .programmable, 0⟩) := by
    show 2 ≤ 3
    decide
  obtain ⟨w', bs, hrun, hwritten, hread, -⟩ :=
    read_back (w := BufferWriter.empty 32) hvalid trivial (by decide) (by decide)
  exact ⟨w', bs, hrun, hwritten, hread⟩

end AnyDescriptor

end Uac2
