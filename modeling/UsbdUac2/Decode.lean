import UsbdUac2.AcBlock

/-!
# Reading an AudioControl block back

A decoder for the class-specific AudioControl block, written from the layout of
the descriptors.  It cuts the bytes into records, checks the header and the
total length, and reads each record by its subtype.

`decodeBlock_write` is the round trip.  It asks that a string index that is
present is not 0, since 0 is how a missing one is written.
-/

namespace Uac2

open ByteWriter
open Frames (Frame le16 flatten ofLe16 ofLe32)

/-! ## Fields -/

/-- The access control in the two bits at a position. -/
def accessAt (b shift : UInt8) : Option AccessControl :=
  match (b >>> shift) &&& 3 with
  | 0 => some .notPresent
  | 1 => some .readOnly
  | 3 => some .programmable
  | _ => none

theorem accessAt_two (a b : AccessControl) :
    accessAt (a.code ||| (b.code <<< 2)) 0 = some a ∧
      accessAt (a.code ||| (b.code <<< 2)) 2 = some b := by
  cases a <;> cases b <;> exact ⟨rfl, rfl⟩

theorem accessAt_three (a b c : AccessControl) :
    accessAt (a.code ||| (b.code <<< 2) ||| (c.code <<< 4)) 0 = some a ∧
      accessAt (a.code ||| (b.code <<< 2) ||| (c.code <<< 4)) 2 = some b ∧
      accessAt (a.code ||| (b.code <<< 2) ||| (c.code <<< 4)) 4 = some c := by
  cases a <;> cases b <;> cases c <;> exact ⟨rfl, rfl, rfl⟩

theorem accessAt_four (a b c d : AccessControl) :
    accessAt (a.code ||| (b.code <<< 2) ||| (c.code <<< 4) ||| (d.code <<< 6)) 0 = some a ∧
      accessAt (a.code ||| (b.code <<< 2) ||| (c.code <<< 4) ||| (d.code <<< 6)) 2 = some b ∧
      accessAt (a.code ||| (b.code <<< 2) ||| (c.code <<< 4) ||| (d.code <<< 6)) 4 = some c ∧
      accessAt (a.code ||| (b.code <<< 2) ||| (c.code <<< 4) ||| (d.code <<< 6)) 6 = some d := by
  cases a <;> cases b <;> cases c <;> cases d <;> exact ⟨rfl, rfl, rfl, rfl⟩

/-- The clock type in the two low bits. -/
def clockTypeOf (b : UInt8) : ClockType :=
  match b &&& 3 with
  | 0 => .external
  | 1 => .internalFixed
  | 2 => .internalVariable
  | _ => .internalProgrammable

theorem clockType_attributes (t : ClockType) (sync : Bool) :
    clockTypeOf (t.code ||| if sync then 4 else 0) = t ∧
      decide ((t.code ||| if sync then 4 else 0) &&& 4 ≠ 0) = sync := by
  cases t <;> cases sync <;> exact ⟨rfl, rfl⟩

/-- Index 0 is no string. -/
def stringOf (b : UInt8) : Option StringIndex := if b = 0 then none else some ⟨b⟩

/-- A string that is present has an index other than 0. -/
def StringOk (s : Option StringIndex) : Prop := ∀ i ∈ s, i.index ≠ 0

theorem stringOf_stringCode {s : Option StringIndex} (h : StringOk s) :
    stringOf (stringCode s) = s := by
  cases s with
  | none => rfl
  | some i => exact if_neg (h i rfl)

/-- Every terminal type. -/
def TerminalType.all : List TerminalType :=
  [.usbUndefined, .usbStreaming, .usbVendor, .inUndefined, .inMicrophone, .inDesktopMicrophone,
    .inPersonalMicrophone, .inOmniDirectionalMicrophone, .inMicrophoneArray,
    .inProcessingMicrophoneArray, .outUndefined, .outSpeaker, .outHeadphones,
    .outHeadMountedDisplayAudio, .outDesktopSpeaker, .outRoomSpeaker, .outCommunicationSpeaker,
    .outLowFrequencyEffectsSpeaker, .extUndefined, .extAnalogConnector,
    .extDigitalAudioInterface, .extLineConnector, .extLegacyAudioConnector, .extSpdifConnector,
    .ext1394DaStream, .ext1394DvStreamSoundtrack]

def TerminalType.ofCode (c : UInt16) : Option TerminalType :=
  TerminalType.all.find? fun t => t.code = c

theorem TerminalType.ofCode_code (t : TerminalType) : TerminalType.ofCode t.code = some t := by
  cases t <;> rfl

/-- Every function category. -/
def FunctionCode.all : List FunctionCode :=
  [.undefined, .desktopSpeaker, .homeTheater, .microphone, .headset, .telephone, .converter,
    .soundRecorder, .ioBox, .musicalInstrument, .proAudio, .audioVideo, .controlPanel, .other]

def FunctionCode.ofCode (c : UInt8) : Option FunctionCode :=
  FunctionCode.all.find? fun f => f.code = c

theorem FunctionCode.ofCode_code (f : FunctionCode) : FunctionCode.ofCode f.code = some f := by
  cases f <;> rfl

namespace Descriptors

/-! ## Descriptors -/

/-- The string indices of a descriptor can be told from a missing one. -/
def AudioClassDescriptor.StringsOk : AudioClassDescriptor → Prop
  | .clockSource d => StringOk d.string
  | .clockMultiplier _ => True
  | .inputTerminal d => StringOk d.string
  | .outputTerminal d => StringOk d.string

def decodeClockSource : List UInt8 → Option ClockSource
  | [id, attributes, controls, assoc, string] => do
      let frequency ← accessAt controls 0
      let validity ← accessAt controls 2
      return ⟨id, clockTypeOf attributes, decide (attributes &&& 4 ≠ 0), frequency, validity,
        assoc, stringOf string⟩
  | _ => none

def decodeClockMultiplier : List UInt8 → Option ClockMultiplier
  | [id, source, controls, string] => do
      let numerator ← accessAt controls 0
      let denominator ← accessAt controls 2
      return ⟨id, source, numerator, denominator, string⟩
  | _ => none

def decodeInputTerminal : List UInt8 → Option InputTerminal
  | [id, t0, t1, assoc, clock, channels, c0, c1, c2, c3, names, low, high, string] => do
      let type ← TerminalType.ofCode (ofLe16 t0 t1)
      let copyProtect ← accessAt low 0
      let connector ← accessAt low 2
      let overload ← accessAt low 4
      let cluster ← accessAt low 6
      let underflow ← accessAt high 0
      let overflow ← accessAt high 2
      let phantomPower ← accessAt high 4
      return ⟨id, type, assoc, clock, channels, ⟨ofLe32 c0 c1 c2 c3⟩, names, copyProtect,
        connector, overload, cluster, underflow, overflow, phantomPower, stringOf string⟩
  | _ => none

def decodeOutputTerminal : List UInt8 → Option OutputTerminal
  | [id, t0, t1, assoc, source, clock, low, high, string] => do
      let type ← TerminalType.ofCode (ofLe16 t0 t1)
      let copyProtect ← accessAt low 0
      let connector ← accessAt low 2
      let overload ← accessAt low 4
      let underflow ← accessAt low 6
      let overflow ← accessAt high 0
      return ⟨id, type, assoc, source, clock, copyProtect, connector, overload, underflow,
        overflow, stringOf string⟩
  | _ => none

/-- Read a record of the block by its subtype. -/
def decodeDescriptor (f : Frame) : Option AudioClassDescriptor :=
  if f.kind = ClassSpecificDescriptorType.interface.code then
    match f.body with
    | 0x0A :: rest => (decodeClockSource rest).map .clockSource
    | 0x0C :: rest => (decodeClockMultiplier rest).map .clockMultiplier
    | 0x02 :: rest => (decodeInputTerminal rest).map .inputTerminal
    | 0x03 :: rest => (decodeOutputTerminal rest).map .outputTerminal
    | _ => none
  else none

theorem decodeClockSource_payload {d : ClockSource} (h : StringOk d.string) :
    decodeClockSource [d.id, d.bmAttributes, d.bmControls, d.assocTerminal,
      stringCode d.string] = some d := by
  obtain ⟨htype, hsync⟩ := clockType_attributes d.clockType d.sofSync
  obtain ⟨hfrequency, hvalidity⟩ := accessAt_two d.frequencyAccess d.validityAccess
  have hcontrols : d.bmControls = d.frequencyAccess.code ||| (d.validityAccess.code <<< 2) :=
    UInt8.or_comm _ _
  rw [decodeClockSource, hcontrols, hfrequency, hvalidity, stringOf_stringCode h,
    ClockSource.bmAttributes, htype, hsync]
  rfl

theorem decodeClockMultiplier_payload (d : ClockMultiplier) :
    decodeClockMultiplier [d.id, d.sourceId, d.bmControls, d.string] = some d := by
  obtain ⟨hnumerator, hdenominator⟩ := accessAt_two d.numeratorAccess d.denominatorAccess
  rw [decodeClockMultiplier, ClockMultiplier.bmControls, hnumerator, hdenominator]
  rfl

/-- The payload of an input terminal behind its subtype. -/
theorem decodeInputTerminal_payload {d : InputTerminal} (h : StringOk d.string) :
    decodeInputTerminal (payload d).tail = some d := by
  obtain ⟨h1, h2, h3, h4⟩ := accessAt_four d.copyProtectControl d.connectorControl
    d.overloadControl d.clusterControl
  obtain ⟨h5, h6, h7⟩ := accessAt_three d.underflowControl d.overflowControl
    d.phantomPowerControl
  have hshape : (payload d).tail = [d.id, d.terminalType.code.toUInt8,
      (d.terminalType.code >>> 8).toUInt8, d.assocTerminal, d.clockSource, d.numChannels,
      d.channelConfig.bits.toUInt8, (d.channelConfig.bits >>> 8).toUInt8,
      (d.channelConfig.bits >>> 16).toUInt8, (d.channelConfig.bits >>> 24).toUInt8,
      d.channelNames, _, _, stringCode d.string] := rfl
  rw [hshape, decodeInputTerminal, Frames.ofLe16_le16, Frames.ofLe32_le32,
    TerminalType.ofCode_code, h1, h2, h3, h4, h5, h6, h7, stringOf_stringCode h]
  rfl

theorem accessAt_one (a : AccessControl) : accessAt a.code 0 = some a := by
  cases a <;> rfl

theorem decodeOutputTerminal_payload {d : OutputTerminal} (h : StringOk d.string) :
    decodeOutputTerminal (payload d).tail = some d := by
  obtain ⟨h1, h2, h3, h4⟩ := accessAt_four d.copyProtectControl d.connectorControl
    d.overloadControl d.underflowControl
  have hshape : (payload d).tail = [d.id, d.terminalType.code.toUInt8,
      (d.terminalType.code >>> 8).toUInt8, d.assocTerminal, d.sourceId, d.clockSource,
      _, d.overflowControl.code, stringCode d.string] := rfl
  rw [hshape, decodeOutputTerminal, Frames.ofLe16_le16, TerminalType.ofCode_code, h1, h2, h3,
    h4, accessAt_one, stringOf_stringCode h]
  rfl

/-- A record is read back as the descriptor it was made of. -/
theorem decodeDescriptor_frame {d : AudioClassDescriptor} (h : d.StringsOk) :
    decodeDescriptor d.frame = some d := by
  cases d with
  | clockSource d =>
      exact congrArg (Option.map AudioClassDescriptor.clockSource) (decodeClockSource_payload h)
  | clockMultiplier d =>
      exact congrArg (Option.map AudioClassDescriptor.clockMultiplier)
        (decodeClockMultiplier_payload d)
  | inputTerminal d =>
      exact congrArg (Option.map AudioClassDescriptor.inputTerminal) (decodeInputTerminal_payload h)
  | outputTerminal d =>
      exact congrArg (Option.map AudioClassDescriptor.outputTerminal)
        (decodeOutputTerminal_payload h)

/-! ## The block -/

/-- Read all records of a list. -/
def decodeDescriptors : List Frame → Option (List AudioClassDescriptor)
  | [] => some []
  | f :: fs => do
      let d ← decodeDescriptor f
      let ds ← decodeDescriptors fs
      return d :: ds

/-- Read the records of a block of the given length: the category of the header
and the descriptors behind it. -/
def decodeFrames (total : Nat) : List Frame → Option (FunctionCode × List AudioClassDescriptor)
  | ⟨0x24, [0x01, 0, 2, category, l0, l1, 0], _⟩ :: fs =>
      if (ofLe16 l0 l1).toNat = total then do
        let category ← FunctionCode.ofCode category
        let ds ← decodeDescriptors fs
        return (category, ds)
      else none
  | _ => none

/-- Read a block, whose header declares its length. -/
def decodeBlock (bs : List UInt8) : Option (FunctionCode × List AudioClassDescriptor) :=
  (Frames.split bs).bind (decodeFrames bs.length)

theorem decodeDescriptors_frames {ds : List AudioClassDescriptor} (h : ∀ d ∈ ds, d.StringsOk) :
    decodeDescriptors (ds.map AudioClassDescriptor.frame) = some ds := by
  induction ds with
  | nil => rfl
  | cons d ds ih =>
      rw [List.map_cons, decodeDescriptors, decodeDescriptor_frame (h d (List.mem_cons_self ..)),
        ih fun x hx => h x (List.mem_cons_of_mem d hx)]
      rfl

/-- A block whose total fits and whose strings can be read back. -/
structure AudioClassInterfaceDescriptor.Readable (d : AudioClassInterfaceDescriptor) : Prop where
  fits : d.bytes.length ≤ 65535
  strings : ∀ x ∈ d.inner, x.StringsOk

theorem decodeFrames_frames {d : AudioClassInterfaceDescriptor} (h : d.Readable) :
    decodeFrames d.bytes.length d.frames = some (d.category, d.inner) := by
  have htotal : (ofLe16 d.totalLength.toUInt8 (d.totalLength >>> 8).toUInt8).toNat =
      d.bytes.length := by
    rw [Frames.ofLe16_le16]
    exact AudioClassInterfaceDescriptor.toNat_totalLength h.fits
  have hheader : decodeFrames d.bytes.length d.frames =
      if (ofLe16 d.totalLength.toUInt8 (d.totalLength >>> 8).toUInt8).toNat = d.bytes.length then do
        let category ← FunctionCode.ofCode d.category.code
        let ds ← decodeDescriptors (d.inner.map AudioClassDescriptor.frame)
        return (category, ds)
      else none := rfl
  rw [hheader, if_pos htotal, FunctionCode.ofCode_code, decodeDescriptors_frames h.strings]
  rfl

theorem decodeBlock_bytes {d : AudioClassInterfaceDescriptor} (h : d.Readable) :
    decodeBlock d.bytes = some (d.category, d.inner) := by
  have hsplit : Frames.split d.bytes = some d.frames := Frames.split_flatten d.frames
  rw [decodeBlock, hsplit]
  exact decodeFrames_frames h

/-- The bytes an encoder leaves in an empty unbounded writer. -/
theorem write_sink (d : AudioClassInterfaceDescriptor) : d.write (⟨[]⟩ : Sink) = .ok () ⟨d.bytes⟩ :=
  (AudioClassInterfaceDescriptor.emits_block d).run trivial

/-- Encoding a block loses nothing: the bytes are read back as the category and the
list, and blocks with the same bytes are the same. -/
theorem decodeBlock_write {d : AudioClassInterfaceDescriptor} (h : d.Readable) :
    (∃ bs, d.write (⟨[]⟩ : Sink) = .ok () ⟨bs⟩ ∧
      decodeBlock bs = some (d.category, d.inner)) ∧
    ∀ e : AudioClassInterfaceDescriptor, e.Readable →
      e.write (⟨[]⟩ : Sink) = d.write (⟨[]⟩ : Sink) → e = d := by
  refine ⟨⟨d.bytes, write_sink d, decodeBlock_bytes h⟩, fun e he hsame => ?_⟩
  rw [write_sink, write_sink] at hsame
  have hbytes : e.bytes = d.bytes := by
    injection hsame with _ hsink
    exact congrArg Sink.bytes hsink
  have hpair : (e.category, e.inner) = (d.category, d.inner) :=
    Option.some.inj ((decodeBlock_bytes he).symm.trans (hbytes ▸ decodeBlock_bytes h))
  obtain ⟨einner, ecategory⟩ := e
  obtain ⟨dinner, dcategory⟩ := d
  cases hpair
  rfl

/-- A clock source and a terminal with a string. -/
def ioBox : AudioClassInterfaceDescriptor where
  inner := [.clockSource ⟨1, .internalFixed, false, .readOnly, .readOnly, 0, none⟩,
    .outputTerminal ⟨3, .outSpeaker, 0, 2, 1, .programmable, .readOnly, .notPresent,
      .programmable, .readOnly, some ⟨4⟩⟩]
  category := .ioBox

theorem decodeBlock_write_ioBox : ∃ bs, ioBox.write (⟨[]⟩ : Sink) = .ok () ⟨bs⟩ ∧
    decodeBlock bs = some (ioBox.category, ioBox.inner) :=
  (decodeBlock_write (d := ioBox) ⟨by decide, by
    intro x hx
    simp only [ioBox, List.mem_cons, List.not_mem_nil, or_false] at hx
    rcases hx with rfl | rfl
    · intro i hi; cases hi
    · intro i hi; cases hi; decide⟩).1

end Descriptors

end Uac2
