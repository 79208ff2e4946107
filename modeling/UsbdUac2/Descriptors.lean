import UsbdUac2.Constants
import UsbdUac2.UsbDevice

/-!
# Descriptors

The descriptor types of `descriptors.rs` and their encoders.  An encoder is a
program over an arbitrary writer, with the calls of the source in their order:
`writeU8`, `writeU16` and `writeU32` are whole writes, and a bare `write` is one
short write whose count is thrown away.

`Descriptor.write` takes the length byte from `size`.  `Descriptor.writeDescriptor`
goes through the descriptor writer of usb-device, which takes it from the
position of the cursor.  Sums of sizes wrap as in a release build.
-/

namespace Uac2

open ByteWriter
open Frames (le16 le32)

/-! ## Fields -/

/-- A clock source is external or internal. -/
inductive ClockType where
  | external
  | internalFixed
  | internalVariable
  | internalProgrammable
deriving DecidableEq, Repr

def ClockType.code : ClockType → UInt8
  | .external => 0
  | .internalFixed => 1
  | .internalVariable => 2
  | .internalProgrammable => 3

/-- The two-bit access to one control. -/
inductive AccessControl where
  | notPresent
  | readOnly
  | programmable
deriving DecidableEq, Repr

def AccessControl.code : AccessControl → UInt8
  | .notPresent => 0
  | .readOnly => 1
  | .programmable => 3

/-- `as u16`. -/
def AccessControl.code16 (c : AccessControl) : UInt16 := c.code.toUInt16

/-- The channel map, a 32-bit field of flags.  Bit 0 is front left. -/
structure ChannelConfig where
  bits : UInt32
deriving DecidableEq, Repr

/-- The four stored bytes. -/
def ChannelConfig.intoBytes (c : ChannelConfig) : List UInt8 := le32 c.bits

@[simp] theorem ChannelConfig.length_intoBytes (c : ChannelConfig) : c.intoBytes.length = 4 := rfl

/-! ## Writing -/

section

variable {σ ε : Type} [Write σ ε]

def writeU8 (v : UInt8) : WriteM σ ε Unit := writeAll [v]

/-- Little-endian, as every call of the source. -/
def writeU16 (v : UInt16) : WriteM σ ε Unit := writeAll (le16 v)

def writeU32 (v : UInt32) : WriteM σ ε Unit := writeAll (le32 v)

/-- The slice `sources[0..n]`, which panics beyond the array. -/
def sourceSlice {N : Nat} (sources : Vector UInt8 N) (n : UInt8) : WriteM σ ε (List UInt8) :=
  if n.toNat ≤ N then pure (sources.toList.take n.toNat) else throw .panic

end

/-- The trait `Descriptor`. -/
class Descriptor (D : Type) where
  /-- `MAX_SIZE`, the length and type bytes included. -/
  maxSize : Nat
  descriptorType : D → UInt8
  /-- The declared size, the length and type bytes included. -/
  size : D → UInt8
  /-- The payload, without the length and type bytes. -/
  writePayload : {σ ε : Type} → [Write σ ε] → D → WriteM σ ε Unit

namespace Descriptor

variable {D : Type} [Descriptor D]

/-- The whole descriptor, with `size` as its length byte. -/
def write {σ ε : Type} [Write σ ε] (d : D) : WriteM σ ε Unit := do
  writeU8 (size d)
  writeU8 (descriptorType d)
  writePayload d

/-- The closure `write_descriptor` hands to usb-device: the payload goes through a
cursor, and its position is the length. -/
def fillPayload (d : D) (buf : List UInt8) : Attempt Nat × List UInt8 :=
  match writePayload d (Cursor.new buf) with
  | .ok () cur => (.ok cur.position, cur.inner)
  | .error (.err e) cur => (.error (.err e.usbError), cur.inner)
  | .error .panic cur => (.error .panic, cur.inner)

def writeDescriptor {W : Type} [DescriptorWriter W] (d : D) (writer : W) : Attempt W :=
  DescriptorWriter.writeWith (descriptorType d) (fillPayload d) writer

end Descriptor

namespace Descriptors

/-! ## Clock source -/

structure ClockSource where
  id : UInt8
  clockType : ClockType
  sofSync : Bool
  frequencyAccess : AccessControl
  validityAccess : AccessControl
  assocTerminal : UInt8
  string : Option StringIndex
deriving DecidableEq, Repr

def ClockSource.bmAttributes (d : ClockSource) : UInt8 :=
  d.clockType.code ||| if d.sofSync then 4 else 0

def ClockSource.bmControls (d : ClockSource) : UInt8 :=
  (d.validityAccess.code <<< 2) ||| d.frequencyAccess.code

instance : Descriptor ClockSource where
  maxSize := 8
  descriptorType _ := ClassSpecificDescriptorType.interface.code
  size _ := 8
  writePayload d := do
    writeU8 ClassSpecificACInterfaceDescriptorSubtype.clockSource.code
    writeU8 d.id
    writeU8 d.bmAttributes
    writeU8 d.bmControls
    writeU8 d.assocTerminal
    writeU8 (stringCode d.string)

/-! ## Terminals -/

structure InputTerminal where
  id : UInt8
  terminalType : TerminalType
  assocTerminal : UInt8
  clockSource : UInt8
  numChannels : UInt8
  channelConfig : ChannelConfig
  channelNames : UInt8
  copyProtectControl : AccessControl
  connectorControl : AccessControl
  overloadControl : AccessControl
  clusterControl : AccessControl
  underflowControl : AccessControl
  overflowControl : AccessControl
  phantomPowerControl : AccessControl
  string : Option StringIndex
deriving DecidableEq, Repr

instance : Descriptor InputTerminal where
  maxSize := 17
  descriptorType _ := ClassSpecificDescriptorType.interface.code
  size _ := 17
  writePayload d := do
    writeU8 ClassSpecificACInterfaceDescriptorSubtype.inputTerminal.code
    writeU8 d.id
    writeU16 d.terminalType.code
    writeU8 d.assocTerminal
    writeU8 d.clockSource
    writeU8 d.numChannels
    let _ ← write d.channelConfig.intoBytes
    writeU8 d.channelNames
    writeU8 (d.copyProtectControl.code
      ||| (d.connectorControl.code <<< 2)
      ||| (d.overloadControl.code <<< 4)
      ||| (d.clusterControl.code <<< 6))
    writeU8 (d.underflowControl.code
      ||| (d.overflowControl.code <<< 2)
      ||| (d.phantomPowerControl.code <<< 4))
    writeU8 (stringCode d.string)

structure OutputTerminal where
  id : UInt8
  terminalType : TerminalType
  assocTerminal : UInt8
  sourceId : UInt8
  clockSource : UInt8
  copyProtectControl : AccessControl
  connectorControl : AccessControl
  overloadControl : AccessControl
  underflowControl : AccessControl
  overflowControl : AccessControl
  string : Option StringIndex
deriving DecidableEq, Repr

instance : Descriptor OutputTerminal where
  maxSize := 12
  descriptorType _ := ClassSpecificDescriptorType.interface.code
  size _ := 12
  writePayload d := do
    writeU8 ClassSpecificACInterfaceDescriptorSubtype.outputTerminal.code
    writeU8 d.id
    writeU16 d.terminalType.code
    writeU8 d.assocTerminal
    writeU8 d.sourceId
    writeU8 d.clockSource
    writeU8 (d.copyProtectControl.code
      ||| (d.connectorControl.code <<< 2)
      ||| (d.overloadControl.code <<< 4)
      ||| (d.underflowControl.code <<< 6))
    writeU8 d.overflowControl.code
    writeU8 (stringCode d.string)

inductive Terminal where
  | input (d : InputTerminal)
  | output (d : OutputTerminal)
deriving DecidableEq, Repr

instance : Descriptor Terminal where
  maxSize :=
    if Descriptor.maxSize InputTerminal > Descriptor.maxSize OutputTerminal then
      Descriptor.maxSize InputTerminal
    else Descriptor.maxSize OutputTerminal
  descriptorType _ := ClassSpecificDescriptorType.interface.code
  size
    | .input d => Descriptor.size d
    | .output d => Descriptor.size d
  writePayload
    | .input d => Descriptor.writePayload d
    | .output d => Descriptor.writePayload d

/-! ## Clock selector and multiplier -/

structure ClockSelector (N : Nat) where
  id : UInt8
  nSources : UInt8
  sources : Vector UInt8 N
  selectorAccess : AccessControl
  string : UInt8
deriving DecidableEq, Repr

instance {N : Nat} : Descriptor (ClockSelector N) where
  maxSize := 7 + N
  descriptorType _ := ClassSpecificDescriptorType.interface.code
  size d := 7 + d.nSources
  writePayload d := do
    writeU8 ClassSpecificACInterfaceDescriptorSubtype.clockSelector.code
    writeU8 d.id
    writeU8 d.nSources
    let sources ← sourceSlice d.sources d.nSources
    let _ ← write sources
    writeU8 d.selectorAccess.code
    writeU8 d.string

structure ClockMultiplier where
  id : UInt8
  sourceId : UInt8
  numeratorAccess : AccessControl
  denominatorAccess : AccessControl
  string : UInt8
deriving DecidableEq, Repr

def ClockMultiplier.bmControls (d : ClockMultiplier) : UInt8 :=
  d.numeratorAccess.code ||| (d.denominatorAccess.code <<< 2)

instance : Descriptor ClockMultiplier where
  maxSize := 7
  descriptorType _ := ClassSpecificDescriptorType.interface.code
  size _ := 7
  writePayload d := do
    writeU8 ClassSpecificACInterfaceDescriptorSubtype.clockMultiplier.code
    writeU8 d.id
    writeU8 d.sourceId
    writeU8 d.bmControls
    writeU8 d.string

/-! ## Units -/

structure SelectorUnit (N : Nat) where
  id : UInt8
  sources : Vector UInt8 N
  nSources : UInt8
  selectorControl : AccessControl
  string : UInt8
deriving DecidableEq, Repr

def SelectorUnit.bmControls {N : Nat} (d : SelectorUnit N) : UInt8 := d.selectorControl.code

instance {N : Nat} : Descriptor (SelectorUnit N) where
  maxSize := 7 + N
  descriptorType _ := ClassSpecificDescriptorType.interface.code
  size d := 7 + d.nSources
  writePayload d := do
    writeU8 ClassSpecificACInterfaceDescriptorSubtype.selectorUnit.code
    writeU8 d.id
    writeU8 d.nSources
    let sources ← sourceSlice d.sources d.nSources
    let _ ← write sources
    writeU8 d.bmControls
    writeU8 d.string

structure ProcessingUnit (N : Nat) where
  id : UInt8
  processType : UInt16
  sources : Vector UInt8 N
  numChannels : UInt8
  nSources : UInt8
  channelConfig : ChannelConfig
  channelNames : UInt8
  enableControl : AccessControl
  modeSelectControl : AccessControl
  clusterControl : AccessControl
  underflowControl : AccessControl
  overflowControl : AccessControl
  latencyControl : AccessControl
  string : UInt8
deriving DecidableEq, Repr

def ProcessingUnit.bmControls {N : Nat} (d : ProcessingUnit N) : UInt16 :=
  d.enableControl.code16
    ||| (d.modeSelectControl.code16 <<< 2)
    ||| (d.clusterControl.code16 <<< 4)
    ||| (d.underflowControl.code16 <<< 6)
    ||| (d.overflowControl.code16 <<< 8)
    ||| (d.latencyControl.code16 <<< 10)

instance {N : Nat} : Descriptor (ProcessingUnit N) where
  maxSize := 17 + N
  descriptorType _ := ClassSpecificDescriptorType.interface.code
  size d := 17 + d.nSources
  writePayload d := do
    writeU8 ClassSpecificACInterfaceDescriptorSubtype.processingUnit.code
    writeU8 d.id
    writeU16 d.processType
    writeU8 d.nSources
    let sources ← sourceSlice d.sources d.nSources
    let _ ← write sources
    writeU8 d.numChannels
    let _ ← write d.channelConfig.intoBytes
    writeU8 d.channelNames
    writeU16 d.bmControls
    writeU8 d.string

structure ExtensionUnit (N : Nat) where
  id : UInt8
  extensionCode : UInt16
  sources : Vector UInt8 N
  nSources : UInt8
  numChannels : UInt8
  channelConfig : ChannelConfig
  channelNames : UInt8
  enableControl : AccessControl
  clusterControl : AccessControl
  underflowControl : AccessControl
  overflowControl : AccessControl
  string : UInt8
deriving DecidableEq, Repr

def ExtensionUnit.bmControls {N : Nat} (d : ExtensionUnit N) : UInt8 :=
  d.enableControl.code
    ||| (d.clusterControl.code <<< 2)
    ||| (d.underflowControl.code <<< 4)
    ||| (d.overflowControl.code <<< 6)

instance {N : Nat} : Descriptor (ExtensionUnit N) where
  maxSize := 16 + N
  descriptorType _ := ClassSpecificDescriptorType.interface.code
  size d := 16 + d.nSources
  writePayload d := do
    writeU8 ClassSpecificACInterfaceDescriptorSubtype.extensionUnit.code
    writeU8 d.id
    writeU16 d.extensionCode
    writeU8 d.nSources
    let sources ← sourceSlice d.sources d.nSources
    let _ ← write sources
    writeU8 d.numChannels
    let _ ← write d.channelConfig.intoBytes
    writeU8 d.channelNames
    writeU8 d.bmControls
    writeU8 d.string

/-! ## Streaming -/

structure FormatType1 where
  bytesPerSample : UInt8
  bitResolution : UInt8
deriving DecidableEq, Repr

instance : Descriptor FormatType1 where
  maxSize := 6
  descriptorType _ := ClassSpecificDescriptorType.interface.code
  size _ := 6
  writePayload d := do
    writeU8 ClassSpecificASInterfaceDescriptorSubtype.formatType.code
    writeU8 FormatType.type1.code
    writeU8 d.bytesPerSample
    writeU8 d.bitResolution

inductive Type1FormatBitmap where
  | pcm
  | pcm8
  | ieeeFloat
  | alaw
  | mulaw
  | raw
deriving DecidableEq, Repr

def Type1FormatBitmap.code : Type1FormatBitmap → UInt32
  | .pcm => (1 : UInt32) <<< 0
  | .pcm8 => (1 : UInt32) <<< 1
  | .ieeeFloat => (1 : UInt32) <<< 2
  | .alaw => (1 : UInt32) <<< 3
  | .mulaw => (1 : UInt32) <<< 4
  | .raw => (1 : UInt32) <<< 31

structure AudioStreamingInterface where
  terminalId : UInt8
  activeAltSetting : AccessControl
  validAltSettings : AccessControl
  formatType : FormatType
  formatBitmap : Type1FormatBitmap
  numChannels : UInt8
  channelConfig : ChannelConfig
  string : Option StringIndex
deriving DecidableEq, Repr

def AudioStreamingInterface.bmControls (d : AudioStreamingInterface) : UInt8 :=
  d.activeAltSetting.code ||| (d.validAltSettings.code <<< 2)

instance : Descriptor AudioStreamingInterface where
  maxSize := 16
  descriptorType _ := ClassSpecificDescriptorType.interface.code
  size _ := 16
  writePayload d := do
    writeU8 ClassSpecificASInterfaceDescriptorSubtype.general.code
    writeU8 d.terminalId
    writeU8 d.bmControls
    writeU8 d.formatType.code
    writeU32 d.formatBitmap.code
    writeU8 d.numChannels
    let _ ← write d.channelConfig.intoBytes
    writeU8 (stringCode d.string)

inductive LockDelay where
  | undefined (v : UInt16)
  | milliseconds (v : UInt16)
  | decodedSamples (v : UInt16)
deriving DecidableEq, Repr

def LockDelay.units : LockDelay → UInt8
  | .undefined _ => 0
  | .milliseconds _ => 1
  | .decodedSamples _ => 2

def LockDelay.value : LockDelay → UInt16
  | .undefined v => v
  | .milliseconds v => v
  | .decodedSamples v => v

structure AudioStreamingEndpoint where
  maxPacketsOnly : Bool
  pitchControl : AccessControl
  overrunControl : AccessControl
  underrunControl : AccessControl
  lockDelay : LockDelay
deriving DecidableEq, Repr

def AudioStreamingEndpoint.bmControls (d : AudioStreamingEndpoint) : UInt8 :=
  d.pitchControl.code ||| d.overrunControl.code <<< 2 ||| d.underrunControl.code <<< 4

instance : Descriptor AudioStreamingEndpoint where
  maxSize := 8
  descriptorType _ := ClassSpecificDescriptorType.endpoint.code
  size _ := 8
  writePayload d := do
    writeU8 ClassSpecificEndpointDescriptorSubtype.general.code
    writeU8 (d.maxPacketsOnly.toUInt8 <<< 7)
    writeU8 d.bmControls
    writeU8 d.lockDelay.units
    writeU16 d.lockDelay.value

/-! ## The class-specific AudioControl block -/

/-- The descriptors a user may add to the AudioControl interface. -/
inductive AudioClassDescriptor where
  | clockSource (d : ClockSource)
  | clockMultiplier (d : ClockMultiplier)
  | inputTerminal (d : InputTerminal)
  | outputTerminal (d : OutputTerminal)
deriving DecidableEq, Repr

namespace AudioClassDescriptor

def size : AudioClassDescriptor → UInt8
  | .clockSource d => Descriptor.size d
  | .clockMultiplier d => Descriptor.size d
  | .inputTerminal d => Descriptor.size d
  | .outputTerminal d => Descriptor.size d

def write {σ ε : Type} [Write σ ε] : AudioClassDescriptor → WriteM σ ε Unit
  | .clockSource d => Descriptor.write d
  | .clockMultiplier d => Descriptor.write d
  | .inputTerminal d => Descriptor.write d
  | .outputTerminal d => Descriptor.write d

def writeDescriptor {W : Type} [DescriptorWriter W] (writer : W) :
    AudioClassDescriptor → Attempt W
  | .clockSource d => Descriptor.writeDescriptor d writer
  | .clockMultiplier d => Descriptor.writeDescriptor d writer
  | .inputTerminal d => Descriptor.writeDescriptor d writer
  | .outputTerminal d => Descriptor.writeDescriptor d writer

end AudioClassDescriptor

/-- The sum of the sizes, as `iter().map(..).sum::<u16>()`. -/
def sumSizes (ds : List AudioClassDescriptor) : UInt16 :=
  ds.foldl (fun acc d => acc + d.size.toUInt16) 0

structure AudioClassInterfaceDescriptor where
  inner : List AudioClassDescriptor
  category : FunctionCode
deriving DecidableEq, Repr

namespace AudioClassInterfaceDescriptor

/-- `wTotalLength` of the header. -/
def totalLength (d : AudioClassInterfaceDescriptor) : UInt16 := 9 + sumSizes d.inner

section

variable {σ ε : Type} [Write σ ε]

def writeHeader (d : AudioClassInterfaceDescriptor) : WriteM σ ε Unit := do
  writeU8 9
  writeU8 ClassSpecificDescriptorType.interface.code
  writeU8 ClassSpecificACInterfaceDescriptorSubtype.header.code
  writeU8 0
  writeU8 2
  writeU8 d.category.code
  writeU16 d.totalLength
  writeU8 0

/-- The loop over the inner descriptors. -/
def writeInner : List AudioClassDescriptor → WriteM σ ε Unit
  | [] => pure ()
  | d :: ds => do
      d.write
      writeInner ds

def write (d : AudioClassInterfaceDescriptor) : WriteM σ ε Unit := do
  d.writeHeader
  writeInner d.inner

end

end AudioClassInterfaceDescriptor

end Descriptors

end Uac2
