import UsbdUac2.Terminals

/-!
# The class and how it is built

`UsbAudioClassConfig.build` allocates the interfaces and endpoints of the streams
that are configured, the OUT stream first.  A stream that is absent leaves its
interface number and its endpoint index at 0.

`UsbAudioClass.getConfigurationDescriptors` writes the descriptors of the
function, the IN stream first, so that the feedback endpoint, which comes last,
belongs to the OUT stream.
-/

namespace Uac2

open ByteWriter
open Descriptors (AudioClassDescriptor InputTerminal OutputTerminal)

inductive UsbSpeed where
  | low
  | full
  | high
  | super
deriving DecidableEq, Repr

/-- The errors of the crate. -/
inductive Error where
  | invalidValue
  | bandwidthExceeded
  | streamNotInitialized
  | invalidSpeed
  | usbError (e : UsbError)
deriving DecidableEq, Repr

/-- The configuration of the class.  The device is `audioImpl`. -/
structure UsbAudioClassConfig (AU : Type) where
  speed : UsbSpeed
  deviceCategory : FunctionCode
  audioImpl : AU
  inputConfig : Option (TerminalConfig .in)
  outputConfig : Option (TerminalConfig .out)
  additionalDescriptors : Option (List AudioClassDescriptor)

structure UsbAudioClass (AU : Type) where
  controlIface : InterfaceNumber
  audioImpl : AU
  output : Option (AudioStream .out)
  input : Option (AudioStream .in)
  feedback : Option (Endpoint .in)
  additionalDescriptors : Option (List AudioClassDescriptor)
  deviceCategory : FunctionCode
  inIface : UInt8
  outIface : UInt8
  inEp : Nat
  outEp : Nat
  fbEp : Nat
  speed : UsbSpeed
  nominalFb : UsbIsochronousFeedback
  /-- Audio packets in a second. -/
  audioRate : UInt32

/-! ## Building -/

/-- `u32::div_ceil`. -/
def divCeil (a b : UInt32) : UInt32 := if 0 < a % b then a / b + 1 else a / b

/-- The nominal rate at a sample rate. -/
def nominal (sampleRate audioRate : UInt32) : UsbIsochronousFeedback :=
  .newFloat (sampleRate.toFloat32 / audioRate.toFloat32)

/-- The packet size asked for a stream, with room for one more frame.  The product
is a `u32` and the cast keeps its low 16 bits. -/
def packetSize {D : UsbDirection} (maxRate audioRate : UInt32) (config : TerminalConfig D) :
    UInt16 := ((divCeil maxRate audioRate + 1) * config.bytesPerFrame).toUInt16

section

variable {AU A : Type} [ClockSource AU] [UsbBusAllocator A]

/-- An allocation that fails is a panic. -/
def isochronous (D : UsbDirection) (sync : IsochronousSynchronizationType)
    (usage : IsochronousUsageType) (size : UInt16) (interval : UInt8) (alloc : A) :
    Except (Fault Error) (Endpoint D × A) :=
  match UsbBusAllocator.isochronous D sync usage size interval alloc with
  | some r => .ok r
  | none => .error .panic

/-- The intervals of the data and the feedback endpoint, and the packet rate. -/
def UsbSpeed.timing : UsbSpeed → Except (Fault Error) (UInt8 × UInt8 × UInt32)
  | .full => .ok (1, 1, 1000)
  | .high => .ok (1, 4, 8000)
  | .super => .ok (1, 4, 8000)
  | .low => .error (.err .invalidSpeed)

/-- The `max` of the maximal subrange, with the two `unwrap`s. -/
def maxRate (audioImpl : AU) : Except (Fault Error) UInt32 :=
  match ClockSource.sampleRates audioImpl with
  | .error _ => .error .panic
  | .ok rates =>
      match RangeEntry.maximum rates with
      | none => .error .panic
      | some e => .ok e.max

namespace UsbAudioClass

/-- The OUT stream with its feedback endpoint. -/
def addOutput (ac : UsbAudioClass AU) (maxRate : UInt32) (interval fbInterval : UInt8)
    (alloc : A) : Option (TerminalConfig .out) → Except (Fault Error) (UsbAudioClass AU × A)
  | none => .ok (ac, alloc)
  | some config => do
      let (interface, alloc) := UsbBusAllocator.interface alloc
      let (endpoint, alloc) ← isochronous .out config.syncType .data
        (packetSize maxRate ac.audioRate config) interval alloc
      let (feedbackEp, alloc) ← isochronous .in .noSynchronization .feedback 4 fbInterval alloc
      return ({ ac with
        outIface := interface
        outEp := endpoint.address.index
        fbEp := feedbackEp.address.index
        output := some { config, interface, endpoint, altSetting := defaultAlternateSetting }
        feedback := some feedbackEp }, alloc)

/-- The IN stream. -/
def addInput (ac : UsbAudioClass AU) (maxRate : UInt32) (interval : UInt8) (alloc : A) :
    Option (TerminalConfig .in) → Except (Fault Error) (UsbAudioClass AU × A)
  | none => .ok (ac, alloc)
  | some config => do
      let (interface, alloc) := UsbBusAllocator.interface alloc
      let (endpoint, alloc) ← isochronous .in config.syncType .data
        (packetSize maxRate ac.audioRate config) interval alloc
      return ({ ac with
        inIface := interface
        inEp := endpoint.address.index
        input := some { config, interface, endpoint, altSetting := defaultAlternateSetting } },
        alloc)

end UsbAudioClass

/-- Allocate the interfaces and endpoints, and make the class. -/
def UsbAudioClassConfig.build (config : UsbAudioClassConfig AU) (alloc : A) :
    Except (Fault Error) (UsbAudioClass AU × A) := do
  let (interval, fbInterval, audioRate) ← config.speed.timing
  let maxRate ← maxRate config.audioImpl
  let (controlIface, alloc) := UsbBusAllocator.interface alloc
  let ac : UsbAudioClass AU :=
    { controlIface
      audioImpl := config.audioImpl
      output := none
      input := none
      feedback := none
      additionalDescriptors := config.additionalDescriptors
      deviceCategory := config.deviceCategory
      inIface := 0
      outIface := 0
      inEp := 0
      outEp := 0
      fbEp := 0
      speed := config.speed
      nominalFb := nominal (ClockSource.sampleRate config.audioImpl) audioRate
      audioRate }
  let (ac, alloc) ← ac.addOutput maxRate interval fbInterval alloc config.outputConfig
  ac.addInput maxRate interval alloc config.inputConfig

end

/-! ## The configuration descriptors -/

namespace UsbAudioClass

variable {AU W : Type} [ClockSource AU] [DescriptorWriter W]

/-- The terminals of a stream that is present. -/
def terminals {D : UsbDirection} (stream : Option (AudioStream D)) :
    Option (InputTerminal × OutputTerminal) :=
  stream.map fun s => s.config.getConfigurationDescriptors

/-- What a pair of terminals adds to the total length. -/
def terminalsSize : Option (InputTerminal × OutputTerminal) → UInt16
  | some (a, b) => (Descriptor.size a).toUInt16 + (Descriptor.size b).toUInt16
  | none => 0

def writeTerminals (pair : Option (InputTerminal × OutputTerminal)) (writer : W) : Attempt W :=
  match pair with
  | some (a, b) => do
      let writer ← Descriptor.writeDescriptor a writer
      Descriptor.writeDescriptor b writer
  | none => .ok writer

/-- The loop over the additional descriptors. -/
def writeAdditional : List AudioClassDescriptor → W → Attempt W
  | [], writer => .ok writer
  | d :: ds, writer => do
      let writer ← d.writeDescriptor writer
      writeAdditional ds writer

def writeStream {D : UsbDirection} (stream : Option (AudioStream D)) (writer : W) : Attempt W :=
  match stream with
  | some s => do
      let writer ← s.writeInterfaceDescriptors writer
      s.writeEndpointDescriptors writer
  | none => .ok writer

def writeFeedback (feedback : Option (Endpoint .in)) (writer : W) : Attempt W :=
  match feedback with
  | some ep => DescriptorWriter.endpoint ep writer
  | none => .ok writer

/-- An error value of usb-device is returned. -/
def orReturn {α : Type} : Except UsbError α → Attempt α
  | .ok a => .ok a
  | .error e => .error (.err e)

def getConfigurationDescriptors (c : UsbAudioClass AU) (writer : W) : Attempt W := do
  let nInterfaces : UInt8 := 1 + c.input.isSome.toUInt8 + c.output.isSome.toUInt8
  let writer ← DescriptorWriter.iad c.controlIface nInterfaces usbClassAudio
    InterfaceSubclass.undefined.code FunctionProtocol.version2.code none writer
  let writer ← DescriptorWriter.interface c.controlIface usbClassAudio
    InterfaceSubclass.audioControl.code InterfaceProtocol.version2.code writer
  let clockDesc ← orReturn (ClockSource.clockConfigurationDescriptor c.audioImpl 1 none)
  let outputDescs := terminals c.output
  let inputDescs := terminals c.input
  let additionalDescs := c.additionalDescriptors.getD []
  let totalLength : UInt16 := 9 + (Descriptor.size clockDesc).toUInt16 +
    terminalsSize outputDescs + terminalsSize inputDescs +
    Descriptors.sumSizes additionalDescs
  let acHeader : List UInt8 :=
    [ClassSpecificACInterfaceDescriptorSubtype.header.code, 0, 2, c.deviceCategory.code,
      (totalLength &&& 0xff).toUInt8, ((totalLength >>> 8) &&& 0xff).toUInt8, 0]
  let writer ← DescriptorWriter.write ClassSpecificDescriptorType.interface.code acHeader writer
  let writer ← Descriptor.writeDescriptor clockDesc writer
  let writer ← writeTerminals outputDescs writer
  let writer ← writeTerminals inputDescs writer
  let writer ← writeAdditional additionalDescs writer
  let writer ← writeStream c.input writer
  let writer ← writeStream c.output writer
  writeFeedback c.feedback writer

end UsbAudioClass

end Uac2
