import Mathlib.Data.List.Basic

/-!
# Constants of the audio class

The enumerations of `constants.rs` that the class uses, each with its numeric
value.  `code` is the cast `as u8` (or `as u16`) of the source.  An enumeration
that is read off the wire has the total `ofUInt8` of the source, which sends
every unknown value to `undefined`.
-/

namespace Uac2

/-- `USB_CLASS_AUDIO`. -/
def usbClassAudio : UInt8 := 0x1

/-- A.5 Audio Interface Subclass Codes. -/
inductive InterfaceSubclass where
  | undefined
  | audioControl
  | audioStreaming
  | midiStreaming
deriving DecidableEq, Repr

/-- The value of a subclass. -/
def InterfaceSubclass.code : InterfaceSubclass → UInt8
  | .undefined => 0
  | .audioControl => 1
  | .audioStreaming => 2
  | .midiStreaming => 3

/-- A.6 Audio Interface Protocol Codes. -/
inductive InterfaceProtocol where
  | undefined
  | version2
deriving DecidableEq, Repr

/-- The value of an interface protocol. -/
def InterfaceProtocol.code : InterfaceProtocol → UInt8
  | .undefined => 0
  | .version2 => 0x20

/-- A.3 Audio Function Protocol Codes. -/
inductive FunctionProtocol where
  | undefined
  | version2
deriving DecidableEq, Repr

/-- The value of a function protocol. -/
def FunctionProtocol.code : FunctionProtocol → UInt8
  | .undefined => 0
  | .version2 => 0x20

/-- A.7 Audio Function Category Codes. -/
inductive FunctionCode where
  | undefined
  | desktopSpeaker
  | homeTheater
  | microphone
  | headset
  | telephone
  | converter
  | soundRecorder
  | ioBox
  | musicalInstrument
  | proAudio
  | audioVideo
  | controlPanel
  | other
deriving DecidableEq, Repr

/-- The value of a function category. -/
def FunctionCode.code : FunctionCode → UInt8
  | .undefined => 0
  | .desktopSpeaker => 1
  | .homeTheater => 2
  | .microphone => 3
  | .headset => 4
  | .telephone => 5
  | .converter => 6
  | .soundRecorder => 7
  | .ioBox => 8
  | .musicalInstrument => 9
  | .proAudio => 0xa
  | .audioVideo => 0xb
  | .controlPanel => 0xc
  | .other => 0xff

/-- A.8 Audio Class-Specific Descriptor Types. -/
inductive ClassSpecificDescriptorType where
  | undefined
  | device
  | configuration
  | string
  | interface
  | endpoint
deriving DecidableEq, Repr

/-- The value of a class-specific descriptor type. -/
def ClassSpecificDescriptorType.code : ClassSpecificDescriptorType → UInt8
  | .undefined => 0x20
  | .device => 0x21
  | .configuration => 0x22
  | .string => 0x23
  | .interface => 0x24
  | .endpoint => 0x25

/-- A.9 Audio Class-Specific AC Interface Descriptor Subtypes. -/
inductive ClassSpecificACInterfaceDescriptorSubtype where
  | undefined
  | header
  | inputTerminal
  | outputTerminal
  | mixerUnit
  | selectorUnit
  | featureUnit
  | effectUnit
  | processingUnit
  | extensionUnit
  | clockSource
  | clockSelector
  | clockMultiplier
  | sampleRateConverter
deriving DecidableEq, Repr

/-- The value of an AC descriptor subtype. -/
def ClassSpecificACInterfaceDescriptorSubtype.code :
    ClassSpecificACInterfaceDescriptorSubtype → UInt8
  | .undefined => 0
  | .header => 0x01
  | .inputTerminal => 0x02
  | .outputTerminal => 0x03
  | .mixerUnit => 0x04
  | .selectorUnit => 0x05
  | .featureUnit => 0x06
  | .effectUnit => 0x07
  | .processingUnit => 0x08
  | .extensionUnit => 0x09
  | .clockSource => 0x0A
  | .clockSelector => 0x0B
  | .clockMultiplier => 0x0C
  | .sampleRateConverter => 0x0D

/-- A.10 Audio Class-Specific AS Interface Descriptor Subtypes. -/
inductive ClassSpecificASInterfaceDescriptorSubtype where
  | undefined
  | general
  | formatType
  | encoder
  | decoder
deriving DecidableEq, Repr

/-- The value of an AS descriptor subtype. -/
def ClassSpecificASInterfaceDescriptorSubtype.code :
    ClassSpecificASInterfaceDescriptorSubtype → UInt8
  | .undefined => 0
  | .general => 1
  | .formatType => 2
  | .encoder => 3
  | .decoder => 4

/-- A.13 Audio Class-Specific Endpoint Descriptor Subtypes. -/
inductive ClassSpecificEndpointDescriptorSubtype where
  | undefined
  | general
deriving DecidableEq, Repr

/-- The value of an endpoint descriptor subtype. -/
def ClassSpecificEndpointDescriptorSubtype.code :
    ClassSpecificEndpointDescriptorSubtype → UInt8
  | .undefined => 0
  | .general => 1

/-- A.14 Audio Class-Specific Request Codes. -/
inductive ClassSpecificRequest where
  | undefined
  | cur
  | range
  | mem
deriving DecidableEq, Repr

/-- `From<u8>`: unknown codes are `undefined`. -/
def ClassSpecificRequest.ofUInt8 (value : UInt8) : ClassSpecificRequest :=
  match value with
  | 0 => .undefined
  | 1 => .cur
  | 2 => .range
  | 3 => .mem
  | _ => .undefined

/-- A.17.1 Clock Source Control Selectors. -/
inductive ClockSourceControlSelector where
  | undefined
  | samFreqControl
  | clockValidControl
deriving DecidableEq, Repr

/-- `From<u8>`: unknown selectors are `undefined`. -/
def ClockSourceControlSelector.ofUInt8 (value : UInt8) : ClockSourceControlSelector :=
  match value with
  | 0 => .undefined
  | 1 => .samFreqControl
  | 2 => .clockValidControl
  | _ => .undefined

/-- Universal Serial Bus Device Class Definition for Terminal Types. -/
inductive TerminalType where
  | usbUndefined
  | usbStreaming
  | usbVendor
  | inUndefined
  | inMicrophone
  | inDesktopMicrophone
  | inPersonalMicrophone
  | inOmniDirectionalMicrophone
  | inMicrophoneArray
  | inProcessingMicrophoneArray
  | outUndefined
  | outSpeaker
  | outHeadphones
  | outHeadMountedDisplayAudio
  | outDesktopSpeaker
  | outRoomSpeaker
  | outCommunicationSpeaker
  | outLowFrequencyEffectsSpeaker
  | extUndefined
  | extAnalogConnector
  | extDigitalAudioInterface
  | extLineConnector
  | extLegacyAudioConnector
  | extSpdifConnector
  | ext1394DaStream
  | ext1394DvStreamSoundtrack
deriving DecidableEq, Repr

/-- The value of a terminal type. -/
def TerminalType.code : TerminalType → UInt16
  | .usbUndefined => 0x0100
  | .usbStreaming => 0x0101
  | .usbVendor => 0x01ff
  | .inUndefined => 0x0200
  | .inMicrophone => 0x0201
  | .inDesktopMicrophone => 0x0202
  | .inPersonalMicrophone => 0x0203
  | .inOmniDirectionalMicrophone => 0x0204
  | .inMicrophoneArray => 0x0205
  | .inProcessingMicrophoneArray => 0x0206
  | .outUndefined => 0x0300
  | .outSpeaker => 0x0301
  | .outHeadphones => 0x0302
  | .outHeadMountedDisplayAudio => 0x0303
  | .outDesktopSpeaker => 0x0304
  | .outRoomSpeaker => 0x0305
  | .outCommunicationSpeaker => 0x0306
  | .outLowFrequencyEffectsSpeaker => 0x0307
  | .extUndefined => 0x0600
  | .extAnalogConnector => 0x0601
  | .extDigitalAudioInterface => 0x0602
  | .extLineConnector => 0x0603
  | .extLegacyAudioConnector => 0x0604
  | .extSpdifConnector => 0x0605
  | .ext1394DaStream => 0x0606
  | .ext1394DvStreamSoundtrack => 0x0607

/-- The format types of a streaming interface. -/
inductive FormatType where
  | undefined
  | type1
  | type2
  | type3
deriving DecidableEq, Repr

/-- The value of a format type. -/
def FormatType.code : FormatType → UInt8
  | .undefined => 0
  | .type1 => 1
  | .type2 => 2
  | .type3 => 3

end Uac2
