import UsbdUac2.Handler

/-!
# Terminals and streams

The configuration of one stream and the descriptors made of it.  A stream has a
USB terminal with the identifier `baseId` and an audio terminal with the next
one.  For an OUT stream the USB terminal is the input terminal, and for an IN
stream it is the output terminal.

An `AudioStream` is a configuration with the interface, the endpoint and the
alternate setting that is selected.
-/

namespace Uac2

open ByteWriter
open Descriptors (InputTerminal OutputTerminal FormatType1 LockDelay)

/-- The configuration of a stream of direction `D`. -/
structure TerminalConfig (D : UsbDirection) where
  baseId : UInt8
  clockSourceId : UInt8
  numChannels : UInt8
  format : FormatType1
  terminalType : TerminalType
  channelConfig : ChannelConfig
  syncType : IsochronousSynchronizationType
  lockDelay : LockDelay
  string : Option StringIndex
deriving DecidableEq, Repr

namespace TerminalConfig

def bytesPerFrame {D : UsbDirection} (c : TerminalConfig D) : UInt32 :=
  c.format.bytesPerSample.toUInt32 * c.numChannels.toUInt32

/-- The two terminals of a stream. -/
def getConfigurationDescriptors :
    {D : UsbDirection} → TerminalConfig D → InputTerminal × OutputTerminal
  | .out, c =>
      let inputTerminal : InputTerminal :=
        { id := c.baseId
          terminalType := .usbStreaming
          assocTerminal := 0
          clockSource := c.clockSourceId
          numChannels := c.numChannels
          channelConfig := c.channelConfig
          channelNames := 0
          copyProtectControl := .notPresent
          connectorControl := .notPresent
          overloadControl := .notPresent
          clusterControl := .notPresent
          underflowControl := .notPresent
          overflowControl := .notPresent
          phantomPowerControl := .notPresent
          string := c.string }
      let outputTerminal : OutputTerminal :=
        { id := c.baseId + 1
          terminalType := c.terminalType
          assocTerminal := 0
          sourceId := c.baseId
          clockSource := c.clockSourceId
          copyProtectControl := .notPresent
          connectorControl := .notPresent
          overloadControl := .notPresent
          underflowControl := .notPresent
          overflowControl := .notPresent
          string := c.string }
      (inputTerminal, outputTerminal)
  | .in, c =>
      let outputTerminal : OutputTerminal :=
        { id := c.baseId
          terminalType := .usbStreaming
          assocTerminal := 0
          sourceId := c.baseId + 1
          clockSource := c.clockSourceId
          copyProtectControl := .notPresent
          connectorControl := .notPresent
          overloadControl := .notPresent
          underflowControl := .notPresent
          overflowControl := .notPresent
          string := c.string }
      let inputTerminal : InputTerminal :=
        { id := c.baseId + 1
          terminalType := c.terminalType
          assocTerminal := 0
          clockSource := c.clockSourceId
          numChannels := c.numChannels
          channelConfig := c.channelConfig
          channelNames := 0
          copyProtectControl := .notPresent
          connectorControl := .notPresent
          overloadControl := .notPresent
          clusterControl := .notPresent
          underflowControl := .notPresent
          overflowControl := .notPresent
          phantomPowerControl := .notPresent
          string := c.string }
      (inputTerminal, outputTerminal)

end TerminalConfig

/-! ## Streams -/

/-- A stream of direction `D` with the alternate setting that is selected. -/
structure AudioStream (D : UsbDirection) where
  config : TerminalConfig D
  interface : InterfaceNumber
  endpoint : Endpoint D
  altSetting : UInt8
deriving DecidableEq, Repr

namespace AudioStream

variable {D : UsbDirection}

/-- The class-specific descriptor of the streaming interface. -/
def asGeneral (s : AudioStream D) : Descriptors.AudioStreamingInterface where
  terminalId := s.config.baseId
  activeAltSetting := .notPresent
  validAltSettings := .notPresent
  formatType := .type1
  formatBitmap := .pcm
  numChannels := s.config.numChannels
  channelConfig := s.config.channelConfig
  string := s.config.string

/-- The class-specific descriptor of the data endpoint. -/
def csEndpoint (s : AudioStream D) : Descriptors.AudioStreamingEndpoint where
  maxPacketsOnly := false
  pitchControl := .notPresent
  overrunControl := .notPresent
  underrunControl := .notPresent
  lockDelay := s.config.lockDelay

variable {W : Type} [DescriptorWriter W]

def writeInterfaceDescriptors (s : AudioStream D) (writer : W) : Attempt W := do
  let writer ← DescriptorWriter.interface s.interface usbClassAudio
    InterfaceSubclass.audioStreaming.code InterfaceProtocol.version2.code writer
  let writer ← DescriptorWriter.interfaceAlt s.interface 1 usbClassAudio
    InterfaceSubclass.audioStreaming.code InterfaceProtocol.version2.code none writer
  let writer ← Descriptor.writeDescriptor s.asGeneral writer
  Descriptor.writeDescriptor s.config.format writer

def writeEndpointDescriptors (s : AudioStream D) (writer : W) : Attempt W := do
  let writer ← DescriptorWriter.endpoint s.endpoint writer
  Descriptor.writeDescriptor s.csEndpoint writer

end AudioStream

end Uac2
