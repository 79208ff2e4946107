import UsbdUac2.AudioClass

/-!
# The events of the class

usb-device calls the class when a control request arrives, when a packet was
received or sent, when the device is polled, and on a bus reset.  A `World` is
the class with the bus, and with a log of what others can see of it: the calls of
the device, the accepted and answered requests, and the packets.

The functions are those of the source, with the state passed along.  They are
total but for two: `endpointOut` fails where the source would unwrap an absent
stream, and `poll`, whose loop is not bounded, takes fuel.

Between two events the bus may change in any way.
-/

namespace Uac2

open ByteWriter
open Frames (ofLe32)

/-- Something others can see of the class. -/
inductive Action where
  | audioDataRx (ep : Endpoint .out)
  | audioDataTx (ep : Endpoint .in)
  | feedback (nominal : UsbIsochronousFeedback)
  | alternateSettingChanged (terminal : UsbDirection) (altSetting : UInt8)
  | sampleRate
  | setSampleRate (rate : UInt32)
  | clockValidity
  | sampleRates
  | accept
  | answer (bytes : List UInt8)
  | write (ep : EndpointAddress) (bytes : List UInt8)
  | read (ep : EndpointAddress)
deriving DecidableEq, Repr

structure World (AU B : Type) where
  cls : UsbAudioClass AU
  bus : B
  log : List Action

/-! ## Requests -/

namespace Request

/-- `(req.index >> 8) as u8`. -/
def entity (req : Request) : UInt8 := (req.index >>> 8).toUInt8

/-- `(req.index & 0xff) as u8`. -/
def interface (req : Request) : UInt8 := (req.index &&& 0xff).toUInt8

/-- `(req.value >> 8) as u8`. -/
def control (req : Request) : UInt8 := (req.value >>> 8).toUInt8

/-- `(req.value & 0xff) as u8`. -/
def channel (req : Request) : UInt8 := (req.value &&& 0xff).toUInt8

end Request

/-- `read_u32::<LittleEndian>` from the data stage. -/
def readU32 : List UInt8 → Option UInt32
  | b0 :: b1 :: b2 :: b3 :: _ => some (ofLe32 b0 b1 b2 b3)
  | _ => none

/-- A closure for `accept` that writes to the control buffer.  The one error of a
slice is that it is full. -/
def fillBuf (p : WriteM Slice SliceWriteError Nat) (buf : List UInt8) :
    Except UsbError Nat × List UInt8 :=
  match p ⟨[], buf⟩ with
  | .ok len s => (.ok len, s.filled ++ s.rest)
  | .error _ s => (.error .bufferOverflow, s.filled ++ s.rest)

section

variable {σ ε : Type} [Write σ ε]

/-- The loop of `get_clock_range` with its counter. -/
def writeRates : List (RangeEntry UInt32) → Nat → WriteM σ ε Nat
  | [], written => pure written
  | rate :: rates, written => do
      let n ← rate.write
      writeRates rates (written + n)

/-- The closure of `get_clock_range`. -/
def writeRange (reqLen : UInt16) (rates : List (RangeEntry UInt32)) : WriteM σ ε Nat := do
  writeU16 (UInt16.ofNat rates.length)
  if reqLen > 2 then writeRates rates 2 else pure 2

end

/-- The closure for the clock validity.  An error of the write is dropped. -/
def fillValid (valid : Bool) (buf : List UInt8) : Except UsbError Nat × List UInt8 :=
  (.ok 1, (fillBuf (do writeU8 valid.toUInt8; pure 1) buf).2)

namespace World

variable {AU B : Type}

/-! ## Calls -/

def note (a : Action) (w : World AU B) : World AU B := { w with log := w.log ++ [a] }

def accept (w : World AU B) : World AU B := w.note .accept

/-- The outcome of an IN request. -/
def answer (r : Option (List UInt8)) (w : World AU B) : World AU B :=
  match r with
  | some bytes => w.note (.answer bytes)
  | none => w

section

variable [AudioHandler AU B]

def audioDataRx (ep : Endpoint .out) (w : World AU B) : World AU B :=
  let (audioImpl, bus) := AudioHandler.audioDataRx ep w.cls.audioImpl w.bus
  { w with cls := { w.cls with audioImpl }, bus, log := w.log ++ [.audioDataRx ep] }

def audioDataTx (ep : Endpoint .in) (w : World AU B) : World AU B :=
  let (audioImpl, bus) := AudioHandler.audioDataTx ep w.cls.audioImpl w.bus
  { w with cls := { w.cls with audioImpl }, bus, log := w.log ++ [.audioDataTx ep] }

def alternateSettingChanged (terminal : UsbDirection) (altSetting : UInt8) (w : World AU B) :
    World AU B :=
  { w with
    cls := { w.cls with
      audioImpl :=
        AudioHandler.alternateSettingChanged (B := B) terminal altSetting w.cls.audioImpl }
    log := w.log ++ [.alternateSettingChanged terminal altSetting] }

end

section

variable [ClockSource AU]

/-- The result of `set_sample_rate` is thrown away. -/
def setSampleRate (rate : UInt32) (w : World AU B) : World AU B :=
  { w with
    cls := { w.cls with audioImpl := (ClockSource.setSampleRate rate w.cls.audioImpl).2 }
    log := w.log ++ [.setSampleRate rate] }

end

section

variable [UsbBus B]

def writePacket {D : UsbDirection} (ep : Endpoint D) (bytes : List UInt8) (w : World AU B) :
    World AU B :=
  { w with
    bus := (UsbBus.write ep.address bytes w.bus).2
    log := w.log ++ [.write ep.address bytes] }

/-- Read into a buffer of 1024 bytes. -/
def readPacket {D : UsbDirection} (ep : Endpoint D) (w : World AU B) :
    Except UsbError (List UInt8) × World AU B :=
  let (r, bus) := UsbBus.read ep.address 1024 w.bus
  (r, { w with bus, log := w.log ++ [.read ep.address] })

end

variable [AudioHandler AU B] [ClockSource AU] [UsbBus B]

/-- Ask the device for its rate. -/
def feedback (w : World AU B) : Option UsbIsochronousFeedback × World AU B :=
  let (r, audioImpl) := AudioHandler.feedback (B := B) w.cls.nominalFb w.cls.audioImpl
  (r, { w with cls := { w.cls with audioImpl }, log := w.log ++ [.feedback w.cls.nominalFb] })

/-- The bytes of a feedback packet. -/
def feedbackBytes (speed : UsbSpeed) (fb : UsbIsochronousFeedback) : List UInt8 :=
  match speed with
  | .low | .full => fb.toBytes_10_14
  | .high | .super => fb.toBytes_12_13

/-- Send the rate of the device to the host. -/
def emitFeedback (w : World AU B) : World AU B :=
  match w.cls.feedback with
  | none => w
  | some fbEp =>
      match w.feedback with
      | (none, w) => w
      | (some fb, w) => w.writePacket fbEp (feedbackBytes w.cls.speed fb)

/-! ## Standard requests -/

/-- A new setting of the IN stream. -/
def setInputAlt (input : AudioStream .in) (altSetting : UInt8) (w : World AU B) : World AU B :=
  if input.altSetting ≠ altSetting then
    let w := w.alternateSettingChanged .in altSetting
    let w := { w with cls := { w.cls with input := some { input with altSetting } } }
    (w.audioDataTx input.endpoint).accept
  else w

/-- A new setting of the OUT stream. -/
def setOutputAlt (output : AudioStream .out) (altSetting : UInt8) (w : World AU B) :
    World AU B :=
  if output.altSetting ≠ altSetting then
    let w := (w.alternateSettingChanged .out altSetting).emitFeedback
    { w with cls := { w.cls with output := some { output with altSetting } } }.accept
  else w

def setAltInterface (xfer : ControlOut) (w : World AU B) : World AU B :=
  let iface := xfer.request.index.toUInt8
  let altSetting := xfer.request.value.toUInt8
  match w.cls.input.filter fun _ => iface = w.cls.inIface with
  | some input => w.setInputAlt input altSetting
  | none =>
      match w.cls.output.filter fun _ => iface = w.cls.outIface with
      | some output => w.setOutputAlt output altSetting
      | none => w

def getAltInterface (xfer : ControlIn) (w : World AU B) : World AU B :=
  let iface := xfer.request.index.toUInt8
  match w.cls.input.filter fun _ => iface = w.cls.inIface with
  | some input => w.answer (xfer.acceptWith [input.altSetting])
  | none =>
      match w.cls.output.filter fun _ => iface = w.cls.outIface with
      | some output => w.answer (xfer.acceptWith [output.altSetting])
      | none => w

def standardRequestOut (xfer : ControlOut) (w : World AU B) : World AU B :=
  if xfer.request.recipient = .interface ∧ xfer.request.request = Request.setInterface then
    w.setAltInterface xfer
  else w

def standardRequestIn (xfer : ControlIn) (w : World AU B) : World AU B :=
  if xfer.request.recipient = .interface ∧ xfer.request.request = Request.getInterface then
    w.getAltInterface xfer
  else w

/-! ## Class requests -/

def getClockCur (xfer : ControlIn) (_channel control : UInt8) (w : World AU B) : World AU B :=
  match ClockSourceControlSelector.ofUInt8 control with
  | .samFreqControl =>
      let rate := ClockSource.sampleRate w.cls.audioImpl
      (w.note .sampleRate).answer (xfer.acceptBuf (fillBuf (do writeU32 rate; pure 4)))
  | .clockValidControl =>
      let w := w.note .clockValidity
      match ClockSource.clockValidity w.cls.audioImpl with
      | .ok valid => w.answer (xfer.acceptBuf (fillValid valid))
      | .error _ => w
  | .undefined => w

def setClockCur (xfer : ControlOut) (_channel control : UInt8) (w : World AU B) : World AU B :=
  match ClockSourceControlSelector.ofUInt8 control with
  | .samFreqControl =>
      match readU32 xfer.data with
      | some rate =>
          let w := w.setSampleRate rate
          { w with cls := { w.cls with nominalFb := nominal rate w.cls.audioRate } }.accept
      | none => w
  | _ => w

def getClockRange (xfer : ControlIn) (_channel control : UInt8) (w : World AU B) : World AU B :=
  match ClockSourceControlSelector.ofUInt8 control with
  | .samFreqControl =>
      let w := w.note .sampleRates
      match ClockSource.sampleRates w.cls.audioImpl with
      | .ok rates => w.answer (xfer.acceptBuf (fillBuf (writeRange xfer.request.length rates)))
      | .error _ => w
  | _ => w

def getControlInterfaceCur (xfer : ControlIn) (entity channel control : UInt8)
    (w : World AU B) : World AU B :=
  if entity = 1 then w.getClockCur xfer channel control else w

def setControlInterfaceCur (xfer : ControlOut) (entity channel control : UInt8)
    (w : World AU B) : World AU B :=
  if entity = 1 then w.setClockCur xfer channel control else w

def getControlInterfaceRange (xfer : ControlIn) (entity channel control : UInt8)
    (w : World AU B) : World AU B :=
  if entity = 1 then w.getClockRange xfer channel control else w

/-- Not implemented. -/
def setStreamingInterfaceCur (_xfer : ControlOut) (_direction : UsbDirection)
    (_entity _channel _control : UInt8) (w : World AU B) : World AU B := w

def getInterfaceCur (xfer : ControlIn) (w : World AU B) : World AU B :=
  let req := xfer.request
  if req.interface = w.cls.controlIface then
    w.getControlInterfaceCur xfer req.entity req.channel req.control
  else w

def setInterfaceCur (xfer : ControlOut) (w : World AU B) : World AU B :=
  let req := xfer.request
  if req.interface = w.cls.controlIface then
    w.setControlInterfaceCur xfer req.entity req.channel req.control
  else if req.interface = w.cls.inIface then
    w.setStreamingInterfaceCur xfer .in req.entity req.channel req.control
  else if req.interface = w.cls.outIface then
    w.setStreamingInterfaceCur xfer .out req.entity req.channel req.control
  else w

def getInterfaceRange (xfer : ControlIn) (w : World AU B) : World AU B :=
  let req := xfer.request
  if req.interface = w.cls.controlIface then
    w.getControlInterfaceRange xfer req.entity req.channel req.control
  else w

/-- Not implemented, as the other requests to an endpoint. -/
def setEndpointCur (_xfer : ControlOut) (w : World AU B) : World AU B := w

def getEndpointCur (_xfer : ControlIn) (w : World AU B) : World AU B := w

def getEndpointRange (_xfer : ControlIn) (w : World AU B) : World AU B := w

def classRequestOut (xfer : ControlOut) (w : World AU B) : World AU B :=
  match xfer.request.recipient, ClassSpecificRequest.ofUInt8 xfer.request.request with
  | .interface, .cur => w.setInterfaceCur xfer
  | .interface, .range => w
  | .endpoint, .cur => w.setEndpointCur xfer
  | .endpoint, .range => w
  | _, _ => w

def classRequestIn (xfer : ControlIn) (w : World AU B) : World AU B :=
  match xfer.request.recipient, ClassSpecificRequest.ofUInt8 xfer.request.request with
  | .interface, .cur => w.getInterfaceCur xfer
  | .interface, .range => w.getInterfaceRange xfer
  | .endpoint, .cur => w.getEndpointCur xfer
  | .endpoint, .range => w.getEndpointRange xfer
  | _, _ => w

/-! ## The events -/

def controlOut (xfer : ControlOut) (w : World AU B) : World AU B :=
  match xfer.request.requestType with
  | .standard => w.standardRequestOut xfer
  | .class => w.classRequestOut xfer
  | _ => w

def controlIn (xfer : ControlIn) (w : World AU B) : World AU B :=
  match xfer.request.requestType with
  | .standard => w.standardRequestIn xfer
  | .class => w.classRequestIn xfer
  | _ => w

/-- Unwrapping an absent stream is a panic. -/
def endpointOut (addr : EndpointAddress) (w : World AU B) : Option (World AU B) :=
  if addr.index = w.cls.outEp then
    w.cls.output.map fun output => w.audioDataRx output.endpoint
  else some w

def endpointInComplete (addr : EndpointAddress) (w : World AU B) : World AU B :=
  match w.cls.feedback.filter fun _ => addr.index = w.cls.fbEp with
  | some _ => w.emitFeedback
  | none =>
      match w.cls.input.filter fun _ => addr.index = w.cls.inEp with
      | some input => w.audioDataTx input.endpoint
      | none => w

/-- The loop of `poll`. -/
def pollLoop : Nat → World AU B → Option (World AU B)
  | 0, _ => none
  | fuel + 1, w =>
      match w.cls.output with
      | none => pollLoop fuel w
      | some output =>
          match w.readPacket output.endpoint with
          | (.ok bytes, w) => if 0 < bytes.length then pollLoop fuel w else some w
          | (.error .wouldBlock, w) => some w
          | (.error _, w) => pollLoop fuel w
termination_by structural fuel => fuel

def poll (fuel : Nat) (w : World AU B) : Option (World AU B) :=
  if w.cls.output.all (fun o => o.altSetting ≠ 0) ∨ w.cls.input.all (fun i => i.altSetting ≠ 0) then
    some w
  else pollLoop fuel w

def reset (w : World AU B) : World AU B :=
  (w.alternateSettingChanged .in 0).alternateSettingChanged .out 0

end World

/-! ## The system -/

inductive Event where
  | controlOut (xfer : ControlOut)
  | controlIn (xfer : ControlIn)
  | endpointOut (addr : EndpointAddress)
  | endpointInComplete (addr : EndpointAddress)
  | poll
  | reset
deriving DecidableEq, Repr

section

variable {AU B : Type} [AudioHandler AU B] [ClockSource AU] [UsbBus B]

/-- Handle one event. -/
def World.handle (fuel : Nat) (w : World AU B) : Event → Option (World AU B)
  | .controlOut xfer => some (w.controlOut xfer)
  | .controlIn xfer => some (w.controlIn xfer)
  | .endpointOut addr => w.endpointOut addr
  | .endpointInComplete addr => some (w.endpointInComplete addr)
  | .poll => w.poll fuel
  | .reset => some w.reset

/-- The bus moves on, and then the event is handled. -/
def Step (w : World AU B) (e : Event) (w' : World AU B) : Prop :=
  ∃ bus fuel, World.handle fuel { w with bus } e = some w'

theorem step_controlOut (w : World AU B) (xfer : ControlOut) :
    Step w (.controlOut xfer) (w.controlOut xfer) := ⟨w.bus, 0, rfl⟩

theorem step_reset (w : World AU B) : Step w .reset w.reset := ⟨w.bus, 0, rfl⟩

/-- The world of a class that was just built. -/
def World.start (cls : UsbAudioClass AU) (bus : B) : World AU B := ⟨cls, bus, []⟩

end

end Uac2
