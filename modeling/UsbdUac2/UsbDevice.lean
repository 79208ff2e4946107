import UsbdUac2.Lib.Frames
import UsbdUac2.Cursor

/-!
# The parts of usb-device the class uses

The class runs inside usb-device, which is not part of this repository.  What
the class calls of it is a parameter here, as a class of operations: the
descriptor writer, the allocator of interfaces and endpoints, and the bus behind
an endpoint.  A second class states what the documentation of the operation
says, for the results that rely on it.

A descriptor writer is described by a `View`: the bytes written so far behind the
configuration descriptor, the room that is left, and the offset of the
`bNumEndpoints` byte of the interface written last.  `endpoint` counts that byte
up, wherever it is.  `Open` is the view in the middle of an alternate setting,
and its three lemmas say how the operations carry it along.

An index of an endpoint is taken per direction.  Index 0 is taken by the control
endpoint.
-/

namespace Uac2

open ByteWriter
open Frames (Frame le16 flatten)

/-- A result of code that may return an error or panic. -/
abbrev Attempt := Except (Fault UsbError)

/-! ## Addresses and endpoints -/

inductive UsbDirection where
  | out
  | in
deriving DecidableEq, Repr

/-- The index of a string descriptor. -/
structure StringIndex where
  index : UInt8
deriving DecidableEq, Repr

/-- `map_or(0, u8::from)`: a missing string has index 0. -/
def stringCode (string : Option StringIndex) : UInt8 := (string.map StringIndex.index).getD 0

abbrev InterfaceNumber := UInt8

/-- The alternate setting of an interface that was not set. -/
def defaultAlternateSetting : UInt8 := 0

structure EndpointAddress where
  addr : UInt8
deriving DecidableEq, Repr

/-- The number of the endpoint, without the direction bit. -/
def EndpointAddress.index (a : EndpointAddress) : Nat := (a.addr &&& 0x7f).toNat

def EndpointAddress.direction (a : EndpointAddress) : UsbDirection :=
  if a.addr &&& 0x80 = 0 then .out else .in

inductive IsochronousSynchronizationType where
  | noSynchronization
  | asynchronous
  | adaptive
  | synchronous
deriving DecidableEq, Repr

def IsochronousSynchronizationType.code : IsochronousSynchronizationType → UInt8
  | .noSynchronization => 0
  | .asynchronous => 1
  | .adaptive => 2
  | .synchronous => 3

inductive IsochronousUsageType where
  | data
  | feedback
  | implicitFeedbackData
deriving DecidableEq, Repr

def IsochronousUsageType.code : IsochronousUsageType → UInt8
  | .data => 0
  | .feedback => 1
  | .implicitFeedbackData => 2

/-- An isochronous endpoint of direction `D`. -/
structure Endpoint (D : UsbDirection) where
  address : EndpointAddress
  synchronization : IsochronousSynchronizationType
  usage : IsochronousUsageType
  maxPacketSize : UInt16
  interval : UInt8
deriving DecidableEq, Repr

/-- `bmAttributes` of an isochronous endpoint. -/
def Endpoint.bmAttributes {D : UsbDirection} (ep : Endpoint D) : UInt8 :=
  (ep.usage.code <<< 4) ||| (ep.synchronization.code <<< 2) ||| 0b01

/-! ## The bus -/

/-- What an endpoint does with its bus. -/
class UsbBus (B : Type) where
  /-- Read a packet into a buffer of the given length. -/
  read : EndpointAddress → Nat → B → Except UsbError (List UInt8) × B
  /-- Queue a packet. -/
  write : EndpointAddress → List UInt8 → B → Except UsbError Nat × B

/-! ## Control transfers -/

inductive RequestType where
  | standard
  | «class»
  | vendor
  | reserved
deriving DecidableEq, Repr

inductive Recipient where
  | device
  | interface
  | endpoint
  | other
  | reserved
deriving DecidableEq, Repr

/-- A setup packet. -/
structure Request where
  requestType : RequestType
  recipient : Recipient
  request : UInt8
  value : UInt16
  index : UInt16
  length : UInt16
deriving DecidableEq, Repr

/-- `Request::GET_INTERFACE`. -/
def Request.getInterface : UInt8 := 10

/-- `Request::SET_INTERFACE`. -/
def Request.setInterface : UInt8 := 11

/-- A host-to-device control transfer with its data stage. -/
structure ControlOut where
  request : Request
  data : List UInt8
deriving DecidableEq, Repr

/-- A device-to-host control transfer with the buffer of the control pipe. -/
structure ControlIn where
  request : Request
  buf : List UInt8
deriving DecidableEq, Repr

/-- `ControlIn::accept`: the closure gets the whole control buffer and says how
much of it is the answer.  No more than the host asked for is sent.  On an error
the transfer is left unaccepted. -/
def ControlIn.acceptBuf (xfer : ControlIn)
    (f : List UInt8 → Except UsbError Nat × List UInt8) : Option (List UInt8) :=
  match f xfer.buf with
  | (.ok len, buf) =>
      if len ≤ buf.length then some (buf.take (min len xfer.request.length.toNat)) else none
  | (.error _, _) => none

/-- The closure of `ControlIn::accept_with`. -/
def copyInto (bs buf : List UInt8) : Except UsbError Nat × List UInt8 :=
  if buf.length < bs.length then (.error .bufferOverflow, buf)
  else (.ok bs.length, bs ++ buf.drop bs.length)

def ControlIn.acceptWith (xfer : ControlIn) (bs : List UInt8) : Option (List UInt8) :=
  xfer.acceptBuf (copyInto bs)

/-! ## The allocator -/

/-- The allocator a class is built with. -/
class UsbBusAllocator (A : Type) where
  /-- Allocate an interface number. -/
  interface : A → InterfaceNumber × A
  /-- Allocate an isochronous endpoint.  A bus that runs out panics. -/
  isochronous : (D : UsbDirection) → IsochronousSynchronizationType → IsochronousUsageType →
    UInt16 → UInt8 → A → Option (Endpoint D × A)

/-- The documented behaviour of the allocator. -/
class DocumentedAllocator (A : Type) [UsbBusAllocator A] where
  /-- The number the next interface will get. -/
  nextInterface : A → InterfaceNumber
  /-- An index is taken in a direction. -/
  Taken : A → UsbDirection → Nat → Prop
  interface_fst : ∀ a : A, (UsbBusAllocator.interface a).1 = nextInterface a
  nextInterface_interface : ∀ a : A,
    nextInterface (UsbBusAllocator.interface a).2 = nextInterface a + 1
  taken_interface : ∀ (a : A) (D : UsbDirection) (n : Nat),
    Taken (UsbBusAllocator.interface a).2 D n ↔ Taken a D n
  taken_control : ∀ (a : A) (D : UsbDirection), Taken a D 0
  isochronous_endpoint : ∀ {D sync usage size interval} {a a' : A} {ep : Endpoint D},
    UsbBusAllocator.isochronous D sync usage size interval a = some (ep, a') →
      ep.address.direction = D ∧ ep.synchronization = sync ∧ ep.usage = usage ∧
        ep.maxPacketSize = size ∧ ep.interval = interval
  isochronous_fresh : ∀ {D sync usage size interval} {a a' : A} {ep : Endpoint D},
    UsbBusAllocator.isochronous D sync usage size interval a = some (ep, a') →
      ¬ Taken a D ep.address.index ∧
        ∀ D' n, Taken a' D' n ↔ Taken a D' n ∨ (D' = D ∧ n = ep.address.index)
  isochronous_interface : ∀ {D sync usage size interval} {a a' : A} {ep : Endpoint D},
    UsbBusAllocator.isochronous D sync usage size interval a = some (ep, a') →
      nextInterface a' = nextInterface a

/-! ## The descriptor writer -/

/-- The operations of `DescriptorWriter`. -/
class DescriptorWriter (W : Type) where
  /-- Write a descriptor of the given type.  The closure fills the free part of
  the buffer behind the two header bytes and says how much it wrote. -/
  writeWith : UInt8 → (List UInt8 → Attempt Nat × List UInt8) → W → Attempt W
  write : UInt8 → List UInt8 → W → Attempt W
  iad : InterfaceNumber → UInt8 → UInt8 → UInt8 → UInt8 → Option StringIndex → W → Attempt W
  interface : InterfaceNumber → UInt8 → UInt8 → UInt8 → W → Attempt W
  interfaceAlt : InterfaceNumber → UInt8 → UInt8 → UInt8 → UInt8 → Option StringIndex → W →
    Attempt W
  endpoint : {D : UsbDirection} → Endpoint D → W → Attempt W

/-- What can be seen of a descriptor writer. -/
structure View where
  /-- The bytes written behind the configuration descriptor. -/
  written : List UInt8
  /-- The number of bytes that are free. -/
  room : Nat
  /-- Where `bNumEndpoints` of the last interface is. -/
  mark : Option Nat
  /-- The device is composite with interface associations. -/
  iads : Bool
deriving DecidableEq, Repr

/-- Bytes appended. -/
def View.append (v : View) (bs : List UInt8) : View :=
  { v with written := v.written ++ bs, room := v.room - bs.length }

/-- An interface association descriptor. -/
def iadFrame (first : InterfaceNumber) (count cls sub protocol : UInt8)
    (string : Option StringIndex) : Frame :=
  ⟨0x0B, [first, count, cls, sub, protocol, stringCode string], by simp⟩

/-- A standard interface descriptor with its number of endpoints. -/
def interfaceFrame (number : InterfaceNumber) (alt numEndpoints cls sub protocol : UInt8)
    (string : Option StringIndex) : Frame :=
  ⟨0x04, [number, alt, numEndpoints, cls, sub, protocol, stringCode string], by simp⟩

/-- A standard endpoint descriptor. -/
def endpointFrame {D : UsbDirection} (ep : Endpoint D) : Frame :=
  ⟨0x05, [ep.address.addr, ep.bmAttributes, ep.maxPacketSize.toUInt8,
    (ep.maxPacketSize >>> 8).toUInt8, ep.interval], by simp⟩

/-- The documented behaviour of `DescriptorWriter`, for a writer that is inside a
configuration descriptor. -/
class DocumentedWriter (W : Type) [DescriptorWriter W] where
  view : W → View
  /-- The free part of the buffer. -/
  spare : W → List UInt8
  length_spare : ∀ w : W, (spare w).length = (view w).room
  writeWith_ok : ∀ {w : W} {type : UInt8} {f : List UInt8 → Attempt Nat × List UInt8} {len : Nat}
    {buf : List UInt8}, 2 ≤ (view w).room → f ((spare w).drop 2) = (.ok len, buf) →
    buf.length = ((spare w).drop 2).length → len ≤ buf.length → len + 2 < 256 →
    ∃ w', DescriptorWriter.writeWith type f w = .ok w' ∧
      view w' = (view w).append (UInt8.ofNat (len + 2) :: type :: buf.take len)
  write_ok : ∀ {w : W} (f : Frame), f.length ≤ (view w).room →
    ∃ w', DescriptorWriter.write f.kind f.body w = .ok w' ∧ view w' = (view w).append f.bytes
  iad_ok : ∀ {w : W} (first : InterfaceNumber) (count cls sub protocol : UInt8)
    (string : Option StringIndex), (view w).iads = true → 8 ≤ (view w).room →
    ∃ w', DescriptorWriter.iad first count cls sub protocol string w = .ok w' ∧
      view w' = (view w).append (iadFrame first count cls sub protocol string).bytes
  iad_skip : ∀ {w : W} (first : InterfaceNumber) (count cls sub protocol : UInt8)
    (string : Option StringIndex), (view w).iads = false →
    DescriptorWriter.iad first count cls sub protocol string w = .ok w
  interface_eq : ∀ (w : W) (number : InterfaceNumber) (cls sub protocol : UInt8),
    DescriptorWriter.interface number cls sub protocol w =
      DescriptorWriter.interfaceAlt number defaultAlternateSetting cls sub protocol none w
  interfaceAlt_ok : ∀ {w : W} (number : InterfaceNumber) (alt cls sub protocol : UInt8)
    (string : Option StringIndex), 9 ≤ (view w).room →
    ∃ w', DescriptorWriter.interfaceAlt number alt cls sub protocol string w = .ok w' ∧
      view w' = { (view w).append (interfaceFrame number alt 0 cls sub protocol string).bytes with
        mark := some ((view w).written.length + 4) }
  endpoint_ok : ∀ {w : W} {D : UsbDirection} (ep : Endpoint D) {m : Nat},
    (view w).mark = some m → m < (view w).written.length → 7 ≤ (view w).room →
    ∃ w', DescriptorWriter.endpoint ep w = .ok w' ∧
      view w' = View.append
        { view w with written := (view w).written.modify m (· + 1) } (endpointFrame ep).bytes

export DocumentedWriter (view spare)

/-! ### Programs that only append -/

@[simp] theorem View.append_nil (v : View) : v.append [] = v := by
  simp [View.append]

theorem View.append_append (v : View) (a b : List UInt8) :
    (v.append a).append b = v.append (a ++ b) := by
  simp [View.append, Nat.sub_sub]

@[simp] theorem View.append_room (v : View) (bs : List UInt8) :
    (v.append bs).room = v.room - bs.length := rfl

@[simp] theorem View.append_written (v : View) (bs : List UInt8) :
    (v.append bs).written = v.written ++ bs := rfl

section

variable {W : Type} [DescriptorWriter W] [DocumentedWriter W]

/-- With enough room, `p` succeeds and appends `bs`. -/
def Appends (p : W → Attempt W) (bs : List UInt8) : Prop :=
  ∀ w, bs.length ≤ (view w).room → ∃ w', p w = .ok w' ∧ view w' = (view w).append bs

theorem appends_pure : Appends (fun w : W => .ok w) [] :=
  fun w _ => ⟨w, rfl, (View.append_nil _).symm⟩

theorem Appends.bind {p q : W → Attempt W} {a b : List UInt8} (hp : Appends p a)
    (hq : Appends q b) : Appends (fun w => p w >>= q) (a ++ b) := by
  intro w hroom
  rw [List.length_append] at hroom
  obtain ⟨w₁, h₁, hv₁⟩ := hp w (by omega)
  obtain ⟨w₂, h₂, hv₂⟩ := hq w₁ (by rw [hv₁, View.append_room]; omega)
  refine ⟨w₂, ?_, ?_⟩
  · show p w >>= q = _
    rw [h₁]
    exact h₂
  · rw [hv₂, hv₁, View.append_append]

/-! ### An alternate setting in the making -/

/-- The fields of a standard interface descriptor besides `bNumEndpoints`. -/
structure AltSetting where
  number : InterfaceNumber
  alt : UInt8
  cls : UInt8
  sub : UInt8
  protocol : UInt8
  string : Option StringIndex
deriving DecidableEq, Repr

/-- The standard interface descriptor of an alternate setting. -/
def AltSetting.frame (h : AltSetting) (numEndpoints : UInt8) : Frame :=
  interfaceFrame h.number h.alt numEndpoints h.cls h.sub h.protocol h.string

/-- The last interface written is `h`, with `n` endpoints so far, and `tail` is
what follows it. -/
structure Open (v : View) (base : List UInt8) (h : AltSetting) (n : UInt8)
    (tail : List UInt8) : Prop where
  written_eq : v.written = base ++ (h.frame n).bytes ++ tail
  mark_eq : v.mark = some (base.length + 4)

theorem modify_numEndpoints (base tail : List UInt8) (h : AltSetting) (n : UInt8) :
    (base ++ (h.frame n).bytes ++ tail).modify (base.length + 4) (· + 1) =
      base ++ (h.frame (n + 1)).bytes ++ tail := by
  rw [List.append_assoc, List.append_assoc]
  exact List.modifyTailIdx_add (List.modifyHead (· + 1)) 4 base ((h.frame n).bytes ++ tail)

theorem Open.append {v : View} {base tail : List UInt8} {h : AltSetting} {n : UInt8}
    (ho : Open v base h n tail) (bs : List UInt8) : Open (v.append bs) base h n (tail ++ bs) where
  written_eq := by rw [View.append_written, ho.written_eq, List.append_assoc]
  mark_eq := ho.mark_eq

theorem open_interfaceAlt {w : W} (h : AltSetting) (hroom : 9 ≤ (view w).room) :
    ∃ w', DescriptorWriter.interfaceAlt h.number h.alt h.cls h.sub h.protocol h.string w = .ok w' ∧
      Open (view w') (view w).written h 0 [] ∧ (view w').room = (view w).room - 9 := by
  obtain ⟨w', hrun, hview⟩ := DocumentedWriter.interfaceAlt_ok h.number h.alt h.cls h.sub
    h.protocol h.string hroom
  refine ⟨w', hrun, ⟨?_, ?_⟩, ?_⟩
  · rw [hview, List.append_nil]
    rfl
  · rw [hview]
  · rw [hview]
    rfl

/-- An endpoint descriptor is appended and counted. -/
theorem Open.endpoint {w : W} {base tail : List UInt8} {h : AltSetting} {n : UInt8}
    (ho : Open (view w) base h n tail) {D : UsbDirection} (ep : Endpoint D)
    (hroom : 7 ≤ (view w).room) :
    ∃ w', DescriptorWriter.endpoint ep w = .ok w' ∧
      Open (view w') base h (n + 1) (tail ++ (endpointFrame ep).bytes) ∧
      (view w').room = (view w).room - 7 := by
  have hlt : base.length + 4 < (view w).written.length := by
    rw [ho.written_eq]
    simp [AltSetting.frame, interfaceFrame, Frame.length]
    omega
  obtain ⟨w', hrun, hview⟩ := DocumentedWriter.endpoint_ok ep ho.mark_eq hlt hroom
  refine ⟨w', hrun, ⟨?_, ?_⟩, ?_⟩
  · rw [hview, View.append_written, ho.written_eq, modify_numEndpoints, List.append_assoc]
  · rw [hview]
    exact ho.mark_eq
  · rw [hview]
    rfl

end

end Uac2
