import UsbdUac2.Descriptors

/-!
# The device behind the class

A device is a type with two interfaces: `AudioHandler`, which moves the audio
data, and `ClockSource`, which answers for the one clock.  The class only calls
their methods, so everything about it is stated for an arbitrary device.  The
data callbacks get an endpoint and may read and write on the bus.

A rate of feedback is a 16.16 number.  `UsbIsochronousFeedback.newFloat` takes it
from a 32-bit float, and nothing here looks into that conversion.
-/

namespace Uac2

open ByteWriter
open Frames (le16 le32)

inductive UsbAudioClassError where
  | notImplemented
  | other
deriving DecidableEq, Repr

/-! ## Ranges -/

/-- The integer types of a range. -/
class RangeType (T : Type) extends Ord T where
  zero : T
  toLeBytes : T → List UInt8
  countZeros : T → Nat

/-- The bits of a number of the given width that are 0. -/
def countZeroBits (width n : Nat) : Nat := (List.range width).countP fun i => !n.testBit i

instance : RangeType UInt8 where
  zero := 0
  toLeBytes v := [v]
  countZeros v := countZeroBits 8 v.toNat

instance : RangeType UInt16 where
  zero := 0
  toLeBytes := le16
  countZeros v := countZeroBits 16 v.toNat

instance : RangeType UInt32 where
  zero := 0
  toLeBytes := le32
  countZeros v := countZeroBits 32 v.toNat

instance : RangeType Int8 where
  zero := 0
  toLeBytes v := [v.toUInt8]
  countZeros v := countZeroBits 8 v.toUInt8.toNat

instance : RangeType Int16 where
  zero := 0
  toLeBytes v := le16 v.toUInt16
  countZeros v := countZeroBits 16 v.toUInt16.toNat

instance : RangeType Int32 where
  zero := 0
  toLeBytes v := le32 v.toUInt32
  countZeros v := countZeroBits 32 v.toUInt32.toNat

/-- A subrange of a range request. -/
structure RangeEntry (T : Type) where
  min : T
  max : T
  res : T
deriving DecidableEq, Repr

namespace RangeEntry

variable {T : Type} [RangeType T]

/-- A subrange of one value. -/
def newFixed (fixed : T) : RangeEntry T := ⟨fixed, fixed, RangeType.zero⟩

/-- The three numbers.  The length that is returned is computed from the width of
the type. -/
def write {σ ε : Type} [Write σ ε] (e : RangeEntry T) : WriteM σ ε Nat := do
  writeAll (RangeType.toLeBytes e.min)
  writeAll (RangeType.toLeBytes e.max)
  writeAll (RangeType.toLeBytes e.res)
  return (RangeType.countZeros (RangeType.zero : T) / 8) * 3

/-- Subranges are compared by their lower ends. -/
def cmp (a b : RangeEntry T) : Ordering := compare a.min b.min

/-- One step of `Iterator::max`, which keeps the later of two equal ones. -/
def later (a b : RangeEntry T) : RangeEntry T :=
  match cmp a b with
  | .gt => a
  | _ => b

/-- `iter().max()`. -/
def maximum : List (RangeEntry T) → Option (RangeEntry T)
  | [] => none
  | e :: es => some (es.foldl later e)

end RangeEntry

/-! ## Feedback -/

/-- A rate in samples per packet, as a 16.16 number. -/
structure UsbIsochronousFeedback where
  v : UInt32
deriving DecidableEq, Repr

namespace UsbIsochronousFeedback

def newFrac (int frac : UInt16) : UsbIsochronousFeedback :=
  ⟨(int.toUInt32 <<< 16) ||| frac.toUInt32⟩

def newFloat (rate : Float32) : UsbIsochronousFeedback := ⟨(rate * 65536.0 + 0.5).toUInt32⟩

/-- 16.16 for high speed. -/
def toU32_12_13 (fb : UsbIsochronousFeedback) : UInt32 := fb.v

/-- 10.14 for full speed, rounded. -/
def toU32_10_14 (fb : UsbIsochronousFeedback) : UInt32 := (fb.v + 2) >>> 2

def toBytes_12_13 (fb : UsbIsochronousFeedback) : List UInt8 := le32 fb.toU32_12_13

/-- The three low bytes. -/
def toBytes_10_14 (fb : UsbIsochronousFeedback) : List UInt8 := (le32 fb.toU32_10_14).take 3

end UsbIsochronousFeedback

/-! ## The traits -/

/-- The trait `AudioHandler`. -/
class AudioHandler (AU B : Type) where
  audioDataRx : Endpoint .out → AU → B → AU × B
  audioDataTx : Endpoint .in → AU → B → AU × B
  feedback : UsbIsochronousFeedback → AU → Option UsbIsochronousFeedback × AU
  alternateSettingChanged : UsbDirection → UInt8 → AU → AU

/-- The trait `ClockSource`, with its default methods. -/
class ClockSource (AU : Type) where
  clockType : ClockType
  sofSync : Bool
  sampleRate : AU → UInt32
  setSampleRate : UInt32 → AU → Except UsbAudioClassError Unit × AU :=
    fun _ au => (.error .notImplemented, au)
  clockValidity : AU → Except UsbAudioClassError Bool := fun _ => .error .notImplemented
  clockValidityAccess : AU → Except UsbAudioClassError Bool := fun au =>
    match clockValidity au with
    | .ok _ => .ok true
    | .error .notImplemented => .ok false
    | .error e => .error e
  sampleRates : AU → Except UsbAudioClassError (List (RangeEntry UInt32))
  clockConfigurationDescriptor : AU → UInt8 → Option StringIndex →
      Except UsbError Descriptors.ClockSource := fun au id string =>
    let frequencyAccess : AccessControl :=
      match clockType with
      | .internalFixed | .internalVariable => .readOnly
      | .external | .internalProgrammable => .programmable
    let descriptor (validityAccess : AccessControl) : Descriptors.ClockSource :=
      { id, clockType, sofSync, frequencyAccess, validityAccess, assocTerminal := 0, string }
    match clockValidityAccess au with
    | .ok true => .ok (descriptor .readOnly)
    | .ok false | .error .notImplemented => .ok (descriptor .notPresent)
    | .error _ => .error .unsupported

end Uac2
