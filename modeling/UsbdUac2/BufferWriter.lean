import UsbdUac2.UsbDevice

/-!
# A descriptor writer over a buffer

One descriptor writer with the documented behaviour: the bytes written, the free
part of the buffer, and the mark.  It shows that the assumptions on
`DescriptorWriter` can be met, and concrete runs use it.
-/

namespace Uac2

open ByteWriter
open Frames (Frame)

/-- A descriptor writer inside a configuration descriptor. -/
structure BufferWriter where
  done : List UInt8
  free : List UInt8
  mark : Option Nat
  iads : Bool
deriving DecidableEq, Repr

namespace BufferWriter

/-- A writer in front of a free buffer of `n` bytes. -/
def empty (n : Nat) : BufferWriter := ⟨[], List.replicate n 0, none, true⟩

def writeWith (type : UInt8) (f : List UInt8 → Attempt Nat × List UInt8) (w : BufferWriter) :
    Attempt BufferWriter :=
  if w.free.length < 2 then .error (.err .bufferOverflow)
  else
    match f (w.free.drop 2) with
    | (.error e, _) => .error e
    | (.ok len, buf) =>
        if w.free.length < len + 2 ∨ 255 < len + 2 then .error (.err .bufferOverflow)
        else .ok { w with
          done := w.done ++ (UInt8.ofNat (len + 2) :: type :: buf.take len)
          free := buf.drop len }

/-- The closure of a plain write copies the bytes. -/
def copy (bs buf : List UInt8) : Attempt Nat × List UInt8 :=
  if buf.length < bs.length then (.error (.err .bufferOverflow), buf)
  else (.ok bs.length, bs ++ buf.drop bs.length)

def write (type : UInt8) (bs : List UInt8) (w : BufferWriter) : Attempt BufferWriter :=
  writeWith type (copy bs) w

/-- Write a record. -/
def put (f : Frame) (w : BufferWriter) : Attempt BufferWriter := write f.kind f.body w

instance : DescriptorWriter BufferWriter where
  writeWith := writeWith
  write := write
  iad first count cls sub protocol string w :=
    if w.iads then put (iadFrame first count cls sub protocol string) w else .ok w
  interface number cls sub protocol w :=
    put (interfaceFrame number defaultAlternateSetting 0 cls sub protocol none)
      { w with mark := some (w.done.length + 4) }
  interfaceAlt number alt cls sub protocol string w :=
    put (interfaceFrame number alt 0 cls sub protocol string)
      { w with mark := some (w.done.length + 4) }
  endpoint ep w :=
    match w.mark with
    | none => .error (.err .invalidState)
    | some m => put (endpointFrame ep) { w with done := w.done.modify m (· + 1) }

/-- A record that fits is appended. -/
theorem put_ok {w : BufferWriter} (f : Frame) (h : f.length ≤ w.free.length) :
    put f w = .ok { w with done := w.done ++ f.bytes, free := w.free.drop f.length } := by
  have hsmall := f.small
  rw [Frame.length] at h
  have h2 : ¬ w.free.length < 2 := by omega
  have hcopy : copy f.body (w.free.drop 2) =
      (.ok f.body.length, f.body ++ w.free.drop (2 + f.body.length)) := by
    have hfit : ¬ (w.free.drop 2).length < f.body.length := by
      rw [List.length_drop]
      omega
    rw [copy, if_neg hfit, List.drop_drop]
  have hlen : ¬ (w.free.length < f.body.length + 2 ∨ 255 < f.body.length + 2) := by omega
  rw [put, write, writeWith, if_neg h2, hcopy]
  simp only [if_neg hlen, List.take_left, List.drop_left]
  rw [Frame.bytes, Frame.length, Nat.add_comm 2]

def seen (w : BufferWriter) : View := ⟨w.done, w.free.length, w.mark, w.iads⟩

/-- What is seen of a writer after a record that fits. -/
theorem put_seen {w : BufferWriter} (f : Frame) (h : f.length ≤ w.seen.room) :
    ∃ w', put f w = .ok w' ∧ w'.seen = w.seen.append f.bytes := by
  refine ⟨_, put_ok f h, ?_⟩
  simp only [seen, View.append, List.length_drop, Frame.length_bytes]

theorem writeWith_seen {w : BufferWriter} {type : UInt8}
    {f : List UInt8 → Attempt Nat × List UInt8} {len : Nat} {buf : List UInt8}
    (h2 : 2 ≤ w.seen.room) (hf : f (w.free.drop 2) = (.ok len, buf))
    (hbuf : buf.length = (w.free.drop 2).length) (hlen : len ≤ buf.length)
    (hsmall : len + 2 < 256) :
    ∃ w', writeWith type f w = .ok w' ∧
      w'.seen = w.seen.append (UInt8.ofNat (len + 2) :: type :: buf.take len) := by
  have hroom : 2 ≤ w.free.length := h2
  rw [List.length_drop] at hbuf
  refine ⟨{ w with
    done := w.done ++ (UInt8.ofNat (len + 2) :: type :: buf.take len)
    free := buf.drop len }, ?_, ?_⟩
  · rw [writeWith, if_neg (Nat.not_lt_of_le hroom), hf]
    exact if_neg (by omega)
  · simp only [seen, View.append, View.mk.injEq, List.length_cons, List.length_take,
      List.length_drop, Nat.min_eq_left hlen, true_and, and_true]
    omega

theorem endpoint_seen {D : UsbDirection} {w : BufferWriter} (ep : Endpoint D) {m : Nat}
    (hm : w.mark = some m) (h : (endpointFrame ep).length ≤ w.seen.room) :
    ∃ w', DescriptorWriter.endpoint ep w = .ok w' ∧
      w'.seen = View.append { w.seen with written := w.seen.written.modify m (· + 1) }
        (endpointFrame ep).bytes := by
  have hrun : DescriptorWriter.endpoint ep w =
      put (endpointFrame ep) { w with done := w.done.modify m (· + 1) } := by
    simp only [DescriptorWriter.endpoint, hm]
  rw [hrun]
  exact put_seen (endpointFrame ep) h

instance : DocumentedWriter BufferWriter where
  view := seen
  spare := free
  length_spare _ := rfl
  writeWith_ok := writeWith_seen
  write_ok f h := put_seen f h
  iad_ok first count cls sub protocol string hi h := by
    obtain ⟨w', hrun, hseen⟩ := put_seen (iadFrame first count cls sub protocol string) h
    exact ⟨w', (if_pos hi).trans hrun, hseen⟩
  iad_skip _ _ _ _ _ _ hi := if_neg (Bool.eq_false_iff.mp hi)
  interface_eq _ _ _ _ _ := rfl
  interfaceAlt_ok {w} number alt cls sub protocol string h :=
    put_seen (w := { w with mark := some (w.done.length + 4) })
      (interfaceFrame number alt 0 cls sub protocol string) h
  endpoint_ok ep _ hm _ h := endpoint_seen ep hm h

end BufferWriter

end Uac2
