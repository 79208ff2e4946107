import UsbdUac2.Lib.Writer

/-!
# The cursor of the descriptor encoders

`cursor.rs` keeps the write side of a cursor over a byte slice.  A write goes to
the part of the slice behind the position and moves the position by what was
taken.  The position is a plain number that a caller may set, so it can lie
behind the end.  A write there finds no room and does not index the slice.

The last part makes the cursor a lawful writer.  What it takes overwrites the
bytes behind the position and leaves all others.
-/

namespace Uac2

open ByteWriter

/-- The errors of usb-device that reach the class. -/
inductive UsbError where
  | wouldBlock
  | parseError
  | bufferOverflow
  | endpointOverflow
  | endpointMemoryOverflow
  | invalidEndpoint
  | unsupported
  | invalidState
deriving DecidableEq, Repr

/-- The error of a cursor, a wrapped `UsbError`. -/
structure CursorError where
  /-- The wrapped error. -/
  usbError : UsbError
deriving DecidableEq, Repr

/-- A position in a byte slice. -/
structure Cursor where
  /-- The slice. -/
  inner : List UInt8
  /-- The position. -/
  pos : Nat
deriving DecidableEq, Repr

namespace Cursor

/-- A cursor at the front of a slice. -/
def new (inner : List UInt8) : Cursor := ⟨inner, 0⟩

/-- The current position. -/
def position (c : Cursor) : Nat := c.pos

/-- Move to a position, which may lie behind the end. -/
def setPosition (pos : Nat) (c : Cursor) : Cursor := { c with pos := pos }

/-- The slice behind the position. -/
def remainingSlice (c : Cursor) : List UInt8 := c.inner.drop (min c.pos c.inner.length)

/-- `&mut slice[pos..]` with the part in front of it.  A start past the end of the
slice is a panic. -/
def sliceFrom (pos : Nat) (slice : List UInt8) : Option (List UInt8 × List UInt8) :=
  if pos ≤ slice.length then some (slice.take pos, slice.drop pos) else none

/-- `slice_write`: write to the slice behind the position and advance. -/
def sliceWrite (bs : List UInt8) (c : Cursor) :
    EStateM.Result (Fault SliceWriteError) Cursor Nat :=
  match sliceFrom (min c.pos c.inner.length) c.inner with
  | none => .error .panic c
  | some (front, back) =>
      match Slice.write bs ⟨[], back⟩ with
      | .ok amt s => .ok amt ⟨front ++ s.filled ++ s.rest, c.pos + amt⟩
      | .error e s => .error e ⟨front ++ s.filled ++ s.rest, c.pos⟩

/-- `Write for Cursor<&mut [u8]>`. -/
def write (bs : List UInt8) (c : Cursor) : EStateM.Result (Fault CursorError) Cursor Nat :=
  match sliceWrite bs c with
  | .ok amt c => .ok amt c
  | .error (.err .full) c => .error (.err ⟨.bufferOverflow⟩) c
  | .error .panic c => .error .panic c

instance : Write Cursor CursorError where
  write := Cursor.write

/-! ## The cursor as a lawful writer -/

/-- The number of bytes behind the position. -/
def room (c : Cursor) : Nat := c.inner.length - c.pos

/-- The cursor after taking bytes that fit behind the position. -/
def store (bs : List UInt8) (c : Cursor) : Cursor :=
  ⟨c.inner.take c.pos ++ bs ++ c.inner.drop (c.pos + bs.length), c.pos + bs.length⟩

theorem take_min_length (c : Cursor) :
    c.inner.take (min c.pos c.inner.length) = c.inner.take c.pos := by
  rw [← List.take_take, List.take_length]

theorem drop_min_length (c : Cursor) :
    c.inner.drop (min c.pos c.inner.length) = c.inner.drop c.pos := by
  rcases Nat.le_total c.pos c.inner.length with h | h
  · rw [Nat.min_eq_left h]
  · rw [Nat.min_eq_right h, List.drop_length, List.drop_eq_nil_of_le h]

/-- The clamped position is a valid start of a slice, wherever the position is. -/
theorem sliceFrom_min_pos (c : Cursor) :
    sliceFrom (min c.pos c.inner.length) c.inner =
      some (c.inner.take c.pos, c.inner.drop c.pos) := by
  rw [sliceFrom, if_pos (Nat.min_le_right _ _), take_min_length, drop_min_length]

theorem length_drop_pos (c : Cursor) : (c.inner.drop c.pos).length = c.room :=
  List.length_drop

/-- What a write of a cursor does, in terms of the slice behind the position. -/
theorem write_eq (bs : List UInt8) (c : Cursor) :
    write bs c =
      if bs ≠ [] ∧ c.room = 0 then .error (.err ⟨.bufferOverflow⟩) c
      else .ok (min bs.length c.room) (c.store (bs.take c.room)) := by
  have hlen := c.length_drop_pos
  rw [write, sliceWrite, sliceFrom_min_pos]
  dsimp only
  by_cases hfull : bs ≠ [] ∧ c.room = 0
  · have hmin : bs ≠ [] ∧ min bs.length (c.inner.drop c.pos).length = 0 := by
      rw [hlen, hfull.2]
      exact ⟨hfull.1, Nat.min_zero _⟩
    rw [if_pos hfull]
    simp only [Slice.write, if_pos hmin, List.append_nil, List.take_append_drop]
  · have hok : bs = [] ∨ (c.inner.drop c.pos) ≠ [] := by
      by_cases hbs : bs = []
      · exact Or.inl hbs
      · refine Or.inr (List.ne_nil_of_length_pos ?_)
        rw [hlen]
        exact Nat.pos_of_ne_zero fun h => hfull ⟨hbs, h⟩
    have hdrop : c.inner.drop (c.pos + bs.length) =
        c.inner.drop (c.pos + (bs.take c.room).length) := by
      rw [List.length_take]
      rcases Nat.le_total c.room bs.length with h | h
      · rw [Nat.min_eq_left h, List.drop_eq_nil_of_le, List.drop_eq_nil_of_le] <;>
          (rw [room] at *; omega)
      · rw [Nat.min_eq_right h]
    rw [if_neg hfull, Slice.write_eq_ok hok]
    simp only [store, hlen, List.nil_append, List.drop_drop, hdrop, List.length_take]
    rw [Nat.min_comm]

@[simp] theorem length_store {bs : List UInt8} {c : Cursor} (h : bs.length ≤ c.room) :
    (c.store bs).inner.length = c.inner.length := by
  rw [room] at h
  simp only [store, List.length_append, List.length_take, List.length_drop]
  omega

theorem room_store {bs : List UInt8} {c : Cursor} (h : bs.length ≤ c.room) :
    (c.store bs).room = c.room - bs.length := by
  rw [room, length_store h, store, room, Nat.sub_add_eq]

/-- A store at the end of a front part. -/
theorem store_mk (pre rest bs : List UInt8) :
    store bs ⟨pre ++ rest, pre.length⟩ =
      ⟨(pre ++ bs) ++ rest.drop bs.length, (pre ++ bs).length⟩ := by
  simp [store, List.drop_append]

/-- A cursor inside its slice is at the end of a front part. -/
theorem exists_eq_mk {c : Cursor} (h : c.pos ≤ c.inner.length) :
    ∃ pre rest : List UInt8, c = ⟨pre ++ rest, pre.length⟩ := by
  refine ⟨c.inner.take c.pos, c.inner.drop c.pos, ?_⟩
  rw [List.take_append_drop, List.length_take, Nat.min_eq_left h]

theorem store_append {a : List UInt8} {c : Cursor} (b : List UInt8) (h : a.length ≤ c.room) :
    (c.store a).store b = c.store (a ++ b) := by
  cases a with
  | nil => simp [store]
  | cons x a =>
      have hpos : c.pos ≤ c.inner.length := by
        rw [room, List.length_cons] at h
        omega
      obtain ⟨pre, rest, rfl⟩ := exists_eq_mk hpos
      rw [store_mk, store_mk, store_mk]
      simp only [List.append_assoc, List.drop_drop, List.length_append]

end Cursor

instance : LawfulWrite Cursor CursorError where
  Fits c n := n ≤ c.room
  accept c bs := c.store bs
  IsFull e := e = ⟨.bufferOverflow⟩
  fits_zero _ := Nat.zero_le _
  fits_mono := Nat.le_trans
  fits_accept n h := by
    rw [Cursor.room_store h]
    omega
  accept_nil c := by
    simp [Cursor.store]
  accept_append b h := Cursor.store_append b h
  write_fits {c bs} h := by
    have hroom : ¬ (bs ≠ [] ∧ c.room = 0) := by
      rintro ⟨hne, h0⟩
      exact hne (List.length_eq_zero_iff.mp (by omega))
    refine (Cursor.write_eq bs c).trans ?_
    rw [if_neg hroom, Nat.min_eq_left h, List.take_of_length_le h]
  write_cut {c bs} h := by
    have hlt : c.room < bs.length := Nat.lt_of_not_le h
    cases hr : c.room with
    | zero =>
        refine Or.inr ⟨_, rfl, (Cursor.write_eq bs c).trans ?_⟩
        exact if_pos ⟨List.ne_nil_of_length_pos (by omega), hr⟩
    | succ n =>
        refine Or.inl ⟨n + 1, by omega, by omega, by omega, by omega, ?_⟩
        refine (Cursor.write_eq bs c).trans ?_
        rw [if_neg (by omega), hr, Nat.min_eq_right (by omega)]

end Uac2
