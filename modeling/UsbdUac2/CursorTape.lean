import UsbdUac2.CursorLog
import UsbdUac2.Lib.LastWrite

/-!
# The cursor as a tape

The cursor also reads.  `read` and `consume` move the position, `fill_buf` only looks,
and `set_position` moves anywhere.

The position is a `usize`.  A caller of `consume` may move it past the largest one: a
build that checks for overflow panics there, and one that does not wraps around.  No
other call overflows, as a slice is shorter than the address space.

Reads, writes and moves may come in any order.  `reads_last_write` says what a read
then finds: at each place the last byte that was stored there, or what the slice held
at first.  A write stores what fits behind the position, also when it reports a
failure.
-/

namespace Uac2

open ByteWriter
open LastWrite

namespace Cursor

/-! ## Reading -/

/-- `read`: the number of bytes, and the buffer with these bytes at its front. -/
def read (buf : List UInt8) (c : Cursor) : (Nat × List UInt8) × Cursor :=
  let remaining := c.remainingSlice
  let n := min buf.length remaining.length
  ((n, remaining.take n ++ buf.drop n), { c with pos := c.pos + n })

/-- `fill_buf`. -/
def fillBuf (c : Cursor) : List UInt8 := c.remainingSlice

variable {size : Nat}

/-- `consume`, with `size` values of `usize`.  `checks` is set in a build that checks for
overflow, and `none` is its panic. -/
def consume (checks : Bool) (amt : Fin size) (c : Cursor) : Option Cursor :=
  if c.pos + amt < size then some { c with pos := c.pos + amt }
  else if checks then none
  else some { c with pos := (c.pos + amt) % size }

/-- A read does not overflow, as a slice is shorter than the address space. -/
theorem read_pos_lt (buf : List UInt8) {c : Cursor} (hsize : c.inner.length < size)
    (hpos : c.pos < size) : (c.read buf).2.pos < size := by
  have hlen : c.remainingSlice.length = c.inner.length - c.pos := c.length_remainingSlice
  show c.pos + min buf.length c.remainingSlice.length < size
  omega

/-- Consuming keeps the slice, and the position stays a `usize`. -/
theorem consume_eq_some {checks : Bool} {amt : Fin size} {c c' : Cursor}
    (h : c.consume checks amt = some c') : c'.inner = c.inner ∧ c'.pos < size := by
  unfold consume at h
  split at h
  · rename_i hlt
    obtain rfl := Option.some.inj h
    exact ⟨rfl, hlt⟩
  · split at h
    · cases h
    · obtain rfl := Option.some.inj h
      exact ⟨rfl, Nat.mod_lt _ (Nat.zero_lt_of_lt amt.isLt)⟩

/-- Looking at the slice and consuming from it is reading. -/
theorem read_eq (checks : Bool) (buf : List UInt8) {c : Cursor} (hsize : c.inner.length < size)
    (hpos : c.pos < size) :
    ∃ amt : Fin size, amt.val = min buf.length c.fillBuf.length ∧
      c.consume checks amt = some (c.read buf).2 ∧
      (c.read buf).1 = (amt.val, c.fillBuf.take amt ++ buf.drop amt) := by
  have hlt : c.pos + min buf.length c.fillBuf.length < size := c.read_pos_lt buf hsize hpos
  exact ⟨⟨_, Nat.lt_of_le_of_lt (Nat.le_add_left _ _) hlt⟩, rfl, if_pos hlt, rfl⟩

/-! ## Runs -/

/-- A call that moves the position or stores bytes. -/
inductive Op (size : Nat) where
  | write (bs : List UInt8)
  | read (buf : List UInt8)
  | consume (amt : Fin size)
  | setPosition (pos : Fin size)
deriving DecidableEq, Repr

/-- The cursor after a call, unless it panics. -/
def Op.after (checks : Bool) (op : Op size) (c : Cursor) : Option Cursor :=
  match op with
  | .write bs => some (c.writeReport bs).2
  | .read buf => some (c.read buf).2
  | .consume amt => c.consume checks amt
  | .setPosition pos => some (c.setPosition pos)

/-- The bytes that a call stores, with their places. -/
def Op.stores (op : Op size) (c : Cursor) : List (UInt8 × Nat) :=
  match op with
  | .write bs => (bs.take c.room).zipIdx c.pos
  | .read _ => []
  | .consume _ => []
  | .setPosition _ => []

/-- The cursor after a list of calls. -/
def after (checks : Bool) : List (Op size) → Cursor → Option Cursor
  | [], c => some c
  | op :: ops, c =>
      match op.after checks c with
      | none => none
      | some c => after checks ops c

/-- The bytes that a list of calls stores, oldest first. -/
def stores (checks : Bool) : List (Op size) → Cursor → List (UInt8 × Nat)
  | [], _ => []
  | op :: ops, c =>
      op.stores c ++
        match op.after checks c with
        | none => []
        | some c => stores checks ops c

/-- The byte of a store to the place `a`. -/
def storeAt (a : Nat) (x : UInt8 × Nat) : Option UInt8 := if x.2 = a then some x.1 else none

theorem lastWrite_zipIdx (bs : List UInt8) (p a : Nat) :
    lastWrite (storeAt a) (bs.zipIdx p) = if p ≤ a then bs[a - p]? else none := by
  induction bs generalizing p with
  | nil => simp
  | cons b bs ih =>
      rw [List.zipIdx_cons, lastWrite_cons, ih, storeAt]
      rcases Nat.lt_trichotomy p a with hlt | rfl | hgt
      · have hsub : a - p = a - (p + 1) + 1 := by omega
        have hle : p + 1 ≤ a := hlt
        rw [if_pos hle, if_neg (Nat.ne_of_lt hlt), if_pos (Nat.le_of_lt hlt), Option.or_none, hsub,
          List.getElem?_cons_succ]
      · rw [if_neg (Nat.not_succ_le_self p), if_pos rfl, if_pos (Nat.le_refl p), Nat.sub_self]
        rfl
      · rw [if_neg (by omega), if_neg (by omega), if_neg (by omega)]
        rfl

/-- A write stores what fits, whatever it reports. -/
theorem writeReport_eq (bs : List UInt8) (c : Cursor) :
    (c.writeReport bs).2 = c.store (bs.take c.room) := by
  rw [writeReport, write_eq]
  by_cases hfull : bs ≠ [] ∧ c.room = 0
  · rw [if_pos hfull, hfull.2, List.take_zero]
    simp [store]
  · rw [if_neg hfull]

/-- A place of the slice after a store of bytes that fit. -/
theorem getElem?_store {bs : List UInt8} {c : Cursor} (h : bs.length ≤ c.room) (a : Nat) :
    (c.store bs).inner[a]? =
      (if c.pos ≤ a then bs[a - c.pos]? else none).or c.inner[a]? := by
  rcases Nat.lt_or_ge c.inner.length c.pos with hout | hin
  · have hnil : bs = [] := List.eq_nil_of_length_eq_zero (by rw [room] at h; omega)
    rw [hnil, show c.store [] = c by simp [store]]
    simp
  · obtain ⟨pre, rest, rfl⟩ := exists_eq_mk hin
    rw [store_mk]
    rcases Nat.lt_or_ge a pre.length with hlt | hge
    · rw [if_neg (Nat.not_le.mpr hlt), List.append_assoc, List.getElem?_append_left hlt,
        List.getElem?_append_left hlt, Option.none_or]
    · rw [if_pos hge, List.append_assoc, List.getElem?_append_right hge,
        List.getElem?_append_right hge]
      rcases Nat.lt_or_ge (a - pre.length) bs.length with hlt | hout
      · rw [List.getElem?_append_left hlt, List.getElem?_eq_getElem hlt, Option.some_or]
      · rw [List.getElem?_append_right hout, List.getElem?_drop,
          List.getElem?_eq_none_iff.mpr hout, Option.none_or]
        congr 1
        omega

/-- What a call does: the slice keeps its length, the position stays a `usize`, and a place
has what was stored to it last. -/
theorem Op.after_spec {checks : Bool} {op : Op size} {c c' : Cursor}
    (hsize : c.inner.length < size) (hpos : c.pos < size) (h : op.after checks c = some c') :
    c'.inner.length = c.inner.length ∧ c'.pos < size ∧
      ∀ a, c'.inner[a]? = (lastWrite (storeAt a) (op.stores c)).or c.inner[a]? := by
  cases op with
  | write bs =>
      have hfit : (bs.take c.room).length ≤ c.room := List.length_take_le _ _
      have hroom : c.room = c.inner.length - c.pos := rfl
      obtain rfl := Option.some.inj h
      rw [writeReport_eq]
      refine ⟨length_store hfit, ?_, fun a => ?_⟩
      · show c.pos + (bs.take c.room).length < size
        omega
      · rw [getElem?_store hfit, Op.stores, lastWrite_zipIdx]
  | read buf =>
      obtain rfl := Option.some.inj h
      exact ⟨rfl, c.read_pos_lt buf hsize hpos, fun a => rfl⟩
  | consume amt =>
      obtain ⟨hinner, hlt⟩ := consume_eq_some h
      rw [hinner]
      exact ⟨rfl, hlt, fun a => rfl⟩
  | setPosition pos =>
      obtain rfl := Option.some.inj h
      exact ⟨rfl, pos.isLt, fun a => rfl⟩

/-- What a list of calls does, if none of them panics. -/
theorem after_spec {checks : Bool} {ops : List (Op size)} {c c' : Cursor}
    (hsize : c.inner.length < size) (hpos : c.pos < size) (h : after checks ops c = some c') :
    c'.inner.length = c.inner.length ∧ c'.pos < size ∧
      ∀ a, c'.inner[a]? = (lastWrite (storeAt a) (stores checks ops c)).or c.inner[a]? := by
  induction ops generalizing c with
  | nil =>
      obtain rfl := Option.some.inj h
      exact ⟨rfl, hpos, fun a => rfl⟩
  | cons op ops ih =>
      cases hop : op.after checks c with
      | none => simp [after, hop] at h
      | some c₁ =>
          obtain ⟨hlen₁, hpos₁, hplace₁⟩ := op.after_spec hsize hpos hop
          rw [after, hop] at h
          obtain ⟨hlen, hlt, hplace⟩ := ih (hlen₁ ▸ hsize) hpos₁ h
          refine ⟨hlen.trans hlen₁, hlt, fun a => ?_⟩
          rw [hplace, hplace₁, stores, hop, lastWrite_append, Option.or_assoc]

/-- A `consume` of the list moves the position past the largest `usize`. -/
def Overflows (checks : Bool) (ops : List (Op size)) (c : Cursor) : Prop :=
  ∃ front, ∃ amt : Fin size, ∃ back c', ops = front ++ .consume amt :: back ∧
    after checks front c = some c' ∧ size ≤ c'.pos + amt

theorem consume_eq_none_iff (checks : Bool) (amt : Fin size) (c : Cursor) :
    c.consume checks amt = none ↔ checks = true ∧ size ≤ c.pos + amt := by
  unfold consume
  split
  · rename_i hlt
    exact ⟨nofun, fun h => absurd hlt (Nat.not_lt.mpr h.2)⟩
  · rename_i hge
    cases checks with
    | true => exact ⟨fun _ => ⟨rfl, Nat.le_of_not_lt hge⟩, fun _ => rfl⟩
    | false => exact ⟨nofun, fun h => absurd h.1 nofun⟩

/-- Only such a `consume` panics, and only where overflow is checked for. -/
theorem after_eq_none_iff (checks : Bool) (ops : List (Op size)) (c : Cursor) :
    after checks ops c = none ↔ checks = true ∧ Overflows checks ops c := by
  induction ops generalizing c with
  | nil =>
      refine ⟨nofun, ?_⟩
      rintro ⟨-, front, amt, back, -, h, -⟩
      exact absurd h.symm (List.append_ne_nil_of_right_ne_nil _ (List.cons_ne_nil _ _))
  | cons op ops ih =>
      cases hop : op.after checks c with
      | none =>
          rw [after, hop]
          refine ⟨fun _ => ?_, fun _ => rfl⟩
          cases op with
          | consume amt =>
              obtain ⟨hchecks, hover⟩ := (consume_eq_none_iff checks amt c).mp hop
              exact ⟨hchecks, [], amt, ops, c, rfl, rfl, hover⟩
          | write bs => cases hop
          | read buf => cases hop
          | setPosition pos => cases hop
      | some c₁ =>
          rw [after, hop]
          dsimp only
          rw [ih]
          refine and_congr_right fun hchecks => ⟨?_, ?_⟩
          · rintro ⟨front, amt, back, c', rfl, hfront, hover⟩
            refine ⟨op :: front, amt, back, c', rfl, ?_, hover⟩
            rw [after, hop]
            exact hfront
          · rintro ⟨front, amt, back, c', h, hfront, hover⟩
            cases front with
            | nil =>
                obtain ⟨rfl, rfl⟩ := List.cons.inj h
                obtain rfl := Option.some.inj hfront
                cases hop.symm.trans ((consume_eq_none_iff checks amt c).mpr ⟨hchecks, hover⟩)
            | cons op' front =>
                obtain ⟨rfl, rfl⟩ := List.cons.inj h
                rw [after, hop] at hfront
                exact ⟨front, amt, back, c', rfl, hfront, hover⟩

/-- A read after any calls returns as many bytes as there are behind the position, up to
the length of its buffer.  Each is the last byte that was stored at its place, or
what the slice held at first.  The calls panic exactly when overflow is checked for and
one of them consumes past the largest `usize`. -/
theorem reads_last_write {inner : List UInt8} (hsize : inner.length < size) (checks : Bool)
    (buf : List UInt8) (ops : List (Op size)) :
    (after checks ops (new inner) = none ↔
      checks = true ∧ Overflows checks ops (new inner)) ∧
    ∀ c, after checks ops (new inner) = some c →
      let n := min buf.length (inner.length - c.pos)
      c.pos < size ∧ (c.read buf).1.1 = n ∧ (c.read buf).1.2.drop n = buf.drop n ∧
        ((c.read buf).1.2.take n).map some =
          (List.range n).map fun i =>
            (lastWrite (storeAt (c.pos + i)) (stores checks ops (new inner))).or
              inner[c.pos + i]? := by
  refine ⟨after_eq_none_iff checks ops (new inner), ?_⟩
  intro c hc n
  obtain ⟨hlen, hpos, hplace⟩ := after_spec (c := new inner) hsize (Nat.zero_lt_of_lt hsize) hc
  have hremaining : c.remainingSlice = c.inner.drop c.pos := drop_min_length c
  have hroom : c.remainingSlice.length = inner.length - c.pos := by
    rw [length_remainingSlice, room, hlen]
    rfl
  have hn : min buf.length c.remainingSlice.length = n := by rw [hroom]
  have htake : (c.remainingSlice.take n).length = n := by
    rw [List.length_take, hroom]
    exact Nat.min_eq_left (Nat.min_le_right _ _)
  have hbytes : (c.read buf).1.2 = c.remainingSlice.take n ++ buf.drop n := by
    rw [read, hn]
  refine ⟨hpos, hn, ?_, ?_⟩
  · rw [hbytes, List.drop_left' htake]
  · rw [hbytes, List.take_left' htake]
    refine List.ext_getElem? fun i => ?_
    rw [List.getElem?_map, List.getElem?_map]
    rcases Nat.lt_or_ge i n with hlt | hge
    · have hin : c.pos + i < c.inner.length := by
        rw [hlen]
        exact Nat.add_lt_of_lt_sub' (Nat.lt_of_lt_of_le hlt (Nat.min_le_right _ _))
      rw [List.getElem?_range hlt, List.getElem?_take_of_lt hlt, hremaining, List.getElem?_drop]
      show _ = some ((lastWrite _ _).or (new inner).inner[c.pos + i]?)
      rw [← hplace, List.getElem?_eq_getElem hin]
      rfl
    · rw [List.getElem?_eq_none_iff.mpr (Nat.le_trans (Nat.le_of_eq htake) hge),
        List.getElem?_eq_none_iff.mpr (Nat.le_trans (Nat.le_of_eq List.length_range) hge)]
      rfl

/-- The largest position of 32 bits, one more, and a write. -/
def turnover : List (Op 4294967296) :=
  [.setPosition ⟨4294967295, by decide⟩, .consume ⟨1, by decide⟩, .write [9]]

/-- With overflow checks this panics.  Without, the write goes to the front, and the read
continues behind it. -/
theorem reads_last_write_turnover :
    after true turnover (new [1, 2, 3]) = none ∧
      ∃ c, after false turnover (new [1, 2, 3]) = some c ∧ c.inner = [9, 2, 3] ∧
        ((c.read [0, 0, 0]).1.2.take 2).map some = [some 2, some 3] := by
  have hsize : [1, 2, 3].length < 4294967296 := by decide
  refine ⟨?_, ?_⟩
  · exact (reads_last_write hsize true [0, 0, 0] turnover).1.mpr
      ⟨rfl, [.setPosition _], _, _, ⟨[1, 2, 3], 4294967295⟩, rfl, rfl, by decide⟩
  · have hrun : after false turnover (new [1, 2, 3]) = some ⟨[9, 2, 3], 1⟩ := rfl
    obtain ⟨-, -, -, hread⟩ := (reads_last_write hsize false [0, 0, 0] turnover).2 _ hrun
    exact ⟨_, hrun, rfl, hread⟩

end Cursor

end Uac2
