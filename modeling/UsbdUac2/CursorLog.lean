import UsbdUac2.Cursor
import UsbdUac2.Lib.BoundedLog

/-!
# Sequences of writes to a cursor

A cursor at the front of a buffer is a log of at most as many bytes as the buffer
has.  `Represents` relates the two, and each write is one offer to the log, also
when it is short and when it fails.  The run lemma carries this along any
sequence of writes, whose caller may go on after a failure.

`write_contract` is about one write from any position, as a caller of
`set_position` may choose it.
-/

namespace Uac2

open ByteWriter

namespace Cursor

/-- What a write reports to its caller. -/
abbrev Report := Except (Fault CursorError) Nat

/-- The number of bytes a write took. -/
def count : Report → Nat
  | .ok n => n
  | .error _ => 0

/-- A write with its report, and the cursor also after a failure. -/
def writeReport (bs : List UInt8) (c : Cursor) : Report × Cursor :=
  match write bs c with
  | .ok n c' => (.ok n, c')
  | .error e c' => (.error e, c')

/-- Write the inputs one after the other. -/
def writes : List (List UInt8) → Cursor → List Report × Cursor
  | [], c => ([], c)
  | bs :: inputs, c =>
      let (r, c₁) := writeReport bs c
      let (rs, c₂) := writes inputs c₁
      (r :: rs, c₂)

/-- The sum of the counts. -/
def total : List Report → Nat
  | [] => 0
  | r :: rs => count r + total rs

/-- The part of each input that was taken. -/
def prefixes : List (List UInt8) → List Report → List (List UInt8)
  | bs :: inputs, r :: rs => bs.take (count r) :: prefixes inputs rs
  | _, _ => []

/-! ## One write -/

/-- What a write promises at any position: a nonempty input fails when nothing
is left and leaves the cursor alone, and every other input is taken up to what
is left. -/
structure WriteContract (bs : List UInt8) (c : Cursor) : Prop where
  fails_iff : (∃ c', write bs c = .error (.err ⟨.bufferOverflow⟩) c') ↔
    bs ≠ [] ∧ c.remainingSlice = []
  failure : ∀ e c', write bs c = .error e c' → e = .err ⟨.bufferOverflow⟩ ∧ c' = c
  taken : ∀ n c', write bs c = .ok n c' → n = min bs.length c.remainingSlice.length

theorem length_remainingSlice (c : Cursor) : c.remainingSlice.length = c.room := by
  rw [remainingSlice, drop_min_length, length_drop_pos]

theorem remainingSlice_eq_nil (c : Cursor) : c.remainingSlice = [] ↔ c.room = 0 := by
  rw [← length_remainingSlice, List.length_eq_zero_iff]

theorem write_contract (bs : List UInt8) (c : Cursor) : WriteContract bs c := by
  have hrun := write_eq bs c
  by_cases hfull : bs ≠ [] ∧ c.room = 0
  · rw [if_pos hfull] at hrun
    refine ⟨⟨fun _ => ?_, fun _ => ⟨c, hrun⟩⟩, fun e c' h => ?_, fun n c' h => ?_⟩
    · exact ⟨hfull.1, c.remainingSlice_eq_nil.mpr hfull.2⟩
    · rw [hrun] at h
      cases h
      exact ⟨rfl, rfl⟩
    · rw [hrun] at h
      cases h
  · rw [if_neg hfull] at hrun
    refine ⟨⟨fun h => ?_, fun h => ?_⟩, fun e c' h => ?_, fun n c' h => ?_⟩
    · obtain ⟨c', h⟩ := h
      rw [hrun] at h
      cases h
    · exact absurd ⟨h.1, c.remainingSlice_eq_nil.mp h.2⟩ hfull
    · rw [hrun] at h
      cases h
    · rw [hrun] at h
      cases h
      rw [length_remainingSlice]

/-! ## The log behind a cursor -/

/-- The front of the buffer holds the log and the rest is as it was. -/
structure Represents (buf : List UInt8) (c : Cursor) (l : BoundedLog UInt8 buf.length) :
    Prop where
  pos : c.pos = l.entries.length
  inner : c.inner = l.entries ++ buf.drop l.entries.length

theorem represents_new (buf : List UInt8) :
    Represents buf (new buf) (BoundedLog.empty UInt8 buf.length) := ⟨rfl, rfl⟩

namespace Represents

variable {buf : List UInt8} {c : Cursor} {l : BoundedLog UInt8 buf.length}

theorem length_inner (h : Represents buf c l) : c.inner.length = buf.length := by
  have := l.within
  rw [h.inner, List.length_append, List.length_drop]
  omega

theorem room (h : Represents buf c l) : c.room = l.free := by
  rw [Cursor.room, h.length_inner, h.pos, BoundedLog.free]

/-- A store of the part that an offer takes. -/
theorem store (h : Represents buf c l) (bs : List UInt8) :
    Represents buf (c.store (bs.take c.room)) (l.offer bs) := by
  have hstore : c.store (bs.take c.room) =
      ⟨(l.entries ++ bs.take l.free) ++
        (buf.drop l.entries.length).drop (bs.take l.free).length,
        (l.entries ++ bs.take l.free).length⟩ := by
    have hc : c = ⟨l.entries ++ buf.drop l.entries.length, l.entries.length⟩ := by
      rw [← h.inner, ← h.pos]
    rw [h.room, hc, store_mk]
  refine ⟨?_, ?_⟩
  · rw [hstore]
    rfl
  · rw [hstore, List.drop_drop, ← List.length_append]
    rfl

/-- One write is one offer to the log. -/
theorem write (h : Represents buf c l) (bs : List UInt8) :
    Represents buf (writeReport bs c).2 (l.offer bs) ∧
      count (writeReport bs c).1 = (l.taken bs).length := by
  have hrun := write_eq bs c
  by_cases hfull : bs ≠ [] ∧ c.room = 0
  · have hrefuses : l.Refuses bs := ⟨hfull.1, h.room ▸ hfull.2⟩
    rw [if_pos hfull] at hrun
    rw [writeReport, hrun, hrefuses.offer_eq, hrefuses.taken_eq]
    exact ⟨h, rfl⟩
  · rw [if_neg hfull] at hrun
    rw [writeReport, hrun, l.length_taken bs, ← h.room]
    exact ⟨h.store bs, rfl⟩

/-- A sequence of writes is a sequence of offers. -/
theorem writes (h : Represents buf c l) (inputs : List (List UInt8)) :
    Represents buf (writes inputs c).2 (l.offerAll inputs) ∧
      prefixes inputs (Cursor.writes inputs c).1 = l.takenAll inputs := by
  induction inputs generalizing c l with
  | nil => exact ⟨h, rfl⟩
  | cons bs inputs ih =>
      obtain ⟨hnext, hcount⟩ := h.write bs
      obtain ⟨hlast, hprefixes⟩ := ih hnext
      refine ⟨hlast, ?_⟩
      have htake : bs.take (count (writeReport bs c).1) = l.taken bs := by
        rw [hcount, l.length_taken, BoundedLog.taken, Nat.min_comm, ← List.take_take,
          List.take_length]
      rw [Cursor.writes, prefixes, BoundedLog.takenAll, hprefixes, htake]

end Represents

/-- No write takes more than its input. -/
theorem count_writeReport_le (bs : List UInt8) (c : Cursor) :
    count (writeReport bs c).1 ≤ bs.length := by
  have hrun := write_eq bs c
  split at hrun
  · rw [writeReport, hrun]
    exact Nat.zero_le _
  · rw [writeReport, hrun]
    exact Nat.min_le_left _ _

/-- The counts add up to the length of what was taken. -/
theorem total_writes (inputs : List (List UInt8)) (c : Cursor) :
    total (writes inputs c).1 = (prefixes inputs (writes inputs c).1).flatten.length := by
  induction inputs generalizing c with
  | nil => rfl
  | cons bs inputs ih =>
      have hle := count_writeReport_le bs c
      rw [writes, total, prefixes, List.flatten_cons, List.length_append, List.length_take, ih,
        Nat.min_eq_left hle]

/-- What a buffer and a position are after writes from the front of the buffer. -/
structure Logged (buf : List UInt8) (inputs : List (List UInt8)) (rs : List Report)
    (c : Cursor) : Prop where
  within : c.position ≤ buf.length
  position_eq : c.position = total rs
  front : c.inner.take c.position = (prefixes inputs rs).flatten
  back : c.inner.drop c.position = buf.drop c.position

/-- A new cursor after any writes has the taken parts in order and the old bytes
behind them.  It is a bounded log that was offered the inputs. -/
theorem writes_refine (buf : List UInt8) (inputs : List (List UInt8)) :
    Logged buf inputs (writes inputs (new buf)).1 (writes inputs (new buf)).2 ∧
    Represents buf (writes inputs (new buf)).2
      ((BoundedLog.empty UInt8 buf.length).offerAll inputs) ∧
    ∀ (bs : List UInt8) (c : Cursor), WriteContract bs c := by
  obtain ⟨hrep, hprefixes⟩ := (represents_new buf).writes inputs
  have hentries : ((BoundedLog.empty UInt8 buf.length).offerAll inputs).entries =
      (prefixes inputs (writes inputs (new buf)).1).flatten := by
    rw [BoundedLog.entries_offerAll, hprefixes]
    rfl
  refine ⟨⟨?_, ?_, ?_, ?_⟩, hrep, write_contract⟩
  · rw [position, hrep.pos]
    exact BoundedLog.within _
  · rw [position, hrep.pos, total_writes, hentries]
  · rw [position, hrep.pos, hrep.inner, List.take_left, hentries]
  · rw [position, hrep.pos, hrep.inner, List.drop_left]

example : (writes [[1, 2], [], [3, 4, 5], [6]] (new [0, 0, 0, 0])).2 = ⟨[1, 2, 3, 4], 4⟩ := by
  decide

end Cursor

end Uac2
