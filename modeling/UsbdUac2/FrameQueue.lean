import UsbdUac2.Lib.Frames

/-!
# The queues of the interrupt example

The example moves the audio data through two lock-free byte queues of an external
library.  Each has one producer and one consumer, which may interrupt one another.
`BbQueue` has the operations the example calls, and `DocumentedBbQueue` what the
library says of them.  `ByteFifo` shows that this can be met.

A frame is eight bytes, a word of the left channel and one of the right.
-/

namespace Uac2

open Frames (ofLe32)

/-- The operations on a queue of bytes. -/
class BbQueue (Q : Type) where
  /-- There are so many free bytes in a row. -/
  grantExact : Nat → Q → Bool
  /-- Fill a grant, and commit a part of it. -/
  commit : List UInt8 → Nat → Q → Q
  /-- Bytes in a row, from the oldest one on. -/
  read : Q → Option (List UInt8)
  /-- Release the front of what was read. -/
  release : Nat → Q → Q

/-- The documented behaviour of a queue of the given capacity. -/
class DocumentedBbQueue (Q : Type) (cap : outParam Nat) [BbQueue Q] where
  /-- The bytes that are committed and not released. -/
  contents : Q → List UInt8
  length_le : ∀ q : Q, (contents q).length ≤ cap
  /-- No more than the grant is committed. -/
  contents_commit : ∀ {bs : List UInt8} {used : Nat} {q : Q},
    BbQueue.grantExact bs.length q = true →
      contents (BbQueue.commit bs used q) = contents q ++ bs.take used
  read_prefix : ∀ {q : Q} {bs : List UInt8}, BbQueue.read q = some bs → bs <+: contents q
  /-- No more than what was read is released. -/
  contents_release : ∀ {q : Q} {bs : List UInt8} {used : Nat}, BbQueue.read q = some bs →
    contents (BbQueue.release used q) = (contents q).drop (min used bs.length)

/-! ## A queue -/

/-- A list of at most `cap` bytes. -/
structure ByteFifo (cap : Nat) where
  bytes : List UInt8
  length_le : bytes.length ≤ cap

namespace ByteFifo

variable {cap : Nat}

/-- An empty queue. -/
def empty (cap : Nat) : ByteFifo cap := ⟨[], Nat.zero_le cap⟩

/-- Take bytes that fit. -/
def append (bs : List UInt8) (q : ByteFifo cap) : ByteFifo cap :=
  if h : (q.bytes ++ bs).length ≤ cap then ⟨q.bytes ++ bs, h⟩ else q

/-- Drop the oldest bytes. -/
def discard (n : Nat) (q : ByteFifo cap) : ByteFifo cap where
  bytes := q.bytes.drop n
  length_le := by
    have hle := q.length_le
    rw [List.length_drop]
    omega

instance : BbQueue (ByteFifo cap) where
  grantExact n q := q.bytes.length + n ≤ cap
  commit bs used q := q.append (bs.take used)
  read q := if q.bytes = [] then none else some q.bytes
  release used q := q.discard used

theorem bytes_commit {bs : List UInt8} {used : Nat} {q : ByteFifo cap}
    (h : BbQueue.grantExact bs.length q = true) :
    (BbQueue.commit bs used q).bytes = q.bytes ++ bs.take used := by
  have hfit : q.bytes.length + bs.length ≤ cap := of_decide_eq_true h
  have hlen : (q.bytes ++ bs.take used).length ≤ cap := by
    rw [List.length_append, List.length_take]
    omega
  show (q.append (bs.take used)).bytes = _
  rw [append, dif_pos hlen]

theorem read_eq {bs : List UInt8} {q : ByteFifo cap} (h : BbQueue.read q = some bs) :
    bs = q.bytes := by
  have hread : (if q.bytes = [] then none else some q.bytes) = some bs := h
  split at hread
  · cases hread
  · exact (Option.some.inj hread).symm

theorem bytes_release {bs : List UInt8} {used : Nat} {q : ByteFifo cap}
    (h : BbQueue.read q = some bs) :
    (BbQueue.release used q).bytes = q.bytes.drop (min used bs.length) := by
  rw [read_eq h]
  show q.bytes.drop used = _
  rcases Nat.le_total used q.bytes.length with hle | hge
  · rw [Nat.min_eq_left hle]
  · rw [Nat.min_eq_right hge, List.drop_length, List.drop_eq_nil_of_le hge]

instance : DocumentedBbQueue (ByteFifo cap) cap where
  contents q := q.bytes
  length_le q := q.length_le
  contents_commit := bytes_commit
  read_prefix h := read_eq h ▸ List.prefix_rfl
  contents_release := bytes_release

end ByteFifo

/-! ## Frames -/

/-- `BYTES_PER_FRAME`. -/
def bytesPerFrame : Nat := 8

/-- The 32-bit words of a list of bytes, low byte first. -/
def wordsOf : List UInt8 → List UInt32
  | b0 :: b1 :: b2 :: b3 :: bs => ofLe32 b0 b1 b2 b3 :: wordsOf bs
  | _ => []

theorem length_wordsOf {k : Nat} {bs : List UInt8} (h : bs.length = 4 * k) :
    (wordsOf bs).length = k := by
  induction k generalizing bs with
  | zero => rw [List.eq_nil_of_length_eq_zero h]; rfl
  | succ k ih =>
      match bs, h with
      | b0 :: b1 :: b2 :: b3 :: bs, h =>
          have hlen : bs.length = 4 * k := by
            simp only [List.length_cons] at h
            omega
          rw [wordsOf, List.length_cons, ih hlen]

section

variable {Q : Type} [BbQueue Q]

/-- `try_consume_one_frame`: the frame it writes to the FIFO, and the queue. -/
def tryConsumeOneFrame (q : Q) : Option (List UInt8 × Q) :=
  match BbQueue.read q with
  | some rgr =>
      if bytesPerFrame ≤ rgr.length then
        some (rgr.take bytesPerFrame, BbQueue.release bytesPerFrame q)
      else none
  | none => none

/-- `try_produce_one_frame`.  The number that is committed is larger than the grant. -/
def tryProduceOneFrame (frame : List UInt8) (q : Q) : Option Q :=
  if BbQueue.grantExact bytesPerFrame q then
    some (BbQueue.commit frame (bytesPerFrame * 2) q)
  else none

variable {cap : Nat} [DocumentedBbQueue Q cap]

open DocumentedBbQueue (contents)

/-- What is released was the front of the queue. -/
theorem take_append_release {q : Q} {rgr : List UInt8} {n : Nat}
    (hread : BbQueue.read q = some rgr) (hn : n ≤ rgr.length) :
    contents q = rgr.take n ++ contents (BbQueue.release n q) := by
  obtain ⟨rest, hrest⟩ := DocumentedBbQueue.read_prefix hread
  rw [DocumentedBbQueue.contents_release hread, Nat.min_eq_left hn, ← hrest,
    List.drop_append_of_le_length hn, ← List.append_assoc, List.take_append_drop]

/-- A frame that is consumed is the oldest whole frame of the queue. -/
theorem tryConsumeOneFrame_eq {q q' : Q} {frame : List UInt8}
    (h : tryConsumeOneFrame q = some (frame, q')) :
    contents q = frame ++ contents q' ∧ frame.length = bytesPerFrame := by
  rw [tryConsumeOneFrame] at h
  split at h
  · rename_i rgr hread
    split at h
    · rename_i hlen
      cases h
      exact ⟨take_append_release hread hlen, List.length_take_of_le hlen⟩
    · cases h
  · cases h

/-- A frame that is produced goes to the end of the queue. -/
theorem tryProduceOneFrame_eq {q q' : Q} {frame : List UInt8}
    (hlen : frame.length = bytesPerFrame) (h : tryProduceOneFrame frame q = some q') :
    contents q' = contents q ++ frame := by
  rw [tryProduceOneFrame] at h
  split at h
  · rename_i hgrant
    cases h
    rw [← hlen] at hgrant
    rw [DocumentedBbQueue.contents_commit hgrant, List.take_of_length_le]
    rw [hlen]
    decide
  · cases h

end

end Uac2
