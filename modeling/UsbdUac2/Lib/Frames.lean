import Mathlib.Data.List.Basic

/-!
# Words and length-prefixed records

Little-endian words, and a byte format that is a sequence of records.  The first
byte of a record is its length, itself and the kind byte that follows included.
A reader that knows no kind can still walk from record to record.

`split_flatten` says the walk finds the records back, for any number of them.

Some records begin a section that lasts to the next one that does.  `sections`
cuts a list so, over any type.
-/

namespace Frames

/-! ## Little-endian words -/

/-- The two bytes of a word, low byte first. -/
def le16 (v : UInt16) : List UInt8 := [v.toUInt8, (v >>> 8).toUInt8]

/-- The four bytes of a word, low byte first. -/
def le32 (v : UInt32) : List UInt8 :=
  [v.toUInt8, (v >>> 8).toUInt8, (v >>> 16).toUInt8, (v >>> 24).toUInt8]

/-- The word of two bytes, low byte first. -/
def ofLe16 (b0 b1 : UInt8) : UInt16 := UInt16.ofNat (b0.toNat + 256 * b1.toNat)

/-- The word of four bytes, low byte first. -/
def ofLe32 (b0 b1 b2 b3 : UInt8) : UInt32 :=
  UInt32.ofNat (b0.toNat + 256 * b1.toNat + 65536 * b2.toNat + 16777216 * b3.toNat)

@[simp] theorem length_le16 (v : UInt16) : (le16 v).length = 2 := rfl

theorem ofLe16_le16 (v : UInt16) : ofLe16 v.toUInt8 (v >>> 8).toUInt8 = v := by
  have hv := v.toNat_lt
  apply UInt16.toNat_inj.mp
  simp only [ofLe16, UInt16.toNat_toUInt8, UInt16.toNat_shiftRight, UInt16.toNat_ofNat',
    Nat.shiftRight_eq_div_pow]
  simp
  omega

theorem ofLe32_le32 (v : UInt32) :
    ofLe32 v.toUInt8 (v >>> 8).toUInt8 (v >>> 16).toUInt8 (v >>> 24).toUInt8 = v := by
  have hv := v.toNat_lt
  apply UInt32.toNat_inj.mp
  simp only [ofLe32, UInt32.toNat_toUInt8, UInt32.toNat_shiftRight, UInt32.toNat_ofNat',
    Nat.shiftRight_eq_div_pow]
  simp
  omega

/-! ## Records -/

/-- A record: a kind and a body short enough for the length byte. -/
structure Frame where
  /-- The kind byte. -/
  kind : UInt8
  /-- The bytes after the kind. -/
  body : List UInt8
  /-- The length fits in one byte. -/
  small : body.length + 2 < 256
deriving DecidableEq

/-- The length of a record on the wire. -/
def Frame.length (f : Frame) : Nat := f.body.length + 2

/-- A record on the wire. -/
def Frame.bytes (f : Frame) : List UInt8 := UInt8.ofNat f.length :: f.kind :: f.body

@[simp] theorem Frame.length_bytes (f : Frame) : f.bytes.length = f.length := by
  simp [Frame.bytes, Frame.length]

theorem Frame.toNat_length (f : Frame) : (UInt8.ofNat f.length).toNat = f.length := by
  have := f.small
  rw [UInt8.toNat_ofNat']
  exact Nat.mod_eq_of_lt this

/-- The bytes of a sequence of records. -/
def flatten (fs : List Frame) : List UInt8 := fs.flatMap Frame.bytes

@[simp] theorem flatten_nil : flatten [] = [] := rfl

@[simp] theorem flatten_cons (f : Frame) (fs : List Frame) :
    flatten (f :: fs) = f.bytes ++ flatten fs := rfl

@[simp] theorem flatten_append (fs gs : List Frame) :
    flatten (fs ++ gs) = flatten fs ++ flatten gs := List.flatMap_append

/-- The length of a sequence of records on the wire. -/
theorem length_flatten (fs : List Frame) :
    (flatten fs).length = fs.foldr (fun f n => f.length + n) 0 := by
  induction fs with
  | nil => rfl
  | cons f fs ih => rw [flatten_cons, List.length_append, Frame.length_bytes, ih, List.foldr_cons]

/-- Take one record off the front. -/
def next? : List UInt8 → Option (Frame × List UInt8)
  | len :: kind :: rest =>
      if h : 2 ≤ len.toNat ∧ len.toNat - 2 ≤ rest.length then
        some (⟨kind, rest.take (len.toNat - 2), by
          have := len.toNat_lt
          rw [List.length_take]
          omega⟩, rest.drop (len.toNat - 2))
      else none
  | _ => none

/-- The loop of `split`. -/
def splitLoop : Nat → List UInt8 → Option (List Frame)
  | _, [] => some []
  | 0, _ :: _ => none
  | fuel + 1, b :: bs =>
      match next? (b :: bs) with
      | some (f, rest) => (splitLoop fuel rest).map (f :: ·)
      | none => none
termination_by structural fuel => fuel

/-- Cut a byte string into records by following the length bytes. -/
def split (bs : List UInt8) : Option (List Frame) := splitLoop bs.length bs

/-- The front record is found back, whatever comes behind it. -/
theorem next?_bytes (f : Frame) (rest : List UInt8) :
    next? (f.bytes ++ rest) = some (f, rest) := by
  obtain ⟨kind, body, small⟩ := f
  have hlen := Frame.toNat_length ⟨kind, body, small⟩
  simp only [Frame.length] at hlen
  have hcond : 2 ≤ (UInt8.ofNat (body.length + 2)).toNat ∧
      (UInt8.ofNat (body.length + 2)).toNat - 2 ≤ (body ++ rest).length := by
    rw [hlen, List.length_append]
    omega
  have hbody : (UInt8.ofNat (body.length + 2)).toNat - 2 = body.length := by
    rw [hlen, Nat.add_sub_cancel]
  simp only [Frame.bytes, Frame.length, List.cons_append, next?]
  rw [dif_pos hcond]
  simp only [hbody, List.take_left, List.drop_left]

theorem splitLoop_flatten (fs : List Frame) :
    ∀ fuel, (flatten fs).length ≤ fuel → splitLoop fuel (flatten fs) = some fs := by
  induction fs with
  | nil =>
      intro fuel _
      cases fuel <;> rfl
  | cons f fs ih =>
      intro fuel h
      have hsize : f.length + (flatten fs).length ≤ fuel := by
        simpa using h
      cases fuel with
      | zero =>
          rw [Frame.length] at hsize
          omega
      | succ fuel =>
          have hrest := ih fuel (by rw [Frame.length] at hsize; omega)
          have hnext := next?_bytes f (flatten fs)
          rw [flatten_cons]
          rw [Frame.bytes, List.cons_append] at hnext ⊢
          rw [splitLoop, hnext]
          simp only [hrest, Option.map_some]

/-- Following the length bytes finds every record back. -/
theorem split_flatten (fs : List Frame) : split (flatten fs) = some fs :=
  splitLoop_flatten fs _ (Nat.le_refl _)

/-! ## Sections -/

section

variable {α β : Type} (p : α → Bool)

/-- Cut a list at the elements that begin a section: what stands in front of the
first one, and each of them with what follows it. -/
def sections : List α → List α × List (α × List α)
  | [] => ([], [])
  | a :: as =>
      if p a then ([], (a, (sections as).1) :: (sections as).2)
      else (a :: (sections as).1, (sections as).2)

variable {p}

theorem sections_append {body : List α} (h : ∀ a ∈ body, p a = false) (rest : List α) :
    sections p (body ++ rest) = (body ++ (sections p rest).1, (sections p rest).2) := by
  induction body with
  | nil => rfl
  | cons a as ih =>
      rw [List.cons_append, sections, h a (List.mem_cons_self ..), if_neg Bool.false_ne_true,
        ih fun x hx => h x (List.mem_cons_of_mem a hx)]
      rfl

theorem sections_flatMap {head : β → α} {body : β → List α} {bs : List β}
    (hhead : ∀ b ∈ bs, p (head b) = true) (hbody : ∀ b ∈ bs, ∀ a ∈ body b, p a = false) :
    sections p (bs.flatMap fun b => head b :: body b) = ([], bs.map fun b => (head b, body b)) := by
  induction bs with
  | nil => rfl
  | cons b bs ih =>
      rw [List.flatMap_cons, List.cons_append, sections, hhead b (List.mem_cons_self ..),
        if_pos rfl, sections_append (hbody b (List.mem_cons_self ..)),
        ih (fun x hx => hhead x (List.mem_cons_of_mem b hx))
          fun x hx => hbody x (List.mem_cons_of_mem b hx),
        List.append_nil, List.map_cons]

end

end Frames
