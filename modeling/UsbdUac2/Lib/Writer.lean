import Mathlib.Data.List.Basic
import Mathlib.Data.List.TakeDrop

/-!
# Programs that write bytes

A *writer* is a state that takes bytes through a `write` that may be short: it
says how many of the bytes it took.  A program over a writer is an `EStateM`
computation.  It keeps the state it has reached also when it stops, so a fault
in the middle of an encoder does not lose what was written before it.

`LawfulWrite` says what a bounded writer does.  It takes all of the input when
the input fits, a proper nonempty prefix when only a part fits, and fails when
nothing fits.  The room of a writer is a predicate and not a number, so that an
unbounded writer is lawful too.

`Emits p bs` says that the program `p` writes exactly `bs` when `bs` fits and
fails with the error of a full writer when it does not.  `Yields` is the same
for a program that returns a value.  Both compose along `++`.  A single short
`write` whose count is thrown away does not emit its argument, since it succeeds
on a cut.  It does so in front of a program that emits at least one more byte
(`Emits.raw`).

Three writers are lawful: `Sink`, which never fills, `Slice`, which is a mutable
byte slice that shrinks as it is written, and every writer that forwards to one
of these.
-/

namespace ByteWriter

/-- Why a program stops before its end. -/
inductive Fault (ε : Type) where
  /-- An error value was returned. -/
  | err (e : ε)
  /-- The program panicked. -/
  | panic
deriving DecidableEq, Repr

/-- A program over a writer with state `σ` and error `ε`. -/
abbrev WriteM (σ ε : Type) := EStateM (Fault ε) σ

/-- A writer: one call takes some of the bytes and says how many. -/
class Write (σ : Type) (ε : outParam Type) where
  /-- Offer bytes to the writer. -/
  write : List UInt8 → WriteM σ ε Nat

export Write (write)

section Programs

variable {σ ε : Type} [Write σ ε]

/-- The loop of `writeAll`.  A turn takes at least one byte, so the length of
the input is enough fuel. -/
def writeAllLoop : Nat → List UInt8 → WriteM σ ε Unit
  | _, [] => pure ()
  | 0, _ :: _ => throw .panic
  | fuel + 1, b :: bs => do
      let n ← write (b :: bs)
      if n = 0 ∨ (b :: bs).length < n then throw .panic
      else writeAllLoop fuel ((b :: bs).drop n)
termination_by structural fuel => fuel

/-- Write all of the bytes, by repeated calls of `write`.  A call that takes
none of a nonempty input is a panic. -/
def writeAll (bs : List UInt8) : WriteM σ ε Unit := writeAllLoop bs.length bs

end Programs

/-! ## Lawful writers -/

/-- What a bounded writer does with the bytes it is offered. -/
class LawfulWrite (σ : Type) (ε : outParam Type) [Write σ ε] where
  /-- There is room for `n` more bytes. -/
  Fits : σ → Nat → Prop
  /-- The state after taking all of the bytes. -/
  accept : σ → List UInt8 → σ
  /-- The errors of a writer without room. -/
  IsFull : ε → Prop
  fits_zero : ∀ s : σ, Fits s 0
  fits_mono : ∀ {s : σ} {m n : Nat}, m ≤ n → Fits s n → Fits s m
  fits_accept : ∀ {s : σ} {a : List UInt8} (n : Nat), Fits s a.length →
    (Fits (accept s a) n ↔ Fits s (a.length + n))
  accept_nil : ∀ s : σ, accept s [] = s
  accept_append : ∀ {s : σ} {a : List UInt8} (b : List UInt8), Fits s a.length →
    accept (accept s a) b = accept s (a ++ b)
  write_fits : ∀ {s : σ} {bs : List UInt8}, Fits s bs.length →
    write bs s = .ok bs.length (accept s bs)
  write_cut : ∀ {s : σ} {bs : List UInt8}, ¬ Fits s bs.length →
    (∃ n, 0 < n ∧ n < bs.length ∧ Fits s n ∧ ¬ Fits s (n + 1) ∧
      write bs s = .ok n (accept s (bs.take n))) ∨
    (∃ e, IsFull e ∧ write bs s = .error (.err e) s)

export LawfulWrite (Fits accept IsFull)

section Emission

variable {σ ε : Type} {α β : Type}

theorem bind_ok {p : WriteM σ ε α} {q : α → WriteM σ ε β} {s s' : σ} {x : α}
    (h : p s = .ok x s') : (p >>= q) s = q x s' := by
  simp only [bind, EStateM.bind, h]

theorem bind_error {p : WriteM σ ε α} {q : α → WriteM σ ε β} {s s' : σ} {e : Fault ε}
    (h : p s = .error e s') : (p >>= q) s = .error e s' := by
  simp only [bind, EStateM.bind, h]

variable [Write σ ε] [LawfulWrite σ ε]

/-- `p` writes `bs` if there is room for it, and fails as a full writer does if
there is not. -/
def Emits (p : WriteM σ ε Unit) (bs : List UInt8) : Prop :=
  ∀ s : σ, (Fits s bs.length → p s = .ok () (accept s bs)) ∧
    (¬ Fits s bs.length → ∃ e s', IsFull σ e ∧ p s = .error (.err e) s')

/-- A program that emits bytes and returns leaves the state that took them. -/
theorem Emits.run {p : WriteM σ ε Unit} {bs : List UInt8} {s : σ} (hp : Emits p bs)
    (h : Fits s bs.length) : p s = .ok () (accept s bs) := (hp s).1 h

/-- `p` writes `bs` and returns `x` if there is room, and fails as a full writer does
if there is not. -/
def Yields (p : WriteM σ ε α) (bs : List UInt8) (x : α) : Prop :=
  ∀ s : σ, (Fits s bs.length → p s = .ok x (accept s bs)) ∧
    (¬ Fits s bs.length → ∃ e s', IsFull σ e ∧ p s = .error (.err e) s')

theorem yields_pure (x : α) : Yields (pure x : WriteM σ ε α) [] x := by
  intro s
  refine ⟨fun _ => ?_, fun h => absurd (LawfulWrite.fits_zero s) h⟩
  rw [LawfulWrite.accept_nil]
  rfl

/-- One program after another writes one string of bytes after the other. -/
theorem Yields.bind {p : WriteM σ ε α} {q : α → WriteM σ ε β} {a b : List UInt8} {x : α} {y : β}
    (hp : Yields p a x) (hq : Yields (q x) b y) : Yields (p >>= q) (a ++ b) y := by
  intro s
  have hlen : (a ++ b).length = a.length + b.length := List.length_append
  by_cases ha : Fits s a.length
  · have hrun : (p >>= q) s = q x (accept s a) := bind_ok ((hp s).1 ha)
    have hfits := LawfulWrite.fits_accept b.length ha
    rw [hrun, hlen, ← hfits, ← LawfulWrite.accept_append b ha]
    exact hq (accept s a)
  · refine ⟨fun h => absurd (LawfulWrite.fits_mono (by omega) h) ha, fun _ => ?_⟩
    obtain ⟨e, s', he, hs'⟩ := (hp s).2 ha
    exact ⟨e, s', he, bind_error hs'⟩

/-- A program that emits bytes in front of one that returns a value. -/
theorem Emits.followed {p : WriteM σ ε Unit} {q : WriteM σ ε β} {a b : List UInt8} {y : β}
    (hp : Emits p a) (hq : Yields q b y) : Yields (p >>= fun _ => q) (a ++ b) y :=
  Yields.bind hp hq

theorem emits_pure : Emits (pure () : WriteM σ ε Unit) [] := yields_pure ()

/-- One program after another emits one string of bytes after the other. -/
theorem Emits.bind {p q : WriteM σ ε Unit} {a b : List UInt8} (hp : Emits p a)
    (hq : Emits q b) : Emits (p >>= fun _ => q) (a ++ b) :=
  hp.followed hq

/-- A short write in front of a program that emits something.  A cut fills the
writer, so the program behind it fails. -/
theorem Emits.raw {q : WriteM σ ε Unit} {a b : List UInt8} (hb : b ≠ [])
    (hq : Emits q b) : Emits (do let _ ← write a; q) (a ++ b) := by
  intro s
  have hpos : 0 < b.length := List.length_pos_of_ne_nil hb
  have hlen : (a ++ b).length = a.length + b.length := List.length_append
  by_cases ha : Fits s a.length
  · have hrun : (do let _ ← write a; q : WriteM σ ε Unit) s = q (accept s a) :=
      bind_ok (LawfulWrite.write_fits ha)
    have hfits := LawfulWrite.fits_accept b.length ha
    rw [hrun, hlen, ← hfits, ← LawfulWrite.accept_append b ha]
    exact hq (accept s a)
  · refine ⟨fun h => absurd (LawfulWrite.fits_mono (by omega) h) ha, fun _ => ?_⟩
    rcases LawfulWrite.write_cut ha with ⟨n, _, hlt, hfit, hnot, hrun⟩ | ⟨e, he, hrun⟩
    · have htake : (a.take n).length = n := by
        rw [List.length_take]
        omega
      have hfull : ¬ Fits (accept s (a.take n)) b.length := by
        rw [LawfulWrite.fits_accept b.length (by rwa [htake]), htake]
        exact fun h => hnot (LawfulWrite.fits_mono (by omega) h)
      obtain ⟨e, s', he, hs'⟩ := (hq (accept s (a.take n))).2 hfull
      exact ⟨e, s', he, (bind_ok hrun).trans hs'⟩
    · exact ⟨e, s, he, bind_error hrun⟩

omit [LawfulWrite σ ε] in
theorem writeAllLoop_step {fuel : Nat} {b : UInt8} {bs : List UInt8} {s s' : σ} {n : Nat}
    (hpos : 0 < n) (hle : n ≤ (b :: bs).length) (h : write (b :: bs) s = .ok n s') :
    writeAllLoop (fuel + 1) (b :: bs) s = writeAllLoop fuel ((b :: bs).drop n) s' := by
  have hguard : ¬ (n = 0 ∨ (b :: bs).length < n) := by omega
  rw [writeAllLoop, bind_ok h, if_neg hguard]

/-- With enough fuel the loop emits its input, however the writer splits it. -/
theorem writeAllLoop_emits :
    ∀ (fuel : Nat) (bs : List UInt8), bs.length ≤ fuel →
      Emits (writeAllLoop fuel bs : WriteM σ ε Unit) bs := by
  intro fuel
  induction fuel with
  | zero =>
      intro bs h
      obtain rfl : bs = [] := List.length_eq_zero_iff.mp (by omega)
      exact emits_pure
  | succ fuel ih =>
      intro bs h
      cases bs with
      | nil => exact emits_pure
      | cons b bs =>
          intro s
          refine ⟨fun hfit => ?_, fun hnot => ?_⟩
          · rw [writeAllLoop_step (by simp) (Nat.le_refl _) (LawfulWrite.write_fits hfit),
              List.drop_length, writeAllLoop]
            rfl
          · rcases LawfulWrite.write_cut hnot with ⟨n, hpos, hlt, hfit, hcut, hrun⟩ | ⟨e, he, hrun⟩
            · have htake : ((b :: bs).take n).length = n := by
                rw [List.length_take]
                omega
              have hdrop : ((b :: bs).drop n).length ≤ fuel := by
                rw [List.length_drop]
                omega
              have hfull : ¬ Fits (accept s ((b :: bs).take n)) ((b :: bs).drop n).length := by
                rw [LawfulWrite.fits_accept _ (by rwa [htake]), htake]
                refine fun hbad => hcut (LawfulWrite.fits_mono ?_ hbad)
                rw [List.length_drop]
                omega
              rw [writeAllLoop_step hpos (Nat.le_of_lt hlt) hrun]
              exact (ih _ hdrop _).2 hfull
            · exact ⟨e, s, he, by rw [writeAllLoop, bind_error hrun]⟩

/-- `writeAll` emits its argument, on every lawful writer. -/
theorem emits_writeAll (bs : List UInt8) : Emits (writeAll bs : WriteM σ ε Unit) bs :=
  writeAllLoop_emits bs.length bs (Nat.le_refl _)

/-- A whole write in front of a program. -/
theorem Emits.all {q : WriteM σ ε Unit} {b : List UInt8} (a : List UInt8) (hq : Emits q b) :
    Emits (do writeAll a; q) (a ++ b) :=
  (emits_writeAll a).bind hq

end Emission

/-! ## The unbounded writer -/

/-- A writer that never fills, as a growing vector is. -/
structure Sink where
  /-- What was written. -/
  bytes : List UInt8
deriving DecidableEq, Repr

instance : Write Sink Empty where
  write bs s := .ok bs.length ⟨s.bytes ++ bs⟩

instance : LawfulWrite Sink Empty where
  Fits _ _ := True
  accept s bs := ⟨s.bytes ++ bs⟩
  IsFull _ := False
  fits_zero _ := trivial
  fits_mono _ _ := trivial
  fits_accept _ _ := by simp
  accept_nil s := by simp
  accept_append b _ := by simp
  write_fits _ := rfl
  write_cut h := absurd trivial h

@[simp] theorem Sink.fits (s : Sink) (n : Nat) : Fits s n := trivial

@[simp] theorem Sink.accept_eq (s : Sink) (bs : List UInt8) : accept s bs = ⟨s.bytes ++ bs⟩ := rfl

/-! ## Mutable byte slices -/

/-- The error of a write to a slice. -/
inductive SliceWriteError where
  /-- No byte of the slice is left. -/
  | full
deriving DecidableEq, Repr

/-- A mutable slice that is written from its front.  The part that was written
is split off. -/
structure Slice where
  /-- The bytes written so far. -/
  filled : List UInt8
  /-- The part that is still to be written. -/
  rest : List UInt8
deriving DecidableEq, Repr

/-- Store `min` of the two lengths.  Only a nonempty input on an empty slice is
an error. -/
def Slice.write (bs : List UInt8) (s : Slice) :
    EStateM.Result (Fault SliceWriteError) Slice Nat :=
  let amt := min bs.length s.rest.length
  if bs ≠ [] ∧ amt = 0 then .error (.err .full) s
  else .ok amt ⟨s.filled ++ bs.take amt, s.rest.drop amt⟩

instance : Write Slice SliceWriteError where
  write := Slice.write

theorem Slice.write_eq_ok {bs : List UInt8} {s : Slice} (h : bs = [] ∨ s.rest ≠ []) :
    Slice.write bs s = .ok (min bs.length s.rest.length)
      ⟨s.filled ++ bs.take s.rest.length, s.rest.drop bs.length⟩ := by
  have hguard : ¬ (bs ≠ [] ∧ min bs.length s.rest.length = 0) := by
    rintro ⟨hne, hmin⟩
    have h1 := List.length_pos_of_ne_nil hne
    have h2 := List.length_pos_of_ne_nil (h.resolve_left hne)
    omega
  have htake : bs.take (min bs.length s.rest.length) = bs.take s.rest.length := by
    rw [Nat.min_comm, ← List.take_take, List.take_length]
  have hdrop : s.rest.drop (min bs.length s.rest.length) = s.rest.drop bs.length := by
    rcases Nat.le_total bs.length s.rest.length with hle | hle
    · rw [Nat.min_eq_left hle]
    · rw [Nat.min_eq_right hle, List.drop_length, List.drop_eq_nil_of_le hle]
  rw [Slice.write, if_neg hguard, htake, hdrop]

instance : LawfulWrite Slice SliceWriteError where
  Fits s n := n ≤ s.rest.length
  accept s bs := ⟨s.filled ++ bs, s.rest.drop bs.length⟩
  IsFull e := e = .full
  fits_zero _ := Nat.zero_le _
  fits_mono := Nat.le_trans
  fits_accept n h := by
    rw [List.length_drop]
    omega
  accept_nil s := by simp
  accept_append b h := by simp [List.drop_drop]
  write_fits {s bs} h := by
    have hok : bs = [] ∨ s.rest ≠ [] := by
      cases bs with
      | nil => exact Or.inl rfl
      | cons b bs => exact Or.inr (List.ne_nil_of_length_pos (Nat.lt_of_lt_of_le (by simp) h))
    have := Slice.write_eq_ok hok
    rwa [Nat.min_eq_left h, List.take_of_length_le h] at this
  write_cut {s bs} h := by
    have hlt : s.rest.length < bs.length := Nat.lt_of_not_le h
    by_cases hr : s.rest = []
    · refine Or.inr ⟨.full, rfl, ?_⟩
      have hne : bs ≠ [] := List.ne_nil_of_length_pos (by omega)
      show Slice.write bs s = _
      rw [Slice.write, if_pos ⟨hne, by simp [hr]⟩]
    · have hpos := List.length_pos_of_ne_nil hr
      refine Or.inl ⟨s.rest.length, hpos, hlt, Nat.le_refl _, by omega, ?_⟩
      have hok := Slice.write_eq_ok (Or.inr hr : bs = [] ∨ s.rest ≠ [])
      rw [Nat.min_eq_right (Nat.le_of_lt hlt)] at hok
      refine hok.trans ?_
      rw [List.length_take, Nat.min_eq_left (Nat.le_of_lt hlt), List.drop_length,
        List.drop_eq_nil_of_le (Nat.le_of_lt hlt)]

end ByteWriter
