import Mathlib.Data.List.Basic

/-!
# The last write to a field

A list of writes, each of which may or may not concern a field.  The field ends
up with the last value written to it, or with what it held before when nothing
was written.

`get_foldl` brings a fold over a record down to this, one field at a time, from
what one write does to the field.  Two writes of which one does not concern the
field can change places (`lastWrite_swap`).
-/

namespace LastWrite

variable {S X V : Type}

/-- The last value that a list of writes gives to the field that `select` picks. -/
def lastWrite (select : X → Option V) (xs : List X) : Option V := (xs.filterMap select).getLast?

@[simp] theorem lastWrite_nil (select : X → Option V) : lastWrite select [] = none := rfl

theorem lastWrite_cons (select : X → Option V) (x : X) (xs : List X) :
    lastWrite select (x :: xs) = (lastWrite select xs).or (select x) := by
  cases h : select x with
  | none => rw [lastWrite, List.filterMap_cons_none h, Option.or_none, lastWrite]
  | some v =>
      rw [lastWrite, List.filterMap_cons_some h, List.getLast?_cons, lastWrite]
      cases (xs.filterMap select).getLast? with
      | none => rfl
      | some u => rfl

theorem lastWrite_append (select : X → Option V) (xs ys : List X) :
    lastWrite select (xs ++ ys) = (lastWrite select ys).or (lastWrite select xs) := by
  induction xs with
  | nil => rw [List.nil_append, lastWrite_nil, Option.or_none]
  | cons x xs ih => rw [List.cons_append, lastWrite_cons, lastWrite_cons, ih, Option.or_assoc]

/-- Neighbours change places when one of them does not concern the field. -/
theorem lastWrite_swap {select : X → Option V} {x y : X}
    (h : select x = none ∨ select y = none) (xs ys : List X) :
    lastWrite select (xs ++ x :: y :: ys) = lastWrite select (xs ++ y :: x :: ys) := by
  rcases h with h | h
  · simp only [lastWrite_append, lastWrite_cons, h, Option.or_none]
  · simp only [lastWrite_append, lastWrite_cons, h, Option.or_none]

/-- A field after a list of writes. -/
theorem get_foldl {update : S → X → S} {get : S → Option V} {select : X → Option V}
    (h : ∀ s x, get (update s x) = (select x).or (get s)) (xs : List X) (s : S) :
    get (xs.foldl update s) = (lastWrite select xs).or (get s) := by
  induction xs generalizing s with
  | nil => rw [List.foldl_nil, lastWrite_nil, Option.none_or]
  | cons x xs ih => rw [List.foldl_cons, ih, h, lastWrite_cons, Option.or_assoc]

end LastWrite
