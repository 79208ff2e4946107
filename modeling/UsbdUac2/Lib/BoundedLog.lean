import Mathlib.Data.List.TakeDrop

/-!
# Bounded logs

A log that holds at most a given number of entries and is offered lists of
entries one after the other.  An offer appends what fits and drops the rest.
It is refused when it is not empty and nothing is free.

`entries_offerAll` says what a sequence of offers leaves: the log grows by the
parts that were taken, in the order of the offers.
-/

/-- A log of at most `cap` entries. -/
structure BoundedLog (α : Type) (cap : Nat) where
  /-- The entries, the oldest first. -/
  entries : List α
  within : entries.length ≤ cap

namespace BoundedLog

variable {α : Type} {cap : Nat}

/-- The log without entries. -/
def empty (α : Type) (cap : Nat) : BoundedLog α cap := ⟨[], Nat.zero_le cap⟩

/-- The number of entries that still fit. -/
def free (l : BoundedLog α cap) : Nat := cap - l.entries.length

/-- The part of an offer that is taken. -/
def taken (xs : List α) (l : BoundedLog α cap) : List α := xs.take l.free

/-- An offer is refused when none of its entries fits. -/
def Refuses (xs : List α) (l : BoundedLog α cap) : Prop := xs ≠ [] ∧ l.free = 0

theorem length_taken (xs : List α) (l : BoundedLog α cap) :
    (l.taken xs).length = min xs.length l.free := by
  rw [taken, List.length_take, Nat.min_comm]

/-- Append what fits. -/
def offer (xs : List α) (l : BoundedLog α cap) : BoundedLog α cap where
  entries := l.entries ++ l.taken xs
  within := by
    have hcap := l.within
    have hlen := l.length_taken xs
    rw [List.length_append, free] at *
    omega

theorem Refuses.taken_eq {xs : List α} {l : BoundedLog α cap} (h : l.Refuses xs) :
    l.taken xs = [] := by
  rw [taken, h.2, List.take_zero]

/-- A refused offer changes nothing. -/
theorem Refuses.offer_eq {xs : List α} {l : BoundedLog α cap} (h : l.Refuses xs) :
    l.offer xs = l := by
  cases l with
  | mk entries within =>
      rw [offer, mk.injEq, h.taken_eq, List.append_nil]

/-- Drop the oldest entries. -/
def discard (n : Nat) (l : BoundedLog α cap) : BoundedLog α cap where
  entries := l.entries.drop n
  within := by
    have hcap := l.within
    rw [List.length_drop]
    omega

/-! ## Sequences of offers -/

/-- Offer lists one after the other. -/
def offerAll : List (List α) → BoundedLog α cap → BoundedLog α cap
  | [], l => l
  | xs :: xss, l => offerAll xss (l.offer xs)

/-- The parts of a sequence of offers that are taken. -/
def takenAll : List (List α) → BoundedLog α cap → List (List α)
  | [], _ => []
  | xs :: xss, l => l.taken xs :: takenAll xss (l.offer xs)

/-- The log grows by the parts that were taken. -/
theorem entries_offerAll (xss : List (List α)) (l : BoundedLog α cap) :
    (l.offerAll xss).entries = l.entries ++ (l.takenAll xss).flatten := by
  induction xss generalizing l with
  | nil => rw [offerAll, takenAll, List.flatten_nil, List.append_nil]
  | cons xs xss ih =>
      rw [offerAll, takenAll, ih, offer, List.flatten_cons, List.append_assoc]

end BoundedLog
