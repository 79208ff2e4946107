import Mathlib.Logic.Function.Basic
import Mathlib.Data.Nat.ModEq
import Mathlib.Data.List.TakeDrop

/-!
# Circular buffers

Items numbered from 0 are kept in `n` cells, item `k` in cell `k % n`.  `Holds`
says that the cells hold the items of a window.  Writing the cell of the item
behind the window leaves the window alone as long as it is shorter than the
buffer, so the window can grow by an item that is written in several parts.

The item in a cell is given by a relation, so a cell may hold more than the item.
-/

namespace Circular

variable {n : Nat} {α : Type}

/-- The cell of item `k`. -/
def cell (h : 0 < n) (k : Nat) : Fin n := ⟨k % n, Nat.mod_lt k h⟩

/-- The cell behind a cell. -/
def next (i : Fin n) : Fin n := ⟨(i + 1) % n, Nat.mod_lt _ (Nat.zero_lt_of_lt i.isLt)⟩

theorem next_cell (h : 0 < n) (k : Nat) : next (cell h k) = cell h (k + 1) :=
  Fin.ext (Nat.mod_add_mod k n 1)

/-- An item of a short window does not share its cell with the item behind the window. -/
theorem cell_ne (h : 0 < n) {lo k hi : Nat} (hlo : lo ≤ k) (hk : k < hi) (hroom : hi - lo < n) :
    cell h k ≠ cell h hi := by
  intro heq
  have hmod : k % n = hi % n := congrArg Fin.val heq
  have hdvd : n ∣ hi - k := (Nat.modEq_iff_dvd' hk.le).mp hmod
  have hle : n ≤ hi - k := Nat.le_of_dvd (by omega) hdvd
  omega

/-- The cells hold the items from `lo` on and below `hi`.  `item k a` says that `a`
holds the item `k`. -/
def Holds (h : 0 < n) (item : Nat → α → Prop) (cells : Fin n → α) (lo hi : Nat) : Prop :=
  ∀ k, lo ≤ k → k < hi → item k (cells (cell h k))

section

variable {h : 0 < n} {item : Nat → α → Prop} {cells : Fin n → α} {lo hi : Nat}

theorem holds_empty (h : 0 < n) (item : Nat → α → Prop) (cells : Fin n → α) (k : Nat) :
    Holds h item cells k k := fun _ hlo hhi => absurd hhi (Nat.not_lt.mpr hlo)

/-- Items at the front may be dropped. -/
theorem Holds.advance (hh : Holds h item cells lo hi) {lo' : Nat} (hle : lo ≤ lo') :
    Holds h item cells lo' hi :=
  fun k hk => hh k (hle.trans hk)

/-- A write behind the window. -/
theorem Holds.write (hh : Holds h item cells lo hi) (hroom : hi - lo < n) (a : α) :
    Holds h item (Function.update cells (cell h hi) a) lo hi := by
  intro k hlo hhi
  rw [Function.update_of_ne (cell_ne h hlo hhi hroom)]
  exact hh k hlo hhi

/-- The item behind the window joins it once it is complete. -/
theorem Holds.publish (hh : Holds h item cells lo hi) (hitem : item hi (cells (cell h hi))) :
    Holds h item cells lo (hi + 1) := by
  intro k hlo hhi
  rcases Nat.lt_succ_iff_lt_or_eq.mp hhi with hlt | rfl
  · exact hh k hlo hlt
  · exact hitem

/-- The items may be described in another way that agrees on the window. -/
theorem Holds.congr (hh : Holds h item cells lo hi) {item' : Nat → α → Prop}
    (himp : ∀ k a, lo ≤ k → k < hi → item k a → item' k a) : Holds h item' cells lo hi :=
  fun k hlo hhi => himp k _ hlo hhi (hh k hlo hhi)

end

/-! ## Cells that are lists -/

/-- A list with another list copied over a part of it. -/
def overwrite (off : Nat) (xs ys : List α) : List α :=
  ys.take off ++ xs ++ ys.drop (off + xs.length)

theorem length_overwrite {off : Nat} {xs ys : List α} (h : off + xs.length ≤ ys.length) :
    (overwrite off xs ys).length = ys.length := by
  simp only [overwrite, List.length_append, List.length_take, List.length_drop]
  omega

/-- The part in front of a copy and the copy itself. -/
theorem take_overwrite {off : Nat} {xs ys : List α} (h : off + xs.length ≤ ys.length) :
    (overwrite off xs ys).take (off + xs.length) = ys.take off ++ xs := by
  have hlen : (ys.take off ++ xs).length = off + xs.length := by
    rw [List.length_append, List.length_take, Nat.min_eq_left (by omega)]
  rw [overwrite, ← hlen, List.take_left]

/-- Two copies, one behind the other, are one copy. -/
theorem overwrite_overwrite {off : Nat} {xs ys : List α} (h : off + xs.length ≤ ys.length)
    (zs : List α) :
    overwrite (off + xs.length) zs (overwrite off xs ys) = overwrite off (xs ++ zs) ys := by
  have hlen : (ys.take off ++ xs).length = off + xs.length := by
    rw [List.length_append, List.length_take, Nat.min_eq_left (by omega)]
  have hdrop : (overwrite off xs ys).drop (off + xs.length + zs.length) =
      ys.drop (off + (xs ++ zs).length) := by
    rw [overwrite, ← hlen, ← List.drop_drop, List.drop_left, List.drop_drop, hlen,
      List.length_append]
    congr 1
    omega
  rw [overwrite, take_overwrite h, hdrop, overwrite, List.append_assoc (ys.take off)]

/-- Lists that agree on a front part agree on every stretch of it. -/
theorem take_drop_congr {n off len : Nat} {xs ys : List α} (h : xs.take n = ys.take n)
    (hle : off + len ≤ n) : (xs.drop off).take len = (ys.drop off).take len := by
  have htake (zs : List α) : (zs.drop off).take len = ((zs.take n).drop off).take len := by
    rw [List.drop_take, List.take_take, Nat.min_eq_left (by omega)]
  rw [htake xs, htake ys, h]

end Circular
