import Mathlib.Algebra.Order.Group.Defs
import Mathlib.Algebra.Order.Group.Unbundled.Basic
import Mathlib.Order.MinMax

/-!
# Proportional control

A controller compares a measure with a target and moves a nominal value against the
error.  The correction grows with the error, and the value stays within a deviation
of the nominal one.

The correction need not be linear, so that it may round and saturate.
-/

namespace Proportional

/-- A controller over an ordered group. -/
structure Controller (α : Type) [AddCommGroup α] [LinearOrder α] where
  target : α
  nominal : α
  /-- The value stays that close to the nominal one. -/
  deviation : α
  correction : α → α
  deviation_nonneg : 0 ≤ deviation
  correction_mono : Monotone correction
  correction_zero : correction 0 = 0

namespace Controller

variable {α : Type} [AddCommGroup α] [LinearOrder α] [IsOrderedAddMonoid α] {m m' : α}

/-- The value for a measure. -/
def respond (m : α) (c : Controller α) : α :=
  max (c.nominal - c.deviation)
    (min (c.nominal - c.correction (m - c.target)) (c.nominal + c.deviation))

/-- The bounds of the value are in order. -/
theorem bounds_le (c : Controller α) : c.nominal - c.deviation ≤ c.nominal + c.deviation :=
  (sub_le_self _ c.deviation_nonneg).trans (le_add_of_nonneg_right c.deviation_nonneg)

theorem respond_mem (m : α) (c : Controller α) :
    c.nominal - c.deviation ≤ c.respond m ∧ c.respond m ≤ c.nominal + c.deviation :=
  ⟨le_max_left _ _, max_le c.bounds_le (min_le_right _ _)⟩

/-- The value moves no further than the correction. -/
theorem respond_near (c : Controller α) {d : α} (hd : 0 ≤ d)
    (hlower : -d ≤ c.correction (m - c.target)) (hupper : c.correction (m - c.target) ≤ d) :
    c.nominal - d ≤ c.respond m ∧ c.respond m ≤ c.nominal + d := by
  have hneg : -c.correction (m - c.target) ≤ d := by
    have h := neg_le_neg hlower
    rwa [neg_neg] at h
  refine ⟨le_max_of_le_right (le_min (sub_le_sub_left hupper _) ?_),
    max_le ?_ (min_le_of_left_le ?_)⟩
  · exact (sub_le_self _ hd).trans (le_add_of_nonneg_right c.deviation_nonneg)
  · exact (sub_le_self _ c.deviation_nonneg).trans (le_add_of_nonneg_right hd)
  · rw [sub_eq_add_neg]
    exact add_le_add_right hneg _

/-- More of the measure is answered by less. -/
theorem respond_anti (c : Controller α) (h : m ≤ m') : c.respond m' ≤ c.respond m := by
  have hcorrection : c.correction (m - c.target) ≤ c.correction (m' - c.target) :=
    c.correction_mono (sub_le_sub_right h _)
  exact max_le_max_left _ (min_le_min_right _ (sub_le_sub_left hcorrection _))

/-- On target the value is the nominal one. -/
theorem respond_target (c : Controller α) : c.respond c.target = c.nominal := by
  rw [respond, sub_self, c.correction_zero, sub_zero,
    min_eq_left (le_add_of_nonneg_right c.deviation_nonneg),
    max_eq_right (sub_le_self _ c.deviation_nonneg)]

/-- Above the target the value is at most nominal. -/
theorem respond_le (c : Controller α) (h : c.target ≤ m) : c.respond m ≤ c.nominal := by
  have hanti := c.respond_anti h
  rwa [c.respond_target] at hanti

/-- Below the target the value is at least nominal. -/
theorem le_respond (c : Controller α) (h : m ≤ c.target) : c.nominal ≤ c.respond m := by
  have hanti := c.respond_anti h
  rwa [c.respond_target] at hanti

end Controller

end Proportional
