import Mathlib.Data.List.Nodup

/-!
# Names in a list

The elements of a list carry keys, and a key is used as the name of an element.
A name resolves when it is the key of one occurrence in the list and of no other.
Where the keys are distinct, the key of every element resolves to it
(`names_of_mem`).
-/

namespace Naming

variable {α κ : Type} [DecidableEq κ]

/-- The elements that a name may stand for. -/
def candidates (key : α → κ) (as : List α) (k : κ) : List α := as.filter fun a => key a = k

/-- The name stands for one element and for nothing else. -/
def Names (key : α → κ) (as : List α) (k : κ) (a : α) : Prop := candidates key as k = [a]

instance [DecidableEq α] (key : α → κ) (as : List α) (k : κ) (a : α) :
    Decidable (Names key as k a) := inferInstanceAs (Decidable (_ = _))

variable {key : α → κ} {as : List α} {a : α}

theorem candidates_eq_nil {k : κ} (h : k ∉ as.map key) : candidates key as k = [] := by
  rw [candidates, List.filter_eq_nil_iff]
  intro x hx heq
  exact h (List.mem_map.mpr ⟨x, hx, of_decide_eq_true heq⟩)

/-- With distinct keys, an element is what its key names. -/
theorem names_of_mem (hkeys : (as.map key).Nodup) (ha : a ∈ as) : Names key as (key a) a := by
  induction as with
  | nil => cases ha
  | cons b bs ih =>
      rw [List.map_cons, List.nodup_cons] at hkeys
      obtain ⟨hnew, hkeys⟩ := hkeys
      rw [Names, candidates, List.filter_cons]
      rcases List.mem_cons.mp ha with rfl | ha
      · rw [if_pos (decide_eq_true rfl)]
        exact congrArg (a :: ·) (candidates_eq_nil hnew)
      · have hne : key b ≠ key a := fun h => hnew (h ▸ List.mem_map_of_mem ha)
        rw [if_neg (by simpa using hne)]
        exact ih hkeys ha

end Naming
