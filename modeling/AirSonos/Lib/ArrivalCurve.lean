import Mathlib.Algebra.Order.BigOperators.Group.List
import Mathlib.Algebra.Order.Ring.Nat

/-!
# Arrival curves

A curve bounds what arrives in any window of time by the length of the window. Where nothing is
held longer than a delay, what is held arrived in one window, so the curve at that delay bounds
it.
-/

namespace ArrivalCurve

universe u

variable {α : Type u} (time size : α → ℕ)

def volume (items : List α) : ℕ :=
  (items.map size).sum

/-- What arrived in a window of time, both ends included. -/
def window (start length : ℕ) (items : List α) : List α :=
  items.filter fun a => decide (start ≤ time a) && decide (time a ≤ start + length)

def Conforms (curve : ℕ → ℕ) (items : List α) : Prop :=
  ∀ start length, volume size (window time start length items) ≤ curve length

variable {time size}

theorem volume_le_of_sublist {held items : List α} (h : held.Sublist items) :
    volume size held ≤ volume size items := by
  induction h with
  | slnil => exact Nat.le_refl _
  | cons a _ ih => exact ih.trans (Nat.le_add_left _ _)
  | cons_cons a _ ih => exact Nat.add_le_add_left ih _

theorem conforms_of_volume_le {curve : ℕ → ℕ} {items : List α}
    (h : ∀ length, volume size items ≤ curve length) : Conforms time size curve items :=
  fun _ length => (volume_le_of_sublist List.filter_sublist).trans (h length)

namespace Conforms

variable {curve : ℕ → ℕ} {held items : List α}

theorem of_sublist (h : Conforms time size curve items) (sub : held.Sublist items) :
    Conforms time size curve held := by
  intro start length
  exact (volume_le_of_sublist (sub.filter _)).trans (h start length)

/-- What is held no longer than a delay is bounded by the curve at that delay. -/
theorem held_le (h : Conforms time size curve items) (sub : held.Sublist items) {now delay : ℕ}
    (arrived : ∀ a ∈ held, time a ≤ now) (recent : ∀ a ∈ held, now ≤ time a + delay) :
    volume size held ≤ curve delay := by
  have hall : window time (now - delay) delay held = held := by
    apply List.filter_eq_self.mpr
    intro a ha
    have harrived := arrived a ha
    have hrecent := recent a ha
    simp only [Bool.and_eq_true, decide_eq_true_eq]
    omega
  rw [← hall]
  exact h.of_sublist sub _ _

/-- In the order of arrival, the last items are as recent as the first of them. -/
theorem tail_le {front back : List α} {a : α}
    (h : Conforms time size curve (front ++ a :: back))
    (sorted : (front ++ a :: back).Pairwise fun a b => time a ≤ time b) {now delay : ℕ}
    (arrived : ∀ b ∈ front ++ a :: back, time b ≤ now) (recent : now ≤ time a + delay) :
    volume size (a :: back) ≤ curve delay := by
  apply h.held_le (List.sublist_append_right _ _)
  · intro b hb
    exact arrived b (List.mem_append_right _ hb)
  · intro b hb
    have hsorted := (List.pairwise_append.mp sorted).2.1
    obtain rfl | hback := List.mem_cons.mp hb
    · exact recent
    · have hafter := (List.pairwise_cons.mp hsorted).1 b hback
      omega

end Conforms

end ArrivalCurve
