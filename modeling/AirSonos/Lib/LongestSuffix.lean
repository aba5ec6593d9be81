import Mathlib.Data.List.Basic
import Mathlib.Data.List.TakeWhile

/-!
# The longest suffix within a budget

A budget says which lists fit, and what fits still fits when entries are left out. So the
suffixes of a list that fit are those of one suffix, the longest one, and its start only moves
on when the list grows at the end.
-/

universe u

structure Budget (α : Type u) where
  fits : List α → Bool
  fits_nil : fits [] = true
  fits_sublist : ∀ {xs ys : List α}, ys.Sublist xs → fits xs = true → fits ys = true

namespace Budget

variable {α : Type u} (budget : Budget α)

/-- The longest suffix that fits. -/
def longest : List α → List α
  | [] => []
  | x :: xs => if budget.fits (x :: xs) then x :: xs else longest xs

/-- Where the longest suffix that fits starts. -/
def edge (xs : List α) : Nat :=
  xs.length - (budget.longest xs).length

variable {budget}

theorem longest_fits (xs : List α) : budget.fits (budget.longest xs) = true := by
  induction xs with
  | nil => exact budget.fits_nil
  | cons x xs ih =>
    simp only [longest]
    split
    · assumption
    · exact ih

theorem longest_suffix (xs : List α) : budget.longest xs <:+ xs := by
  induction xs with
  | nil => exact List.suffix_refl _
  | cons x xs ih =>
    simp only [longest]
    split
    · exact List.suffix_refl _
    · exact ih.trans (List.suffix_cons x xs)

/-- Every suffix that fits is part of the longest. -/
theorem suffix_longest {xs ys : List α} (hsuffix : ys <:+ xs) (hfits : budget.fits ys = true) :
    ys <:+ budget.longest xs := by
  induction xs with
  | nil => exact hsuffix
  | cons x xs ih =>
    simp only [longest]
    split
    · exact hsuffix
    · case isFalse hover =>
      obtain rfl | htail := List.suffix_cons_iff.mp hsuffix
      · exact absurd hfits hover
      · exact ih htail

theorem drop_edge (xs : List α) : xs.drop (budget.edge xs) = budget.longest xs :=
  (List.suffix_iff_eq_drop.mp (longest_suffix xs)).symm

theorem edge_le_length (xs : List α) : budget.edge xs ≤ xs.length :=
  Nat.sub_le _ _

theorem fits_drop_iff {xs : List α} {i : Nat} (hi : i ≤ xs.length) :
    budget.fits (xs.drop i) = true ↔ budget.edge xs ≤ i := by
  constructor
  · intro hfits
    have hlength := (suffix_longest (List.drop_suffix i xs) hfits).length_le
    rw [List.length_drop] at hlength
    simp only [edge]
    omega
  · intro hedge
    apply budget.fits_sublist _ (longest_fits xs)
    rw [← drop_edge xs]
    exact List.drop_sublist_drop_left xs hedge

theorem edge_append (xs ys : List α) : budget.edge xs ≤ budget.edge (xs ++ ys) := by
  by_cases hlong : xs.length ≤ budget.edge (xs ++ ys)
  · exact (edge_le_length xs).trans hlong
  · have hshort : budget.edge (xs ++ ys) ≤ xs.length := Nat.le_of_not_le hlong
    apply (fits_drop_iff hshort).mp
    have hfits : budget.fits ((xs ++ ys).drop (budget.edge (xs ++ ys))) = true :=
      (fits_drop_iff (edge_le_length _)).mpr (Nat.le_refl _)
    rw [List.drop_append_of_le_length hshort] at hfits
    exact budget.fits_sublist (List.sublist_append_left _ _) hfits

end Budget
