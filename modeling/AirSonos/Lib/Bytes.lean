import Mathlib.Data.List.Basic
import Mathlib.Data.Nat.ModEq

/-!
# Little-endian numbers and chunks of a list
-/

namespace Bytes

def toLe : (count : ℕ) → (n : ℕ) → List UInt8
  | 0, _ => []
  | count + 1, n => UInt8.ofNat n :: toLe count (n / 256)

def fromLe : List UInt8 → ℕ
  | [] => 0
  | byte :: bytes => byte.toNat + 256 * fromLe bytes

@[simp] theorem length_toLe (count n : ℕ) : (toLe count n).length = count := by
  induction count generalizing n with
  | zero => rfl
  | succ count ih => rw [toLe, List.length_cons, ih]

theorem fromLe_toLe (count n : ℕ) : fromLe (toLe count n) = n % 256 ^ count := by
  induction count generalizing n with
  | zero => rw [toLe, fromLe, Nat.pow_zero, Nat.mod_one]
  | succ count ih =>
    have hbyte : (UInt8.ofNat n).toNat = n % 256 := UInt8.toNat_ofNat'
    rw [toLe, fromLe, ih, hbyte, Nat.pow_succ', Nat.mod_mul]

theorem fromLe_toLe_of_lt {count n : ℕ} (h : n < 256 ^ count) : fromLe (toLe count n) = n := by
  rw [fromLe_toLe, Nat.mod_eq_of_lt h]

end Bytes

namespace List

variable {α : Type*}

def chunksWithin (size : ℕ) : (fuel : ℕ) → List α → List (List α)
  | 0, _ => []
  | fuel + 1, xs => if xs.isEmpty then [] else xs.take size :: chunksWithin size fuel (xs.drop size)

/-- Pieces of `size` elements; the last may be shorter. -/
def chunks (size : ℕ) (xs : List α) : List (List α) :=
  chunksWithin size xs.length xs

theorem flatten_chunksWithin {size fuel : ℕ} (hsize : 0 < size) {xs : List α}
    (enough : xs.length ≤ fuel) : (chunksWithin size fuel xs).flatten = xs := by
  induction fuel generalizing xs with
  | zero => rw [eq_nil_of_length_eq_zero (Nat.le_zero.mp enough), chunksWithin, flatten_nil]
  | succ fuel ih =>
    rw [chunksWithin]
    split
    · rename_i hempty
      rw [isEmpty_iff.mp hempty, flatten_nil]
    · have hlength : (xs.drop size).length ≤ fuel := by
        rw [length_drop]
        omega
      rw [flatten_cons, ih hlength, take_append_drop]

theorem flatten_chunks {size : ℕ} (hsize : 0 < size) (xs : List α) :
    (chunks size xs).flatten = xs :=
  flatten_chunksWithin hsize (Nat.le_refl _)

theorem length_of_mem_chunksWithin {size fuel : ℕ} (hsize : 0 < size) {xs chunk : List α}
    (h : chunk ∈ chunksWithin size fuel xs) : 0 < chunk.length ∧ chunk.length ≤ size := by
  induction fuel generalizing xs with
  | zero => cases h
  | succ fuel ih =>
    rw [chunksWithin] at h
    split at h
    · cases h
    · rename_i hfull
      obtain rfl | hlater := mem_cons.mp h
      · have hpos := length_pos_iff.mpr (mt isEmpty_iff.mpr hfull)
        rw [length_take]
        omega
      · exact ih hlater

theorem length_of_mem_chunks {size : ℕ} (hsize : 0 < size) {xs chunk : List α}
    (h : chunk ∈ chunks size xs) : 0 < chunk.length ∧ chunk.length ≤ size :=
  length_of_mem_chunksWithin hsize h

end List
