import Mathlib.Data.Int.Order.Basic
import Mathlib.Tactic.Linarith
import Mathlib.Tactic.Ring

/-!
# Rounding when units are converted

A number of ticks is converted at a rate of ticks per `unit`. Converting to ticks rounds down,
and converting back rounds towards zero, so the two together lose less than one tick and a
little more for the rounding.
-/

namespace Rounding

theorem lt_tdiv_mul_add (a : Int) {b : Int} (hb : 0 < b) :
    a < a.tdiv b * b + b ∧ a.tdiv b * b < a + b := by
  have hsplit := Int.mul_tdiv_add_tmod a b
  have habove := Int.tmod_lt_of_pos a hb
  have hbelow := Int.lt_tmod_of_pos a hb
  rw [Int.mul_comm] at hsplit
  constructor <;> omega

/-- An offset of whole ticks stands for `ahead` units, less the part that is no whole tick. -/
theorem tdiv_add_sub_le {unit rate ticks ahead : Int} (hrate : 0 < rate) (offset : Int)
    (below : ticks * unit ≤ ahead * rate) (above : ahead * rate < (ticks + 1) * unit) :
    ((offset + ticks) * unit).tdiv rate - (offset * unit).tdiv rate - ahead ≤ 1 ∧
      -(unit / rate + 2) ≤
        ((offset + ticks) * unit).tdiv rate - (offset * unit).tdiv rate - ahead := by
  obtain ⟨hsum, hsum'⟩ := lt_tdiv_mul_add ((offset + ticks) * unit) hrate
  obtain ⟨hoffset, hoffset'⟩ := lt_tdiv_mul_add (offset * unit) hrate
  generalize ((offset + ticks) * unit).tdiv rate = x at *
  generalize (offset * unit).tdiv rate = y at *
  constructor
  · have herror : (x - y - ahead) * rate < 2 * rate := by linarith [add_mul offset ticks unit]
    have := lt_of_mul_lt_mul_right herror hrate.le
    omega
  · have herror : -(x - y - ahead + 2) * rate ≤ unit := by
      linarith [add_mul offset ticks unit, add_mul ticks 1 unit]
    have := (Int.le_ediv_iff_mul_le hrate).mpr herror
    omega

end Rounding
