import Mathlib.Data.List.Basic
import Mathlib.Data.Nat.Notation

/-!
# Cutting and reading text

Text is a list of characters. Suffixes are stripped, pairs are cut at their first separator, and
unsigned numbers are read in decimal, with an optional plus sign and an upper bound.
-/

namespace Text

section Cutting

variable {α : Type*} [DecidableEq α]

def stripSuffix (suffix text : List α) : Option (List α) :=
  if suffix <:+ text then some (text.take (text.length - suffix.length)) else none

theorem stripSuffix_append (text suffix : List α) :
    stripSuffix suffix (text ++ suffix) = some text := by
  rw [stripSuffix, if_pos (List.suffix_append text suffix)]
  simp

/-- A suffix of the same length as the one that is there must be that one. -/
theorem stripSuffix_append_of_ne (text : List α) {suffix other : List α}
    (length : other.length = suffix.length) (ne : other ≠ suffix) :
    stripSuffix other (text ++ suffix) = none := by
  rw [stripSuffix, if_neg]
  rintro ⟨rest, heq⟩
  exact ne (List.append_inj_right' heq length)

/-- What stands before and after the first separator. -/
def splitOnce (separator : α) : List α → Option (List α × List α)
  | [] => none
  | c :: rest =>
    if c = separator then some ([], rest)
    else (splitOnce separator rest).map fun (before, after) => (c :: before, after)

theorem splitOnce_append (separator : α) {before : List α} (after : List α)
    (absent : separator ∉ before) :
    splitOnce separator (before ++ separator :: after) = some (before, after) := by
  induction before with
  | nil => exact if_pos rfl
  | cons c rest ih =>
    rw [List.mem_cons, not_or] at absent
    rw [List.cons_append, splitOnce, if_neg (Ne.symm absent.1), ih absent.2]
    rfl

end Cutting

/-- A nonempty row of digits below the bound. -/
def parseDigits (bound : ℕ) (text : List Char) : Option ℕ :=
  if text ≠ [] ∧ text.all Char.isDigit = true ∧ Nat.ofDigitChars 10 text 0 < bound then
    some (Nat.ofDigitChars 10 text 0)
  else none

def parseUnsigned (bound : ℕ) : List Char → Option ℕ
  | '+' :: text => parseDigits bound text
  | text => parseDigits bound text

theorem isDigit_of_mem_toDigits {n : ℕ} {c : Char} (h : c ∈ Nat.toDigits 10 n) :
    c.isDigit = true :=
  Nat.isDigit_of_mem_toDigits (by decide) (by decide) h

theorem not_mem_toDigits {n : ℕ} {c : Char} (h : c.isDigit = false) : c ∉ Nat.toDigits 10 n := by
  intro hmem
  rw [isDigit_of_mem_toDigits hmem] at h
  cases h

theorem parseDigits_toDigits {bound n : ℕ} (h : n < bound) :
    parseDigits bound (Nat.toDigits 10 n) = some n := by
  have hvalue : Nat.ofDigitChars 10 (Nat.toDigits 10 n) 0 = n := Nat.ofDigitChars_ten_toDigits
  rw [parseDigits, if_pos]
  · rw [hvalue]
  · rw [hvalue]
    exact ⟨Nat.toDigits_ne_nil, List.all_eq_true.mpr fun c => isDigit_of_mem_toDigits, h⟩

theorem parseUnsigned_toDigits {bound n : ℕ} (h : n < bound) :
    parseUnsigned bound (Nat.toDigits 10 n) = some n := by
  unfold parseUnsigned
  split
  · next text heq =>
    refine absurd ?_ (not_mem_toDigits (n := n) (c := '+') (by decide))
    rw [heq]
    exact List.mem_cons_self
  · exact parseDigits_toDigits h

end Text
