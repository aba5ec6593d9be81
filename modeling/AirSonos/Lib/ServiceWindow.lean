import Mathlib.Data.List.Basic
import Mathlib.Data.List.Perm.Basic

/-!
# A window over a row of jobs

Jobs start in a row, at most `width` at a time, and any of those that run may end next. What is
asked of an order of ends is whether a job of one kind ends at or after one of another kind.
-/

universe u

variable {α : Type u}

/-- An order in which the jobs can end. -/
inductive Served (width : Nat) : List α → List α → Prop
  | nil : Served width [] []
  | cons {jobs order : List α} {a : α} {i : Nat} (running : i < width)
      (found : jobs[i]? = some a) (rest : Served width (jobs.eraseIdx i) order) :
      Served width jobs (a :: order)

namespace Served

variable {width : Nat} {jobs order : List α}

theorem perm (h : Served width jobs order) : order.Perm jobs := by
  induction h with
  | nil => exact .nil
  | @cons jobs order a i running found rest ih =>
    obtain ⟨hi, rfl⟩ := List.getElem?_eq_some_iff.mp found
    exact (ih.cons _).trans (List.getElem_cons_eraseIdx_perm hi)

theorem mem_iff (h : Served width jobs order) {a : α} : a ∈ order ↔ a ∈ jobs :=
  h.perm.mem_iff

/-- The job at the end of those that are held ends next. -/
theorem next {held rest : List α} {a : α} (room : held.length < width)
    (h : Served width (held ++ rest) order) : Served width (held ++ a :: rest) (a :: order) := by
  refine .cons room ?_ ?_
  · simp
  · rw [List.eraseIdx_append_of_length_le (Nat.le_refl _), Nat.sub_self]
    exact h

theorem in_turn (positive : 0 < width) (jobs : List α) : Served width jobs jobs := by
  induction jobs with
  | nil => exact .nil
  | cons a rest ih => exact @next _ _ _ [] rest a positive ih

/-- The jobs with the property are held back until all others of the front have ended. -/
theorem hold (p : α → Bool) {held front : List α} (back : List α)
    (room : held.length + (front.filter p).length < width) :
    Served width (held ++ (front ++ back))
      (front.filter (fun a => !p a) ++ (held ++ front.filter p ++ back)) := by
  induction front generalizing held with
  | nil =>
    simp only [List.filter_nil, List.append_nil, List.nil_append]
    exact in_turn (by omega) _
  | cons a front ih =>
    cases hp : p a with
    | true =>
      simp only [List.filter_cons, hp, Bool.not_true, Bool.false_eq_true, if_false, if_true,
        List.length_cons] at room ⊢
      have hheld : (held ++ [a]).length + (front.filter p).length < width := by
        rw [List.length_append, List.length_singleton]
        omega
      simpa using ih hheld
    | false =>
      simp only [List.filter_cons, hp, Bool.not_false, Bool.false_eq_true, if_false,
        if_true] at room ⊢
      exact next (Nat.lt_of_le_of_lt (Nat.le_add_right _ _) room) (ih room)

/-- One job is held back to the end. -/
theorem hold_one (two : 1 < width) (front back : List α) (a : α) :
    Served width (front ++ a :: back) (front ++ back ++ [a]) := by
  have hback : Served width (a :: back) (back ++ [a]) := by
    induction back with
    | nil => exact in_turn (Nat.zero_lt_of_lt two) [a]
    | cons b back ih => exact @next _ _ _ [a] back b two ih
  induction front with
  | nil => exact hback
  | cons b front ih => exact @next _ _ _ [] (front ++ a :: back) b (Nat.zero_lt_of_lt two) ih

end Served

/-- A row with a job of the kind splits at its last one. -/
theorem exists_last {p : α → Bool} {jobs : List α} (h : ∃ a ∈ jobs, p a = true) :
    ∃ front a back, jobs = front ++ a :: back ∧ p a = true ∧ ∀ b ∈ back, p b = false := by
  induction jobs with
  | nil =>
    obtain ⟨a, ha, -⟩ := h
    cases ha
  | cons c jobs ih =>
    by_cases hlater : ∃ a ∈ jobs, p a = true
    · obtain ⟨front, a, back, rfl, ha, hback⟩ := ih hlater
      exact ⟨c :: front, a, back, rfl, ha, hback⟩
    · push Not at hlater
      obtain ⟨a, hmem, ha⟩ := h
      obtain rfl | hjobs := List.mem_cons.mp hmem
      · refine ⟨[], a, jobs, rfl, ha, ?_⟩
        intro b hb
        exact Bool.eq_false_iff.mpr (hlater b hb)
      · exact absurd ha (hlater a hjobs)

/-! ### Meetings -/

/-- A job of the second kind ends at or after one of the first kind. -/
def meets (first second : α → Bool) (seen : Bool) : List α → Bool
  | [] => false
  | a :: rest => ((seen || first a) && second a) || meets first second (seen || first a) rest

section Meets

variable {first second : α → Bool}

theorem meets_of_seen (order : List α) : meets first second true order = order.any second := by
  induction order with
  | nil => rfl
  | cons a rest ih => simp [meets, ih]

theorem meets_of_both {order : List α} {a : α} (ha : a ∈ order) (hfirst : first a = true)
    (hsecond : second a = true) (seen : Bool) : meets first second seen order = true := by
  induction order generalizing seen with
  | nil => cases ha
  | cons b rest ih =>
    obtain rfl | hrest := List.mem_cons.mp ha
    · simp [meets, hfirst, hsecond]
    · simp [meets, ih hrest]

theorem meets_eq_false {order : List α} (hnone : ∀ a ∈ order, second a = false) (seen : Bool) :
    meets first second seen order = false := by
  induction order generalizing seen with
  | nil => rfl
  | cons b rest ih =>
    have hb := hnone b List.mem_cons_self
    have hrest := ih (fun a ha => hnone a (List.mem_cons_of_mem b ha))
    simp [meets, hb, hrest]

/-- All jobs of the second kind end before those of the first kind. -/
theorem meets_apart {front back : List α} (hfront : ∀ a ∈ front, first a = false)
    (hback : ∀ a ∈ back, second a = false) : meets first second false (front ++ back) = false := by
  induction front with
  | nil => exact meets_eq_false hback false
  | cons b front ih =>
    have hb := hfront b List.mem_cons_self
    have hrest := ih (fun a ha => hfront a (List.mem_cons_of_mem b ha))
    simp [meets, hb, hrest]

theorem meets_last {front : List α} {a b : α} (hb : b ∈ front) (hfirst : first b = true)
    (hsecond : second a = true) (seen : Bool) :
    meets first second seen (front ++ [a]) = true := by
  induction front generalizing seen with
  | nil => cases hb
  | cons c front ih =>
    obtain rfl | hrest := List.mem_cons.mp hb
    · have hany : (front ++ [a]).any second = true := by simp [hsecond]
      simp [meets, hfirst, meets_of_seen, hany]
    · simp [meets, ih hrest]

/-- A job with a whole window of the first kind before it starts after one of them has ended. -/
theorem Served.meets_of_crowd {width : Nat} {jobs order : List α} (h : Served width jobs order)
    {front back : List α} {a : α} (split : jobs = front ++ a :: back) (hsecond : second a = true)
    (crowd : width ≤ (front.filter first).length) : meets first second false order = true := by
  induction h generalizing front with
  | nil => cases front <;> cases split
  | @cons jobs order b i running found rest ih =>
    subst split
    have hlength : (front.filter first).length ≤ front.length := List.length_filter_le _ _
    have hi : i < front.length := by omega
    rw [List.getElem?_append_left hi] at found
    rw [List.eraseIdx_append_of_lt_length hi] at rest ih
    cases hb : first b with
    | true =>
      have hany : order.any second = true := by
        rw [List.any_eq_true]
        refine ⟨a, rest.mem_iff.mpr ?_, hsecond⟩
        exact List.mem_append_right _ List.mem_cons_self
      simp [meets, hb, meets_of_seen, hany]
    | false =>
      have hfilter : ((front.eraseIdx i).filter first).length = (front.filter first).length := by
        obtain ⟨hlt, rfl⟩ := List.getElem?_eq_some_iff.mp found
        have hperm := (List.getElem_cons_eraseIdx_perm hlt).filter first
        rw [List.filter_cons_of_neg (by simp [hb])] at hperm
        exact hperm.length_eq
      have hrest := ih rfl (by rw [hfilter]; exact crowd)
      simp [meets, hb, hrest]

end Meets
