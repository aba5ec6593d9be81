import Mathlib.Data.List.Basic
import Mathlib.Algebra.Order.Ring.Nat

/-!
# Broadcast logs

A sender appends to a log and receivers read it, each from its own position. Only the last
messages are kept: a receiver that falls behind by more than the capacity is told so. What is
sent may first be cut into pieces of a fixed size.
-/

namespace Broadcast

section Pieces

variable {α : Type*}

/-- The pieces that start at the multiples of `size`. -/
def pieces (size : ℕ) (l : List α) : List (List α) :=
  (List.range ((l.length + (size - 1)) / size)).map fun k => (l.drop (k * size)).take size

theorem flatten_pieces_take (size : ℕ) (l : List α) (n : ℕ) :
    ((List.range n).map fun k => (l.drop (k * size)).take size).flatten = l.take (n * size) := by
  induction n with
  | zero => simp
  | succ n ih =>
    rw [List.range_succ, List.map_append, List.flatten_append, ih, Nat.succ_mul, List.take_add]
    simp

theorem flatten_pieces {size : ℕ} (positive : 0 < size) (l : List α) :
    (pieces size l).flatten = l := by
  rw [pieces, flatten_pieces_take]
  refine List.take_of_length_le ?_
  have := Nat.div_add_mod (l.length + (size - 1)) size
  have := Nat.mod_lt (l.length + (size - 1)) positive
  rw [Nat.mul_comm]
  omega

theorem length_pieces_le {size count : ℕ} (positive : 0 < size) {l : List α}
    (h : l.length ≤ count * size) : (pieces size l).length ≤ count := by
  rw [pieces, List.length_map, List.length_range, ← Nat.lt_succ_iff,
    Nat.div_lt_iff_lt_mul positive, Nat.succ_mul]
  omega

end Pieces

section Receivers

variable {α : Type*}

inductive Received (α : Type*)
  | empty
  | lagged
  | message (a : α)

def receive (capacity : ℕ) (log : List α) (position : ℕ) : Received α :=
  if capacity < (log.drop position).length then .lagged
  else
    match log.drop position with
    | [] => .empty
    | a :: _ => .message a

/-- What a receiver that started at `start` has read when it stands at `position`. -/
def slice (log : List α) (start position : ℕ) : List α :=
  (log.take position).drop start

theorem receive_message {capacity : ℕ} {log : List α} {position : ℕ} {a : α}
    (h : receive capacity log position = .message a) :
    log.drop position = a :: log.drop (position + 1) := by
  unfold receive at h
  split at h
  · cases h
  · split at h
    · cases h
    · case h_2 b rest heq =>
      cases h
      rw [← List.drop_drop, heq]
      rfl

theorem receive_of_unread {capacity : ℕ} {log : List α} {position : ℕ} {a : α} {rest : List α}
    (unread : log.drop position = a :: rest) (bounded : (a :: rest).length ≤ capacity) :
    receive capacity log position = .message a := by
  rw [receive, if_neg (by rw [unread]; omega), unread]

theorem receive_lagged {capacity : ℕ} {log : List α} {position : ℕ}
    (behind : capacity < (log.drop position).length) :
    receive capacity log position = .lagged :=
  if_pos behind

@[simp] theorem slice_self (log : List α) (start : ℕ) : slice log start start = [] := by
  simp [slice]

theorem slice_append {log : List α} {start position : ℕ} (h : position ≤ log.length)
    (more : List α) : slice (log ++ more) start position = slice log start position := by
  rw [slice, List.take_append_of_le_length h, slice]

theorem slice_succ {log : List α} {start position : ℕ} {a : α} {rest : List α}
    (started : start ≤ position) (unread : log.drop position = a :: rest) :
    slice log start (position + 1) = slice log start position ++ [a] := by
  have hlt : position < log.length := by
    have := congrArg List.length unread
    simp only [List.length_drop, List.length_cons] at this
    omega
  have hget : log[position] = a := by
    have := congrArg List.head? unread
    rw [List.head?_drop, List.getElem?_eq_getElem hlt] at this
    exact Option.some.inj this
  rw [slice, List.take_add_one, List.drop_append_of_le_length, List.getElem?_eq_getElem hlt, hget]
  · rfl
  · rw [List.length_take]
    omega

theorem slice_initial (log : List α) (start position : ℕ) :
    slice log start position <+: log.drop start := by
  rw [slice, List.drop_take]
  exact List.take_prefix _ _

end Receivers

end Broadcast
