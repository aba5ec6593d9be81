import Mathlib.Data.List.Basic

/-!
# Incremental decoders

A decoder reads one output at a time from the front of its input and asks for more where the
input ends too early. Once a prefix decides an output, whatever follows leaves it as it is.
Then the outputs of a stream do not depend on the pieces in which the stream arrives.
-/

namespace Incremental

variable {σ β α : Type*}

inductive Verdict (σ α : Type*)
  | more
  | malformed
  | output (value : α) (used : ℕ) (after : σ)

/-- An output uses up a part of the input and does not depend on the rest. -/
structure Stable (next : σ → List β → Verdict σ α) : Prop where
  used_pos : ∀ {s input value used after}, next s input = .output value used after → 0 < used
  used_le : ∀ {s input value used after}, next s input = .output value used after →
    used ≤ input.length
  extend : ∀ {s input value used after} (more : List β),
    next s input = .output value used after → next s (input ++ more) = .output value used after

structure Drained (σ β α : Type*) where
  outputs : List α
  state : σ
  rest : List β
  malformed : Bool

def drain (next : σ → List β → Verdict σ α) : (fuel : ℕ) → σ → List β → Drained σ β α
  | 0, s, input => ⟨[], s, input, false⟩
  | fuel + 1, s, input =>
    match next s input with
    | .more => ⟨[], s, input, false⟩
    | .malformed => ⟨[], s, input, true⟩
    | .output value used after =>
      let drained := drain next fuel after (input.drop used)
      { drained with outputs := value :: drained.outputs }

/-- Some outputs read one after another, and the input behind them. -/
inductive Reads (next : σ → List β → Verdict σ α) :
    σ → List β → List α → σ → List β → Prop
  | stop (s : σ) (input : List β) : Reads next s input [] s input
  | output {s after t : σ} {input rest : List β} {value : α} {used : ℕ} {outputs : List α}
      (head : next s input = .output value used after)
      (tail : Reads next after (input.drop used) outputs t rest) :
      Reads next s input (value :: outputs) t rest

def Settled (next : σ → List β → Verdict σ α) (s : σ) (input : List β) : Prop :=
  ∀ value used after, next s input ≠ .output value used after

variable {next : σ → List β → Verdict σ α} {s t u : σ} {input rest more : List β}
  {outputs others : List α}

theorem settled_of_more (h : next s input = .more) : Settled next s input := by
  intro value used after houtput
  rw [h] at houtput
  cases houtput

theorem settled_of_malformed (h : next s input = .malformed) : Settled next s input := by
  intro value used after houtput
  rw [h] at houtput
  cases houtput

namespace Reads

theorem trans {final : List β} (h : Reads next s input outputs t rest)
    (later : Reads next t rest others u final) :
    Reads next s input (outputs ++ others) u final := by
  induction h with
  | stop => exact later
  | output head _ ih => exact .output head (ih later)

theorem extend (stable : Stable next) (more : List β)
    (h : Reads next s input outputs t rest) :
    Reads next s (input ++ more) outputs t (rest ++ more) := by
  induction h with
  | stop s input => exact .stop s (input ++ more)
  | output head _ ih =>
    refine .output (stable.extend more head) ?_
    rw [List.drop_append_of_le_length (stable.used_le head)]
    exact ih

/-- The next piece arrives behind what was left over. -/
theorem feed (stable : Stable next) {final : List β} (h : Reads next s input outputs t rest)
    (later : Reads next t (rest ++ more) others u final) :
    Reads next s (input ++ more) (outputs ++ others) u final :=
  (h.extend stable more).trans later

/-- One of two readings continues the other. -/
theorem comparable {rest' : List β} (h : Reads next s input outputs t rest)
    (h' : Reads next s input others u rest') :
    (∃ between, Reads next t rest between u rest' ∧ others = outputs ++ between) ∨
      ∃ between, Reads next u rest' between t rest ∧ outputs = others ++ between := by
  induction h generalizing others with
  | stop => exact .inl ⟨others, h', rfl⟩
  | output head tail ih =>
    cases h' with
    | stop => exact .inr ⟨_, .output head tail, rfl⟩
    | output head' tail' =>
      rw [head] at head'
      cases head'
      obtain ⟨between, hbetween, heq⟩ | ⟨between, hbetween, heq⟩ := ih tail'
      · exact .inl ⟨between, hbetween, congrArg (_ :: ·) heq⟩
      · exact .inr ⟨between, hbetween, congrArg (_ :: ·) heq⟩

theorem eq_of_settled (h : Reads next s input outputs t rest) (settled : Settled next s input) :
    outputs = [] ∧ t = s ∧ rest = input := by
  cases h with
  | stop => exact ⟨rfl, rfl, rfl⟩
  | output head _ => exact absurd head (settled _ _ _)

/-- A reading that cannot go on has every other one as a prefix. -/
theorem continues {rest' : List β} (h : Reads next s input outputs t rest)
    (h' : Reads next s input others u rest') (settled : Settled next u rest') :
    ∃ between, Reads next t rest between u rest' ∧ others = outputs ++ between := by
  obtain hforward | ⟨between, hbetween, heq⟩ := h.comparable h'
  · exact hforward
  · obtain ⟨rfl, rfl, rfl⟩ := hbetween.eq_of_settled settled
    exact ⟨[], .stop _ _, by rw [heq, List.append_nil, List.append_nil]⟩

theorem unique {rest' : List β} (h : Reads next s input outputs t rest)
    (settled : Settled next t rest) (h' : Reads next s input others u rest')
    (settled' : Settled next u rest') : others = outputs ∧ u = t ∧ rest' = rest := by
  obtain ⟨between, hbetween, heq⟩ := h.continues h' settled'
  obtain ⟨rfl, rfl, rfl⟩ := hbetween.eq_of_settled settled
  exact ⟨by rw [heq, List.append_nil], rfl, rfl⟩

theorem rest_suffix (h : Reads next s input outputs t rest) : rest <:+ input := by
  induction h with
  | stop => exact List.suffix_refl _
  | output _ _ ih => exact ih.trans (List.drop_suffix _ _)

end Reads

theorem reads_drain (fuel : ℕ) (s : σ) (input : List β) :
    Reads next s input (drain next fuel s input).outputs (drain next fuel s input).state
      (drain next fuel s input).rest := by
  induction fuel generalizing s input with
  | zero => exact .stop s input
  | succ fuel ih =>
    rw [drain]
    cases hnext : next s input with
    | more => exact .stop s input
    | malformed => exact .stop s input
    | output value used after => exact .output hnext (ih after (input.drop used))

/-- One unit of fuel for each unit of input is enough. -/
theorem drain_verdict (stable : Stable next) {fuel : ℕ} (s : σ) (input : List β)
    (enough : input.length ≤ fuel) (empty : ∀ s, next s [] = .more) :
    next (drain next fuel s input).state (drain next fuel s input).rest =
      if (drain next fuel s input).malformed then .malformed else .more := by
  induction fuel generalizing s input with
  | zero =>
    obtain rfl := List.eq_nil_of_length_eq_zero (Nat.le_zero.mp enough)
    exact empty s
  | succ fuel ih =>
    rw [drain]
    cases hnext : next s input with
    | more => exact hnext
    | malformed => exact hnext
    | output value used after =>
      refine ih after (input.drop used) ?_
      have hpos := stable.used_pos hnext
      rw [List.length_drop]
      omega

theorem settled_drain (stable : Stable next) {fuel : ℕ} (s : σ) (input : List β)
    (enough : input.length ≤ fuel) (empty : ∀ s, next s [] = .more) :
    Settled next (drain next fuel s input).state (drain next fuel s input).rest := by
  have hverdict := drain_verdict stable s input enough empty
  split at hverdict
  · exact settled_of_malformed hverdict
  · exact settled_of_more hverdict

theorem Reads.outputs_eq_drain (stable : Stable next) (empty : ∀ s, next s [] = .more)
    (h : Reads next s input outputs t rest) (settled : Settled next t rest) :
    (drain next input.length s input).outputs = outputs :=
  (h.unique settled (reads_drain input.length s input)
    (settled_drain stable s input (Nat.le_refl _) empty)).1

/-- What was read of a part of the input stays a prefix of what the whole gives. -/
theorem Reads.prefix_drain (stable : Stable next) (empty : ∀ s, next s [] = .more)
    (h : Reads next s input outputs t rest) (more : List β) :
    outputs <+: (drain next (input ++ more).length s (input ++ more)).outputs := by
  obtain ⟨between, -, heq⟩ := (h.extend stable more).continues
    (reads_drain (input ++ more).length s (input ++ more))
    (settled_drain stable s (input ++ more) (Nat.le_refl _) empty)
  exact ⟨between, heq.symm⟩

end Incremental
