import Mathlib.Logic.Basic
import Mathlib.Data.Bool.Basic

/-!
# A coalesced notification

A producer adds work and rings a bell when it is not already rung. The consumer answers a ring
by silencing the bell and serving as much work as it counts at that moment. Only the amount of
work is kept, and work may also vanish at any time.
-/

inductive Consumer
  | idle
  | answering
  | serving (left : Nat)

/-- `sending` rings are on their way to the channel, `events` are in it. -/
structure Doorbell where
  work : Nat
  rung : Bool
  sending : Nat
  events : Nat
  consumer : Consumer

namespace Doorbell

/-- A consumer that finds no work silences the bell again. `strays` says whether it may do so
while the bell is rung for work that came and vanished since. -/
inductive Step (strays : Prop) : Doorbell → Doorbell → Prop
  | vanish {work rung sending events consumer} (rest : Nat) (less : rest ≤ work) :
      Step strays ⟨work, rung, sending, events, consumer⟩ ⟨rest, rung, sending, events, consumer⟩
  | add {work rung sending events consumer} (more : Nat) :
      Step strays ⟨work, rung, sending, events, consumer⟩
        ⟨more, true, sending + (!rung).toNat, events, consumer⟩
  | send {work rung sending events consumer} :
      Step strays ⟨work, rung, sending + 1, events, consumer⟩
        ⟨work, rung, sending, events + 1, consumer⟩
  | answer {work rung sending events} :
      Step strays ⟨work, rung, sending, events + 1, .idle⟩
        ⟨work, rung, sending, events, .answering⟩
  | count {work rung sending events} (counted : Nat) :
      Step strays ⟨work, rung, sending, events, .answering⟩
        ⟨counted, false, sending, events, .serving counted⟩
  | serve {work rung sending events left} (rest : Nat) (less : rest + 1 ≤ work) :
      Step strays ⟨work, rung, sending, events, .serving (left + 1)⟩
        ⟨rest, rung, sending, events, .serving left⟩
  | miss {work rung sending events left} (allowed : rung = true → strays) :
      Step strays ⟨work, rung, sending, events, .serving left⟩
        ⟨0, false, sending, events, .idle⟩
  | finish {work rung sending events} :
      Step strays ⟨work, rung, sending, events, .serving 0⟩ ⟨work, rung, sending, events, .idle⟩

/-- No work is forgotten: a rung bell is owed an answer, and while it is silent the consumer
still has to serve all the work there is. -/
structure Attended (bell : Doorbell) : Prop where
  owed : bell.rung = true → 0 < bell.sending + bell.events ∨ bell.consumer = .answering
  covered : bell.rung = false → bell.work ≤
    match bell.consumer with
    | .serving left => left
    | _ => 0

theorem Attended.step {strays : Prop} {bell after : Doorbell} (h : bell.Attended)
    (taken : Step strays bell after) : after.Attended := by
  obtain ⟨owed, covered⟩ := h
  cases taken with
  | vanish rest less => exact ⟨owed, fun hsilent => Nat.le_trans less (covered hsilent)⟩
  | @add work rung sending events consumer more =>
    constructor
    · intro _
      cases rung with
      | true => exact owed rfl
      | false => exact .inl (by simp only [Bool.not_false, Bool.toNat_true]; omega)
    · intro hsilent
      cases hsilent
  | send =>
    constructor
    · intro _
      exact .inl (by simp only; omega)
    · exact covered
  | answer =>
    constructor
    · intro _
      exact .inr rfl
    · exact covered
  | count counted =>
    constructor
    · intro hrung
      cases hrung
    · intro _
      exact Nat.le_refl _
  | serve rest less =>
    constructor
    · intro hrung
      obtain hevents | hanswering := owed hrung
      · exact .inl hevents
      · cases hanswering
    · intro hsilent
      have hwork := covered hsilent
      simp only at hwork ⊢
      omega
  | miss allowed =>
    constructor
    · intro hrung
      cases hrung
    · intro _
      exact Nat.le_refl _
  | finish =>
    constructor
    · intro hrung
      obtain hevents | hanswering := owed hrung
      · exact .inl hevents
      · cases hanswering
    · exact covered

/-- An idle consumer with work left has been notified. -/
theorem Attended.notified {bell : Doorbell} (h : bell.Attended) (idle : bell.consumer = .idle)
    (work : bell.work ≠ 0) : 0 < bell.sending + bell.events := by
  cases hrung : bell.rung with
  | true =>
    obtain hevents | hanswering := h.owed hrung
    · exact hevents
    · rw [idle] at hanswering
      cases hanswering
  | false =>
    have hwork := h.covered hrung
    rw [idle] at hwork
    exact absurd (Nat.le_zero.mp hwork) work

/-- At most one ring is not answered, and a silent bell has none. -/
structure Coalesced (bell : Doorbell) : Prop where
  one : bell.sending + bell.events ≤ 1
  silent : bell.rung = false → bell.sending + bell.events = 0
  answering : bell.consumer = .answering → bell.rung = true ∧ bell.sending + bell.events = 0

/-- Rings coalesce as long as no consumer silences a bell that is rung for later work. -/
theorem Coalesced.step {bell after : Doorbell} (h : bell.Coalesced)
    (taken : Step False bell after) : after.Coalesced := by
  obtain ⟨one, silent, answering⟩ := h
  cases taken with
  | vanish rest less => exact ⟨one, silent, answering⟩
  | @add work rung sending events consumer more =>
    cases rung with
    | true =>
      constructor
      · exact one
      · intro hsilent
        cases hsilent
      · intro hanswering
        exact ⟨rfl, (answering hanswering).2⟩
    | false =>
      have hnone := silent rfl
      constructor
      · simp only [Bool.not_false, Bool.toNat_true] at hnone ⊢
        omega
      · intro hsilent
        cases hsilent
      · intro hanswering
        cases (answering hanswering).1
  | send =>
    simp only at one silent answering
    constructor
    · simp only
      omega
    · intro hsilent
      have hnone := silent hsilent
      omega
    · intro hanswering
      have hnone := (answering hanswering).2
      omega
  | @answer work rung sending events =>
    simp only at one silent
    constructor
    · simp only
      omega
    · intro hsilent
      have hnone := silent hsilent
      omega
    · intro _
      cases rung with
      | true => exact ⟨rfl, by simp only; omega⟩
      | false =>
        have hnone := silent rfl
        omega
  | count counted =>
    have hnone := (answering rfl).2
    exact ⟨one, fun _ => hnone, fun hanswering => by cases hanswering⟩
  | serve rest less => exact ⟨one, silent, fun hanswering => by cases hanswering⟩
  | @miss work rung sending events left allowed =>
    cases rung with
    | true => exact (allowed rfl).elim
    | false => exact ⟨one, silent, fun hanswering => by cases hanswering⟩
  | finish => exact ⟨one, silent, fun hanswering => by cases hanswering⟩

end Doorbell
