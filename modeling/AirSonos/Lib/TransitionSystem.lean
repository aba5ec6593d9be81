import Mathlib.Logic.Basic
import Mathlib.Data.List.Induction
import Mathlib.Data.Option.Basic

/-!
# Labelled transition systems and guarded runs

A label fixes everything the environment chooses in a step, so a step is a partial function.
A guarded run takes only steps that satisfy a condition on the state before the step and on
its label. The unguarded runs are those of the guard that always holds.
-/

universe u v

structure TransitionSystem (σ : Type u) (ι : Type v) where
  init : σ
  step : σ → ι → Option σ

namespace TransitionSystem

variable {σ : Type u} {ι : Type v} (S : TransitionSystem σ ι)

inductive ReachableWhen (guard : σ → ι → Prop) : σ → Prop
  | init : ReachableWhen guard S.init
  | step {s t : σ} {l : ι} (run : ReachableWhen guard s) (allowed : guard s l)
      (taken : S.step s l = some t) : ReachableWhen guard t

def Reachable : σ → Prop :=
  S.ReachableWhen fun _ _ => True

variable {S} {guard : σ → ι → Prop}

theorem ReachableWhen.mono {guard' : σ → ι → Prop} (weaker : ∀ s l, guard s l → guard' s l)
    {s : σ} (h : S.ReachableWhen guard s) : S.ReachableWhen guard' s := by
  induction h with
  | init => exact .init
  | step _ allowed taken ih => exact .step ih (weaker _ _ allowed) taken

theorem ReachableWhen.reachable {s : σ} (h : S.ReachableWhen guard s) : S.Reachable s :=
  h.mono fun _ _ _ => trivial

theorem Reachable.next {s t : σ} {l : ι} (h : S.Reachable s) (taken : S.step s l = some t) :
    S.Reachable t :=
  ReachableWhen.step h trivial taken

/-- The induction rule for guarded runs. -/
theorem ReachableWhen.invariant {I : σ → Prop} (start : I S.init)
    (preserved : ∀ s l t, I s → guard s l → S.step s l = some t → I t)
    {s : σ} (h : S.ReachableWhen guard s) : I s := by
  induction h with
  | init => exact start
  | step _ allowed taken ih => exact preserved _ _ _ ih allowed taken

/-- The same rule when the step lemma needs an invariant `J` that is already known. -/
theorem ReachableWhen.invariant_with {I J : σ → Prop}
    (known : ∀ s, S.ReachableWhen guard s → J s) (start : I S.init)
    (preserved : ∀ s l t, J s → I s → guard s l → S.step s l = some t → I t)
    {s : σ} (h : S.ReachableWhen guard s) : I s := by
  induction h with
  | init => exact start
  | step run allowed taken ih => exact preserved _ _ _ (known _ run) ih allowed taken

theorem Reachable.invariant {I : σ → Prop} (start : I S.init)
    (preserved : ∀ s l t, I s → S.step s l = some t → I t) {s : σ} (h : S.Reachable s) : I s :=
  ReachableWhen.invariant start (fun s l t hs _ => preserved s l t hs) h

theorem Reachable.invariant_with {I J : σ → Prop} (known : ∀ s, S.Reachable s → J s)
    (start : I S.init) (preserved : ∀ s l t, J s → I s → S.step s l = some t → I t)
    {s : σ} (h : S.Reachable s) : I s :=
  ReachableWhen.invariant_with known start (fun s l t hj hs _ => preserved s l t hj hs) h

variable (S) in
def run : σ → List ι → Option σ
  | s, [] => some s
  | s, l :: ls => (S.step s l).bind fun t => run t ls

theorem Reachable.of_run {s t : σ} {ls : List ι} (h : S.Reachable s) (hrun : S.run s ls = some t) :
    S.Reachable t := by
  induction ls generalizing s with
  | nil =>
    cases hrun
    exact h
  | cons l ls ih =>
    obtain ⟨u, hu, hrun⟩ := Option.bind_eq_some_iff.mp hrun
    exact ih (h.next hu) hrun

theorem run_append (s : σ) (ls ms : List ι) :
    S.run s (ls ++ ms) = (S.run s ls).bind fun t => S.run t ms := by
  induction ls generalizing s with
  | nil => rfl
  | cons l ls ih =>
    simp only [List.cons_append, run]
    cases S.step s l with
    | none => rfl
    | some t => exact ih t

theorem run_snoc {s t : σ} {ls : List ι} {l : ι} (h : S.run s (ls ++ [l]) = some t) :
    ∃ u, S.run s ls = some u ∧ S.step u l = some t := by
  rw [run_append] at h
  obtain ⟨u, hu, hlast⟩ := Option.bind_eq_some_iff.mp h
  obtain ⟨v, hv, hdone⟩ := Option.bind_eq_some_iff.mp hlast
  cases hdone
  exact ⟨u, hu, hv⟩

/-- The induction rule for what a run says about its labels: the last step comes last. -/
theorem run_induction {P : List ι → σ → Prop} (start : P [] S.init)
    (preserved : ∀ ls s l t, S.run S.init ls = some s → P ls s → S.step s l = some t →
      P (ls ++ [l]) t) {ls : List ι} {s : σ} (h : S.run S.init ls = some s) : P ls s := by
  induction ls using List.reverseRecOn generalizing s with
  | nil =>
    cases h
    exact start
  | append_singleton ls l ih =>
    obtain ⟨u, hu, hlast⟩ := run_snoc h
    exact preserved ls u l s hu (ih hu) hlast

/-- One system seen through a function: every step is a step of the other system. -/
structure Projects {τ : Type*} (S : TransitionSystem σ ι) (T : TransitionSystem τ ι)
    (view : σ → τ) : Prop where
  init : view S.init = T.init
  step : ∀ s l t, S.step s l = some t → T.step (view s) l = some (view t)

theorem Projects.reachable {τ : Type*} {T : TransitionSystem τ ι} {view : σ → τ}
    (projects : Projects S T view) {s : σ} (h : S.Reachable s) : T.Reachable (view s) := by
  refine h.invariant (I := fun s => T.Reachable (view s)) ?_ fun s l t hs taken => ?_
  · rw [projects.init]
    exact .init
  · exact hs.next (projects.step s l t taken)

variable (S guard) in
/-- A run that stops short when a step does not satisfy the guard. -/
def runWhen [∀ s l, Decidable (guard s l)] : σ → List ι → Option σ
  | s, [] => some s
  | s, l :: ls => if guard s l then (S.step s l).bind fun t => runWhen t ls else none

theorem ReachableWhen.of_runWhen [∀ s l, Decidable (guard s l)] {s t : σ} {ls : List ι}
    (h : S.ReachableWhen guard s) (hrun : S.runWhen guard s ls = some t) :
    S.ReachableWhen guard t := by
  induction ls generalizing s with
  | nil =>
    cases hrun
    exact h
  | cons l ls ih =>
    simp only [runWhen] at hrun
    split at hrun
    · case isTrue allowed =>
      obtain ⟨u, hu, hrun⟩ := Option.bind_eq_some_iff.mp hrun
      exact ih (h.step allowed hu) hrun
    · cases hrun

variable (S guard) in
/-- Every step of the run satisfies the guard. -/
def Allowed : σ → List ι → Prop
  | _, [] => True
  | s, l :: ls => guard s l ∧ ∀ t, S.step s l = some t → Allowed t ls

theorem ReachableWhen.of_run {s t : σ} {ls : List ι} (h : S.ReachableWhen guard s)
    (allowed : S.Allowed guard s ls) (hrun : S.run s ls = some t) : S.ReachableWhen guard t := by
  induction ls generalizing s with
  | nil =>
    cases hrun
    exact h
  | cons l ls ih =>
    obtain ⟨u, hu, hrun⟩ := Option.bind_eq_some_iff.mp hrun
    exact ih (h.step allowed.1 hu) (allowed.2 u hu) hrun

/-- A run whose labels satisfy the guard in every state. -/
theorem ReachableWhen.of_run_forall {s t : σ} {ls : List ι} (h : S.ReachableWhen guard s)
    (allowed : ∀ l ∈ ls, ∀ s, guard s l) (hrun : S.run s ls = some t) :
    S.ReachableWhen guard t := by
  induction ls generalizing s with
  | nil =>
    cases hrun
    exact h
  | cons l ls ih =>
    obtain ⟨u, hu, hrun⟩ := Option.bind_eq_some_iff.mp hrun
    exact ih (h.step (allowed l List.mem_cons_self s) hu)
      (fun l' hl' => allowed l' (List.mem_cons_of_mem l hl')) hrun

end TransitionSystem

/-- A run of a relation that makes a measure smaller is no longer than the measure at its
start. -/
theorem length_add_measure_le {σ : Type u} {r : σ → σ → Prop} (measure : σ → Nat)
    (decreases : ∀ s t, r s t → measure t < measure s) {run : Nat → σ} {n : Nat}
    (taken : ∀ k < n, r (run k) (run (k + 1))) : n + measure (run n) ≤ measure (run 0) := by
  induction n with
  | zero => omega
  | succ n ih =>
    have hbefore := ih fun k hk => taken k (Nat.lt_succ_of_lt hk)
    have hlast := decreases _ _ (taken n (Nat.lt_succ_self n))
    omega
