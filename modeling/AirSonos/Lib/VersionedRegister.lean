import Mathlib.Data.List.Basic

/-!
# Registers that are written by version

A client checks that a register still has the version it knows, and writes it in a later step.
Nothing holds the register in between. The steps below are orderly: a write that changes the
version comes only while no other client is between its check and its write. Clients that do
not care about the version may write at any time. Where besides no write brings back a version
that a commit was based on, a version has at most one commit.
-/

structure Commit (κ ν : Type*) where
  client : κ
  base : Option ν
  found : ν
  left : ν

/-- The commits are listed newest first. -/
structure VersionedRegister (κ ν : Type*) where
  version : ν
  checked : κ → Option (Option ν)
  commits : List (Commit κ ν)

namespace VersionedRegister

variable {κ ν : Type*}

def commit [DecidableEq κ] (r : VersionedRegister κ ν) (client : κ) (base : Option ν) (left : ν) :
    VersionedRegister κ ν where
  version := left
  checked := fun other => if other = client then none else r.checked other
  commits := ⟨client, base, r.version, left⟩ :: r.commits

inductive OrderlyStep [DecidableEq κ] (r : VersionedRegister κ ν) : VersionedRegister κ ν → Prop
  | check {client : κ} {base : Option ν} (current : ∀ v ∈ base, v = r.version) :
      OrderlyStep r
        { r with checked := fun other => if other = client then some base else r.checked other }
  | release {checked : κ → Option (Option ν)}
      (fewer : ∀ client base, checked client = some base → r.checked client = some base) :
      OrderlyStep r { r with checked }
  | commit {client : κ} {base : Option ν} {left : ν} (passed : r.checked client = some base)
      (undisturbed : r.version = left ∨
        ∀ other, other ≠ client → ∀ v, r.checked other ≠ some (some v)) :
      OrderlyStep r (r.commit client base left)

/-- Every commit found what the commit before it left. -/
def Linked : ν → List (Commit κ ν) → Prop
  | _, [] => True
  | version, c :: rest => c.left = version ∧ Linked c.found rest

structure Orderly (r : VersionedRegister κ ν) : Prop where
  current : ∀ client v, r.checked client = some (some v) → v = r.version
  based : ∀ c ∈ r.commits, ∀ v ∈ c.base, v = c.found
  linked : Linked r.version r.commits

theorem OrderlyStep.orderly [DecidableEq κ] {r r' : VersionedRegister κ ν}
    (h : r.Orderly) (taken : r.OrderlyStep r') : r'.Orderly := by
  cases taken with
  | @check client base current =>
    refine ⟨fun other v heq => ?_, h.based, h.linked⟩
    simp only at heq
    split at heq
    · cases heq
      exact current v rfl
    · exact h.current other v heq
  | release fewer => exact ⟨fun other v heq => h.current other v (fewer _ _ heq), h.based, h.linked⟩
  | @commit client base left passed undisturbed =>
    refine ⟨fun other v heq => ?_, fun c hc v hv => ?_, rfl, h.linked⟩
    · simp only [VersionedRegister.commit] at heq ⊢
      split at heq
      · cases heq
      · case isFalse hne =>
        obtain same | alone := undisturbed
        · exact (h.current other v heq).trans same
        · exact absurd heq (alone other hne v)
    · obtain rfl | hold := List.mem_cons.mp hc
      · cases hv
        exact h.current client v passed
      · exact h.based c hold v hv

/-- The later commit does not bring back the version of the earlier one, and the earlier one, if
it has the same version, changed it. -/
def Advances (later earlier : Commit κ ν) : Prop :=
  earlier.base ≠ some later.left ∧ (earlier.base = later.base → earlier.base ≠ some earlier.left)

def Advancing (r : VersionedRegister κ ν) : Prop :=
  r.commits.Pairwise Advances

/-- No commit before `c` is based on the version that `c` is based on. -/
theorem Linked.base_ne {version : ν} {newer older : List (Commit κ ν)} {c d : Commit κ ν}
    (linked : Linked version (newer ++ c :: older))
    (advancing : (newer ++ c :: older).Pairwise Advances) (mem : d ∈ older)
    (based : c.base = some c.found) : d.base ≠ some c.found := by
  induction newer generalizing version with
  | cons b newer ih => exact ih linked.2 advancing.of_cons
  | nil =>
    have hlater : ∀ e ∈ older, Advances c e := fun _ hmem =>
      List.rel_of_pairwise_cons advancing hmem
    cases older with
    | nil => cases mem
    | cons e rest =>
      obtain ⟨-, hleft, -⟩ := linked
      intro hbase
      obtain rfl | hrest := List.mem_cons.mp mem
      · -- `d` left the version that `c` found
        refine (hlater d mem).2 (hbase.trans based.symm) ?_
        rw [hleft, hbase]
      · refine (List.rel_of_pairwise_cons advancing.of_cons hrest).1 ?_
        rw [hleft, hbase]

namespace Orderly

variable {r : VersionedRegister κ ν}

/-- A version has at most one commit. -/
theorem exclusive (h : r.Orderly) (advancing : r.Advancing) {c d : Commit κ ν}
    (hc : c ∈ r.commits) (hd : d ∈ r.commits) (hne : c ≠ d) {v : ν} (hcv : c.base = some v) :
    d.base ≠ some v := by
  intro hdv
  have hlater (newer older : List (Commit κ ν)) (c d : Commit κ ν)
      (split_eq : r.commits = newer ++ c :: older) (mem : d ∈ older) (hcv : c.base = some v)
      (hdv : d.base = some v) : False := by
    have hfound := h.based c (split_eq ▸ List.mem_append_right _ (.head _)) v hcv
    have hlinked := h.linked
    rw [split_eq] at hlinked
    refine hlinked.base_ne (split_eq ▸ advancing) mem (hfound ▸ hcv) ?_
    rw [hdv, hfound]
  obtain ⟨newer, older, split_eq⟩ := List.append_of_mem hc
  rw [split_eq, List.mem_append, List.mem_cons] at hd
  obtain hnewer | rfl | holder := hd
  · obtain ⟨first, between, rfl⟩ := List.append_of_mem hnewer
    refine hlater first (between ++ c :: older) d c ?_ (by simp) hdv hcv
    rw [split_eq, List.append_assoc, List.cons_append]
  · exact hne rfl
  · exact hlater newer older c d split_eq holder hcv hdv

/-- A commit that changed its version has replaced it for good. -/
theorem moved (h : r.Orderly) (advancing : r.Advancing) {c : Commit κ ν} (hc : c ∈ r.commits)
    {v : ν} (hcv : c.base = some v) (changed : c.left ≠ v) : r.version ≠ v := by
  have hlinked := h.linked
  unfold Advancing at advancing
  cases hcommits : r.commits with
  | nil => exact absurd hc (hcommits ▸ List.not_mem_nil)
  | cons last rest =>
    rw [hcommits] at hc hlinked advancing
    rw [← hlinked.1]
    obtain rfl | hrest := List.mem_cons.mp hc
    · exact changed
    · intro hlast
      exact (List.rel_of_pairwise_cons advancing hrest).1 (hlast ▸ hcv)

end Orderly

end VersionedRegister
