import Mathlib.Data.List.AList
import Mathlib.Data.List.Nodup
import Mathlib.Data.List.Sort
import Mathlib.Algebra.BigOperators.Group.List.Basic
import Mathlib.Algebra.Order.Ring.Nat

/-!
# Association maps with in-place edits

A hash map is modelled by an association list with distinct keys. Mathlib supplies lookup,
insertion and erasure; the edits below rewrite or drop values. Every edit is described by
what it does to `lookup`.
-/

/-- A finite map whose value type does not depend on the key. -/
abbrev AssocMap (α : Type*) (β : Type*) := AList (fun _ : α => β)

namespace AssocMap

variable {α β : Type*}

def mapValues (f : β → β) (m : AssocMap α β) : AssocMap α β where
  entries := m.entries.map (Sigma.map id fun _ => f)
  nodupKeys := m.nodupKeys.map₂ fun _ => f

/-- Keeps the entries that satisfy `p`. -/
def retain (p : α → β → Bool) (m : AssocMap α β) : AssocMap α β where
  entries := m.entries.filter fun e => p e.1 e.2
  nodupKeys := m.nodupKeys.sublist List.filter_sublist

def values (m : AssocMap α β) : List β :=
  m.entries.map Sigma.snd

def size (m : AssocMap α β) : Nat :=
  m.entries.length

theorem mem_retain_entries (p : α → β → Bool) (m : AssocMap α β) (e : Sigma fun _ : α => β) :
    e ∈ (retain p m).entries ↔ e ∈ m.entries ∧ p e.1 e.2 := by
  simp [retain]

theorem size_eq_keys_length (m : AssocMap α β) : size m = m.keys.length := by
  simp [size, AList.keys, List.keys]

theorem size_eq_values_length (m : AssocMap α β) : size m = (values m).length := by
  simp [size, values]

theorem values_mapValues (f : β → β) (m : AssocMap α β) :
    values (mapValues f m) = (values m).map f := by
  simp only [values, mapValues, List.map_map]
  rfl

theorem values_retain_sublist (p : α → β → Bool) (m : AssocMap α β) :
    (values (retain p m)).Sublist (values m) :=
  List.filter_sublist.map fun e : Sigma fun _ : α => β => e.2

/-- The values that are kept and those that are dropped. -/
theorem values_retain_perm (p : α → β → Bool) (m : AssocMap α β) :
    (values (retain p m) ++ values (retain (fun a b => !p a b) m)).Perm (values m) := by
  rw [values, values, ← List.map_append]
  exact (List.filter_append_perm (fun e : Sigma fun _ : α => β => p e.1 e.2) m.entries).map _

variable [DecidableEq α]

def modify (a : α) (f : β → β) (m : AssocMap α β) : AssocMap α β :=
  match m.lookup a with
  | none => m
  | some b => m.insert a (f b)

theorem lookup_insert_ite (a c : α) (b : β) (m : AssocMap α β) :
    AList.lookup c (AList.insert a b m) = if c = a then some b else AList.lookup c m := by
  split
  · subst c
    exact AList.lookup_insert m
  · exact AList.lookup_insert_ne ‹_›

theorem lookup_erase_ite (a c : α) (m : AssocMap α β) :
    AList.lookup c (AList.erase a m) = if c = a then none else AList.lookup c m := by
  split
  · subst c
    exact AList.lookup_erase _ m
  · exact AList.lookup_erase_ne ‹_›

theorem lookup_of_erase {a c : α} {b : β} {m : AssocMap α β}
    (h : AList.lookup c (AList.erase a m) = some b) : AList.lookup c m = some b := by
  rw [lookup_erase_ite] at h
  split at h
  · cases h
  · exact h

theorem lookup_mapValues (f : β → β) (m : AssocMap α β) (a : α) :
    AList.lookup a (mapValues f m) = (AList.lookup a m).map f :=
  List.dlookup_map₂ a

theorem lookup_modify (a c : α) (f : β → β) (m : AssocMap α β) :
    AList.lookup c (modify a f m) =
      if c = a then (AList.lookup c m).map f else AList.lookup c m := by
  unfold modify
  cases h : AList.lookup a m with
  | none =>
    by_cases hc : c = a
    · subst c
      simp [h]
    · simp [hc]
  | some b =>
    simp only [lookup_insert_ite]
    by_cases hc : c = a
    · subst c
      simp [h]
    · simp [hc]

theorem lookup_eq_some_iff {m : AssocMap α β} {a : α} {b : β} :
    AList.lookup a m = some b ↔ ⟨a, b⟩ ∈ m.entries :=
  AList.mem_lookup_iff

theorem lookup_retain_eq_some (p : α → β → Bool) (m : AssocMap α β) {a : α} {b : β} :
    AList.lookup a (retain p m) = some b ↔ AList.lookup a m = some b ∧ p a b = true := by
  rw [lookup_eq_some_iff, mem_retain_entries, lookup_eq_some_iff]

theorem retain_congr {p q : α → β → Bool} {m : AssocMap α β}
    (h : ∀ a b, AList.lookup a m = some b → p a b = q a b) : retain p m = retain q m := by
  refine AList.ext (List.filter_congr fun e he => ?_)
  exact h e.1 e.2 (lookup_eq_some_iff.mpr he)

theorem mem_values_iff {m : AssocMap α β} {b : β} :
    b ∈ values m ↔ ∃ a, AList.lookup a m = some b := by
  simp only [values, List.mem_map, lookup_eq_some_iff]
  constructor
  · rintro ⟨⟨a, b'⟩, he, rfl⟩
    exact ⟨a, he⟩
  · rintro ⟨a, he⟩
    exact ⟨⟨a, b⟩, he, rfl⟩

theorem mem_keys_iff_lookup {m : AssocMap α β} {a : α} :
    a ∈ m.keys ↔ ∃ b, AList.lookup a m = some b := by
  rw [← AList.mem_keys, ← AList.lookup_isSome, Option.isSome_iff_exists]

theorem values_insert (a : α) (b : β) (m : AssocMap α β) :
    values (m.insert a b) = b :: values (m.erase a) := by
  rw [values, AList.entries_insert]
  rfl

theorem erase_of_lookup_none {a : α} {m : AssocMap α β} (h : AList.lookup a m = none) :
    m.erase a = m :=
  AList.ext (List.kerase_of_notMem_keys (AList.lookup_eq_none.mp h))

theorem values_perm_erase {a : α} {b : β} {m : AssocMap α β} (h : AList.lookup a m = some b) :
    (values m).Perm (b :: values (m.erase a)) := by
  have hkey : a ∈ m.entries.keys := AList.lookup_isSome.mp (by rw [h]; rfl)
  obtain ⟨c, before, after, -, hentries, herase⟩ := List.exists_of_kerase hkey
  have hbc : c = b := by
    have hmem : (⟨a, c⟩ : Sigma fun _ : α => β) ∈ m.entries := by simp [hentries]
    exact Option.some.inj ((lookup_eq_some_iff.mpr hmem).symm.trans h)
  subst c
  have hvalues : values m = before.map Sigma.snd ++ b :: after.map Sigma.snd := by
    rw [values, hentries, List.map_append, List.map_cons]
  have hrest : values (m.erase a) = before.map Sigma.snd ++ after.map Sigma.snd := by
    have : (m.erase a).entries = before ++ after := herase
    rw [values, this, List.map_append]
  rw [hvalues, hrest]
  exact List.perm_middle

theorem size_insert_of_none {a : α} {m : AssocMap α β} (h : AList.lookup a m = none) (b : β) :
    size (m.insert a b) = size m + 1 := by
  rw [size_eq_values_length, values_insert, erase_of_lookup_none h, List.length_cons,
    size_eq_values_length]

theorem size_of_lookup {a : α} {b : β} {m : AssocMap α β} (h : AList.lookup a m = some b) :
    size m = size (m.erase a) + 1 := by
  rw [size_eq_values_length, (values_perm_erase h).length_eq, List.length_cons,
    size_eq_values_length]

theorem size_insert_of_some {a : α} {b : β} {m : AssocMap α β} (h : AList.lookup a m = some b)
    (c : β) : size (m.insert a c) = size m := by
  rw [size_of_lookup h, size_eq_values_length, values_insert, List.length_cons,
    size_eq_values_length]

theorem size_ne_zero_iff {m : AssocMap α β} :
    size m ≠ 0 ↔ ∃ a b, AList.lookup a m = some b := by
  constructor
  · intro nonempty
    rw [size_eq_values_length] at nonempty
    obtain ⟨b, hmem⟩ := List.exists_mem_of_length_pos (Nat.pos_of_ne_zero nonempty)
    obtain ⟨a, found⟩ := mem_values_iff.mp hmem
    exact ⟨a, b, found⟩
  · rintro ⟨a, b, found⟩
    rw [size_of_lookup found]
    exact Nat.succ_ne_zero _

theorem values_erase_sublist (a : α) (m : AssocMap α β) :
    (values (m.erase a)).Sublist (values m) :=
  (List.kerase_sublist a m.entries).map fun e : Sigma fun _ : α => β => e.2

/-! ### Sums over the values -/

/-- The sum of a weight over the values. -/
def total (f : β → Nat) (m : AssocMap α β) : Nat :=
  ((values m).map f).sum

theorem total_of_lookup (f : β → Nat) {a : α} {b : β} {m : AssocMap α β}
    (h : AList.lookup a m = some b) : total f m = f b + total f (m.erase a) := by
  rw [total, ((values_perm_erase h).map f).sum_eq, List.map_cons, List.sum_cons, total]

theorem total_insert (f : β → Nat) (a : α) (b : β) (m : AssocMap α β) :
    total f (m.insert a b) = f b + total f (m.erase a) := by
  rw [total, values_insert, List.map_cons, List.sum_cons, total]

theorem total_insert_of_none (f : β → Nat) {a : α} {m : AssocMap α β}
    (h : AList.lookup a m = none) (b : β) : total f (m.insert a b) = f b + total f m := by
  rw [total_insert, erase_of_lookup_none h]

/-- The new value counts in place of the old one. -/
theorem total_insert_of_some (f : β → Nat) {a : α} {b : β} {m : AssocMap α β}
    (h : AList.lookup a m = some b) (c : β) : total f (m.insert a c) + f b = total f m + f c := by
  rw [total_insert, total_of_lookup f h]
  omega

theorem le_total (f : β → Nat) {a : α} {b : β} {m : AssocMap α β}
    (h : AList.lookup a m = some b) : f b ≤ total f m := by
  rw [total_of_lookup f h]
  exact Nat.le_add_right _ _

/-- Different keys lead to different entries. -/
theorem filterMap_lookup_subperm {l : List α} (hl : l.Nodup) (m : AssocMap α β) :
    (l.filterMap fun a => AList.lookup a m).Subperm (values m) := by
  induction l generalizing m with
  | nil => exact List.nil_subperm
  | cons a l ih =>
    obtain ⟨ha, hl⟩ := List.nodup_cons.mp hl
    cases hlookup : AList.lookup a m with
    | none =>
      rw [List.filterMap_cons_none (f := fun c => AList.lookup c m) hlookup]
      exact ih hl m
    | some b =>
      have hothers : (l.filterMap fun c => AList.lookup c m) =
          l.filterMap fun c => AList.lookup c (m.erase a) := by
        refine List.filterMap_congr fun c hc => ?_
        rw [lookup_erase_ite, if_neg]
        rintro rfl
        exact ha hc
      rw [List.filterMap_cons_some (f := fun c => AList.lookup c m) hlookup, hothers]
      exact (List.subperm_cons b).mpr (ih hl _) |>.trans (values_perm_erase hlookup).symm.subperm

/-- Builds a map from a list of pairs; of two pairs with one key the later one counts. -/
def collect (l : List (α × β)) : AssocMap α β :=
  l.foldl (fun m e => m.insert e.1 e.2) ∅

theorem lookup_foldl_insert (l : List (α × β)) (hl : (l.map Prod.fst).Nodup) (m : AssocMap α β)
    {a : α} {b : β} :
    AList.lookup a (l.foldl (fun m e => m.insert e.1 e.2) m) = some b ↔
      (a, b) ∈ l ∨ a ∉ l.map Prod.fst ∧ AList.lookup a m = some b := by
  induction l generalizing m with
  | nil => simp
  | cons e l ih =>
    simp only [List.map_cons, List.nodup_cons] at hl
    rw [List.foldl_cons, ih hl.2, lookup_insert_ite]
    obtain ⟨c, d⟩ := e
    simp only at hl
    by_cases hac : a = c
    · subst a
      have habsent : (c, b) ∉ l := fun h => hl.1 (List.mem_map.mpr ⟨_, h, rfl⟩)
      simp [habsent, hl.1, eq_comm]
    · simp [hac]

theorem lookup_collect {l : List (α × β)} (hl : (l.map Prod.fst).Nodup) {a : α} {b : β} :
    AList.lookup a (collect l) = some b ↔ (a, b) ∈ l := by
  rw [collect, lookup_foldl_insert l hl]
  simp

theorem mem_of_lookup_foldl_insert {l : List (α × β)} {m : AssocMap α β} {a : α} {b : β}
    (h : AList.lookup a (l.foldl (fun m e => m.insert e.1 e.2) m) = some b) :
    (a, b) ∈ l ∨ AList.lookup a m = some b := by
  induction l generalizing m with
  | nil => exact .inr h
  | cons e l ih =>
    obtain hmem | hlookup := ih h
    · exact .inl (List.mem_cons_of_mem _ hmem)
    · rw [lookup_insert_ite] at hlookup
      split at hlookup
      · case isTrue heq =>
        cases hlookup
        rw [heq]
        exact .inl List.mem_cons_self
      · exact .inr hlookup

/-- An entry of the map comes from the list, also where keys repeat. -/
theorem mem_of_lookup_collect {l : List (α × β)} {a : α} {b : β}
    (h : AList.lookup a (collect l) = some b) : (a, b) ∈ l := by
  obtain hmem | hempty := mem_of_lookup_foldl_insert h
  · exact hmem
  · rw [AList.lookup_empty] at hempty
    cases hempty

/-- A map whose keys all lie in a list of its own size covers that list. -/
theorem covers_of_size_eq {m : AssocMap α β} {l : List α} (hsub : ∀ a ∈ m.keys, a ∈ l)
    (hsize : l.length = size m) {a : α} (ha : a ∈ l) : ∃ b, AList.lookup a m = some b := by
  have hperm : m.keys.Perm l :=
    (List.subperm_of_subset m.keys_nodup hsub).perm_of_length_le
      (by rw [hsize, size_eq_keys_length])
  exact mem_keys_iff_lookup.mp (hperm.mem_iff.mpr ha)

/-! ### Values in key order -/

section KeyOrder

variable {κ : Type*} [LinearOrder κ] [DecidableEq κ]

def intoValues (m : AssocMap κ β) : List β :=
  (m.keys.insertionSort (· ≤ ·)).filterMap fun key => AList.lookup key m

theorem mem_intoValues {m : AssocMap κ β} {b : β} :
    b ∈ intoValues m ↔ ∃ key, AList.lookup key m = some b := by
  simp only [intoValues, List.mem_filterMap, List.mem_insertionSort]
  constructor
  · rintro ⟨key, -, h⟩
    exact ⟨key, h⟩
  · rintro ⟨key, h⟩
    exact ⟨key, mem_keys_iff_lookup.mpr ⟨b, h⟩, h⟩

theorem forall₂_filterMap {α' β' γ : Type*} {R : β' → γ → Prop} {f : α' → Option β'}
    {g : α' → Option γ} (related : ∀ a, Option.Rel R (f a) (g a)) (l : List α') :
    List.Forall₂ R (l.filterMap f) (l.filterMap g) := by
  induction l with
  | nil => exact .nil
  | cons a l ih =>
    have ha := related a
    cases hf : f a <;> cases hg : g a <;> rw [hf, hg] at ha <;> cases ha
    · rw [List.filterMap_cons_none hf, List.filterMap_cons_none hg]
      exact ih
    · case some.some.some h =>
      rw [List.filterMap_cons_some hf, List.filterMap_cons_some hg]
      exact .cons h ih

/-- Maps with related values have the same keys, so their values stand in the same order. -/
theorem intoValues_related {γ : Type*} {R : β → γ → Prop} {m : AssocMap κ β} {n : AssocMap κ γ}
    (related : ∀ key, Option.Rel R (AList.lookup key m) (AList.lookup key n)) :
    List.Forall₂ R (intoValues m) (intoValues n) := by
  have hkeys : m.keys.Perm n.keys := by
    rw [List.perm_ext_iff_of_nodup m.keys_nodup n.keys_nodup]
    intro key
    rw [← AList.mem_keys, ← AList.mem_keys, ← AList.lookup_isSome, ← AList.lookup_isSome]
    have hkey := related key
    cases hm : AList.lookup key m <;> cases hn : AList.lookup key n <;> rw [hm, hn] at hkey <;>
      cases hkey <;> simp
  have hsort : m.keys.insertionSort (· ≤ ·) = n.keys.insertionSort (· ≤ ·) :=
    (((List.perm_insertionSort _ _).trans hkeys).trans (List.perm_insertionSort _ _).symm)
      |>.eq_of_pairwise' (List.pairwise_insertionSort _ _) (List.pairwise_insertionSort _ _)
  rw [intoValues, intoValues, hsort]
  exact forall₂_filterMap related _

end KeyOrder

end AssocMap
