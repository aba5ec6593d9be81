import AirSonos.Core.Types
import Mathlib.Data.List.Sort
import Mathlib.Algebra.Order.Ring.Int

/-!
# Room delays from configured offsets

A positive offset describes a late room. Every faster room is delayed to the largest offset
among the rooms, so that delay plus offset is the same number for all of them.
-/

namespace AirSonos

structure ZoneDelay where
  zoneId : ZoneId
  delayMs : Nat
deriving DecidableEq

/-- `i64::saturating_sub`. -/
def saturatingSub (a b : Int) : Int :=
  max (-2 ^ 63) (min (2 ^ 63 - 1) (a - b))

def recommendedDelayForZone (zoneOffsetMs slowestOffsetMs : Int) : Nat :=
  (max (saturatingSub slowestOffsetMs zoneOffsetMs) 0).toNat

def delaysFromOffsets (offsets : AssocMap ZoneId Int) : List ZoneDelay :=
  let slowest := (AssocMap.values offsets).max?.getD 0
  (offsets.entries.insertionSort fun e e' => e.1.value ≤ e'.1.value).map fun e =>
    ⟨e.1, recommendedDelayForZone e.2 slowest⟩

/-- The entry of the zone id wins over the entry of the room name; the default is only a
fallback. -/
def zoneOffset (explicit : AssocMap String Int) (defaultOffsetMs : Int)
    (zone : ZoneId × String) : Int :=
  ((explicit.lookup zone.1.value).or (explicit.lookup zone.2)).getD defaultOffsetMs

def configuredDelays (zones : List (ZoneId × String)) (explicit : AssocMap String Int)
    (defaultOffsetMs : Int) : List ZoneDelay :=
  delaysFromOffsets (AssocMap.collect (zones.map fun zone =>
    (zone.1, zoneOffset explicit defaultOffsetMs zone)))

example : (configuredDelays [(⟨"a"⟩, "Kitchen"), (⟨"b"⟩, "Office"), (⟨"c"⟩, "Den")]
    (AssocMap.collect [("Kitchen", -20), ("b", 80)]) 30).map (·.delayMs) = [100, 0, 50] := by
  decide

theorem recommendedDelay_add {offset slowest : Int} (hle : offset ≤ slowest)
    (hlow : -10000 ≤ offset) (hhigh : slowest ≤ 10000) :
    (recommendedDelayForZone offset slowest : Int) + offset = slowest := by
  unfold recommendedDelayForZone saturatingSub
  omega

theorem mem_delaysFromOffsets {offsets : AssocMap ZoneId Int} {delay : ZoneDelay} :
    delay ∈ delaysFromOffsets offsets ↔
      ∃ offset, offsets.lookup delay.zoneId = some offset ∧
        delay.delayMs =
          recommendedDelayForZone offset ((AssocMap.values offsets).max?.getD 0) := by
  simp only [delaysFromOffsets, List.mem_map, List.mem_insertionSort,
    AssocMap.lookup_eq_some_iff]
  constructor
  · rintro ⟨⟨zone, offset⟩, he, rfl⟩
    exact ⟨offset, he, rfl⟩
  · rintro ⟨offset, he, hd⟩
    exact ⟨⟨delay.zoneId, offset⟩, he, by rw [← hd]⟩

/-- A zone has one delay. -/
theorem delaysFromOffsets_unique {offsets : AssocMap ZoneId Int} {delay other : ZoneDelay}
    (h : delay ∈ delaysFromOffsets offsets) (h' : other ∈ delaysFromOffsets offsets)
    (same : other.zoneId = delay.zoneId) : other = delay := by
  obtain ⟨offset, hoffset, hdelay⟩ := mem_delaysFromOffsets.mp h
  obtain ⟨offset', hoffset', hother⟩ := mem_delaysFromOffsets.mp h'
  rw [same, hoffset] at hoffset'
  cases hoffset'
  cases delay
  cases other
  simp_all

theorem zone_of_mem_configuredDelays {zones : List (ZoneId × String)}
    {explicit : AssocMap String Int} {defaultOffsetMs : Int} {delay : ZoneDelay}
    (h : delay ∈ configuredDelays zones explicit defaultOffsetMs)
    (hzones : (zones.map Prod.fst).Nodup) : delay.zoneId ∈ zones.map Prod.fst := by
  obtain ⟨offset, hoffset, -⟩ := mem_delaysFromOffsets.mp h
  rw [AssocMap.lookup_collect (by simpa [Function.comp_def] using hzones)] at hoffset
  obtain ⟨zone, hzone, heq⟩ := List.mem_map.mp hoffset
  exact List.mem_map.mpr ⟨zone, hzone, (Prod.mk.inj heq).1⟩

theorem zoneOffset_bounded (sync : SyncConfig) (zone : ZoneId × String) :
    -10000 ≤ zoneOffset sync.zoneOffsetsMs sync.defaultOffsetMs zone ∧
      zoneOffset sync.zoneOffsetsMs sync.defaultOffsetMs zone ≤ 10000 := by
  unfold zoneOffset
  cases hid : sync.zoneOffsetsMs.lookup zone.1.value with
  | some offset => exact sync.offsets_bounded _ _ hid
  | none =>
    cases hname : sync.zoneOffsetsMs.lookup zone.2 with
    | some offset => exact sync.offsets_bounded _ _ hname
    | none => exact sync.default_bounded

/-- Every room of a validated configuration is delayed to the largest offset of the rooms. -/
theorem configuredDelays_align (sync : SyncConfig) {zones : List (ZoneId × String)}
    (hzones : (zones.map Prod.fst).Nodup) {zone : ZoneId × String} (hmem : zone ∈ zones) :
    ∃ delay ∈ configuredDelays zones sync.zoneOffsetsMs sync.defaultOffsetMs,
      delay.zoneId = zone.1 ∧
      (zones.map (zoneOffset sync.zoneOffsetsMs sync.defaultOffsetMs)).max? =
        some (delay.delayMs + zoneOffset sync.zoneOffsetsMs sync.defaultOffsetMs zone) := by
  let offset := zoneOffset sync.zoneOffsetsMs sync.defaultOffsetMs
  let pairs := zones.map fun zone => (zone.1, offset zone)
  have hpairs : (pairs.map Prod.fst).Nodup := by simpa [pairs, Function.comp_def] using hzones
  have hlookup : (AssocMap.collect pairs).lookup zone.1 = some (offset zone) :=
    (AssocMap.lookup_collect hpairs).mpr (List.mem_map.mpr ⟨zone, hmem, rfl⟩)
  have hvalues (x : Int) : x ∈ AssocMap.values (AssocMap.collect pairs) ↔ x ∈ zones.map offset := by
    rw [AssocMap.mem_values_iff]
    simp only [AssocMap.lookup_collect hpairs, pairs, List.mem_map, Prod.mk.injEq]
    constructor
    · rintro ⟨_, z, hz, _, rfl⟩
      exact ⟨z, hz, rfl⟩
    · rintro ⟨z, hz, rfl⟩
      exact ⟨z.1, z, hz, rfl, rfl⟩
  obtain ⟨slowest, hslowest⟩ : ∃ s, (zones.map offset).max? = some s :=
    Option.ne_none_iff_exists'.mp (by simp [List.ne_nil_of_mem hmem])
  have hmax := List.max?_eq_some_iff.mp hslowest
  have hcollected : (AssocMap.values (AssocMap.collect pairs)).max? = some slowest := by
    rw [List.max?_eq_some_iff]
    exact ⟨(hvalues slowest).mpr hmax.1, fun x hx => hmax.2 x ((hvalues x).mp hx)⟩
  have hhigh : slowest ≤ 10000 := by
    obtain ⟨z, _, rfl⟩ := List.mem_map.mp hmax.1
    exact (zoneOffset_bounded sync z).2
  have hle : offset zone ≤ slowest := hmax.2 _ (List.mem_map.mpr ⟨zone, hmem, rfl⟩)
  refine ⟨⟨zone.1, recommendedDelayForZone (offset zone) slowest⟩, ?_, rfl, ?_⟩
  · rw [configuredDelays, mem_delaysFromOffsets]
    exact ⟨offset zone, hlookup, by rw [hcollected]; rfl⟩
  · rw [hslowest]
    exact congrArg some
      (recommendedDelay_add hle (zoneOffset_bounded sync zone).1 hhigh).symm

/-! ### The queue of the encoder -/

namespace SyncConfig

/-- `i64::clamp` to the bounds of an offset. -/
def clampOffset (offset : Int) : Int :=
  max (-10000) (min 10000 offset)

/-- The smallest and the largest offset; the default one always counts. -/
def offsetRange (sync : SyncConfig) : Int × Int :=
  (AssocMap.values sync.zoneOffsetsMs).foldl
    (fun range offset => (min range.1 (clampOffset offset), max range.2 (clampOffset offset)))
    (clampOffset sync.defaultOffsetMs, clampOffset sync.defaultOffsetMs)

def pcmQueueDuration (sync : SyncConfig) : Duration :=
  Duration.fromMillis
    (min sync.startDeadlineMs 60000 + (sync.offsetRange.2 - sync.offsetRange.1).toNat + 250)

theorem clampOffset_of_bounded {offset : Int} (h : -10000 ≤ offset ∧ offset ≤ 10000) :
    clampOffset offset = offset := by
  unfold clampOffset
  omega

/-- The range of the fold covers what it starts with and every offset it walks. -/
theorem range_covers (offsets : List Int) (range : Int × Int) :
    (offsets.foldl (fun range offset =>
        (min range.1 (clampOffset offset), max range.2 (clampOffset offset))) range).1 ≤ range.1 ∧
      range.2 ≤ (offsets.foldl (fun range offset =>
        (min range.1 (clampOffset offset), max range.2 (clampOffset offset))) range).2 ∧
      ∀ offset ∈ offsets,
        (offsets.foldl (fun range offset =>
          (min range.1 (clampOffset offset), max range.2 (clampOffset offset))) range).1 ≤
            clampOffset offset ∧
        clampOffset offset ≤ (offsets.foldl (fun range offset =>
          (min range.1 (clampOffset offset), max range.2 (clampOffset offset))) range).2 := by
  induction offsets generalizing range with
  | nil => exact ⟨Int.le_refl _, Int.le_refl _, List.forall_mem_nil _⟩
  | cons offset rest ih =>
    obtain ⟨hlow, hhigh, hrest⟩ :=
      ih (min range.1 (clampOffset offset), max range.2 (clampOffset offset))
    simp only [List.foldl_cons, List.forall_mem_cons]
    refine ⟨?_, ?_, ⟨?_, ?_⟩, hrest⟩
    · exact hlow.trans (Int.min_le_left _ _)
    · exact (Int.le_max_left _ _).trans hhigh
    · exact hlow.trans (Int.min_le_right _ _)
    · exact (Int.le_max_right _ _).trans hhigh

/-- The offset of a room is in the range. -/
theorem zoneOffset_in_range (sync : SyncConfig) (zone : ZoneId × String) :
    sync.offsetRange.1 ≤ zoneOffset sync.zoneOffsetsMs sync.defaultOffsetMs zone ∧
      zoneOffset sync.zoneOffsetsMs sync.defaultOffsetMs zone ≤ sync.offsetRange.2 := by
  obtain ⟨hlow, hhigh, hwalked⟩ := range_covers (AssocMap.values sync.zoneOffsetsMs)
    (clampOffset sync.defaultOffsetMs, clampOffset sync.defaultOffsetMs)
  have hexplicit {key : String} {offset : Int} (h : sync.zoneOffsetsMs.lookup key = some offset) :
      sync.offsetRange.1 ≤ offset ∧ offset ≤ sync.offsetRange.2 := by
    have hrange := hwalked offset (AssocMap.mem_values_iff.mpr ⟨key, h⟩)
    rw [clampOffset_of_bounded (sync.offsets_bounded key offset h)] at hrange
    exact hrange
  unfold zoneOffset
  cases hid : sync.zoneOffsetsMs.lookup zone.1.value with
  | some offset => exact hexplicit hid
  | none =>
    cases hname : sync.zoneOffsetsMs.lookup zone.2 with
    | some offset => exact hexplicit hname
    | none =>
      have hdefault := clampOffset_of_bounded sync.default_bounded
      exact ⟨hlow.trans_eq hdefault, hdefault.symm.trans_le hhigh⟩

/-- Clamped offsets bound the length of the queue. -/
theorem pcmQueueDuration_le (sync : SyncConfig) :
    sync.pcmQueueDuration ≤ Duration.fromMillis 80250 := by
  have hclamped (offset : Int) : -10000 ≤ clampOffset offset ∧ clampOffset offset ≤ 10000 := by
    unfold clampOffset
    omega
  have hfold (offsets : List Int) (range : Int × Int) (low : -10000 ≤ range.1)
      (high : range.2 ≤ 10000) :
      -10000 ≤ (offsets.foldl (fun range offset =>
          (min range.1 (clampOffset offset), max range.2 (clampOffset offset))) range).1 ∧
        (offsets.foldl (fun range offset =>
          (min range.1 (clampOffset offset), max range.2 (clampOffset offset))) range).2 ≤ 10000 := by
    induction offsets generalizing range with
    | nil => exact ⟨low, high⟩
    | cons offset rest ih =>
      have hoffset := hclamped offset
      exact ih _ (le_min low hoffset.1) (max_le high hoffset.2)
  have hdefault := hclamped sync.defaultOffsetMs
  have hrange : -10000 ≤ sync.offsetRange.1 ∧ sync.offsetRange.2 ≤ 10000 :=
    hfold _ _ hdefault.1 hdefault.2
  apply Nat.mul_le_mul_right
  omega

theorem recommendedDelayForZone_le (offset slowest : Int) :
    recommendedDelayForZone offset slowest ≤ (slowest - offset).toNat := by
  unfold recommendedDelayForZone saturatingSub
  rw [Int.toNat_le]
  rw [max_le_iff, max_le_iff]
  omega

/-- No room is delayed by more than the queue is long, with 250 ms to spare. -/
theorem delay_le_pcmQueueDuration (sync : SyncConfig) {zones : List (ZoneId × String)}
    {delay : ZoneDelay}
    (h : delay ∈ configuredDelays zones sync.zoneOffsetsMs sync.defaultOffsetMs) :
    Duration.fromMillis (delay.delayMs + 250) ≤ sync.pcmQueueDuration := by
  have hoffset {zoneId : ZoneId} {offset : Int}
      (h : (AssocMap.collect (zones.map fun zone =>
        (zone.1, zoneOffset sync.zoneOffsetsMs sync.defaultOffsetMs zone))).lookup zoneId =
          some offset) : sync.offsetRange.1 ≤ offset ∧ offset ≤ sync.offsetRange.2 := by
    obtain ⟨zone, -, heq⟩ := List.mem_map.mp (AssocMap.mem_of_lookup_collect h)
    cases heq
    exact sync.zoneOffset_in_range zone
  obtain ⟨offset, hlookup, hdelay⟩ := mem_delaysFromOffsets.mp h
  obtain ⟨slowest, hslowest⟩ : ∃ slowest, (AssocMap.values (AssocMap.collect (zones.map fun zone =>
      (zone.1, zoneOffset sync.zoneOffsetsMs sync.defaultOffsetMs zone)))).max? = some slowest :=
    Option.ne_none_iff_exists'.mp (by
      rw [ne_eq, List.max?_eq_none_iff]
      exact List.ne_nil_of_mem (AssocMap.mem_values_iff.mpr ⟨_, hlookup⟩))
  obtain ⟨zoneId, hzone⟩ := AssocMap.mem_values_iff.mp (List.max?_eq_some_iff.mp hslowest).1
  have hlow := (hoffset hlookup).1
  have hhigh := (hoffset hzone).2
  have hle := recommendedDelayForZone_le offset slowest
  rw [hslowest, Option.getD_some] at hdelay
  apply Nat.mul_le_mul_right
  omega

end SyncConfig

end AirSonos
