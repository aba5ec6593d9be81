import AirSonos.Lib.Bytes
import Mathlib.Data.List.Chain

/-!
# The TLV codec of the pairing messages

A value of more than 255 bytes goes out in several items of one tag. The reader joins an item to
the entry before it when the tags agree and that entry is made of full items only. So two
entries can run together, and exactly when they would, a message is not read back as it was.
-/

namespace AirSonos.Rtsp.Tlv

/-- The tag and the value of each entry, in order. -/
abbrev TlvValues := List (UInt8 × List UInt8)

inductive TlvError
  | truncated
deriving DecidableEq

def MAX_ITEM : ℕ := 255

def encodeItem (tag : UInt8) (chunk : List UInt8) : List UInt8 :=
  tag :: UInt8.ofNat chunk.length :: chunk

def encodeEntry (entry : UInt8 × List UInt8) : List UInt8 :=
  if entry.2.isEmpty then [entry.1, 0]
  else (entry.2.chunks MAX_ITEM).flatMap (encodeItem entry.1)

def encode (values : TlvValues) : List UInt8 :=
  values.flatMap encodeEntry

/-- An item with this tag behind the entry continues it. -/
def Continues (last : UInt8 × List UInt8) (tag : UInt8) : Prop :=
  last.1 = tag ∧ last.2.length % MAX_ITEM = 0 ∧ last.2 ≠ []

instance (last : UInt8 × List UInt8) (tag : UInt8) : Decidable (Continues last tag) :=
  inferInstanceAs (Decidable (_ ∧ _ ∧ _))

def pushItem (values : TlvValues) (tag : UInt8) (chunk : List UInt8) : TlvValues :=
  match values.getLast? with
  | some last =>
    if Continues last tag then values.dropLast ++ [(last.1, last.2 ++ chunk)]
    else values ++ [(tag, chunk)]
  | none => [(tag, chunk)]

def decodeFrom : (fuel : ℕ) → (data : List UInt8) → TlvValues → Except TlvError TlvValues
  | 0, _, values => .ok values
  | _ + 1, [], values => .ok values
  | _ + 1, [_], _ => .error .truncated
  | fuel + 1, tag :: len :: data, values =>
    if data.length < len.toNat then .error .truncated
    else decodeFrom fuel (data.drop len.toNat) (pushItem values tag (data.take len.toNat))

def decode (data : List UInt8) : Except TlvError TlvValues :=
  decodeFrom data.length data []

/-! ### Joining -/

theorem pushItem_snoc (values : TlvValues) (last : UInt8 × List UInt8) (tag : UInt8)
    (chunk : List UInt8) :
    pushItem (values ++ [last]) tag chunk =
      if Continues last tag then values ++ [(last.1, last.2 ++ chunk)]
      else values ++ [last] ++ [(tag, chunk)] := by
  simp only [pushItem, List.getLast?_concat, List.dropLast_concat]

theorem pushItem_cases (values : TlvValues) (tag : UInt8) (chunk : List UInt8) :
    (∃ front last, values = front ++ [last] ∧ Continues last tag ∧
      pushItem values tag chunk = front ++ [(last.1, last.2 ++ chunk)]) ∨
    ((∀ last ∈ values.getLast?, ¬Continues last tag) ∧
      pushItem values tag chunk = values ++ [(tag, chunk)]) := by
  rcases List.eq_nil_or_concat' values with rfl | ⟨front, last, rfl⟩
  · exact .inr ⟨nofun, rfl⟩
  · rw [pushItem_snoc, List.getLast?_concat]
    split
    · rename_i hcontinues
      exact .inl ⟨front, last, rfl, hcontinues, rfl⟩
    · rename_i hapart
      refine .inr ⟨?_, rfl⟩
      rintro _ ⟨⟩
      exact hapart

/-- Behind a full item the next one is joined. -/
theorem pushItem_pushItem (values : TlvValues) (tag : UInt8) {full : List UInt8}
    (length : full.length = MAX_ITEM) (chunk : List UInt8) :
    pushItem (pushItem values tag full) tag chunk = pushItem values tag (full ++ chunk) := by
  have hfull : full ≠ [] := by
    rintro rfl
    cases length
  obtain ⟨front, last, rfl, hcontinues, heq⟩ | ⟨hapart, heq⟩ := pushItem_cases values tag full
  · have hlater : Continues (last.1, last.2 ++ full) tag := by
      refine ⟨hcontinues.1, ?_, List.append_ne_nil_of_right_ne_nil _ hfull⟩
      rw [List.length_append, length, Nat.add_mod_right]
      exact hcontinues.2.1
    rw [heq, pushItem_snoc, if_pos hlater, pushItem_snoc, if_pos hcontinues, List.append_assoc]
  · have hlater : Continues (tag, full) tag := ⟨rfl, by rw [length, Nat.mod_self], hfull⟩
    rw [heq, pushItem_snoc, if_pos hlater]
    obtain ⟨front, last, rfl, hcontinues, -⟩ | ⟨-, heq'⟩ :=
      pushItem_cases values tag (full ++ chunk)
    · exact absurd hcontinues (hapart last (by simp))
    · exact heq'.symm

/-- What the reader makes of a list of entries. -/
def fuse (values : TlvValues) : TlvValues :=
  values.foldl (fun fused entry => pushItem fused entry.1 entry.2) []

/-- No entry would run together with the one behind it. -/
def Separated (values : TlvValues) : Prop :=
  values.IsChain fun last next => ¬Continues last next.1

theorem separated_pushItem {values : TlvValues} (h : Separated values) (tag : UInt8)
    (chunk : List UInt8) : Separated (pushItem values tag chunk) := by
  obtain ⟨front, last, rfl, -, heq⟩ | ⟨hapart, heq⟩ := pushItem_cases values tag chunk
  · rw [heq]
    obtain ⟨hfront, -, hjoint⟩ := List.isChain_append.mp h
    refine List.isChain_append.mpr ⟨hfront, .singleton _, fun before hbefore next hnext => ?_⟩
    cases hnext
    exact hjoint before hbefore last rfl
  · rw [heq]
    refine List.isChain_append.mpr ⟨h, .singleton _, fun last hlast next hnext => ?_⟩
    cases hnext
    exact hapart last hlast

theorem separated_foldl {values fused : TlvValues} (h : Separated fused) :
    Separated (values.foldl (fun fused entry => pushItem fused entry.1 entry.2) fused) := by
  induction values generalizing fused with
  | nil => exact h
  | cons entry values ih => exact ih (separated_pushItem h entry.1 entry.2)

theorem foldl_of_separated {front values : TlvValues} (h : Separated (front ++ values)) :
    values.foldl (fun fused entry => pushItem fused entry.1 entry.2) front = front ++ values := by
  induction values generalizing front with
  | nil => exact (List.append_nil front).symm
  | cons entry values ih =>
    have hpush : pushItem front entry.1 entry.2 = front ++ [entry] := by
      obtain ⟨before, last, rfl, hcontinues, -⟩ | ⟨-, heq⟩ := pushItem_cases front entry.1 entry.2
      · obtain ⟨-, -, hjoint⟩ := List.isChain_append.mp h
        exact absurd hcontinues (hjoint last (by simp) entry rfl)
      · exact heq
    rw [List.foldl_cons, hpush, ih (by rwa [List.append_assoc, List.singleton_append]),
      List.append_assoc, List.singleton_append]

theorem fuse_eq_iff (values : TlvValues) : fuse values = values ↔ Separated values := by
  constructor
  · intro h
    rw [← h]
    exact separated_foldl .nil
  · intro h
    exact foldl_of_separated h

/-! ### Reading what was written -/

theorem decodeFrom_item (fuel : ℕ) (tag : UInt8) {chunk : List UInt8}
    (length : chunk.length ≤ MAX_ITEM) (data : List UInt8) (values : TlvValues) :
    decodeFrom (fuel + 1) (encodeItem tag chunk ++ data) values =
      decodeFrom fuel data (pushItem values tag chunk) := by
  have hlen : (UInt8.ofNat chunk.length).toNat = chunk.length := by
    rw [UInt8.toNat_ofNat', Nat.mod_eq_of_lt]
    exact Nat.lt_of_le_of_lt length (by decide)
  have henough : ¬(chunk ++ data).length < chunk.length := by
    rw [List.length_append]
    omega
  rw [encodeItem, List.cons_append, List.cons_append, decodeFrom, hlen, if_neg henough,
    List.drop_left, List.take_left]

theorem decodeFrom_items {items : TlvValues}
    (lengths : ∀ item ∈ items, item.2.length ≤ MAX_ITEM) (spare : ℕ) (values : TlvValues) :
    decodeFrom (items.length + spare) (items.flatMap fun item => encodeItem item.1 item.2) values =
      .ok (items.foldl (fun values item => pushItem values item.1 item.2) values) := by
  induction items generalizing values with
  | nil => cases spare <;> rfl
  | cons item items ih =>
    rw [List.flatMap_cons, List.length_cons, Nat.add_right_comm,
      decodeFrom_item _ _ (lengths item List.mem_cons_self)]
    exact ih (fun other hmem => lengths other (List.mem_cons_of_mem _ hmem)) _

/-- The items of one value are joined to the value. -/
theorem foldl_chunks {fuel : ℕ} (tag : UInt8) {value : List UInt8} (nonempty : value ≠ [])
    (enough : value.length ≤ fuel) (values : TlvValues) :
    (List.chunksWithin MAX_ITEM fuel value).foldl (fun values chunk => pushItem values tag chunk)
      values = pushItem values tag value := by
  induction fuel generalizing value values with
  | zero => exact absurd (List.eq_nil_of_length_eq_zero (Nat.le_zero.mp enough)) nonempty
  | succ fuel ih =>
    rw [List.chunksWithin, if_neg (mt List.isEmpty_iff.mp nonempty), List.foldl_cons]
    have hpos : 0 < MAX_ITEM := by decide
    by_cases hrest : value.drop MAX_ITEM = []
    · have htake : value.take MAX_ITEM = value :=
        List.take_of_length_le (List.drop_eq_nil_iff.mp hrest)
      have hnone : List.chunksWithin MAX_ITEM fuel ([] : List UInt8) = [] := by
        cases fuel <;> rfl
      rw [hrest, hnone, htake, List.foldl_nil]
    · have hlong : MAX_ITEM < value.length := by
        by_contra hshort
        exact hrest (List.drop_eq_nil_of_le (Nat.not_lt.mp hshort))
      have hlength : (value.take MAX_ITEM).length = MAX_ITEM := by
        rw [List.length_take]
        omega
      rw [ih hrest (by rw [List.length_drop]; omega), pushItem_pushItem values tag hlength,
        List.take_append_drop]

/-- The items of an entry, as they are written. -/
def itemsOf (entry : UInt8 × List UInt8) : TlvValues :=
  if entry.2.isEmpty then [entry] else (entry.2.chunks MAX_ITEM).map fun chunk => (entry.1, chunk)

theorem encodeEntry_eq (entry : UInt8 × List UInt8) :
    encodeEntry entry = (itemsOf entry).flatMap fun item => encodeItem item.1 item.2 := by
  obtain ⟨tag, value⟩ := entry
  rw [encodeEntry, itemsOf]
  split
  · rename_i hempty
    obtain rfl := List.isEmpty_iff.mp hempty
    rfl
  · rw [List.flatMap_map]

theorem foldl_itemsOf (entry : UInt8 × List UInt8) (values : TlvValues) :
    (itemsOf entry).foldl (fun values item => pushItem values item.1 item.2) values =
      pushItem values entry.1 entry.2 := by
  rw [itemsOf]
  split
  · rfl
  · rename_i hfull
    rw [List.foldl_map]
    exact foldl_chunks entry.1 (mt List.isEmpty_iff.mpr hfull) (Nat.le_refl _) values

theorem length_of_mem_itemsOf {entry item : UInt8 × List UInt8} (h : item ∈ itemsOf entry) :
    item.2.length ≤ MAX_ITEM := by
  rw [itemsOf] at h
  split at h
  · rename_i hempty
    rw [List.mem_singleton.mp h, List.isEmpty_iff.mp hempty]
    exact Nat.zero_le _
  · obtain ⟨chunk, hmem, rfl⟩ := List.mem_map.mp h
    exact (List.length_of_mem_chunks (by decide : 0 < MAX_ITEM) hmem).2

theorem length_le_flatMap (items : TlvValues) :
    items.length ≤ (items.flatMap fun item => encodeItem item.1 item.2).length := by
  induction items with
  | nil => exact Nat.le_refl 0
  | cons item items ih =>
    rw [List.flatMap_cons, List.length_append, List.length_cons, encodeItem, List.length_cons]
    omega

theorem decode_encode (values : TlvValues) : decode (encode values) = .ok (fuse values) := by
  have hitems : encode values =
      (values.flatMap itemsOf).flatMap fun item => encodeItem item.1 item.2 := by
    rw [encode, List.flatMap_assoc]
    exact List.flatMap_congr fun entry _ => encodeEntry_eq entry
  have hlengths : ∀ item ∈ values.flatMap itemsOf, item.2.length ≤ MAX_ITEM := by
    intro item hmem
    obtain ⟨entry, -, hitem⟩ := List.mem_flatMap.mp hmem
    exact length_of_mem_itemsOf hitem
  have hcount : (values.flatMap itemsOf).length ≤ (encode values).length := by
    rw [hitems]
    exact length_le_flatMap _
  obtain ⟨spare, hspare⟩ := Nat.exists_eq_add_of_le hcount
  rw [decode, hspare, hitems, decodeFrom_items hlengths]
  congr 1
  rw [fuse, List.foldl_flatMap]
  congr 1
  funext fused entry
  exact foldl_itemsOf entry fused

/-- Whatever the reader accepts is separated. -/
theorem separated_of_decodeFrom {fuel : ℕ} {data : List UInt8} {fused values : TlvValues}
    (h : Separated fused) (decoded : decodeFrom fuel data fused = .ok values) :
    Separated values := by
  induction fuel, data, fused using decodeFrom.induct with
  | case1 data fused =>
    cases decoded
    exact h
  | case2 fuel fused =>
    rw [decodeFrom] at decoded
    cases decoded
    exact h
  | case3 fuel byte fused =>
    rw [decodeFrom] at decoded
    cases decoded
  | case4 fuel tag len data fused hshort =>
    rw [decodeFrom, if_pos hshort] at decoded
    cases decoded
  | case5 fuel tag len data fused henough ih =>
    rw [decodeFrom, if_neg henough] at decoded
    exact ih (separated_pushItem h _ _) decoded

/-- A list of entries is read back exactly when no two of them run together, and everything that
was ever read is such a list. -/
theorem tlv_round_trip (values : TlvValues) :
    (decode (encode values) = .ok values ↔ Separated values) ∧
      ∀ data, decode data = .ok values → decode (encode values) = .ok values := by
  have hiff : decode (encode values) = .ok values ↔ Separated values := by
    rw [decode_encode, ← fuse_eq_iff, Except.ok.injEq]
  exact ⟨hiff, fun data hdecoded => hiff.mpr (separated_of_decodeFrom .nil hdecoded)⟩

end AirSonos.Rtsp.Tlv
