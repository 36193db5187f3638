import Mathlib.Data.List.Induction
import Paymaster.Proofs.Chain.Change
/-!
# The chain as a list of blocks

Pushes append to a list and drops keep its first blocks. A chain that stays short
enough for its heights shows exactly this list, under whatever record is kept for
a block: its hash alone, or the entry with the height that was written at its push.
-/
namespace Paymaster

namespace ChainChange

/-- The change of a list that keeps a record of each block, made of its position and its hash. -/
def applyTo {α : Type} (record : Nat → Hash256 → α) (blocks : List α) : ChainChange → List α
  | push hash => blocks ++ [record blocks.length hash]
  | truncate height => blocks.take (height.toInt + 1).toNat

/-- The records that changes leave of the blocks, with none to begin with. -/
def recordsAfter {α : Type} (record : Nat → Hash256 → α) (changes : List ChainChange) : List α :=
  changes.foldl (applyTo record) []

def hashesAfter (changes : List ChainChange) : List Hash256 :=
  recordsAfter (fun _ hash => hash) changes

/-- The entry of a block as it is written down when the block is pushed. -/
def writtenEntry (position : Nat) (hash : Hash256) : BlockEntry :=
  ⟨Int32.ofNat position, hash⟩

def entriesAfter (changes : List ChainChange) : List BlockEntry :=
  recordsAfter writtenEntry changes

/-- Changes never leave so many blocks that the height of the tip reaches the largest one. -/
def StayShort (changes : List ChainChange) : Prop :=
  ∀ before, before <+: changes → (hashesAfter before).length < 2147483647

private theorem take_mapIdx {α β : Type} (f : Nat → α → β) (l : List α) (count : Nat) :
    (l.mapIdx f).take count = (l.take count).mapIdx f := by
  apply List.ext_getElem?
  intro i
  by_cases hi : i < count
  · rw [List.getElem?_take_of_lt hi, List.getElem?_mapIdx, List.getElem?_mapIdx,
      List.getElem?_take_of_lt hi]
  · have hout := Nat.not_lt.mp hi
    rw [List.getElem?_mapIdx, List.getElem?_take_eq_none hout, List.getElem?_take_eq_none hout]
    rfl

private theorem applyTo_mapIdx {α : Type} (record : Nat → Hash256 → α) (hashes : List Hash256)
    (change : ChainChange) :
    change.applyTo record (hashes.mapIdx record) =
      (change.applyTo (fun _ hash => hash) hashes).mapIdx record := by
  cases change with
  | push hash => rw [applyTo, applyTo, List.mapIdx_concat, List.length_mapIdx]
  | truncate height => exact take_mapIdx record hashes _

private theorem recordsAfter_concat {α : Type} (record : Nat → Hash256 → α)
    (changes : List ChainChange) (change : ChainChange) :
    recordsAfter record (changes ++ [change]) =
      change.applyTo record (recordsAfter record changes) := by
  rw [recordsAfter, List.foldl_append]
  rfl

private theorem hashesAfter_concat (changes : List ChainChange) (change : ChainChange) :
    hashesAfter (changes ++ [change]) =
      change.applyTo (fun _ hash => hash) (hashesAfter changes) :=
  recordsAfter_concat _ changes change

/-- Whatever is recorded of a block, it can be made anew from the place of its hash. -/
private theorem recordsAfter_eq_mapIdx {α : Type} (record : Nat → Hash256 → α)
    (changes : List ChainChange) :
    recordsAfter record changes = (hashesAfter changes).mapIdx record := by
  induction changes using List.reverseRecOn with
  | nil => rfl
  | append_singleton changes change ih =>
    rw [recordsAfter_concat, ih, applyTo_mapIdx, hashesAfter_concat]

private theorem length_hashesAfter_le (changes : List ChainChange) :
    (hashesAfter changes).length ≤ changes.length := by
  induction changes using List.reverseRecOn with
  | nil => exact Nat.le_refl 0
  | append_singleton changes change ih =>
    rw [hashesAfter_concat, List.length_append]
    cases change with
    | push hash =>
      rw [applyTo, List.length_append]
      exact Nat.add_le_add_right ih 1
    | truncate height =>
      rw [applyTo, List.length_take]
      omega

private theorem StayShort.of_concat {changes : List ChainChange} {change : ChainChange}
    (h : StayShort (changes ++ [change])) : StayShort changes :=
  fun before hbefore => h before (hbefore.trans (List.prefix_append _ _))

private theorem stayShort_of_length {changes : List ChainChange} (h : changes.length < 2147483647) :
    StayShort changes := by
  intro before hbefore
  have hleft := length_hashesAfter_le before
  have hprefix := hbefore.length_le
  omega

end ChainChange

namespace Height

private theorem ofNat_toNat_toInt {height : Height} (h : ¬ height < 0) :
    Int32.ofNat height.toInt.toNat = height := by
  rw [Int32.lt_iff_toInt_lt, Int32.toInt_zero] at h
  have hmost := Int32.toInt_lt height
  rw [← Int32.toInt_inj, Int32.toInt_ofNat_of_lt (by omega)]
  omega

end Height

namespace Chain

private theorem eq_of_toList {left right : Chain} (h : left.hashes.toList = right.hashes.toList) :
    left = right := by
  cases left
  cases right
  rw [Array.toList_inj] at h
  rw [mk.injEq]
  exact h

private theorem toList_truncate_of_short {chain : Chain} (h : chain.hashes.size ≤ 2147483647)
    (height : Height) :
    (chain.truncate height).hashes.toList = chain.hashes.toList.take (height.toInt + 1).toNat := by
  have hmost := Int32.toInt_lt height
  rw [toList_truncate, Height.toInt_succ, List.take_eq_take_iff, Array.length_toList]
  omega

private theorem toList_apply {chain : Chain} (h : chain.hashes.size ≤ 2147483647)
    (change : ChainChange) :
    (chain.apply change).hashes.toList =
      change.applyTo (fun _ hash => hash) chain.hashes.toList := by
  cases change with
  | push hash => exact toList_push chain hash
  | truncate height => exact toList_truncate_of_short h height

private theorem applyAll_concat (chain : Chain) (changes : List ChainChange) (change : ChainChange) :
    chain.applyAll (changes ++ [change]) = (chain.applyAll changes).apply change := by
  rw [applyAll, List.foldl_append]
  rfl

/-- As long as the list stays short, a chain goes through the changes as the list does. -/
theorem toList_applyAll {changes : List ChainChange} (h : ChainChange.StayShort changes) :
    (empty.applyAll changes).hashes.toList = ChainChange.hashesAfter changes := by
  induction changes using List.reverseRecOn with
  | nil => rfl
  | append_singleton changes change ih =>
    have hbefore := ih h.of_concat
    have hsize : (empty.applyAll changes).hashes.size < 2147483647 := by
      rw [← Array.length_toList, hbefore]
      exact h.of_concat changes List.prefix_rfl
    rw [applyAll_concat, toList_apply (Nat.le_of_lt hsize), hbefore, ChainChange.hashesAfter_concat]

/-- What is shown for a height is the entry written when its block was pushed. -/
theorem get?_eq_written (chain : Chain) (height : Height) :
    chain.get? height =
      if height < 0 then none
      else (chain.hashes.toList.mapIdx ChainChange.writtenEntry)[height.toInt.toNat]? := by
  rw [get?]
  split
  · rfl
  · next hnegative =>
    have hentry : ChainChange.writtenEntry height.toInt.toNat = fun hash => ⟨height, hash⟩ := by
      funext hash
      rw [ChainChange.writtenEntry, Height.ofNat_toNat_toInt hnegative]
    rw [List.getElem?_mapIdx, Array.getElem?_toList, hentry]

private theorem tip?_eq_written (chain : Chain) :
    chain.tip? = (chain.hashes.toList.mapIdx ChainChange.writtenEntry).getLast? := by
  rw [tip?, List.getLast?_mapIdx, Array.getLast?_toList, Array.length_toList]
  by_cases hempty : chain.hashes.size = 0
  · rw [Array.eq_empty_of_size_eq_zero hempty]
    rfl
  · have hheight : chain.height = Int32.ofNat (chain.hashes.size - 1) := by
      rw [Int32.ofNat_sub _ _ (by omega)]
      rfl
    rw [hheight]
    rfl

private theorem get?_eq_some_iff {chain : Chain} {height : Height} {entry : BlockEntry} :
    chain.get? height = some entry ↔
      0 ≤ height ∧ entry.height = height ∧
        chain.hashes.toList[height.toInt.toNat]? = some entry.hash := by
  rw [get?]
  split
  · next hnegative => simp [Int32.not_le.mpr hnegative]
  · next hnegative =>
    rw [Int32.not_lt] at hnegative
    rw [Option.map_eq_some_iff, Array.getElem?_toList]
    constructor
    · rintro ⟨hash, hhash, rfl⟩
      exact ⟨hnegative, rfl, hhash⟩
    · rintro ⟨_, rfl, hhash⟩
      exact ⟨entry.hash, hhash, rfl⟩

private theorem get?_eq_none_iff {chain : Chain} {height : Height} :
    chain.get? height = none ↔ height < 0 ∨ chain.hashes.size ≤ height.toInt.toNat := by
  rw [get?]
  split
  · next hnegative => simp [hnegative]
  · next hnegative => simp [hnegative]

private theorem height_push (chain : Chain) (hash : Hash256) :
    (chain.push hash).height = Int32.ofNat chain.hashes.size := by
  have hsub := Int32.ofNat_sub (chain.hashes.size + 1) 1 (Nat.le_add_left 1 _)
  rw [height, push, Array.size_push]
  exact hsub.symm

section Short

variable {chain : Chain} (hsize : chain.hashes.size < 2147483647)

include hsize

theorem isSome_get?_iff {height : Height} :
    (chain.get? height).isSome ↔ 0 ≤ height ∧ height ≤ chain.height := by
  have hheight := toInt_height hsize
  rw [← Option.ne_none_iff_isSome, ne_eq, get?_eq_none_iff, Int32.lt_iff_toInt_lt,
    Int32.le_iff_toInt_le, Int32.le_iff_toInt_le, hheight, Int32.toInt_zero]
  omega

private theorem tip?_eq_get? : chain.tip? = chain.get? chain.height := by
  have hheight := toInt_height hsize
  rw [tip?, get?]
  split
  · next hnegative =>
    rw [Int32.lt_iff_toInt_lt, hheight, Int32.toInt_zero] at hnegative
    have hempty : chain.hashes = #[] := Array.eq_empty_of_size_eq_zero (by omega)
    rw [hempty]
    rfl
  · have hlast : chain.height.toInt.toNat = chain.hashes.size - 1 := by omega
    rw [Array.back?_eq_getElem?, hlast]

private theorem toInt_height_push (hash : Hash256) :
    (chain.push hash).height.toInt = chain.hashes.size := by
  rw [height_push, Int32.toInt_ofNat_of_lt (by omega)]

theorem get?_push (hash : Hash256) (height : Height) :
    (chain.push hash).get? height =
      if height = (chain.push hash).height then some (chain.nextEntry hash)
      else chain.get? height := by
  have hnew := toInt_height_push hsize hash
  have hsame : height = (chain.push hash).height ↔ height.toInt = chain.hashes.size := by
    rw [← Int32.toInt_inj, hnew]
  rw [get?, get?]
  by_cases hnegative : height < 0
  · have hother : height ≠ (chain.push hash).height := by
      rw [Int32.lt_iff_toInt_lt, Int32.toInt_zero] at hnegative
      rw [ne_eq, hsame]
      omega
    rw [if_pos hnegative, if_pos hnegative, if_neg hother]
  · have hread : (chain.push hash).hashes[height.toInt.toNat]? =
        if height.toInt.toNat = chain.hashes.size then some hash
        else chain.hashes[height.toInt.toNat]? :=
      Array.getElem?_push
    have hindex : height.toInt.toNat = chain.hashes.size ↔ height.toInt = chain.hashes.size := by
      rw [Int32.lt_iff_toInt_lt, Int32.toInt_zero] at hnegative
      omega
    rw [if_neg hnegative, if_neg hnegative, hread]
    by_cases htip : height.toInt = chain.hashes.size
    · rw [if_pos (hindex.mpr htip), if_pos (hsame.mpr htip), hsame.mpr htip, height_push]
      rfl
    · rw [if_neg (mt hindex.mp htip), if_neg (mt hsame.mp htip)]

private theorem size_truncate (height : Height) :
    (chain.truncate height).hashes.size = min (height.toInt + 1).toNat chain.hashes.size := by
  rw [← Array.length_toList, toList_truncate_of_short (Nat.le_of_lt hsize), List.length_take,
    Array.length_toList]

private theorem toInt_height_truncate (height : Height) :
    (chain.truncate height).height.toInt = min chain.height.toInt (max height.toInt (-1)) := by
  have hkept := size_truncate hsize height
  rw [toInt_height (by omega), toInt_height hsize]
  omega

theorem get?_truncate {height other : Height} (h : other ≤ (chain.truncate height).height) :
    (chain.truncate height).get? other = chain.get? other := by
  rw [Int32.le_iff_toInt_le, toInt_height_truncate hsize] at h
  rw [get?, get?]
  split
  · rfl
  · next hnegative =>
    rw [Int32.lt_iff_toInt_lt, Int32.toInt_zero] at hnegative
    have hindex : other.toInt.toNat < (height.toInt + 1).toNat := by omega
    rw [← Array.getElem?_toList, ← Array.getElem?_toList,
      toList_truncate_of_short (Nat.le_of_lt hsize), List.getElem?_take_of_lt hindex]

theorem truncate_truncate (height : Height) :
    (chain.truncate height).truncate height = chain.truncate height := by
  have hkept := size_truncate hsize height
  apply eq_of_toList
  rw [toList_truncate_of_short (by omega), toList_truncate_of_short (Nat.le_of_lt hsize),
    List.take_take, Nat.min_self]

private theorem applyAll_push_dropped (height : Height) :
    (chain.truncate height).applyAll
      ((chain.hashes.toList.drop (height.toInt + 1).toNat).map .push) = chain := by
  apply eq_of_toList
  rw [toList_applyAll_push, toList_truncate_of_short (Nat.le_of_lt hsize), List.take_append_drop]

end Short

/-- A chain shows a list of hashes, and the entries that were written for them. -/
structure Shows (chain : Chain) (hashes : List Hash256) (entries : List BlockEntry) : Prop where
  toList : chain.hashes.toList = hashes
  tipHeight : chain.height.toInt = hashes.length - 1
  isSome_get? (height : Height) :
    (chain.get? height).isSome ↔ 0 ≤ height ∧ height ≤ chain.height
  entry_of_get? (height : Height) (entry : BlockEntry) :
    chain.get? height = some entry →
      entry.height = height ∧ hashes[height.toInt.toNat]? = some entry.hash
  get?_written (height : Height) :
    chain.get? height = if height < 0 then none else entries[height.toInt.toNat]?
  tip?_written : chain.tip? = entries.getLast?
  tip? : chain.tip? = chain.get? chain.height

/-- A push answers with the entry that is then shown for the new height, and with this height. -/
structure PushExtends (chain : Chain) (hash : Hash256) : Prop where
  tipHeight : (chain.push hash).height.toInt = chain.height.toInt + 1
  answer (world : World) (register : Transaction) (gate : Gate) :
    ∃ entry, ((Session.mk world ⟨chain, false⟩ register).step gate (.push hash)).2.result =
        .ok (.pushed entry (chain.push hash).height) ∧
      (chain.push hash).get? (chain.push hash).height = some entry
  others (height : Height) :
    height ≠ (chain.push hash).height → (chain.push hash).get? height = chain.get? height

/-- A drop keeps the blocks up to a height as they are; the others can be pushed again. -/
structure TruncateKeeps (chain : Chain) (height : Height) : Prop where
  tipHeight : (chain.truncate height).height.toInt = min chain.height.toInt (max height.toInt (-1))
  others (other : Height) :
    other ≤ (chain.truncate height).height → (chain.truncate height).get? other = chain.get? other
  again : (chain.truncate height).truncate height = chain.truncate height
  restored : (chain.truncate height).applyAll
    ((chain.hashes.toList.drop (height.toInt + 1).toNat).map .push) = chain

theorem shows_written {chain : Chain} (hsize : chain.hashes.size < 2147483647) :
    chain.Shows chain.hashes.toList (chain.hashes.toList.mapIdx ChainChange.writtenEntry) where
  toList := rfl
  tipHeight := toInt_height hsize
  isSome_get? _ := isSome_get?_iff hsize
  entry_of_get? _ _ h := (get?_eq_some_iff.mp h).2
  get?_written := get?_eq_written chain
  tip?_written := tip?_eq_written chain
  tip? := tip?_eq_get? hsize

theorem pushExtends {chain : Chain} (hsize : chain.hashes.size < 2147483647) (hash : Hash256) :
    chain.PushExtends hash where
  tipHeight := by
    rw [toInt_height_push hsize, toInt_height hsize, Int.sub_add_cancel]
  answer world register gate := by
    let session : Session := ⟨world, ⟨chain, false⟩, register⟩
    have hlock : session.lock.poisoned = false := rfl
    refine ⟨chain.nextEntry hash, ?_, ?_⟩
    · have hpush : Session.perform (.push hash) = Session.writeChain (push · hash) _ := rfl
      exact (Session.step_writeChain hlock hpush gate).2
    · rw [get?_push hsize, if_pos rfl]
  others height hother := by rw [get?_push hsize, if_neg hother]

theorem truncateKeeps {chain : Chain} (hsize : chain.hashes.size < 2147483647) (height : Height) :
    chain.TruncateKeeps height where
  tipHeight := toInt_height_truncate hsize height
  others _ hother := get?_truncate hsize hother
  again := truncate_truncate hsize height
  restored := applyAll_push_dropped hsize height

/-- A chain that starts without blocks and stays short shows the list of hashes that its changes
leave, each with the height written at its push: a block is shown from height zero up to the tip and
nowhere else. One more push adds the block that it answers with and changes no other; one more drop
keeps the blocks up to its height, however low or high, and changes none of them. -/
theorem shows_hashesAfter {changes : List ChainChange} (h : ChainChange.StayShort changes) :
    (empty.applyAll changes).Shows (ChainChange.hashesAfter changes)
      (ChainChange.entriesAfter changes) ∧
    (∀ hash, (empty.applyAll changes).PushExtends hash) ∧
    ∀ height, (empty.applyAll changes).TruncateKeeps height := by
  have hlist := toList_applyAll h
  have hsize : (empty.applyAll changes).hashes.size < 2147483647 := by
    rw [← Array.length_toList, hlist]
    exact h changes List.prefix_rfl
  refine ⟨?_, pushExtends hsize, truncateKeeps hsize⟩
  rw [ChainChange.entriesAfter, ChainChange.recordsAfter_eq_mapIdx, ← hlist]
  exact shows_written hsize

/-- Two blocks, of which the second is replaced; the other drops are out of all bounds. -/
def smallChanges (first second third : Hash256) : List ChainChange :=
  [.truncate (-2147483648), .push first, .push second, .truncate 0, .push third, .truncate 2147483647]

theorem shows_hashesAfter_small :
    let hash (byte : UInt8) : Hash256 := ⟨List.replicate 32 byte, List.length_replicate⟩
    let changes := smallChanges (hash 1) (hash 2) (hash 3)
    ChainChange.StayShort changes ∧
    (empty.applyAll changes).Shows [hash 1, hash 3] [⟨0, hash 1⟩, ⟨1, hash 3⟩] ∧
    (empty.applyAll changes).PushExtends (hash 4) ∧
    (empty.applyAll changes).TruncateKeeps (-2147483648) := by
  intro hash changes
  have hshort : ChainChange.StayShort changes := ChainChange.stayShort_of_length (by decide)
  obtain ⟨hshows, hpush, htruncate⟩ := shows_hashesAfter hshort
  exact ⟨hshort, hshows, hpush (hash 4), htruncate (-2147483648)⟩

end Chain

end Paymaster
