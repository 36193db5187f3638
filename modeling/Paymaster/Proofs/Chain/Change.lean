import Paymaster.Proofs.Session.Reply
/-!
# Changes of the active chain

Blocks are pushed at the tip and dropped from it. Whatever is pushed and dropped,
the blocks below a height stay as they are while no change drops one of them; what
stands from there on may be replaced by any blocks.
-/
namespace Paymaster

inductive ChainChange where
  | push (hash : Hash256)
  | truncate (height : Height)

namespace ChainChange

/-- The request by which a session makes the change. -/
def request : ChainChange → Request
  | push hash => .push hash
  | truncate height => .truncate height

/-- Whether a change drops no block below a height. -/
def Keeps (height : Height) : ChainChange → Prop
  | push _ => True
  | truncate tip => height.toInt - 1 ≤ tip.toInt

end ChainChange

namespace Height

theorem toInt_succ (height : Height) : height.succ.toInt = min 2147483647 (height.toInt + 1) := by
  have hleast := Int32.le_toInt height
  rw [succ, toInt_clamp]
  omega

theorem toInt_pred (height : Height) : height.pred.toInt = max (-2147483648) (height.toInt - 1) := by
  have hmost := Int32.toInt_lt height
  rw [pred, toInt_clamp]
  omega

end Height

namespace Chain

def apply (chain : Chain) : ChainChange → Chain
  | .push hash => chain.push hash
  | .truncate height => chain.truncate height

def applyAll (chain : Chain) (changes : List ChainChange) : Chain :=
  changes.foldl apply chain

@[simp] theorem apply_push (chain : Chain) (hash : Hash256) :
    chain.apply (.push hash) = chain.push hash := rfl

@[simp] theorem apply_truncate (chain : Chain) (height : Height) :
    chain.apply (.truncate height) = chain.truncate height := rfl

@[simp] theorem applyAll_nil (chain : Chain) : chain.applyAll [] = chain := rfl

@[simp] theorem applyAll_cons (chain : Chain) (change : ChainChange) (rest : List ChainChange) :
    chain.applyAll (change :: rest) = (chain.apply change).applyAll rest := rfl

/-- The hashes of the blocks below a height. -/
def below (chain : Chain) (height : Height) : List Hash256 :=
  chain.hashes.toList.take height.toInt.toNat

theorem toList_push (chain : Chain) (hash : Hash256) :
    (chain.push hash).hashes.toList = chain.hashes.toList ++ [hash] := by
  rw [push, Array.toList_push]

theorem toList_truncate (chain : Chain) (height : Height) :
    (chain.truncate height).hashes.toList =
      chain.hashes.toList.take height.succ.toInt.toNat := by
  rw [truncate, Array.take_eq_extract, Array.toList_extract]
  simp

private theorem below_apply {chain : Chain} {height : Height} {change : ChainChange}
    (hsize : height.toInt.toNat ≤ chain.hashes.size) (hkeeps : change.Keeps height) :
    (chain.apply change).below height = chain.below height ∧
      height.toInt.toNat ≤ (chain.apply change).hashes.size := by
  rw [← Array.length_toList] at hsize ⊢
  rw [below, below]
  cases change with
  | push hash =>
    rw [apply_push, toList_push]
    refine ⟨List.take_append_of_le_length hsize, ?_⟩
    rw [List.length_append]
    omega
  | truncate tip =>
    have hmost := Int32.toInt_lt height
    have hkept : height.toInt.toNat ≤ tip.succ.toInt.toNat := by
      have hdropped : height.toInt - 1 ≤ tip.toInt := hkeeps
      rw [Height.toInt_succ]
      omega
    rw [apply_truncate, toList_truncate, List.take_take, List.length_take]
    exact ⟨by rw [Nat.min_eq_left hkept], Nat.le_min.mpr ⟨hkept, hsize⟩⟩

theorem below_applyAll {chain : Chain} {height : Height} {changes : List ChainChange}
    (hsize : height.toInt.toNat ≤ chain.hashes.size)
    (hkeeps : ∀ change ∈ changes, change.Keeps height) :
    (chain.applyAll changes).below height = chain.below height := by
  induction changes generalizing chain with
  | nil => rfl
  | cons change rest ih =>
    obtain ⟨hbelow, hleft⟩ := below_apply hsize (hkeeps change List.mem_cons_self)
    have hrest := ih hleft fun c hc => hkeeps c (List.mem_cons_of_mem _ hc)
    rw [applyAll_cons, hrest, hbelow]

/-- Chains with the same blocks below a height show the same block below every height up to it. -/
theorem get?_pred_of_below {left right : Chain} {height lower : Height}
    (h : left.below height = right.below height) (hlower : lower ≤ height) :
    left.get? lower.pred = right.get? lower.pred := by
  rw [get?, get?]
  split
  · rfl
  · next hnegative =>
    have hindex : lower.pred.toInt.toNat < height.toInt.toNat := by
      rw [Int32.le_iff_toInt_le] at hlower
      rw [Int32.lt_iff_toInt_lt, Int32.toInt_zero, Height.toInt_pred] at hnegative
      rw [Height.toInt_pred]
      omega
    have hread (chain : Chain) : chain.hashes[lower.pred.toInt.toNat]? =
        (chain.below height)[lower.pred.toInt.toNat]? := by
      rw [below, List.getElem?_take_of_lt hindex, Array.getElem?_toList]
    rw [hread, hread, h]

theorem toInt_height {chain : Chain} (h : chain.hashes.size < 2147483647) :
    chain.height.toInt = chain.hashes.size - 1 := by
  have hsize : (Int32.ofNat chain.hashes.size).toInt = chain.hashes.size :=
    Int32.toInt_ofNat_of_lt (by omega)
  have hone : (1 : Int32).toInt = 1 := rfl
  rw [height, Int32.toInt_sub, hsize, hone]
  apply Int.bmod_eq_of_le <;> omega

theorem toList_applyAll_push (chain : Chain) (hashes : List Hash256) :
    (chain.applyAll (hashes.map .push)).hashes.toList = chain.hashes.toList ++ hashes := by
  induction hashes generalizing chain with
  | nil => simp
  | cons hash rest ih =>
    rw [List.map_cons, applyAll_cons, ih, apply_push, toList_push, List.append_assoc]
    rfl

/-- The blocks from a height on can be replaced by any others. -/
theorem exists_changes_replacing (chain : Chain) {height : Height} (hpositive : 0 < height.toInt)
    (hashes : List Hash256) :
    ∃ changes, (∀ change ∈ changes, ChainChange.Keeps height change) ∧
      (chain.applyAll changes).hashes.toList = chain.below height ++ hashes := by
  have hmost := Int32.toInt_lt height
  have hpred : height.pred.toInt = height.toInt - 1 := by
    rw [Height.toInt_pred]
    omega
  have hsucc : height.pred.succ.toInt = height.toInt := by
    rw [Height.toInt_succ, hpred]
    omega
  refine ⟨.truncate height.pred :: hashes.map .push, ?_, ?_⟩
  · intro change hchange
    rcases List.mem_cons.mp hchange with rfl | hpush
    · exact Int.le_of_eq hpred.symm
    · obtain ⟨hash, _, rfl⟩ := List.mem_map.mp hpush
      trivial
  · rw [applyAll_cons, apply_truncate, toList_applyAll_push, toList_truncate, hsucc, below]

end Chain

namespace Session

private theorem step_change {session : Session} (hlock : session.lock.poisoned = false)
    (change : ChainChange) (gate : Gate) :
    (session.step gate change.request).1 =
      { session with lock := ⟨session.lock.chain.apply change, false⟩ } := by
  cases change with
  | push hash =>
    have hpush : perform (.push hash) = writeChain (Chain.push · hash) _ := rfl
    exact (step_writeChain hlock hpush gate).1
  | truncate height =>
    have htruncate : perform (.truncate height) = writeChain (Chain.truncate · height) _ := rfl
    exact (step_writeChain hlock htruncate gate).1

theorem run_changes {session : Session} (hlock : session.lock.poisoned = false) (gate : Gate)
    (changes : List ChainChange) :
    (session.run gate (changes.map ChainChange.request)).1 =
      { session with lock := ⟨session.lock.chain.applyAll changes, false⟩ } := by
  induction changes generalizing session with
  | nil =>
    obtain ⟨world, ⟨chain, poisoned⟩, register⟩ := session
    subst hlock
    rfl
  | cons change rest ih =>
    rw [List.map_cons]
    change ((session.step gate change.request).1.run gate _).1 = _
    rw [step_change hlock, ih rfl]
    rfl

end Session

end Paymaster
