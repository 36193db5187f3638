import Paymaster.Proofs.Chain.Change
import Paymaster.Proofs.Template.Completion
/-!
# What the verdicts at a height depend on

Schedules, templates and payee checks look at one block of the chain, the one
below their height. So neither growth nor a reorganisation that keeps this block
changes any of them, whatever it puts on top.
-/
namespace Paymaster

namespace World

/-- Whether two locks give the same schedules, templates and payee verdicts at a height, with the
same messages. -/
structure SameVerdicts (world : World) (left right : ChainLock) (height : Height) : Prop where
  schedule (expected : Amount) :
    world.schedule left height expected = world.schedule right height expected
  masternodeOutputs (expected : Amount) :
    world.masternodeOutputs left height expected = world.masternodeOutputs right height expected
  checkTransaction (tx : Transaction) (expected : Amount) :
    world.checkTransaction left tx height expected = world.checkTransaction right tx height expected
  checkPayee (tx : Transaction) (expected actual : Amount) :
    world.checkPayee left tx height expected actual =
      world.checkPayee right tx height expected actual
  fill (expected : Amount) : world.fill left height expected = world.fill right height expected

/-- The chain is read for schedules only. -/
theorem sameVerdicts_of_schedule {world : World} {left right : ChainLock} {height : Height}
    (h : ∀ expected, world.schedule left height expected = world.schedule right height expected) :
    world.SameVerdicts left right height := by
  have houtputs (expected : Amount) :
      world.masternodeOutputs left height expected =
        world.masternodeOutputs right height expected := by
    rw [World.masternodeOutputs, World.masternodeOutputs, h]
  have hcheck (tx : Transaction) (expected : Amount) :
      world.checkTransaction left tx height expected =
        world.checkTransaction right tx height expected := by
    rw [World.checkTransaction, World.checkTransaction, h]
  refine ⟨h, houtputs, hcheck, ?_, ?_⟩
  · intro tx expected actual
    rw [World.checkPayee, World.checkPayee, hcheck]
  · intro expected
    rw [World.fill, World.fill, houtputs]

theorem sameVerdicts_of_get? {world : World} {left right : ChainLock} {height : Height}
    (hleft : left.poisoned = false) (hright : right.poisoned = false)
    (h : left.chain.get? height.pred = right.chain.get? height.pred) :
    world.SameVerdicts left right height := by
  apply sameVerdicts_of_schedule
  intro expected
  rw [schedule_of_readable hleft, schedule_of_readable hright, scheduleOn, scheduleOn, payeeAt,
    payeeAt, h]

/-- Verdicts at a height depend on the block below it alone. While a session pushes blocks and
drops none below a height, all verdicts up to this height stay the same, and such changes reach
every chain that has the same blocks below the height. -/
theorem verdicts_height_pure (world : World) :
    (∀ left right : ChainLock, ∀ height, left.poisoned = false → right.poisoned = false →
      left.chain.get? height.pred = right.chain.get? height.pred →
      world.SameVerdicts left right height) ∧
    (∀ (lock : ChainLock) (register : Transaction) (gate : Gate) (height : Height),
      lock.poisoned = false → lock.chain.hashes.size < 2147483647 →
      0 ≤ height.toInt - 1 → height.toInt - 1 ≤ lock.chain.height.toInt →
      let after (changes : List ChainChange) :=
        ((Session.mk world lock register).run gate (changes.map ChainChange.request)).1
      (∀ changes, (∀ change ∈ changes, ChainChange.Keeps height change) →
        (after changes).world = world ∧
          ∀ lower ≤ height, world.SameVerdicts lock (after changes).lock lower) ∧
      (∀ hashes, ∃ changes, (∀ change ∈ changes, ChainChange.Keeps height change) ∧
        (after changes).lock.chain.hashes.toList = lock.chain.below height ++ hashes)) := by
  refine ⟨?_, ?_⟩
  · intro left right height hleft hright h
    exact sameVerdicts_of_get? hleft hright h
  · intro lock register gate height hlock hsize hpositive hheight after
    have hafter (changes : List ChainChange) : after changes =
        ⟨world, ⟨lock.chain.applyAll changes, false⟩, register⟩ :=
      Session.run_changes hlock gate changes
    refine ⟨?_, ?_⟩
    · intro changes hkeeps
      rw [hafter]
      refine ⟨rfl, ?_⟩
      intro lower hlower
      have hcount : height.toInt.toNat ≤ lock.chain.hashes.size := by
        rw [Chain.toInt_height hsize] at hheight
        omega
      have hbelow := Chain.below_applyAll hcount hkeeps
      exact sameVerdicts_of_get? hlock rfl (Chain.get?_pred_of_below hbelow.symm hlower)
    · intro hashes
      obtain ⟨changes, hkeeps, hchain⟩ :=
        lock.chain.exists_changes_replacing (by omega : 0 < height.toInt) hashes
      refine ⟨changes, hkeeps, ?_⟩
      rw [hafter]
      exact hchain

/-- The small chain loses its tip and gets two other blocks. -/
def smallReorganisation : List ChainChange :=
  let hash : Hash256 := ⟨List.replicate 32 1, List.length_replicate⟩
  [.truncate 1, .push hash, .push hash]

def smallReorganised : ChainLock :=
  ((Session.mk small .small .small).run .wide
    (smallReorganisation.map ChainChange.request)).1.lock

theorem verdicts_height_pure_small :
    ChainLock.small.poisoned = false ∧ ChainLock.small.chain.hashes.size < 2147483647 ∧
    0 ≤ (2 : Height).toInt - 1 ∧ (2 : Height).toInt - 1 ≤ ChainLock.small.chain.height.toInt ∧
    (∀ change ∈ smallReorganisation, ChainChange.Keeps 2 change) ∧
    smallReorganised.chain.get? 2 ≠ ChainLock.small.chain.get? 2 ∧
    (∀ lower ≤ 2, small.SameVerdicts .small smallReorganised lower) ∧
    small.SameVerdicts smallReorganised .small 2 := by
  obtain ⟨hone, hrun⟩ := verdicts_height_pure small
  have hsize : ChainLock.small.chain.hashes.size < 2147483647 := by decide
  have hpositive : 0 ≤ (2 : Height).toInt - 1 := by decide
  have hheight : (2 : Height).toInt - 1 ≤ ChainLock.small.chain.height.toInt := by decide
  have hkeeps : ∀ change ∈ smallReorganisation, ChainChange.Keeps 2 change := by
    simp [smallReorganisation, ChainChange.Keeps]
  have hsame := (hrun .small .small .wide 2 rfl hsize hpositive hheight).1 _ hkeeps
  exact ⟨rfl, hsize, hpositive, hheight, hkeeps, by decide, hsame.2, hone _ _ 2 rfl rfl rfl⟩

end World

end Paymaster
