import Paymaster.Proofs.Template.Conservation
/-!
# Sessions behind a poisoned lock

Nobody reads or writes a chain whose lock is poisoned, and no request heals the
lock. A session with one goes on: it refuses what needs the chain, and it answers
everything else as it would with any other chain.
-/
namespace Paymaster

namespace ChainLock

variable {lock : ChainLock} (hlock : lock.poisoned = true)

include hlock

private theorem read_of_poisoned : lock.read = .error .chainLockPoisoned := by
  obtain ⟨chain, poisoned⟩ := lock
  subst hlock
  rfl

private theorem write_of_poisoned (update : Chain → Chain) :
    lock.write update = .error .chainLockPoisoned := by
  obtain ⟨chain, poisoned⟩ := lock
  subst hlock
  rfl

end ChainLock

namespace World

section Poisoned

variable {lock : ChainLock} (hlock : lock.poisoned = true)

include hlock

private theorem masternodeOutputs_of_poisoned (world : World) (height : Height) (expected : Amount)
    (gate : Gate) :
    (world.masternodeOutputs lock height expected).outcome gate = .error .chainLockPoisoned := by
  rw [outcome_masternodeOutputs, schedule_of_poisoned hlock]
  rfl

private theorem fill_of_poisoned (world : World) (tx : Transaction) (height : Height)
    (expected : Amount) (gate : Gate) :
    (world.fill lock height expected).outcome tx gate =
      (.error (if tx.outputs.length < 2 then .missingMinerOutput tx.outputs.length
        else .chainLockPoisoned), tx) := by
  have hshort : tx.outputs.length ≤ minerIndex ↔ tx.outputs.length < 2 := Nat.lt_succ_iff.symm
  rw [outcome_fill, schedule_of_poisoned hlock]
  simp only [hshort]
  split <;> rfl

private theorem checkTransaction_of_poisoned (world : World) (tx : Transaction) (height : Height)
    (expected : Amount) (gate : Gate) :
    (world.checkTransaction lock tx height expected).outcome gate =
      if height < world.consensus.paymentsStart then .ok (.unverified .beforeActivation)
      else .error .chainLockPoisoned := by
  rw [outcome_checkTransaction, schedule_of_poisoned hlock]

/-- Even an empty window is refused: the chain is read before the window is looked at. -/
private theorem listings_of_poisoned (world : World) (start stop : Height) :
    world.listings lock start stop = .error .chainLockPoisoned := by
  rw [listings, ChainLock.read_of_poisoned hlock]
  rfl

end Poisoned

private theorem checkPayee_of_isGrantHeight {world : World} {height : Height}
    (h : world.grants.isGrantHeight height = true) (left right : ChainLock) (tx : Transaction)
    (expected actual : Amount) :
    world.checkPayee left tx height expected actual =
      world.checkPayee right tx height expected actual := by
  obtain ⟨grant, hgrant⟩ := Option.isSome_iff_exists.mp h
  rw [checkPayee, checkPayee, policy, hgrant]

end World

/-- Whether a request reads or writes the chain before anything else. -/
def Request.needsChain : Request → Bool
  | .schedule _ _ | .masternodeOutputs _ _ | .listings _ _ => true
  | .chain | .entry _ | .push _ | .truncate _ => true
  | _ => false

/-- Whether a request never looks at the chain in this world. -/
def Request.ignoresChain (world : World) : Request → Bool
  | .checkValue _ _ _ _ | .isScheduled _ | .listing _ _ | .policy _ => true
  | .checkPayee _ height _ _ => world.grants.isGrantHeight height
  | _ => false

namespace Session

/-- The same session with another chain behind its lock. -/
def withLock (session : Session) (lock : ChainLock) : Session :=
  { session with lock }

private theorem perform_of_needsChain {session : Session} (hlock : session.lock.poisoned = true)
    {request : Request} (h : request.needsChain = true) (gate : Gate) :
    (perform request).outcome session gate = (.error .chainLockPoisoned, session) := by
  have hread (answer : Chain → Answer) :
      (readChain answer).outcome session gate = (.error .chainLockPoisoned, session) := by
    rw [readChain, outcome_answeredBy, Traced.outcome_ofExcept, ChainLock.read_of_poisoned hlock]
    rfl
  cases request with
  | schedule height expected =>
    rw [perform, outcome_answeredBy, Traced.outcome_ofExcept, World.schedule_of_poisoned hlock]
    rfl
  | masternodeOutputs height expected =>
    rw [perform, outcome_answeredBy, World.masternodeOutputs_of_poisoned hlock]
    rfl
  | listings start stop =>
    rw [perform, outcome_answeredBy, Traced.outcome_ofExcept, World.listings_of_poisoned hlock]
    rfl
  | chain => exact hread _
  | entry height => exact hread _
  | push hash => exact outcome_writeChain_of_poisoned hlock _ _ gate
  | truncate height => exact outcome_writeChain_of_poisoned hlock _ _ gate
  | _ => cases h

/-- Behind a poisoned lock a session only takes a new transaction or a new world. -/
private theorem step_of_poisoned {session : Session} (hlock : session.lock.poisoned = true)
    (gate : Gate) (request : Request) :
    let next := (session.step gate request).1
    next = session ∨ (∃ tx, request = .load tx ∧ next = { session with register := tx }) ∨
      ∃ world, request = .replaceWorld world ∧ next = { session with world } := by
  intro next
  have hneeds (hneeds : request.needsChain = true) : next = session :=
    (step_of_outcome (perform_of_needsChain hlock hneeds gate)).1
  have hanswered {α : Type} {look : Session → Payment α} {answer : α → Answer}
      (h : perform request = answeredBy look answer) : next = session :=
    congrArg Prod.fst (step_answeredBy h session gate)
  cases request with
  | load tx => exact .inr (.inl ⟨tx, rfl, rfl⟩)
  | replaceWorld world => exact .inr (.inr ⟨world, rfl, rfl⟩)
  | fill height expected =>
    exact .inl (step_fill_of_error (World.fill_of_poisoned hlock _ _ height expected gate)).1
  | poison =>
    obtain ⟨world, ⟨chain, poisoned⟩, register⟩ := session
    subst hlock
    exact .inl rfl
  | checkValue | checkPayee | checkTransaction | listing | isScheduled | policy =>
    exact .inl (hanswered rfl)
  | schedule | masternodeOutputs | listings | chain | entry | push | truncate =>
    exact .inl (hneeds rfl)

private theorem step_lock_of_poisoned {session : Session} (hlock : session.lock.poisoned = true)
    (gate : Gate) (request : Request) : (session.step gate request).1.lock = session.lock := by
  rcases step_of_poisoned hlock gate request with h | ⟨_, _, h⟩ | ⟨_, _, h⟩ <;> rw [h]

theorem run_lock_of_poisoned {session : Session} (hlock : session.lock.poisoned = true)
    (gate : Gate) (requests : List Request) : (session.run gate requests).1.lock = session.lock := by
  induction requests generalizing session with
  | nil => rfl
  | cons request rest ih =>
    have hstep := step_lock_of_poisoned hlock gate request
    change ((session.step gate request).1.run gate rest).1.lock = session.lock
    rw [ih (by rw [hstep, hlock]), hstep]

private theorem step_register_of_poisoned {session : Session} (hlock : session.lock.poisoned = true)
    (gate : Gate) {request : Request} (hload : ∀ tx, request ≠ .load tx) :
    (session.step gate request).1.register = session.register := by
  rcases step_of_poisoned hlock gate request with h | ⟨tx, htx, _⟩ | ⟨_, _, h⟩
  · rw [h]
  · exact absurd htx (hload tx)
  · rw [h]

theorem step_withLock {session : Session} {request : Request}
    (h : request.ignoresChain session.world = true) (lock : ChainLock) (gate : Gate) :
    ((session.withLock lock).step gate request).2 = (session.step gate request).2 := by
  have hreply {α : Type} {look : Session → Payment α} {answer : α → Answer}
      (hlook : perform request = answeredBy look answer)
      (hsame : look (session.withLock lock) = look session) :
      ((session.withLock lock).step gate request).2 = (session.step gate request).2 := by
    rw [step_answeredBy hlook, step_answeredBy hlook, hsame]
  cases request with
  | checkValue block height expected actual => exact hreply rfl rfl
  | listing height payee => exact hreply rfl rfl
  | isScheduled node => exact hreply rfl rfl
  | policy height => exact hreply rfl rfl
  | checkPayee tx height expected actual =>
    exact hreply rfl (World.checkPayee_of_isGrantHeight h lock session.lock
      (session.transactionOf tx) expected actual)
  | _ => cases h

/-- What a session still answers while its chain cannot be read. -/
structure AnswersWithoutChain (session : Session) (gate : Gate) : Prop where
  read : session.lock.read = .error .chainLockPoisoned
  write (update : Chain → Chain) : session.lock.write update = .error .chainLockPoisoned
  needing {request : Request} (h : request.needsChain = true) :
    (session.step gate request).2.result = .error .chainLockPoisoned
  fill (tx : Transaction) (height : Height) (expected : Amount) :
    (({ session with register := tx } : Session).step gate (.fill height expected)).2.result =
      .error (if tx.outputs.length < 2 then .missingMinerOutput tx.outputs.length
        else .chainLockPoisoned)
  checkTransaction (tx : Operand) (height : Height) (expected : Amount) :
    (session.step gate (.checkTransaction tx height expected)).2.result =
      if height < session.world.consensus.paymentsStart then
        .ok (.acceptance (.unverified .beforeActivation))
      else .error .chainLockPoisoned
  checkPayee (tx : Operand) {height : Height} (expected actual : Amount)
    (hnone : session.world.grants.isGrantHeight height = false) :
    (session.step gate (.checkPayee tx height expected actual)).2.result =
      if session.world.lite then .ok (.acceptance (.unverified .liteMode))
      else if session.world.rejectsSuperblock (session.transactionOf tx) height expected actual then
        .error (.invalidSuperblock height)
      else (session.step gate (.checkTransaction tx height expected)).2.result
  ignoring {request : Request} (h : request.ignoresChain session.world = true) (lock : ChainLock) :
    ((session.withLock lock).step gate request).2 = (session.step gate request).2

theorem answersWithoutChain_of_poisoned {session : Session}
    (hlock : session.lock.poisoned = true) (gate : Gate) : session.AnswersWithoutChain gate := by
  have htransaction (tx : Operand) (height : Height) (expected : Amount) :
      (session.step gate (.checkTransaction tx height expected)).2.result =
        ((session.world.checkTransaction session.lock (session.transactionOf tx) height
          expected).outcome gate).map .acceptance := by
    have hcheck : perform (.checkTransaction tx height expected) = answeredBy _ .acceptance := rfl
    exact result_answeredBy hcheck session gate
  refine {
    read := ChainLock.read_of_poisoned hlock
    write := ChainLock.write_of_poisoned hlock
    needing := fun h => (step_of_outcome (perform_of_needsChain hlock h gate)).2
    fill := ?fill
    checkTransaction := ?checkTransaction
    checkPayee := ?checkPayee
    ignoring := fun h lock => step_withLock h lock gate }
  case fill =>
    intro tx height expected
    exact (step_fill_of_error (World.fill_of_poisoned hlock _ tx height expected gate)).2
  case checkTransaction =>
    intro tx height expected
    rw [htransaction, World.checkTransaction_of_poisoned hlock]
    split <;> rfl
  case checkPayee =>
    intro tx height expected actual hnone
    have hgrant : session.world.grants.grantAt? height = none :=
      Option.isNone_iff_eq_none.mp (Option.isSome_eq_false_iff.mp hnone)
    have hpayee : (session.step gate (.checkPayee tx height expected actual)).2.result =
        ((session.world.checkPayee session.lock (session.transactionOf tx) height expected
          actual).outcome gate).map .acceptance := by
      have hcheck : perform (.checkPayee tx height expected actual) = answeredBy _ .acceptance := rfl
      exact result_answeredBy hcheck session gate
    rw [hpayee, htransaction, World.outcome_checkPayee_of_no_grant hgrant]
    split
    · rfl
    · split <;> rfl

/-- A poisoned lock stays poisoned, whatever a session is asked. The chain behind it and, but for a
new transaction, the register stay as they are, and after any requests the session refuses exactly
what needs the chain, with a fatal cause, and answers the rest. -/
theorem run_poisoned {session : Session} (hlock : session.lock.poisoned = true) (gate : Gate)
    (requests : List Request) :
    let after := (session.run gate requests).1
    after.lock = session.lock ∧
    (∀ request e, (after.step gate request).2.result = .error e →
      (after.step gate request).1 = after) ∧
    (∀ request, (∀ tx, request ≠ .load tx) →
      (after.step gate request).1.register = after.register) ∧
    after.AnswersWithoutChain gate ∧ PaymentError.isFatal .chainLockPoisoned = true := by
  intro after
  have hafter : after.lock = session.lock := run_lock_of_poisoned hlock gate requests
  have hpoisoned : after.lock.poisoned = true := by rw [hafter, hlock]
  refine ⟨hafter, ?_, ?_, answersWithoutChain_of_poisoned hpoisoned gate, rfl⟩
  · intro request e herror
    exact step_eq_of_error herror
  · intro request hload
    exact step_register_of_poisoned hpoisoned gate hload

/-- The small session after a writer failed half way. -/
def smallPoisoned : Session :=
  ((Session.mk .small .small .small).step .wide .poison).1

/-- Requests to change the chain, to complete the register and to replace it. -/
def smallLate : List Request :=
  [.push (.zero 32), .fill 2 400, .truncate 0, .load .empty]

theorem run_poisoned_small :
    let after := (smallPoisoned.run .wide smallLate).1
    smallPoisoned.lock.poisoned = true ∧ after.lock = ChainLock.poison .small ∧
    after.register = .empty ∧
    (after.step .wide (.listings 1 1)).2.result = .error .chainLockPoisoned ∧
    (after.step .wide (.fill 2 400)).1.register = .empty ∧
    (after.step .wide (.fill 2 400)).2.result = .error (.missingMinerOutput 0) ∧
    (after.step .wide (.checkTransaction .register 1 400)).2.result = .error .chainLockPoisoned ∧
    ((after.withLock .small).step .wide (.checkPayee .register 3 400 400)).2 =
      (after.step .wide (.checkPayee .register 3 400 400)).2 := by
  intro after
  have hpoisoned : smallPoisoned.lock.poisoned = true := rfl
  obtain ⟨hlock, hfailed, _, hanswers, _⟩ := run_poisoned hpoisoned .wide smallLate
  have hneeds := hanswers.needing (rfl : (Request.listings 1 1).needsChain = true)
  have hfill := hanswers.fill .empty 2 400
  have htransaction := hanswers.checkTransaction .register 1 400
  have hgrant := hanswers.ignoring (rfl : Request.ignoresChain after.world
    (.checkPayee .register 3 400 400) = true) .small
  exact ⟨hpoisoned, hlock, rfl, hneeds, by rw [hfailed _ _ hfill]; rfl, hfill, htransaction, hgrant⟩

end Session

end Paymaster
