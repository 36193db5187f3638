import Paymaster.Payment.Listing
import Paymaster.Payment.Payee
import Paymaster.Payment.Template
import Paymaster.Payment.Value
/-!
# Sessions

A session holds a world, a chain behind its lock and one transaction in a
register. Requests work on it in place, one after the other, and the next request
finds what the last one left, answered or failed.
-/
namespace Paymaster

structure Session where
  world : World
  lock : ChainLock
  register : Transaction

/-- A transaction given with a request, or the one in the register. -/
inductive Operand where
  | given (tx : Transaction)
  | register

inductive Request where
  | schedule (height : Height) (expected : Amount)
  | masternodeOutputs (height : Height) (expected : Amount)
  | load (tx : Transaction)
  | fill (height : Height) (expected : Amount)
  | checkValue (block : List Operand) (height : Height) (expected actual : Amount)
  | checkPayee (tx : Operand) (height : Height) (expected actual : Amount)
  | checkTransaction (tx : Operand) (height : Height) (expected : Amount)
  | isScheduled (node : Masternode)
  | listing (height : Height) (payee : Option Masternode)
  | listings (start stop : Height)
  | policy (height : Height)
  | chain
  | entry (height : Height)
  | push (hash : Hash256)
  | truncate (height : Height)
  | poison
  | replaceWorld (world : World)

inductive Answer where
  | schedule (schedule : Schedule)
  | outputs (outputs : List Output)
  | transaction (tx : Transaction)
  | filled (payments : BlockPayments) (tx : Transaction)
  | valid
  | acceptance (acceptance : Acceptance)
  | flag (value : Bool)
  | text (text : String)
  | listings (texts : List (Height × String))
  | policy (policy : Policy) (state : SuperblockState) (lite : Bool) (network : Network)
  | chain (height : Height) (tip : Option BlockEntry)
  | entry (entry : Option BlockEntry)
  | pushed (entry : BlockEntry) (height : Height)
  | done

def ChainLock.write (lock : ChainLock) (update : Chain → Chain) : Except PaymentError ChainLock :=
  match lock.write? update with
  | some updated => .ok updated
  | none => .error .chainLockPoisoned

namespace Session

def transactionOf (session : Session) : Operand → Transaction
  | .given tx => tx
  | .register => session.register

/-- Answers with what a computation finds in the session. -/
def answeredBy {α : Type} (look : Session → Payment α) (answer : α → Answer) :
    InPlace Session PaymentError Answer := do
  let session ← InPlace.get
  let value ← look session
  return answer value

def answered (answer : Session → Answer) : InPlace Session PaymentError Answer :=
  answeredBy (fun session => pure (answer session)) id

def readChain (answer : Chain → Answer) : InPlace Session PaymentError Answer :=
  answeredBy (fun session => .ofExcept session.lock.read) answer

def writeChain (update : Chain → Chain) (answer : Chain → Answer) :
    InPlace Session PaymentError Answer := do
  let session ← InPlace.get
  let chain ← Traced.ofExcept session.lock.read
  let lock ← Traced.ofExcept (session.lock.write update)
  InPlace.modify fun session => { session with lock }
  return answer chain

/-- Works on the transaction in the register. -/
def onRegister {α : Type} (x : InPlace Transaction PaymentError α) : InPlace Session PaymentError α :=
  .onPart register (fun session register => { session with register }) x

def fillRegister (height : Height) (expected : Amount) : InPlace Session PaymentError Answer := do
  let session ← InPlace.get
  let payments ← onRegister (session.world.fill session.lock height expected)
  let filled ← InPlace.get
  return .filled payments filled.register

def perform : Request → InPlace Session PaymentError Answer
  | .schedule height expected =>
    answeredBy (fun session => .ofExcept (session.world.schedule session.lock height expected)) .schedule
  | .masternodeOutputs height expected =>
    answeredBy (fun session => session.world.masternodeOutputs session.lock height expected) .outputs
  | .load tx => do
    InPlace.modify fun session => { session with register := tx }
    return .transaction tx
  | .fill height expected => fillRegister height expected
  | .checkValue block height expected actual =>
    answeredBy
      (fun session =>
        session.world.checkValue ⟨block.map session.transactionOf⟩ height expected actual)
      fun _ => .valid
  | .checkPayee tx height expected actual =>
    answeredBy
      (fun session =>
        session.world.checkPayee session.lock (session.transactionOf tx) height expected actual)
      .acceptance
  | .checkTransaction tx height expected =>
    answeredBy
      (fun session =>
        session.world.checkTransaction session.lock (session.transactionOf tx) height expected)
      .acceptance
  | .isScheduled node => answered fun session => .flag (session.world.isScheduled node)
  | .listing height payee =>
    answeredBy (fun session => .ofExcept (session.world.listing height payee)) .text
  | .listings start stop =>
    answeredBy (fun session => .ofExcept (session.world.listings session.lock start stop)) .listings
  | .policy height =>
    answered fun session =>
      let world := session.world
      .policy (world.policy height) (world.superblockState height) world.lite world.network
  | .chain => readChain fun chain => .chain chain.height chain.tip?
  | .entry height => readChain fun chain => .entry (chain.get? height)
  | .push hash =>
    writeChain (Chain.push · hash) fun chain =>
      .pushed (chain.nextEntry hash) (chain.push hash).height
  | .truncate height =>
    writeChain (Chain.truncate · height) fun chain =>
      .chain (chain.truncate height).height (chain.truncate height).tip?
  | .poison => do
    InPlace.modify fun session => { session with lock := session.lock.poison }
    return .done
  | .replaceWorld world => do
    InPlace.modify fun session => { session with world }
    return .done

/-- What a request yields besides the next session. -/
structure Reply where
  result : Except PaymentError Answer
  messages : List Message

/-- Performs a request behind a gate, on to the session that the request leaves. -/
def step (gate : Gate) (session : Session) (request : Request) : Session × Reply :=
  let ((result, next), messages) := perform request session gate
  (next, ⟨result, messages⟩)

def run (gate : Gate) (session : Session) : List Request → Session × List Reply
  | [] => (session, [])
  | request :: rest =>
    let (next, reply) := session.step gate request
    let (final, replies) := next.run gate rest
    (final, reply :: replies)

end Session

end Paymaster
