import Paymaster.Proofs.Diagnostics.Filtering
import Paymaster.Proofs.Session.Reply
import Paymaster.Proofs.Template.Completion
/-!
# Diagnostics of a session

Every computation that a request starts is faithful to its gate. So sessions behind
different gates go through the same states and give the same results, and what
one of them reports is what it would report without a gate, filtered.
-/
namespace Paymaster

open Traced

namespace World

private theorem faithful_masternodeOutputs (world : World) (lock : ChainLock) (height : Height)
    (expected : Amount) : Faithful (world.masternodeOutputs lock height expected) := by
  apply (faithful_ofExcept _).bind
  intro schedule
  cases schedule with
  | unavailable gap => exact (faithful_debug _ _).bind fun _ => faithful_pure _
  | payees outputs =>
    have hnote (output : Output) : Faithful (world.notePayment output) := faithful_debug _ _
    exact (faithful_forM hnote outputs).bind fun _ => faithful_pure _

private theorem faithful_superblockOutputs (world : World) (height : Height) :
    Faithful (world.superblockOutputs height) := by
  rw [superblockOutputs]
  cases world.superblockState height with
  | triggered => exact (faithful_debug _ _).bind fun _ => faithful_pure _
  | notTriggered => exact faithful_pure _
  | disabled => exact faithful_pure _

private theorem faithful_noteMissingPayee (outputs : List Output) :
    Faithful (noteMissingPayee outputs) := by
  rw [noteMissingPayee]
  split
  · exact faithful_debug _ _
  · exact faithful_pure _

private theorem faithful_noteFilled (height : Height) (expected : Amount) (payments : BlockPayments)
    (filled : Transaction) : Faithful (noteFilled height expected payments filled) := by
  rw [noteFilled, whenAdmitted_debug]
  exact faithful_debug _ _

private theorem faithful_fill (world : World) (lock : ChainLock) (height : Height)
    (expected : Amount) :
    (world.fill lock height expected).Faithful := by
  apply InPlace.faithful_get.bind
  intro tx
  split
  · exact InPlace.faithful_fail _
  · apply (InPlace.faithful_lift (world.faithful_superblockOutputs height)).bind
    intro superblock
    apply (InPlace.faithful_lift (world.faithful_masternodeOutputs lock height expected)).bind
    intro masternode
    apply (InPlace.faithful_lift (faithful_noteMissingPayee masternode)).bind
    intro _
    apply (InPlace.faithful_modify _).bind
    intro _
    apply (InPlace.faithful_modify _).bind
    intro _
    apply (InPlace.faithful_modify _).bind
    intro _
    apply (InPlace.faithful_modify _).bind
    intro _
    apply InPlace.faithful_get.bind
    intro filled
    apply (InPlace.faithful_lift (faithful_noteFilled height expected _ filled)).bind
    intro _
    exact InPlace.faithful_pure _

private theorem faithful_checkScheduled (world : World) (paid : List Destination) (height : Height)
    (outputs : List Output) : Faithful (world.checkScheduled paid height outputs) := by
  induction outputs with
  | nil => exact faithful_pure ()
  | cons output rest ih =>
    rw [checkScheduled]
    cases world.destination? output.script with
    | none => exact faithful_fail _
    | some destination =>
      dsimp only
      split
      · exact ih
      · exact (faithful_note _).bind fun _ => faithful_fail _

private theorem faithful_checkTransaction (world : World) (lock : ChainLock) (tx : Transaction)
    (height : Height) (expected : Amount) :
    Faithful (world.checkTransaction lock tx height expected) := by
  rw [checkTransaction]
  split
  · exact faithful_pure _
  · apply (faithful_ofExcept _).bind
    intro schedule
    cases schedule with
    | unavailable gap => exact (faithful_debug _ _).bind fun _ => faithful_pure _
    | payees outputs =>
      exact (world.faithful_checkScheduled _ height outputs).bind fun _ => faithful_pure _

private theorem faithful_checkGrant (tx : Transaction) (height : Height) (amount : Amount) :
    Faithful (checkGrant tx height amount) := by
  apply (faithful_note _).bind
  intro _
  split
  · exact faithful_pure _
  · exact faithful_fail _

private theorem faithful_checkPayeeSuperblock (world : World) (tx : Transaction)
    (state : SuperblockState) (height : Height) (expected actual : Amount) :
    Faithful (checkPayeeSuperblock world tx state height expected actual) := by
  cases state with
  | triggered =>
    rw [checkPayeeSuperblock]
    split
    · exact faithful_debug _ _
    · exact (faithful_note _).bind fun _ => faithful_fail _
  | notTriggered => exact faithful_debug _ _
  | disabled => exact faithful_debug _ _

private theorem faithful_checkPayee (world : World) (lock : ChainLock) (tx : Transaction)
    (height : Height) (expected actual : Amount) :
    Faithful (world.checkPayee lock tx height expected actual) := by
  rw [checkPayee]
  cases world.policy height with
  | grant amount => exact faithful_checkGrant tx height amount
  | standard state =>
    dsimp only
    split
    · exact (faithful_debug _ _).bind fun _ => faithful_pure _
    · apply (faithful_checkPayeeSuperblock world tx state height expected actual).bind
      intro _
      apply (world.faithful_checkTransaction lock tx height expected).bind
      intro acceptance
      exact (faithful_debug _ _).bind fun _ => faithful_pure _

private theorem faithful_boundByReward (height : Height) (expected actual : Amount)
    (bound : RewardBound) :
    Faithful (boundByReward height expected actual bound) := by
  rw [boundByReward]
  split
  · exact faithful_pure _
  · exact faithful_fail _

private theorem faithful_checkSuperblockHeight (world : World) (block : Block)
    (state : SuperblockState) (height : Height) (expected actual : Amount) :
    Faithful (checkSuperblockHeight world block state height expected actual) := by
  cases state with
  | disabled => exact (faithful_debug _ _).bind fun _ => faithful_boundByReward _ _ _ _
  | notTriggered => exact faithful_boundByReward _ _ _ _
  | triggered =>
    rw [checkSuperblockHeight, checkTriggered]
    split
    · exact faithful_pure _
    · exact (faithful_note _).bind fun _ => faithful_fail _

private theorem faithful_checkValue (world : World) (block : Block) (height : Height)
    (expected actual : Amount) : Faithful (world.checkValue block height expected actual) := by
  rw [checkValue]
  cases world.policy height with
  | grant amount => exact faithful_pure _
  | standard state =>
    apply (faithful_debug _ _).bind
    intro _
    apply (faithful_debug _ _).bind
    intro _
    cases world.consensus.classify height with
    | regularBlock => exact faithful_boundByReward _ _ _ _
    | superblockHeight =>
      dsimp only
      split
      · exact world.faithful_checkSuperblockHeight block state height expected actual
      · exact faithful_fail _

end World

namespace Session

private theorem faithful_answeredBy {α : Type} {look : Session → Payment α}
    (h : ∀ session, (look session).Faithful) (answer : α → Answer) :
    (answeredBy look answer).Faithful := by
  apply InPlace.faithful_get.bind
  intro session
  apply (InPlace.faithful_lift (h session)).bind
  intro value
  exact InPlace.faithful_pure _

private theorem faithful_writeChain (update : Chain → Chain) (answer : Chain → Answer) :
    (writeChain update answer).Faithful := by
  apply InPlace.faithful_get.bind
  intro session
  apply (InPlace.faithful_lift (faithful_ofExcept _)).bind
  intro chain
  apply (InPlace.faithful_lift (faithful_ofExcept _)).bind
  intro lock
  exact (InPlace.faithful_modify _).bind fun _ => InPlace.faithful_pure _

private theorem faithful_fillRegister (height : Height) (expected : Amount) :
    (fillRegister height expected).Faithful := by
  apply InPlace.faithful_get.bind
  intro session
  apply ((session.world.faithful_fill session.lock height expected).onPart _ _).bind
  intro payments
  exact InPlace.faithful_get.bind fun _ => InPlace.faithful_pure _

theorem faithful_perform (request : Request) : (perform request).Faithful := by
  have hexcept {α : Type} (look : Session → Except PaymentError α) (answer : α → Answer) :
      (answeredBy (fun session => .ofExcept (look session)) answer).Faithful :=
    faithful_answeredBy (fun session => faithful_ofExcept (look session)) answer
  have hanswered (answer : Session → Answer) : (answered answer).Faithful :=
    faithful_answeredBy (fun session => faithful_pure (answer session)) id
  have hmodify (change : Session → Session) (answer : Answer) :
      (InPlace.modify change >>= fun _ => pure answer : InPlace Session PaymentError Answer).Faithful :=
    (InPlace.faithful_modify change).bind fun _ => InPlace.faithful_pure _
  cases request with
  | schedule height expected => exact hexcept _ _
  | masternodeOutputs height expected =>
    exact faithful_answeredBy
      (fun session => session.world.faithful_masternodeOutputs _ height expected) _
  | load tx => exact hmodify _ _
  | fill height expected => exact faithful_fillRegister height expected
  | checkValue block height expected actual =>
    exact faithful_answeredBy
      (fun session => session.world.faithful_checkValue _ height expected actual) _
  | checkPayee tx height expected actual =>
    exact faithful_answeredBy
      (fun session => session.world.faithful_checkPayee _ _ height expected actual) _
  | checkTransaction tx height expected =>
    exact faithful_answeredBy
      (fun session => session.world.faithful_checkTransaction _ _ height expected) _
  | isScheduled node => exact hanswered _
  | listing height payee => exact hexcept _ _
  | listings start stop => exact hexcept _ _
  | policy height => exact hanswered _
  | chain => exact hexcept _ _
  | entry height => exact hexcept _ _
  | push hash => exact faithful_writeChain _ _
  | truncate height => exact faithful_writeChain _ _
  | poison => exact hmodify _ _
  | replaceWorld world => exact hmodify _ _

/-- A reply with the messages that pass a gate. -/
def Reply.behind (gate : Gate) (reply : Reply) : Reply :=
  { reply with messages := reply.messages.filter gate.admits }

theorem step_eq_behind (session : Session) (gate : Gate) (request : Request) :
    session.step gate request =
      ((session.step .wide request).1, (session.step .wide request).2.behind gate) := by
  have hfaithful := faithful_perform request
  rw [step_eq, step_eq, hfaithful.outcome session gate, hfaithful.messages session gate]
  rfl

theorem run_eq_behind (session : Session) (gate : Gate) (requests : List Request) :
    session.run gate requests =
      ((session.run .wide requests).1, (session.run .wide requests).2.map (Reply.behind gate)) := by
  induction requests generalizing session with
  | nil => rfl
  | cons request rest ih =>
    rw [run, run, step_eq_behind]
    dsimp only
    rw [ih]
    rfl

/-- A log configuration only filters. Whatever a session is asked, its states and results are the
same behind any two gates; its messages behind a level and a set of categories are those of the
finest level and all categories, in order, without the ones above the level and the ones of
categories outside the set. -/
theorem run_filters_messages (session : Session) (requests : List Request) (level : Level)
    (categories : CategorySet) (other : Gate) :
    let gate : Gate := ⟨level, categories⟩
    let narrow := session.run gate requests
    let full := session.run ⟨.trace, .all⟩ requests
    narrow.1 = (session.run other requests).1 ∧
    narrow.2.map Reply.result = (session.run other requests).2.map Reply.result ∧
    narrow.2.map Reply.messages =
      full.2.map (fun reply => reply.messages.filter gate.admits) ∧
    narrow.2.flatMap Reply.messages = (full.2.flatMap Reply.messages).filter gate.admits ∧
    ∀ message : Message, gate.admits message = false ↔
      level.rank < message.level.rank ∨
        ∃ category, message.source = .category category ∧ categories.contains category = false := by
  intro gate narrow full
  have hnarrow : narrow = (full.1, full.2.map (Reply.behind gate)) := session.run_eq_behind gate requests
  have hother := session.run_eq_behind other requests
  refine ⟨?_, ?_, ?_, ?_, ?_⟩
  · rw [hnarrow, hother]
    rfl
  · rw [hnarrow, hother, List.map_map, List.map_map]
    rfl
  · rw [hnarrow, List.map_map]
    rfl
  · rw [hnarrow, List.flatMap_map, List.filter_flatMap]
    rfl
  · intro message
    exact Gate.admits_eq_false_iff

/-- A completion tells of the superblock, of the two masternode outputs and, at its end, of them all. -/
def smallMessages (gate : Gate) : List Message :=
  ((Session.mk .small .small .small).run gate [.fill 2 400]).2.flatMap Reply.messages

example : (smallMessages ⟨.trace, .all⟩).length = 4 ∧ (smallMessages ⟨.debug, ⟨false, true⟩⟩).length = 1 ∧
    smallMessages ⟨.info, .all⟩ = [] := by decide

end Session

end Paymaster
