import Paymaster.Session
import Paymaster.Proofs.Payment.Outcome
/-!
# Replies of a session

The reply to a request carries the outcome of the computation behind it. A check that
is answered leaves the session as it is, and so does every request that fails, though
all of them work on the session in place.
-/
namespace Paymaster.Session

theorem step_eq (session : Session) (gate : Gate) (request : Request) :
    session.step gate request =
      (((perform request).outcome session gate).2,
        ⟨((perform request).outcome session gate).1, (perform request).messages session gate⟩) := rfl

theorem step_of_outcome {session next : Session} {request : Request}
    {result : Except PaymentError Answer} {gate : Gate}
    (h : (perform request).outcome session gate = (result, next)) :
    (session.step gate request).1 = next ∧ (session.step gate request).2.result = result := by
  rw [step_eq, h]
  exact ⟨rfl, rfl⟩

section AnsweredBy

variable {α : Type} {look : Session → Payment α} {answer : α → Answer}

theorem outcome_answeredBy (look : Session → Payment α) (answer : α → Answer) (session : Session)
    (gate : Gate) :
    (answeredBy look answer).outcome session gate =
      (((look session).outcome gate).map answer, session) := by
  rw [answeredBy, InPlace.outcome_get_bind]
  cases hlook : (look session).outcome gate with
  | ok value => exact InPlace.outcome_lift_bind_of_ok hlook session
  | error e => exact InPlace.outcome_lift_bind_of_error hlook session

private theorem messages_answeredBy (look : Session → Payment α) (answer : α → Answer)
    (session : Session) (gate : Gate) :
    (answeredBy look answer).messages session gate = (look session).messages gate := by
  rw [answeredBy, InPlace.messages_get_bind]
  cases hlook : (look session).outcome gate with
  | ok value =>
    rw [InPlace.messages_lift_bind_of_ok hlook, InPlace.messages_pure, List.append_nil]
  | error e => exact InPlace.messages_lift_bind_of_error hlook session

private theorem eq_of_answeredBy {session next : Session} {result : Except PaymentError Answer}
    {gate : Gate}
    (h : (answeredBy look answer).outcome session gate = (result, next)) : next = session := by
  rw [outcome_answeredBy] at h
  cases h
  rfl

theorem step_answeredBy {request : Request} (h : perform request = answeredBy look answer)
    (session : Session) (gate : Gate) :
    session.step gate request =
      (session, ⟨((look session).outcome gate).map answer, (look session).messages gate⟩) := by
  rw [step_eq, h, outcome_answeredBy, messages_answeredBy]

theorem result_answeredBy {request : Request} (h : perform request = answeredBy look answer)
    (session : Session) (gate : Gate) :
    (session.step gate request).2.result = ((look session).outcome gate).map answer := by
  rw [step_answeredBy h]

end AnsweredBy

private theorem outcome_writeChain_of_readable {session : Session}
    (hlock : session.lock.poisoned = false)
    (update : Chain → Chain) (answer : Chain → Answer) (gate : Gate) :
    (writeChain update answer).outcome session gate =
      (.ok (answer session.lock.chain),
        { session with lock := ⟨update session.lock.chain, false⟩ }) := by
  obtain ⟨world, ⟨chain, poisoned⟩, register⟩ := session
  subst hlock
  rfl

theorem outcome_writeChain_of_poisoned {session : Session} (hlock : session.lock.poisoned = true)
    (update : Chain → Chain) (answer : Chain → Answer) (gate : Gate) :
    (writeChain update answer).outcome session gate = (.error .chainLockPoisoned, session) := by
  obtain ⟨world, ⟨chain, poisoned⟩, register⟩ := session
  subst hlock
  rfl

theorem step_writeChain {session : Session} (hlock : session.lock.poisoned = false)
    {request : Request} {update : Chain → Chain} {answer : Chain → Answer}
    (h : perform request = writeChain update answer) (gate : Gate) :
    (session.step gate request).1 =
        { session with lock := ⟨update session.lock.chain, false⟩ } ∧
      (session.step gate request).2.result = .ok (answer session.lock.chain) := by
  apply step_of_outcome
  rw [h, outcome_writeChain_of_readable hlock]

private theorem eq_of_writeChain_error {session next : Session} {update : Chain → Chain}
    {answer : Chain → Answer} {gate : Gate} {e : PaymentError}
    (h : (writeChain update answer).outcome session gate = (.error e, next)) : next = session := by
  cases hlock : session.lock.poisoned with
  | false =>
    rw [outcome_writeChain_of_readable hlock] at h
    cases h
  | true =>
    rw [outcome_writeChain_of_poisoned hlock] at h
    cases h
    rfl

theorem outcome_fillRegister (session : Session) (height : Height) (expected : Amount) (gate : Gate) :
    (fillRegister height expected).outcome session gate =
      match (session.world.fill session.lock height expected).outcome session.register gate with
      | (.error e, register) => (.error e, { session with register })
      | (.ok payments, register) => (.ok (.filled payments register), { session with register }) := by
  rw [fillRegister, InPlace.outcome_get_bind]
  rcases hfill : (session.world.fill session.lock height expected).outcome session.register gate
    with ⟨e | payments, register⟩
  · have hpart : (onRegister (session.world.fill session.lock height expected)).outcome session gate =
        (.error e, { session with register }) := by
      rw [onRegister, InPlace.outcome_onPart, hfill]
    exact InPlace.outcome_bind_of_error hpart
  · have hpart : (onRegister (session.world.fill session.lock height expected)).outcome session gate =
        (.ok payments, { session with register }) := by
      rw [onRegister, InPlace.outcome_onPart, hfill]
    exact InPlace.outcome_bind_of_ok hpart

private theorem eq_of_fillRegister_error {session next : Session} {height : Height}
    {expected : Amount} {gate : Gate} {e : PaymentError}
    (h : (fillRegister height expected).outcome session gate = (.error e, next)) :
    next = session := by
  rw [outcome_fillRegister] at h
  rcases hfill : (session.world.fill session.lock height expected).outcome session.register gate
    with ⟨e' | payments, register⟩
  · rw [hfill] at h
    cases h
    rw [World.eq_of_fill_error hfill]
  · rw [hfill] at h
    cases h

/-- A request that fails leaves the session as it found it. -/
theorem eq_of_perform_error {session next : Session} {request : Request} {gate : Gate}
    {e : PaymentError} (h : (perform request).outcome session gate = (.error e, next)) :
    next = session := by
  cases request with
  | fill height expected => exact eq_of_fillRegister_error h
  | push | truncate => exact eq_of_writeChain_error h
  | load | poison | replaceWorld => cases h
  | schedule | masternodeOutputs | checkValue | checkPayee | checkTransaction | isScheduled
  | listing | listings | policy | chain | entry => exact eq_of_answeredBy h

theorem step_eq_of_error {session : Session} {request : Request} {gate : Gate} {e : PaymentError}
    (h : (session.step gate request).2.result = .error e) :
    (session.step gate request).1 = session :=
  eq_of_perform_error (Prod.ext h rfl)

end Paymaster.Session
