import Paymaster.Diagnostics.Traced
/-!
# Computations that work in place

A computation in place works on a state that belongs to its caller and is the
caller's again whatever comes of it: what was done before a failure stays done, as
messages left before a failure stay.
-/
namespace Paymaster

/-- From a state and behind a gate: an outcome, the state that is left, and the messages. -/
def InPlace (σ ε α : Type) : Type :=
  σ → Gate → (Except ε α × σ) × List Message

namespace InPlace

variable {σ τ ε α β : Type}

/-- What comes of the computation, with the state that it leaves. -/
def outcome (x : InPlace σ ε α) (state : σ) (gate : Gate) : Except ε α × σ :=
  (x state gate).1

def messages (x : InPlace σ ε α) (state : σ) (gate : Gate) : List Message :=
  (x state gate).2

protected def pure (a : α) : InPlace σ ε α :=
  fun state _ => ((.ok a, state), [])

/-- The second computation goes on with the state of the first; a failure leaves its own. -/
protected def bind (x : InPlace σ ε α) (f : α → InPlace σ ε β) : InPlace σ ε β :=
  fun state gate =>
    match x state gate with
    | ((.ok a, next), before) =>
      let (result, after) := f a next gate
      (result, before ++ after)
    | ((.error e, next), before) => ((.error e, next), before)

instance : Monad (InPlace σ ε) where
  pure := InPlace.pure
  bind := InPlace.bind

def fail (e : ε) : InPlace σ ε α :=
  fun state _ => ((.error e, state), [])

def get : InPlace σ ε σ :=
  fun state _ => ((.ok state, state), [])

def modify (change : σ → σ) : InPlace σ ε Unit :=
  fun state _ => ((.ok (), change state), [])

/-- A traced computation knows nothing of the state. -/
def ofTraced (x : Traced ε α) : InPlace σ ε α :=
  fun state gate => ((x.outcome gate, state), x.messages gate)

instance : MonadLift (Traced ε) (InPlace σ ε) where
  monadLift := ofTraced

/-- Works on a part of the state, which goes back into its place after a failure too. -/
def onPart (part : σ → τ) (replace : σ → τ → σ) (x : InPlace τ ε α) : InPlace σ ε α :=
  fun state gate =>
    let ((result, next), messages) := x (part state) gate
    ((result, replace state next), messages)

@[simp] theorem outcome_pure (a : α) (state : σ) (gate : Gate) :
    (pure a : InPlace σ ε α).outcome state gate = (.ok a, state) := rfl

@[simp] theorem messages_pure (a : α) (state : σ) (gate : Gate) :
    (pure a : InPlace σ ε α).messages state gate = [] := rfl

theorem bind_of_ok {x : InPlace σ ε α} {state next : σ} {gate : Gate} {a : α}
    (h : x.outcome state gate = (.ok a, next)) (f : α → InPlace σ ε β) :
    (x >>= f) state gate =
      ((f a).outcome next gate, x.messages state gate ++ (f a).messages next gate) := by
  change InPlace.bind x f state gate = _
  unfold outcome at h
  unfold InPlace.bind messages outcome
  generalize x state gate = first at h ⊢
  obtain ⟨result, before⟩ := first
  subst h
  rfl

theorem bind_of_error {x : InPlace σ ε α} {state next : σ} {gate : Gate} {e : ε}
    (h : x.outcome state gate = (.error e, next)) (f : α → InPlace σ ε β) :
    (x >>= f) state gate = ((.error e, next), x.messages state gate) := by
  change InPlace.bind x f state gate = _
  unfold outcome at h
  unfold InPlace.bind messages
  generalize x state gate = first at h ⊢
  obtain ⟨result, before⟩ := first
  subst h
  rfl

theorem outcome_bind_of_ok {x : InPlace σ ε α} {f : α → InPlace σ ε β} {state next : σ} {gate : Gate}
    {a : α} (h : x.outcome state gate = (.ok a, next)) :
    (x >>= f).outcome state gate = (f a).outcome next gate := by
  rw [outcome, bind_of_ok h]

theorem outcome_bind_of_error {x : InPlace σ ε α} {f : α → InPlace σ ε β} {state next : σ}
    {gate : Gate} {e : ε} (h : x.outcome state gate = (.error e, next)) :
    (x >>= f).outcome state gate = (.error e, next) := by
  rw [outcome, bind_of_error h]

example : (modify (· + 1) >>= fun _ => fail () : InPlace Nat Unit Unit).outcome 0 .wide =
    (.error (), 1) := rfl

theorem messages_bind_of_ok {x : InPlace σ ε α} {f : α → InPlace σ ε β} {state next : σ}
    {gate : Gate} {a : α} (h : x.outcome state gate = (.ok a, next)) :
    (x >>= f).messages state gate = x.messages state gate ++ (f a).messages next gate := by
  rw [messages, bind_of_ok h]

theorem messages_bind_of_error {x : InPlace σ ε α} {f : α → InPlace σ ε β} {state next : σ}
    {gate : Gate} {e : ε} (h : x.outcome state gate = (.error e, next)) :
    (x >>= f).messages state gate = x.messages state gate := by
  rw [messages, bind_of_error h]

@[simp] theorem outcome_lift (x : Traced ε α) (state : σ) (gate : Gate) :
    (liftM x : InPlace σ ε α).outcome state gate = (x.outcome gate, state) := rfl

@[simp] theorem messages_lift (x : Traced ε α) (state : σ) (gate : Gate) :
    (liftM x : InPlace σ ε α).messages state gate = x.messages gate := rfl

theorem outcome_lift_bind_of_ok {x : Traced ε α} {f : α → InPlace σ ε β} {gate : Gate} {a : α}
    (h : x.outcome gate = .ok a) (state : σ) :
    (liftM x >>= f).outcome state gate = (f a).outcome state gate := by
  apply outcome_bind_of_ok
  rw [outcome_lift, h]

theorem outcome_lift_bind_of_error {x : Traced ε α} {f : α → InPlace σ ε β} {gate : Gate} {e : ε}
    (h : x.outcome gate = .error e) (state : σ) :
    (liftM x >>= f).outcome state gate = (.error e, state) := by
  apply outcome_bind_of_error
  rw [outcome_lift, h]

theorem messages_lift_bind_of_ok {x : Traced ε α} {f : α → InPlace σ ε β} {gate : Gate} {a : α}
    (h : x.outcome gate = .ok a) (state : σ) :
    (liftM x >>= f).messages state gate = x.messages gate ++ (f a).messages state gate := by
  apply messages_bind_of_ok
  rw [outcome_lift, h]

theorem messages_lift_bind_of_error {x : Traced ε α} {f : α → InPlace σ ε β} {gate : Gate} {e : ε}
    (h : x.outcome gate = .error e) (state : σ) :
    (liftM x >>= f).messages state gate = x.messages gate := by
  apply messages_bind_of_error
  rw [outcome_lift, h]

@[simp] theorem outcome_get_bind (f : σ → InPlace σ ε β) (state : σ) (gate : Gate) :
    (get >>= f).outcome state gate = (f state).outcome state gate :=
  outcome_bind_of_ok rfl

@[simp] theorem messages_get_bind (f : σ → InPlace σ ε β) (state : σ) (gate : Gate) :
    (get >>= f).messages state gate = (f state).messages state gate :=
  messages_bind_of_ok rfl

@[simp] theorem outcome_modify_bind (change : σ → σ) (f : Unit → InPlace σ ε β) (state : σ)
    (gate : Gate) : (modify change >>= f).outcome state gate = (f ()).outcome (change state) gate :=
  outcome_bind_of_ok rfl

@[simp] theorem outcome_onPart (part : σ → τ) (replace : σ → τ → σ) (x : InPlace τ ε α) (state : σ)
    (gate : Gate) : (onPart part replace x).outcome state gate =
      ((x.outcome (part state) gate).1, replace state (x.outcome (part state) gate).2) := rfl

@[simp] theorem messages_onPart (part : σ → τ) (replace : σ → τ → σ) (x : InPlace τ ε α) (state : σ)
    (gate : Gate) : (onPart part replace x).messages state gate = x.messages (part state) gate := rfl

end InPlace

end Paymaster
