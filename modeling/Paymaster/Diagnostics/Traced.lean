import Paymaster.Diagnostics.Gate
/-!
# Computations that leave messages

A traced computation runs behind a gate and yields an outcome together with the
messages that passed, in order. Messages left before a failure stay.
-/
namespace Paymaster

def Traced (ε α : Type) : Type :=
  Gate → Except ε α × List Message

namespace Traced

variable {ε α β : Type}

def outcome (x : Traced ε α) (gate : Gate) : Except ε α :=
  (x gate).1

def messages (x : Traced ε α) (gate : Gate) : List Message :=
  (x gate).2

theorem ext {x y : Traced ε α} (outcomes : ∀ gate, x.outcome gate = y.outcome gate)
    (messages : ∀ gate, x.messages gate = y.messages gate) : x = y :=
  funext fun gate => Prod.ext (outcomes gate) (messages gate)

protected def pure (a : α) : Traced ε α :=
  fun _ => (.ok a, [])

protected def bind (x : Traced ε α) (f : α → Traced ε β) : Traced ε β :=
  fun gate =>
    match x gate with
    | (.ok a, before) =>
      let (result, after) := f a gate
      (result, before ++ after)
    | (.error e, before) => (.error e, before)

instance : Monad (Traced ε) where
  pure := Traced.pure
  bind := Traced.bind

def fail (e : ε) : Traced ε α :=
  fun _ => (.error e, [])

def ofExcept (x : Except ε α) : Traced ε α :=
  fun _ => (x, [])

/-- Leaves a message, if the gate admits it. -/
def note (message : Message) : Traced ε Unit :=
  fun gate => (.ok (), if gate.admits message then [message] else [])

def debug (category : Category) (text : String) : Traced ε Unit :=
  note (.debug category text)

/-- Runs a computation only where the gate admits the messages of a category. -/
def whenAdmitted (category : Category) (x : Traced ε Unit) : Traced ε Unit :=
  fun gate => if gate.admitsCategory category then x gate else (.ok (), [])

@[simp] theorem outcome_pure (a : α) (gate : Gate) :
    (pure a : Traced ε α).outcome gate = .ok a := rfl

@[simp] theorem messages_pure (a : α) (gate : Gate) :
    (pure a : Traced ε α).messages gate = [] := rfl

@[simp] theorem outcome_fail (e : ε) (gate : Gate) :
    (fail e : Traced ε α).outcome gate = .error e := rfl

@[simp] theorem messages_fail (e : ε) (gate : Gate) :
    (fail e : Traced ε α).messages gate = [] := rfl

@[simp] theorem outcome_ofExcept (x : Except ε α) (gate : Gate) :
    (ofExcept x).outcome gate = x := rfl

@[simp] theorem messages_ofExcept (x : Except ε α) (gate : Gate) :
    (ofExcept x).messages gate = [] := rfl

@[simp] theorem outcome_note (message : Message) (gate : Gate) :
    (note message : Traced ε Unit).outcome gate = .ok () := rfl

@[simp] theorem messages_note (message : Message) (gate : Gate) :
    (note message : Traced ε Unit).messages gate = if gate.admits message then [message] else [] := rfl

theorem outcome_whenAdmitted (category : Category) (x : Traced ε Unit) (gate : Gate) :
    (whenAdmitted category x).outcome gate =
      if gate.admitsCategory category then x.outcome gate else .ok () := by
  rw [outcome, whenAdmitted]
  split <;> rfl

theorem messages_whenAdmitted (category : Category) (x : Traced ε Unit) (gate : Gate) :
    (whenAdmitted category x).messages gate =
      if gate.admitsCategory category then x.messages gate else [] := by
  rw [messages, whenAdmitted]
  split <;> rfl

theorem outcome_bind (x : Traced ε α) (f : α → Traced ε β) (gate : Gate) :
    (x >>= f).outcome gate = x.outcome gate >>= fun a => (f a).outcome gate := by
  change (Traced.bind x f gate).1 = _
  unfold Traced.bind outcome
  rcases x gate with ⟨e | a, before⟩ <;> rfl

theorem messages_bind_ok {x : Traced ε α} {f : α → Traced ε β} {gate : Gate} {a : α}
    (h : x.outcome gate = .ok a) :
    (x >>= f).messages gate = x.messages gate ++ (f a).messages gate := by
  change (Traced.bind x f gate).2 = _
  unfold outcome at h
  unfold Traced.bind messages
  generalize x gate = first at h ⊢
  obtain ⟨result, before⟩ := first
  subst h
  rfl

theorem messages_bind_error {x : Traced ε α} {f : α → Traced ε β} {gate : Gate} {e : ε}
    (h : x.outcome gate = .error e) : (x >>= f).messages gate = x.messages gate := by
  change (Traced.bind x f gate).2 = _
  unfold outcome at h
  unfold Traced.bind messages
  generalize x gate = first at h ⊢
  obtain ⟨result, before⟩ := first
  subst h
  rfl

end Traced

end Paymaster
