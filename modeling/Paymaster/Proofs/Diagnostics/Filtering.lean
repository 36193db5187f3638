import Paymaster.Diagnostics.InPlace
/-!
# Gates only filter

A computation is faithful if no gate changes its outcome, and if the messages behind
a gate are those of the widest gate that pass. Computations made from faithful
parts are faithful.
-/
namespace Paymaster

namespace Gate

theorem admits_eq_false_iff {gate : Gate} {message : Message} :
    gate.admits message = false ↔
      gate.threshold.rank < message.level.rank ∨
        ∃ category, message.source = .category category ∧
          gate.categories.contains category = false := by
  have hlevel : gate.admitsLevel message.level = false ↔
      gate.threshold.rank < message.level.rank := by
    simp [admitsLevel, Level.admits]
  have hsource : gate.admitsSource message.source = false ↔
      ∃ category, message.source = .category category ∧
        gate.categories.contains category = false := by
    cases message.source <;> simp [admitsSource]
  rw [admits, Bool.and_eq_false_iff, hlevel, hsource]

end Gate

namespace Traced

variable {ε α β : Type}

/-- A gate takes messages away from the computation and does nothing else to it. -/
structure Faithful (x : Traced ε α) : Prop where
  outcome (gate : Gate) : x.outcome gate = x.outcome .wide
  messages (gate : Gate) : x.messages gate = (x.messages .wide).filter gate.admits

theorem faithful_pure (a : α) : Faithful (pure a : Traced ε α) :=
  ⟨fun _ => rfl, fun _ => rfl⟩

theorem faithful_fail (e : ε) : Faithful (fail e : Traced ε α) :=
  ⟨fun _ => rfl, fun _ => rfl⟩

theorem faithful_ofExcept (x : Except ε α) : Faithful (ofExcept x) :=
  ⟨fun _ => rfl, fun _ => rfl⟩

theorem faithful_note (message : Message) : Faithful (note message : Traced ε Unit) := by
  refine ⟨fun _ => rfl, fun gate => ?_⟩
  rw [messages_note, messages_note, if_pos (Gate.wide_admits message), List.filter_cons, List.filter_nil]

theorem faithful_debug (category : Category) (text : String) :
    Faithful (debug category text : Traced ε Unit) :=
  faithful_note _

/-- Asking for a category before a message of this category changes nothing: the gate asks again. -/
theorem whenAdmitted_debug (category : Category) (text : String) :
    whenAdmitted category (debug category text) = (debug category text : Traced ε Unit) := by
  refine ext (fun gate => ?_) (fun gate => ?_)
  · rw [outcome_whenAdmitted]
    split <;> rfl
  · rw [messages_whenAdmitted, debug, messages_note, Gate.admits_debug]
    split <;> rfl

theorem Faithful.bind {x : Traced ε α} {f : α → Traced ε β} (hx : Faithful x)
    (hf : ∀ a, Faithful (f a)) : Faithful (x >>= f) := by
  refine ⟨fun gate => ?_, fun gate => ?_⟩
  · rw [outcome_bind, outcome_bind, hx.outcome gate]
    cases x.outcome .wide with
    | error e => rfl
    | ok a => exact (hf a).outcome gate
  · cases hwide : x.outcome .wide with
    | error e =>
      have hgate : x.outcome gate = .error e := (hx.outcome gate).trans hwide
      rw [messages_bind_error hgate, messages_bind_error hwide, hx.messages gate]
    | ok a =>
      have hgate : x.outcome gate = .ok a := (hx.outcome gate).trans hwide
      rw [messages_bind_ok hgate, messages_bind_ok hwide, hx.messages gate, (hf a).messages gate,
        List.filter_append]

theorem faithful_forM {f : α → Traced ε Unit} (hf : ∀ a, Faithful (f a)) (l : List α) :
    Faithful (l.forM f) := by
  induction l with
  | nil => exact faithful_pure ()
  | cons a rest ih => exact (hf a).bind fun _ => ih

end Traced

namespace InPlace

variable {σ τ ε α β : Type}

/-- A gate takes messages away from the computation, whatever state it starts from, and does nothing
else to it. -/
structure Faithful (x : InPlace σ ε α) : Prop where
  outcome (state : σ) (gate : Gate) : x.outcome state gate = x.outcome state .wide
  messages (state : σ) (gate : Gate) :
    x.messages state gate = (x.messages state .wide).filter gate.admits

theorem faithful_pure (a : α) : Faithful (pure a : InPlace σ ε α) :=
  ⟨fun _ _ => rfl, fun _ _ => rfl⟩

theorem faithful_fail (e : ε) : Faithful (fail e : InPlace σ ε α) :=
  ⟨fun _ _ => rfl, fun _ _ => rfl⟩

theorem faithful_get : Faithful (get : InPlace σ ε σ) :=
  ⟨fun _ _ => rfl, fun _ _ => rfl⟩

theorem faithful_modify (change : σ → σ) : Faithful (modify change : InPlace σ ε Unit) :=
  ⟨fun _ _ => rfl, fun _ _ => rfl⟩

theorem faithful_lift {x : Traced ε α} (h : x.Faithful) : Faithful (liftM x : InPlace σ ε α) := by
  refine ⟨fun state gate => ?_, fun state gate => ?_⟩
  · rw [outcome_lift, outcome_lift, h.outcome gate]
  · rw [messages_lift, messages_lift, h.messages gate]

theorem Faithful.onPart {x : InPlace τ ε α} (h : Faithful x) (part : σ → τ) (replace : σ → τ → σ) :
    Faithful (onPart part replace x) := by
  refine ⟨fun state gate => ?_, fun state gate => ?_⟩
  · rw [outcome_onPart, outcome_onPart, h.outcome _ gate]
  · rw [messages_onPart, messages_onPart, h.messages _ gate]

theorem Faithful.bind {x : InPlace σ ε α} {f : α → InPlace σ ε β} (hx : Faithful x)
    (hf : ∀ a, Faithful (f a)) : Faithful (x >>= f) := by
  refine ⟨fun state gate => ?_, fun state gate => ?_⟩
  · rcases hwide : x.outcome state .wide with ⟨e | a, next⟩
    · have hgate := (hx.outcome state gate).trans hwide
      rw [outcome_bind_of_error hgate, outcome_bind_of_error hwide]
    · have hgate := (hx.outcome state gate).trans hwide
      rw [outcome_bind_of_ok hgate, outcome_bind_of_ok hwide, (hf a).outcome next gate]
  · rcases hwide : x.outcome state .wide with ⟨e | a, next⟩
    · have hgate := (hx.outcome state gate).trans hwide
      rw [messages_bind_of_error hgate, messages_bind_of_error hwide, hx.messages state gate]
    · have hgate := (hx.outcome state gate).trans hwide
      rw [messages_bind_of_ok hgate, messages_bind_of_ok hwide, hx.messages state gate,
        (hf a).messages next gate, List.filter_append]

end InPlace

end Paymaster
