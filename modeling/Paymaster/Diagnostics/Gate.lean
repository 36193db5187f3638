import Paymaster.Diagnostics.Category
import Paymaster.Diagnostics.Level
/-!
# Messages and the gate before them

A message has a level, a source and a text. A gate is a threshold and a set of
categories: a message passes if its level does and, where its source is a
category, the set contains it.
-/
namespace Paymaster

/-- Where a message comes from: a category, or one of the two block checks. -/
inductive Source where
  | category (category : Category)
  | payeeCheck
  | valueCheck
deriving DecidableEq

structure Message where
  level : Level
  source : Source
  text : String
deriving DecidableEq

def Message.debug (category : Category) (text : String) : Message :=
  ⟨.debug, .category category, text⟩

structure Gate where
  threshold : Level
  categories : CategorySet
deriving DecidableEq

namespace Gate

/-- The gate that lets every message pass. -/
def wide : Gate :=
  ⟨.trace, .all⟩

def admitsLevel (gate : Gate) (level : Level) : Bool :=
  gate.threshold.admits level

def admitsCategory (gate : Gate) (category : Category) : Bool :=
  gate.admitsLevel .debug && gate.categories.contains category

def admitsSource (gate : Gate) : Source → Bool
  | .category category => gate.categories.contains category
  | .payeeCheck | .valueCheck => true

def admits (gate : Gate) (message : Message) : Bool :=
  gate.admitsLevel message.level && gate.admitsSource message.source

@[simp] theorem admits_debug (gate : Gate) (category : Category) (text : String) :
    gate.admits (.debug category text) = gate.admitsCategory category := rfl

@[simp] theorem wide_admits (message : Message) : wide.admits message = true := by
  obtain ⟨level, source, text⟩ := message
  rcases source with category | _ | _
  · cases level <;> cases category <;> rfl
  · cases level <;> rfl
  · cases level <;> rfl

end Gate

end Paymaster
