import Paymaster.Amount
import Paymaster.Bytes.Hex
/-!
# Generation grants

A grant pays a fixed amount to one reserved key at one height. A table of grants
has one grant a height and amounts in range; a list with a fault is refused with
its first fault. The reserved key is recognised in the hexadecimal text of a script.
-/
namespace Paymaster

structure Grant where
  height : Height
  amount : Amount
deriving DecidableEq

inductive GrantFault where
  | duplicateHeight (height : Height)
  | amountOutOfRange (height : Height) (amount : Amount)
deriving DecidableEq

def GrantFault.message : GrantFault → String
  | duplicateHeight height => s!"duplicate generation grant at height {height}"
  | amountOutOfRange height amount =>
    s!"generation grant at height {height} has invalid amount {amount}"

namespace Grant

/-- The first fault of a list that follows grants at the heights `earlier`. -/
def faultAfter (earlier : List Height) : List Grant → Option GrantFault
  | [] => none
  | grant :: rest =>
    if grant.height ∈ earlier then some (.duplicateHeight grant.height)
    else if grant.amount.inRange then faultAfter (grant.height :: earlier) rest
    else some (.amountOutOfRange grant.height grant.amount)

theorem faultAfter_eq_none_iff {earlier : List Height} {grants : List Grant} :
    faultAfter earlier grants = none ↔
      (grants.map Grant.height).Nodup ∧ (∀ g ∈ grants, g.height ∉ earlier) ∧
        ∀ g ∈ grants, Amount.inRange g.amount = true := by
  induction grants generalizing earlier with
  | nil => simp [faultAfter]
  | cons grant rest ih =>
    unfold faultAfter
    by_cases seen : grant.height ∈ earlier
    · simp [seen]
    · by_cases ranged : grant.amount.inRange = true
      · simp only [seen, ranged, ih, List.map_cons, List.nodup_cons, List.mem_map, List.mem_cons,
          if_true, if_false]
        grind
      · simp [seen, ranged]

end Grant

/-- Grants at different heights, each with an amount in range. -/
structure GrantTable where
  grants : List Grant
  heights_nodup : (grants.map Grant.height).Nodup
  amounts_inRange : ∀ g ∈ grants, Amount.inRange g.amount = true

namespace GrantTable

def empty : GrantTable :=
  ⟨[], List.nodup_nil, nofun⟩

/-- A table of these grants, or the first fault among them. -/
def ofList (grants : List Grant) : Except GrantFault GrantTable :=
  match h : Grant.faultAfter [] grants with
  | some fault => .error fault
  | none =>
    have valid := Grant.faultAfter_eq_none_iff.mp h
    .ok ⟨grants, valid.1, valid.2.2⟩

def isEmpty (table : GrantTable) : Bool :=
  table.grants.isEmpty

def grantAt? (table : GrantTable) (height : Height) : Option Grant :=
  table.grants.find? fun grant => grant.height == height

def isGrantHeight (table : GrantTable) (height : Height) : Bool :=
  (table.grantAt? height).isSome

/-- The amount granted at a height, zero where there is no grant. -/
def amountAt (table : GrantTable) (height : Height) : Amount :=
  ((table.grantAt? height).map Grant.amount).getD 0

end GrantTable

namespace Grant

def recipient : Hash160 where
  bytes :=
    [0x5b, 0x1c, 0x71, 0x30, 0x17, 0xe9, 0xe6, 0xe0, 0x19, 0x26,
      0x4b, 0x0e, 0x6e, 0x3e, 0x8c, 0x3a, 0x5e, 0x03, 0xa3, 0xdb]
  length_bytes := rfl

/-- The recipient's key hash as it reads in the text of a script. -/
def recipientId : String :=
  "5b1c713017e9e6e019264b0e6e3e8c3a5e03a3db"

/-- Whether a list occurs in another without gaps. -/
def occursIn {α : Type} [BEq α] (part : List α) : List α → Bool
  | [] => part.isEmpty
  | x :: xs => part.isPrefixOf (x :: xs) || occursIn part xs

theorem occursIn_iff {α : Type} [BEq α] [LawfulBEq α] {part list : List α} :
    occursIn part list = true ↔ part <:+: list := by
  induction list with
  | nil => simp [occursIn]
  | cons x xs ih => simp [occursIn, ih, List.infix_cons_iff]

/-- Whether the text of a script names the recipient, at any position. -/
def namesRecipient (scriptText : String) : Bool :=
  occursIn recipientId.toList scriptText.toList

end Grant

end Paymaster
