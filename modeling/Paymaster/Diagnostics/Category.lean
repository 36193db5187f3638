import Paymaster.Text.Keyword
/-!
# Message categories

Debug messages belong to a category that is switched on by itself. A comma list
is read from left to right: a category joins the set, the words for all and for
none replace it, and the first unknown field is the error.
-/
namespace Paymaster

inductive Category where
  | payments
  | governance
deriving DecidableEq

namespace Category

def name : Category → String
  | payments => "mnpayments"
  | governance => "gobject"

def ofName? (raw : String) : Option Category :=
  match Text.keyword raw with
  | "mnpayments" => some payments
  | "gobject" | "governance" => some governance
  | _ => none

end Category

structure CategorySet where
  payments : Bool
  governance : Bool
deriving DecidableEq

/-- A field of a list that names no category. -/
structure UnknownCategory where
  field : String
deriving DecidableEq

def UnknownCategory.message (unknown : UnknownCategory) : String :=
  "unknown log category '" ++ unknown.field ++ "'"

namespace CategorySet

def none : CategorySet :=
  ⟨false, false⟩

def all : CategorySet :=
  ⟨true, true⟩

def insert (set : CategorySet) : Category → CategorySet
  | .payments => { set with payments := true }
  | .governance => { set with governance := true }

def contains (set : CategorySet) : Category → Bool
  | .payments => set.payments
  | .governance => set.governance

/-- The members, payments first. -/
def toList (set : CategorySet) : List Category :=
  [Category.payments, .governance].filter set.contains

/-- The set after one more field of a list. -/
def insertField (set : CategorySet) (field : String) : Except UnknownCategory CategorySet :=
  match Text.keyword field with
  | "all" | "1" => .ok all
  | "none" | "0" => .ok none
  | _ =>
    match Category.ofName? field with
    | some category => .ok (set.insert category)
    | Option.none => .error ⟨field⟩

/-- The fields of a comma list, trimmed, without the empty ones. -/
def listFields (raw : String) : List String :=
  (((Text.fields ',' raw.toList).map Text.trim).filter fun field => !field.isEmpty).map String.ofList

def ofString (raw : String) : Except UnknownCategory CategorySet :=
  (listFields raw).foldlM insertField none

end CategorySet

end Paymaster
