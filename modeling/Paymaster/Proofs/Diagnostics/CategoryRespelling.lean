import Mathlib.Logic.Relation
import Paymaster.Proofs.Diagnostics.CategoryList
/-!
# Spellings of category lists

A comma list is read as a left fold in which some fields start anew. Blanks, letter case
and the order and number of categories between two such fields do not matter; an unknown
field is named as it is written.
-/
namespace Paymaster

namespace CategoryList

/-- A change of a list that does not touch what it says: blanks around a field, a blank field, a known
field in other letters, a category beyond fields that do not replace the set, or once more. -/
inductive Respells : List (List Char) → List (List Char) → Prop where
  | spaced {left right : List Char} (field : List Char) : Text.Blank left → Text.Blank right →
      Respells [field] [left ++ field ++ right]
  | empty {field : List Char} : Text.Blank field → Respells [] [field]
  | recased {field other : List Char} : ¬ IsUnknown field → Text.lower field = Text.lower other →
      Respells [field] [other]
  | moved {field : List Char} {between : List (List Char)} : IsCategory field → ¬ Resets between →
      Respells (field :: between) (between ++ [field])
  | repeated {field : List Char} : IsCategory field → Respells [field] [field, field]
  | within {left right : List (List Char)} (before after : List (List Char)) : Respells left right →
      Respells (before ++ left ++ after) (before ++ right ++ after)

/-- The same unknown field in lower case. -/
def foldCase (unknown : UnknownCategory) : UnknownCategory :=
  ⟨Text.keyword unknown.field⟩

/-- Reads a word instead of the field that has it. -/
def readWord (set : CategorySet) (word : String) : Except UnknownCategory CategorySet :=
  match word with
  | "" => .ok set
  | "all" | "1" => .ok .all
  | "none" | "0" => .ok .none
  | "mnpayments" => .ok (set.insert .payments)
  | "gobject" | "governance" => .ok (set.insert .governance)
  | _ => .error ⟨word⟩

private theorem word_eq_empty_iff {field : List Char} : word field = "" ↔ Text.trim field = [] := by
  constructor
  · intro h
    have hlower : Text.lower (Text.trim field) = [] := String.ofList_injective h
    exact List.map_eq_nil_iff.mp hlower
  · exact word_of_blank

/-- Up to letter case, what a field does depends on its word. -/
private theorem mapError_readField (set : CategorySet) (field : List Char) :
    (readField set field).mapError foldCase = readWord set (word field) := by
  by_cases hblank : Text.trim field = []
  · rw [readField, if_pos hblank, word_of_blank hblank]
    rfl
  · by_cases hunknown : IsUnknown field
    · have hempty : word field ≠ "" := fun h => hblank (word_eq_empty_iff.mp h)
      obtain ⟨hall, hone, hnone, hzero, hpayments, hgobject, hgovernance⟩ := hunknown.word_ne
      rw [readField_of_unknown hunknown, Except.mapError, foldCase, keyword_trim]
      simp only [readWord]
    · have hwords := not_isUnknown_iff.mp hunknown hblank
      rw [readField, if_neg hblank, CategorySet.insertField, Category.ofName?, keyword_trim]
      generalize word field = found at hwords
      simp only [resetWords, categoryWords, List.cons_append, List.nil_append, List.mem_cons,
        List.not_mem_nil, or_false] at hwords
      rcases hwords with rfl | rfl | rfl | rfl | rfl | rfl | rfl
      all_goals rfl

private theorem mapError_readFields (set : CategorySet) (fields : List (List Char)) :
    (readFields set fields).mapError foldCase = (fields.map word).foldlM readWord set := by
  induction fields generalizing set with
  | nil => rfl
  | cons field fields ih =>
    rw [readFields_cons, List.map_cons, List.foldlM_cons, ← mapError_readField]
    cases readField set field with
    | error unknown => rfl
    | ok next => exact ih next

private theorem readField_eq_ok_iff {set next : CategorySet} {field : List Char} :
    readField set field = .ok next ↔ readWord set (word field) = .ok next := by
  rw [← mapError_readField]
  cases readField set field <;> simp [Except.mapError]

private theorem readField_recased {field other : List Char} (hknown : ¬ IsUnknown field)
    (hlower : Text.lower field = Text.lower other) (set : CategorySet) :
    readField set field = readField set other := by
  have hword : word field = word other := by
    rw [word, word, ← Text.trim_lower, ← Text.trim_lower, hlower]
  obtain ⟨next, hnext⟩ := exists_readField_of_known hknown set
  have hother : readField set other = .ok next := by
    rw [readField_eq_ok_iff, ← hword, ← readField_eq_ok_iff, hnext]
  rw [hnext, hother]

private theorem readField_of_category {field : List Char} (h : IsCategory field) :
    ∃ category : Category, ∀ set, readField set field = .ok (set.insert category) := by
  have hnotReset : ¬ IsReset field := by
    intro hreset
    have hdisjoint : ∀ known ∈ resetWords, known ∉ categoryWords := by decide
    exact hdisjoint _ hreset h
  cases reading field with
  | blank trimmed _ _ =>
    rw [IsCategory, word_of_blank trimmed] at h
    exact absurd h (by decide)
  | reset _ isReset _ => exact absurd isReset hnotReset
  | category category _ _ read => exact ⟨category, read⟩
  | unknown isUnknown _ => exact absurd h isUnknown.2.2

private theorem readFields_singleton (set : CategorySet) (field : List Char) :
    readFields set [field] = readField set field := by
  rw [readFields_cons]
  cases readField set field <;> rfl

private theorem readFields_moved {field : List Char} {between : List (List Char)}
    (hfield : IsCategory field) (hbetween : ¬ Resets between) (set : CategorySet) :
    readFields set (field :: between) = readFields set (between ++ [field]) := by
  obtain ⟨category, hread⟩ := readField_of_category hfield
  rw [readFields_cons, readFields_append, hread]
  change readFields (set.insert category) between = _
  rw [readFields_eq set, readFields_eq (set.insert category)]
  cases readFields .none between with
  | error unknown => rfl
  | ok read =>
    change Except.ok (extend _ between read) = readFields (extend _ between read) [field]
    rw [readFields_singleton, hread, extend_of_not_resets hbetween, extend_of_not_resets hbetween,
      CategorySet.insert_union_comm]

theorem Respells.readFields_eq {left right : List (List Char)} (h : Respells left right)
    (set : CategorySet) : readFields set left = readFields set right := by
  induction h generalizing set with
  | spaced field hleft hright =>
    rw [readFields_singleton, readFields_singleton, readField, readField,
      Text.trim_surrounded hleft hright]
  | empty hblank =>
    rw [readFields_singleton, readField, if_pos (Text.trim_eq_nil_iff.mpr hblank)]
    rfl
  | recased hknown hlower =>
    rw [readFields_singleton, readFields_singleton, readField_recased hknown hlower]
  | moved hfield hbetween => exact readFields_moved hfield hbetween set
  | repeated hfield =>
    obtain ⟨category, hread⟩ := readField_of_category hfield
    rw [readFields_cons, readFields_cons, hread]
    change readFields _ [] = readField _ _ >>= _
    rw [hread, CategorySet.insert_insert]
    rfl
  | within before after _ ih =>
    rw [readFields_append, readFields_append, readFields_append, readFields_append]
    simp only [ih]

private theorem readFields_of_respelled {left right : List (List Char)}
    (h : Relation.EqvGen Respells left right) (set : CategorySet) :
    readFields set left = readFields set right := by
  induction h with
  | rel left right h => exact h.readFields_eq set
  | refl fields => rfl
  | symm left right _ ih => exact ih.symm
  | trans left middle right _ _ ihleft ihright => exact ihleft.trans ihright

private theorem map_word_of_lower {left right : List Char} (h : Text.lower left = Text.lower right) :
    (Text.fields ',' left).map word = (Text.fields ',' right).map word := by
  have hwords (cs : List Char) :
      (Text.fields ',' (Text.lower cs)).map word = (Text.fields ',' cs).map word := by
    rw [Text.fields_lower, List.map_map]
    apply List.map_congr_left
    intro field _
    rw [Function.comp_apply, word, word, Text.trim_lower, Text.lower_lower]
  rw [← hwords left, h, hwords right]

end CategoryList

namespace CategorySet

open CategoryList

private theorem toList_comma (left right : String) :
    (left ++ "," ++ right).toList = left.toList ++ ',' :: right.toList := by
  simp

theorem ofString_comma (left right : String) :
    ofString (left ++ "," ++ right) = do
      let before ← ofString left
      let after ← ofString right
      return if Resets (Text.fields ',' right.toList) then after else before.union after := by
  rw [ofString_eq_readFields, toList_comma, Text.fields_append_sep, readFields_append,
    ofString_eq_readFields, ofString_eq_readFields]
  apply bind_congr
  intro before
  rw [CategoryList.readFields_eq before]
  cases readFields none (Text.fields ',' right.toList) <;> rfl

theorem ofString_of_respelled {left right : String}
    (h : Relation.EqvGen Respells (Text.fields ',' left.toList) (Text.fields ',' right.toList)) :
    ofString left = ofString right := by
  rw [ofString_eq_readFields, ofString_eq_readFields, readFields_of_respelled h]

theorem ofString_foldCase {left right : String}
    (h : Text.lower left.toList = Text.lower right.toList) :
    (ofString left).mapError foldCase = (ofString right).mapError foldCase := by
  rw [ofString_eq_readFields, ofString_eq_readFields, mapError_readFields, mapError_readFields,
    map_word_of_lower h]

private theorem ofString_of_words {raw : String} {words : List String} {set : CategorySet}
    (hfield : ',' ∉ raw.toList) (hread : ∀ known ∈ words, readWord none known = .ok set)
    (hword : word raw.toList ∈ words) : ofString raw = .ok set := by
  rw [ofString_eq_readFields, Text.fields_of_not_mem hfield, readFields_singleton,
    readField_eq_ok_iff]
  exact hread _ hword

/-- A comma list is read as a left fold with fields that start anew. A single field gives all, none or
one category, the word of each being known. A joined list fails as its first
part does, or else as its second one, and otherwise is the second set, joined to the first unless
something in the second part starts anew. A list is refused exactly if some field that is not blank has
an unknown word, and the first such field is named as it is written. Respelling a list changes nothing,
and neither does letter case but in the name of an unknown field. -/
theorem ofString_left_fold :
    (∀ raw : String, ',' ∉ raw.toList →
      (word raw.toList ∈ ["", "none", "0"] → ofString raw = .ok ⟨false, false⟩) ∧
      (word raw.toList ∈ ["all", "1"] → ofString raw = .ok ⟨true, true⟩) ∧
      (word raw.toList ∈ ["mnpayments"] → ofString raw = .ok ⟨true, false⟩) ∧
      (word raw.toList ∈ ["gobject", "governance"] → ofString raw = .ok ⟨false, true⟩)) ∧
    (∀ left right, ofString (left ++ "," ++ right) = do
      let before ← ofString left
      let after ← ofString right
      return if Resets (Text.fields ',' right.toList) then after else before.union after) ∧
    (∀ raw, (∃ set, ofString raw = .ok set) ↔
      ∀ field ∈ Text.fields ',' raw.toList, Text.trim field ≠ [] →
        word field ∈ ["all", "1", "none", "0", "mnpayments", "gobject", "governance"]) ∧
    (∀ raw unknown, ofString raw = .error unknown ↔
      ∃ before field after, Text.fields ',' raw.toList = before ++ field :: after ∧
        (∀ f ∈ before, ¬ IsUnknown f) ∧ IsUnknown field ∧
        unknown = ⟨String.ofList (Text.trim field)⟩) ∧
    (∀ left right : String,
      Relation.EqvGen Respells (Text.fields ',' left.toList) (Text.fields ',' right.toList) →
      ofString left = ofString right) ∧
    ∀ left right : String, Text.lower left.toList = Text.lower right.toList →
      (ofString left).mapError foldCase = (ofString right).mapError foldCase := by
  refine ⟨?_, ofString_comma, ?_, ?_, ?_, ?_⟩
  · intro raw hfield
    exact ⟨ofString_of_words hfield (by decide), ofString_of_words hfield (by decide),
      ofString_of_words hfield (by decide), ofString_of_words hfield (by decide)⟩
  · intro raw
    rw [ofString_eq_readFields, exists_readFields_iff]
    simp only [not_isUnknown_iff]
    exact Iff.rfl
  · intro raw unknown
    rw [ofString_eq_readFields, readFields_eq_error_iff]
  · intro left right h
    exact ofString_of_respelled h
  · intro left right h
    exact ofString_foldCase h

/-- Two categories change places, a blank goes and a blank field comes. -/
private theorem respelled_small :
    Relation.EqvGen Respells ["gobject".toList, " mnpayments".toList]
      ["mnpayments".toList, [], "gobject".toList] := by
  have hnothing : Text.Blank [] := nofun
  have hblank : Text.Blank [' '] := by
    intro c hc
    rw [List.mem_singleton.mp hc]
    rfl
  have hcategory : IsCategory "gobject".toList := by decide
  have hbetween : ¬ Resets [" mnpayments".toList] := by decide
  have hmoved : Respells ["gobject".toList, " mnpayments".toList]
      [" mnpayments".toList, "gobject".toList] :=
    .moved hcategory hbetween
  have hspaced : Respells ["mnpayments".toList] [[' '] ++ "mnpayments".toList ++ []] :=
    .spaced "mnpayments".toList hblank hnothing
  have htrimmed : Respells ["mnpayments".toList, "gobject".toList]
      [" mnpayments".toList, "gobject".toList] :=
    .within [] ["gobject".toList] hspaced
  have hempty : Respells ["mnpayments".toList, "gobject".toList]
      ["mnpayments".toList, [], "gobject".toList] :=
    .within ["mnpayments".toList] ["gobject".toList] (.empty hnothing)
  exact .trans _ _ _ (.rel _ _ hmoved)
    (.trans _ _ _ (.symm _ _ (.rel _ _ htrimmed)) (.rel _ _ hempty))

theorem ofString_left_fold_small :
    (',' ∉ " GOBJECT".toList ∧ word " GOBJECT".toList ∈ ["gobject", "governance"] ∧
      ofString " GOBJECT" = .ok ⟨false, true⟩) ∧
    Relation.EqvGen Respells (Text.fields ',' "gobject, mnpayments".toList)
      (Text.fields ',' "mnpayments,,gobject".toList) ∧
    ofString "gobject, mnpayments" = ofString "mnpayments,,gobject" ∧
    Text.lower "GOBJECT, x".toList = Text.lower "gobject, X".toList ∧
    (ofString "GOBJECT, x").mapError foldCase = (ofString "gobject, X").mapError foldCase := by
  obtain ⟨hsingle, _, _, _, hrespelled, hcase⟩ := ofString_left_fold
  have hfield : ',' ∉ " GOBJECT".toList := by decide
  have hword : word " GOBJECT".toList ∈ ["gobject", "governance"] := by decide
  have hfields : Relation.EqvGen Respells (Text.fields ',' "gobject, mnpayments".toList)
      (Text.fields ',' "mnpayments,,gobject".toList) := respelled_small
  have hlower : Text.lower "GOBJECT, x".toList = Text.lower "gobject, X".toList := by decide
  exact ⟨⟨hfield, hword, (hsingle _ hfield).2.2.2 hword⟩, hfields, hrespelled _ _ hfields, hlower,
    hcase _ _ hlower⟩

end CategorySet

end Paymaster
