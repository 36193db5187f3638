import Paymaster.Diagnostics.Category
import Paymaster.Proofs.Text.Trimming
/-!
# Lists of categories, field by field

A comma list is read from left to right. A field between two commas is blank and does
nothing, or its word replaces the set, adds one category, or is unknown and ends the
reading. So what a list does to a set is known from what it makes of the empty one.
-/
namespace Paymaster

namespace CategorySet

def union (left right : CategorySet) : CategorySet :=
  ⟨left.payments || right.payments, left.governance || right.governance⟩

theorem contains_union (left right : CategorySet) (category : Category) :
    (left.union right).contains category = (left.contains category || right.contains category) := by
  cases category <;> rfl

@[simp] theorem union_none (set : CategorySet) : set.union none = set := by
  simp [union, none]

private theorem insert_union (left right : CategorySet) (category : Category) :
    (left.insert category).union right = left.union ((none.insert category).union right) := by
  cases category <;> simp [insert, union, none]

theorem insert_union_comm (left right : CategorySet) (category : Category) :
    (left.union right).insert category = (left.insert category).union right := by
  cases category <;> simp [insert, union]

theorem insert_insert (set : CategorySet) (category : Category) :
    (set.insert category).insert category = set.insert category := by
  cases category <;> rfl

end CategorySet

namespace CategoryList

def resetWords : List String :=
  ["all", "1", "none", "0"]

def categoryWords : List String :=
  ["mnpayments", "gobject", "governance"]

/-- A field as it is compared: trimmed and in lower case. -/
def word (field : List Char) : String :=
  String.ofList (Text.lower (Text.trim field))

def IsReset (field : List Char) : Prop :=
  word field ∈ resetWords

def IsCategory (field : List Char) : Prop :=
  word field ∈ categoryWords

instance (field : List Char) : Decidable (IsReset field) :=
  inferInstanceAs (Decidable (word field ∈ resetWords))

instance (field : List Char) : Decidable (IsCategory field) :=
  inferInstanceAs (Decidable (word field ∈ categoryWords))

/-- A field that ends the reading: it has a word, and the word is not known. -/
def IsUnknown (field : List Char) : Prop :=
  Text.trim field ≠ [] ∧ ¬ IsReset field ∧ ¬ IsCategory field

def readField (set : CategorySet) (field : List Char) : Except UnknownCategory CategorySet :=
  if Text.trim field = [] then .ok set else set.insertField (String.ofList (Text.trim field))

def readFields (set : CategorySet) (fields : List (List Char)) :
    Except UnknownCategory CategorySet :=
  fields.foldlM readField set

/-- All that a field can do. -/
inductive Reading (field : List Char) : Prop where
  | blank (trimmed : Text.trim field = []) (notReset : ¬ IsReset field)
      (read : ∀ set, readField set field = .ok set)
  | reset (target : CategorySet) (isReset : IsReset field)
      (read : ∀ set, readField set field = .ok target)
  | category (category : Category) (notReset : ¬ IsReset field) (isCategory : IsCategory field)
      (read : ∀ set, readField set field = .ok (set.insert category))
  | unknown (isUnknown : IsUnknown field)
      (read : ∀ set, readField set field = .error ⟨String.ofList (Text.trim field)⟩)

theorem IsUnknown.word_ne {field : List Char} (h : IsUnknown field) :
    word field ≠ "all" ∧ word field ≠ "1" ∧ word field ≠ "none" ∧ word field ≠ "0" ∧
      word field ≠ "mnpayments" ∧ word field ≠ "gobject" ∧ word field ≠ "governance" := by
  have hreset := h.2.1
  have hcategory := h.2.2
  simp only [IsReset, resetWords, List.mem_cons, List.not_mem_nil, or_false, not_or] at hreset
  simp only [IsCategory, categoryWords, List.mem_cons, List.not_mem_nil, or_false, not_or] at hcategory
  exact ⟨hreset.1, hreset.2.1, hreset.2.2.1, hreset.2.2.2, hcategory⟩

theorem keyword_trim (field : List Char) :
    Text.keyword (String.ofList (Text.trim field)) = word field := by
  rw [Text.keyword, String.toList_ofList, Text.trim_trim, word]

theorem word_of_blank {field : List Char} (h : Text.trim field = []) : word field = "" := by
  rw [word, h]
  rfl

theorem reading (field : List Char) : Reading field := by
  by_cases hblank : Text.trim field = []
  · refine .blank hblank ?_ fun set => if_pos hblank
    rw [IsReset, word_of_blank hblank]
    decide
  · have hread (set : CategorySet) : readField set field = _ := if_neg hblank
    simp only [CategorySet.insertField, Category.ofName?, keyword_trim] at hread
    by_cases hreset : IsReset field
    · have hwords := hreset
      simp only [IsReset, resetWords, List.mem_cons, List.not_mem_nil, or_false] at hwords
      rcases hwords with hword | hword | hword | hword
      all_goals
        simp only [hword] at hread
        exact .reset _ hreset hread
    · by_cases hcategory : IsCategory field
      · have hwords := hcategory
        simp only [IsCategory, categoryWords, List.mem_cons, List.not_mem_nil, or_false] at hwords
        rcases hwords with hword | hword | hword
        all_goals
          simp only [hword] at hread
          exact .category _ hreset hcategory hread
      · have hunknown : IsUnknown field := ⟨hblank, hreset, hcategory⟩
        obtain ⟨hall, hone, hnone, hzero, hpayments, hgobject, hgovernance⟩ := hunknown.word_ne
        refine .unknown hunknown fun set => ?_
        simp only [hread]

theorem readFields_cons (set : CategorySet) (field : List Char) (fields : List (List Char)) :
    readFields set (field :: fields) = readField set field >>= fun next => readFields next fields :=
  List.foldlM_cons

theorem readFields_append (set : CategorySet) (left right : List (List Char)) :
    readFields set (left ++ right) = readFields set left >>= fun next => readFields next right :=
  List.foldlM_append

/-- Some field replaces the set, so what came before it does not matter. -/
def Resets (fields : List (List Char)) : Prop :=
  ∃ field ∈ fields, IsReset field

instance (fields : List (List Char)) : Decidable (Resets fields) :=
  inferInstanceAs (Decidable (∃ field ∈ fields, IsReset field))

/-- A set after a list that makes `read` of the empty set. -/
def extend (set : CategorySet) (fields : List (List Char)) (read : CategorySet) : CategorySet :=
  if Resets fields then read else set.union read

private theorem resets_cons {field : List Char} {fields : List (List Char)} :
    Resets (field :: fields) ↔ IsReset field ∨ Resets fields :=
  List.exists_mem_cons_iff ..

private theorem extend_of_resets {fields : List (List Char)} (h : Resets fields)
    (set read : CategorySet) : extend set fields read = read :=
  if_pos h

theorem extend_of_not_resets {fields : List (List Char)} (h : ¬ Resets fields)
    (set read : CategorySet) : extend set fields read = set.union read :=
  if_neg h

private theorem extend_cons_of_reset {field : List Char} (h : IsReset field) (set : CategorySet)
    (fields : List (List Char)) : extend set (field :: fields) = id := by
  funext read
  exact extend_of_resets (resets_cons.mpr (.inl h)) set read

private theorem extend_cons_of_not_reset {field : List Char} (h : ¬ IsReset field) (set : CategorySet)
    (fields : List (List Char)) : extend set (field :: fields) = extend set fields := by
  funext read
  simp only [extend, resets_cons, h, false_or]

private theorem extend_insert (set : CategorySet) (category : Category) (fields : List (List Char))
    (read : CategorySet) : extend (set.insert category) fields read =
      extend set fields (extend (CategorySet.none.insert category) fields read) := by
  by_cases hresets : Resets fields
  · rw [extend_of_resets hresets, extend_of_resets hresets, extend_of_resets hresets]
  · rw [extend_of_not_resets hresets, extend_of_not_resets hresets, extend_of_not_resets hresets,
      CategorySet.insert_union]

/-- What a list makes of a set, from what it makes of the empty one. -/
theorem readFields_eq (set : CategorySet) (fields : List (List Char)) :
    readFields set fields = (readFields .none fields).map (extend set fields) := by
  induction fields generalizing set with
  | nil => simp [readFields, extend, Resets, pure, Except.pure, Except.map]
  | cons field fields ih =>
    rw [readFields_cons, readFields_cons]
    cases reading field with
    | blank _ notReset read =>
      rw [read, read, extend_cons_of_not_reset notReset]
      exact ih set
    | reset target isReset read =>
      rw [read, read, extend_cons_of_reset isReset, Except.map_id]
      rfl
    | category category notReset _ read =>
      rw [read, read, extend_cons_of_not_reset notReset]
      change readFields _ _ = (readFields _ _).map _
      rw [ih (set.insert category), ih (CategorySet.none.insert category)]
      cases readFields .none fields with
      | error => rfl
      | ok read => exact congrArg Except.ok (extend_insert set category fields read)
    | unknown _ read =>
      rw [read, read]
      rfl

theorem not_isUnknown_iff {field : List Char} :
    ¬ IsUnknown field ↔ (Text.trim field ≠ [] → word field ∈ resetWords ++ categoryWords) := by
  rw [List.mem_append, IsUnknown, IsReset, IsCategory]
  tauto

theorem readField_of_unknown {field : List Char} (h : IsUnknown field) (set : CategorySet) :
    readField set field = .error ⟨String.ofList (Text.trim field)⟩ := by
  cases reading field with
  | blank trimmed _ _ => exact absurd trimmed h.1
  | reset _ isReset _ => exact absurd isReset h.2.1
  | category _ _ isCategory _ => exact absurd isCategory h.2.2
  | unknown _ read => exact read set

theorem exists_readField_of_known {field : List Char} (h : ¬ IsUnknown field) (set : CategorySet) :
    ∃ next, readField set field = .ok next := by
  cases reading field with
  | blank _ _ read => exact ⟨set, read set⟩
  | reset target _ read => exact ⟨target, read set⟩
  | category category _ _ read => exact ⟨set.insert category, read set⟩
  | unknown isUnknown _ => exact absurd isUnknown h

theorem readFields_eq_error_iff {set : CategorySet} {fields : List (List Char)}
    {unknown : UnknownCategory} :
    readFields set fields = .error unknown ↔
      ∃ before field after, fields = before ++ field :: after ∧ (∀ f ∈ before, ¬ IsUnknown f) ∧
        IsUnknown field ∧ unknown = ⟨String.ofList (Text.trim field)⟩ := by
  induction fields generalizing set with
  | nil => simp [readFields, pure, Except.pure]
  | cons first rest ih =>
    rw [readFields_cons]
    by_cases hunknown : IsUnknown first
    · rw [readField_of_unknown hunknown]
      constructor
      · intro h
        cases h
        exact ⟨[], first, rest, rfl, nofun, hunknown, rfl⟩
      · rintro ⟨before, field, after, hsplit, hbefore, -, rfl⟩
        cases before with
        | nil =>
          rw [List.nil_append, List.cons.injEq] at hsplit
          rw [hsplit.1]
          rfl
        | cons f before =>
          rw [List.cons_append, List.cons.injEq] at hsplit
          rw [hsplit.1] at hunknown
          exact absurd hunknown (hbefore f List.mem_cons_self)
    · obtain ⟨next, hnext⟩ := exists_readField_of_known hunknown set
      rw [hnext]
      change readFields next rest = .error unknown ↔ _
      rw [ih]
      constructor
      · rintro ⟨before, field, after, rfl, hbefore, hfield, hname⟩
        refine ⟨first :: before, field, after, rfl, ?_, hfield, hname⟩
        exact List.forall_mem_cons.mpr ⟨hunknown, hbefore⟩
      · rintro ⟨before, field, after, hsplit, hbefore, hfield, hname⟩
        cases before with
        | nil =>
          rw [List.nil_append, List.cons.injEq] at hsplit
          rw [← hsplit.1] at hfield
          exact absurd hfield hunknown
        | cons f before =>
          rw [List.cons_append, List.cons.injEq] at hsplit
          exact ⟨before, field, after, hsplit.2, (List.forall_mem_cons.mp hbefore).2, hfield, hname⟩

theorem exists_readFields_iff {set : CategorySet} {fields : List (List Char)} :
    (∃ next, readFields set fields = .ok next) ↔ ∀ field ∈ fields, ¬ IsUnknown field := by
  induction fields generalizing set with
  | nil => simp [readFields, pure, Except.pure]
  | cons first rest ih =>
    rw [readFields_cons, List.forall_mem_cons]
    by_cases hunknown : IsUnknown first
    · rw [readField_of_unknown hunknown]
      exact iff_of_false nofun fun h => h.1 hunknown
    · obtain ⟨next, hnext⟩ := exists_readField_of_known hunknown set
      rw [hnext, and_iff_right hunknown, ← ih]
      exact Iff.rfl

end CategoryList

namespace CategorySet

/-- Reading a comma list is reading its fields, the blank ones included. -/
theorem ofString_eq_readFields (raw : String) :
    ofString raw = CategoryList.readFields none (Text.fields ',' raw.toList) := by
  rw [ofString, listFields]
  generalize Text.fields ',' raw.toList = fields
  generalize none = set
  induction fields generalizing set with
  | nil => rfl
  | cons field fields ih =>
    rw [CategoryList.readFields_cons, CategoryList.readField, List.map_cons]
    by_cases hblank : Text.trim field = []
    · rw [if_pos hblank, List.filter_cons_of_neg (by simp [hblank]), ih]
      rfl
    · rw [if_neg hblank, List.filter_cons_of_pos (by simpa using hblank), List.map_cons,
        List.foldlM_cons]
      cases set.insertField (String.ofList (Text.trim field)) with
      | error unknown => rfl
      | ok next => exact ih next

end CategorySet

end Paymaster
