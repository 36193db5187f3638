import Paymaster.Text.Blank
/-!
# Keywords and comma lists

A keyword is read after trimming and with ASCII letters in lower case. A comma
list keeps every field between two commas, empty ones included.
-/
namespace Paymaster.Text

/-- ASCII letters in lower case; every other character as it is. -/
def lower (cs : List Char) : List Char :=
  cs.map Char.toLower

def keyword (raw : String) : String :=
  String.ofList (lower (trim raw.toList))

/-- The fields between separators, in order; a text without separator is one field. -/
def fields (sep : Char) : List Char → List (List Char)
  | [] => [[]]
  | c :: cs =>
    if c = sep then [] :: fields sep cs
    else
      match fields sep cs with
      | [] => [[c]]
      | field :: rest => (c :: field) :: rest

theorem fields_ne_nil (sep : Char) (cs : List Char) : fields sep cs ≠ [] := by
  cases cs with
  | nil => simp [fields]
  | cons c cs =>
    unfold fields
    split
    · simp
    · split <;> simp

/-- A separator between two texts ends the last field of the first one. -/
theorem fields_append_sep (sep : Char) (left right : List Char) :
    fields sep (left ++ sep :: right) = fields sep left ++ fields sep right := by
  induction left with
  | nil => simp [fields]
  | cons c cs ih =>
    by_cases hc : c = sep
    · simp [fields, hc, ih]
    · have hne := fields_ne_nil sep cs
      cases hf : fields sep cs with
      | nil => exact absurd hf hne
      | cons field rest => simp [fields, hc, ih, hf]

theorem fields_of_not_mem {sep : Char} {cs : List Char} (h : sep ∉ cs) : fields sep cs = [cs] := by
  induction cs with
  | nil => rfl
  | cons c cs ih =>
    rw [List.mem_cons, not_or] at h
    rw [fields, if_neg (Ne.symm h.1), ih h.2]

end Paymaster.Text
