import Mathlib.Data.List.Basic
import Paymaster.Text.Keyword
/-!
# Letter case

Only ASCII letters change in lower case, so a fact about letter case has to be checked for
the ASCII characters and is plain for all others.
-/
namespace Paymaster.Text

theorem forall_ascii (property : Char → Prop) (h : ∀ n < 128, property (Char.ofNat n)) {c : Char}
    (hc : c.toNat < 128) : property c := by
  have hnumbered := h c.toNat hc
  rwa [Char.ofNat_toNat] at hnumbered

theorem toLower_of_not_ascii {c : Char} (hc : 128 ≤ c.toNat) : c.toLower = c := by
  apply dif_neg
  rintro ⟨_, hlast⟩
  have hle : c.toNat ≤ 90 := hlast
  omega

@[simp] theorem lower_nil : lower [] = [] := rfl

@[simp] theorem lower_cons (c : Char) (cs : List Char) : lower (c :: cs) = c.toLower :: lower cs :=
  rfl

@[simp] theorem lower_append (left right : List Char) :
    lower (left ++ right) = lower left ++ lower right :=
  List.map_append

@[simp] theorem length_lower (cs : List Char) : (lower cs).length = cs.length :=
  List.length_map _

theorem lower_lower (cs : List Char) : lower (lower cs) = lower cs := by
  have hchar (c : Char) : c.toLower.toLower = c.toLower := by
    by_cases hc : c.toNat < 128
    · exact forall_ascii (fun c => c.toLower.toLower = c.toLower) (by decide) hc
    · have hsame : c.toLower = c := toLower_of_not_ascii (by omega)
      rw [hsame, hsame]
  rw [lower, lower, List.map_map]
  exact List.map_congr_left fun c _ => hchar c

private theorem toLower_eq_comma_iff {c : Char} : c.toLower = ',' ↔ c = ',' := by
  by_cases hc : c.toNat < 128
  · exact forall_ascii (fun c => c.toLower = ',' ↔ c = ',') (by decide) hc
  · rw [toLower_of_not_ascii (by omega)]

theorem fields_lower (cs : List Char) : fields ',' (lower cs) = (fields ',' cs).map lower := by
  induction cs with
  | nil => rfl
  | cons c cs ih =>
    by_cases hc : c = ','
    · rw [lower_cons, fields, fields, if_pos (toLower_eq_comma_iff.mpr hc), if_pos hc, ih]
      rfl
    · rw [lower_cons, fields, fields, if_neg (mt toLower_eq_comma_iff.mp hc), if_neg hc, ih]
      cases fields ',' cs <;> rfl

end Paymaster.Text
