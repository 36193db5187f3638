import Mathlib.Data.List.TakeWhile
import Paymaster.Proofs.Text.LetterCase
/-!
# Trimmed text

Trimming leaves the core of a text: what stands between the blanks at its ends. Blanks
around a text do not change its core, and neither does the letter case.
-/
namespace Paymaster.Text

def Blank (cs : List Char) : Prop :=
  ∀ c ∈ cs, isBlank c = true

/-- A core has blanks around it and none at its own ends. -/
structure HasCore (cs core : List Char) : Prop where
  surrounded : ∃ before after, Blank before ∧ Blank after ∧ cs = before ++ core ++ after
  head : ∀ c, core.head? = some c → isBlank c = false
  last : ∀ c, core.getLast? = some c → isBlank c = false

private theorem trimLeft_blank_append {before cs : List Char} (hbefore : Blank before) :
    trimLeft (before ++ cs) = trimLeft cs :=
  List.dropWhile_append_of_pos hbefore

private theorem trimLeft_of_blank {cs : List Char} (hcs : Blank cs) : trimLeft cs = [] :=
  List.dropWhile_eq_nil_iff.mpr hcs

private theorem trimLeft_of_head {cs : List Char} (h : ∀ c, cs.head? = some c → isBlank c = false) :
    trimLeft cs = cs := by
  cases cs with
  | nil => rfl
  | cons c cs => simp [trimLeft, h c rfl]

private theorem exists_blank_trimLeft (cs : List Char) :
    ∃ before, Blank before ∧ cs = before ++ trimLeft cs :=
  ⟨cs.takeWhile isBlank, fun _ hc => List.mem_takeWhile_imp hc,
    (List.takeWhile_append_dropWhile (p := isBlank)).symm⟩

private theorem head_trimLeft (cs : List Char) (c : Char) (h : (trimLeft cs).head? = some c) :
    isBlank c = false := by
  have hne : cs.dropWhile isBlank ≠ [] := by
    intro hnil
    rw [trimLeft, hnil] at h
    cases h
  have hhead := List.head_dropWhile_not isBlank hne
  rw [trimLeft, List.head?_eq_some_head hne, Option.some.injEq] at h
  rwa [h] at hhead

theorem Blank.reverse {cs : List Char} (h : Blank cs) : Blank cs.reverse :=
  fun c hc => h c (List.mem_reverse.mp hc)

private theorem HasCore.trim_eq {cs core : List Char} (h : HasCore cs core) : trim cs = core := by
  obtain ⟨before, after, hbefore, hafter, rfl⟩ := h.surrounded
  cases hcore : core with
  | nil =>
    have hblank : Blank (before ++ [] ++ after) := by
      intro c hc
      rw [List.append_nil, List.mem_append] at hc
      exact hc.elim (hbefore c) (hafter c)
    rw [trim, trimLeft_of_blank hblank]
    rfl
  | cons c cs =>
    rw [← hcore]
    have hleft : trimLeft (before ++ core ++ after) = core ++ after := by
      rw [List.append_assoc, trimLeft_blank_append hbefore]
      apply trimLeft_of_head
      intro d hd
      rw [hcore, List.cons_append, List.head?_cons] at hd
      exact h.head d (by rw [hcore]; exact hd)
    have hright : trimLeft core.reverse = core.reverse := by
      apply trimLeft_of_head
      intro d hd
      rw [List.head?_reverse] at hd
      exact h.last d hd
    rw [trim, hleft, List.reverse_append, trimLeft_blank_append hafter.reverse, hright,
      List.reverse_reverse]

theorem hasCore_trim (cs : List Char) : HasCore cs (trim cs) := by
  obtain ⟨before, hbefore, hleft⟩ := exists_blank_trimLeft cs
  obtain ⟨behind, hbehind, hright⟩ := exists_blank_trimLeft (trimLeft cs).reverse
  have hsplit : trimLeft cs = trim cs ++ behind.reverse := by
    rw [trim, ← List.reverse_append, ← hright, List.reverse_reverse]
  refine ⟨⟨before, behind.reverse, hbefore, hbehind.reverse, ?_⟩, ?_, ?_⟩
  · rw [List.append_assoc, ← hsplit]
    exact hleft
  · intro c hc
    apply head_trimLeft cs c
    rw [hsplit, List.head?_append, hc]
    rfl
  · intro c hc
    rw [trim, List.getLast?_reverse] at hc
    exact head_trimLeft _ c hc

theorem trim_of_no_blank {cs : List Char} (h : ∀ c ∈ cs, isBlank c = false) : trim cs = cs := by
  apply HasCore.trim_eq
  refine ⟨⟨[], [], nofun, nofun, by simp⟩, ?_, ?_⟩
  · intro c hc
    exact h c (List.mem_of_head? hc)
  · intro c hc
    exact h c (List.mem_of_getLast? hc)

theorem trim_trim (cs : List Char) : trim (trim cs) = trim cs :=
  HasCore.trim_eq ⟨⟨[], [], nofun, nofun, by simp⟩, (hasCore_trim cs).head, (hasCore_trim cs).last⟩

theorem trim_surrounded {before after : List Char} (hbefore : Blank before) (hafter : Blank after)
    (cs : List Char) : trim (before ++ cs ++ after) = trim cs := by
  obtain ⟨⟨inner, outer, hinner, houter, hcs⟩, hhead, hlast⟩ := hasCore_trim cs
  refine HasCore.trim_eq ⟨⟨before ++ inner, outer ++ after, ?_, ?_, ?_⟩, hhead, hlast⟩
  · exact List.forall_mem_append.mpr ⟨hbefore, hinner⟩
  · exact List.forall_mem_append.mpr ⟨houter, hafter⟩
  · calc before ++ cs ++ after
        = before ++ (inner ++ trim cs ++ outer) ++ after := by rw [← hcs]
      _ = before ++ inner ++ trim cs ++ (outer ++ after) := by simp only [List.append_assoc]

theorem trim_eq_nil_iff {cs : List Char} : trim cs = [] ↔ Blank cs := by
  constructor
  · intro h
    obtain ⟨before, after, hbefore, hafter, hcs⟩ := (hasCore_trim cs).surrounded
    rw [h, List.append_nil] at hcs
    rw [hcs]
    exact List.forall_mem_append.mpr ⟨hbefore, hafter⟩
  · intro h
    exact HasCore.trim_eq ⟨⟨cs, [], h, nofun, by simp⟩, nofun, nofun⟩

private theorem isBlank_toLower (c : Char) : isBlank c.toLower = isBlank c := by
  by_cases hc : c.toNat < 128
  · exact forall_ascii (fun c => isBlank c.toLower = isBlank c) (by decide) hc
  · rw [toLower_of_not_ascii (by omega)]

theorem Blank.lower {cs : List Char} (h : Blank cs) : Blank (Text.lower cs) := by
  intro c hc
  obtain ⟨d, hd, rfl⟩ := List.mem_map.mp hc
  rw [isBlank_toLower]
  exact h d hd

theorem trim_lower (cs : List Char) : trim (lower cs) = lower (trim cs) := by
  obtain ⟨⟨before, after, hbefore, hafter, hcs⟩, hhead, hlast⟩ := hasCore_trim cs
  refine HasCore.trim_eq ⟨⟨lower before, lower after, hbefore.lower, hafter.lower, ?_⟩, ?_, ?_⟩
  · rw [← lower_append, ← lower_append, ← hcs]
  · intro c hc
    rw [lower, List.head?_map] at hc
    obtain ⟨d, hd, rfl⟩ := Option.map_eq_some_iff.mp hc
    rw [isBlank_toLower]
    exact hhead d hd
  · intro c hc
    rw [lower, List.getLast?_map] at hc
    obtain ⟨d, hd, rfl⟩ := Option.map_eq_some_iff.mp hc
    rw [isBlank_toLower]
    exact hlast d hd

end Paymaster.Text
