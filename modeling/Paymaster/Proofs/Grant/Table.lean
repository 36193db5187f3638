import Mathlib.Data.List.Nodup
import Paymaster.Grant
/-!
# Tables of grants

A list of grants becomes a table exactly if its heights differ and its amounts are in
range; otherwise the fault of the first bad place is reported. What a table answers at a
height depends on the grants in it alone, not on their order in the list.
-/
namespace Paymaster

private theorem Amount.inRange_iff {amount : Amount} :
    amount.inRange = true ↔ 0 ≤ amount ∧ amount ≤ maxMoney := by
  simp [inRange]

namespace Grant

/-- What is wrong with the grant at an index: it repeats the height of an earlier one, or else its
amount is out of range. -/
inductive FaultAt (grants : List Grant) (index : Nat) : GrantFault → Prop where
  | repeated {grant : Grant} (here : grants[index]? = some grant)
      (earlier : grant.height ∈ (grants.take index).map height) :
      FaultAt grants index (.duplicateHeight grant.height)
  | outOfRange {grant : Grant} (here : grants[index]? = some grant)
      (new : grant.height ∉ (grants.take index).map height)
      (outside : ¬ (0 ≤ grant.amount ∧ grant.amount ≤ Amount.maxMoney)) :
      FaultAt grants index (.amountOutOfRange grant.height grant.amount)

/-- The fault at the first index that has one. -/
def FirstFault (grants : List Grant) (fault : GrantFault) : Prop :=
  ∃ index, FaultAt grants index fault ∧ ∀ earlier < index, ∀ other, ¬ FaultAt grants earlier other

private theorem exists_split_of_faultAfter {seen : List Height} {grants : List Grant}
    {fault : GrantFault} (h : faultAfter seen grants = some fault) :
    ∃ before grant after, grants = before ++ grant :: after ∧ faultAfter seen before = none ∧
      ((grant.height ∈ before.map height ++ seen ∧ fault = .duplicateHeight grant.height) ∨
        (grant.height ∉ before.map height ++ seen ∧ grant.amount.inRange = false ∧
          fault = .amountOutOfRange grant.height grant.amount)) := by
  induction grants generalizing seen with
  | nil => cases h
  | cons first rest ih =>
    rw [faultAfter] at h
    by_cases hseen : first.height ∈ seen
    · rw [if_pos hseen, Option.some.injEq] at h
      exact ⟨[], first, rest, rfl, rfl, .inl ⟨by simpa using hseen, h.symm⟩⟩
    · rw [if_neg hseen] at h
      by_cases hrange : first.amount.inRange = true
      · rw [if_pos hrange] at h
        obtain ⟨before, grant, after, hsplit, hnone, hfault⟩ := ih h
        have hmem : grant.height ∈ before.map height ++ first.height :: seen ↔
            grant.height ∈ (first :: before).map height ++ seen := by
          simp only [List.map_cons, List.mem_append, List.mem_cons, List.cons_append]
          tauto
        refine ⟨first :: before, grant, after, ?_, ?_, ?_⟩
        · rw [hsplit, List.cons_append]
        · rw [faultAfter, if_neg hseen, if_pos hrange]
          exact hnone
        · rwa [hmem] at hfault
      · rw [if_neg hrange, Option.some.injEq] at h
        refine ⟨[], first, rest, rfl, rfl, .inr ⟨by simpa using hseen, ?_, h.symm⟩⟩
        simpa using hrange

private theorem not_faultAt_of_faultAfter_eq_none {grants : List Grant}
    (h : faultAfter [] grants = none)
    (index : Nat) (fault : GrantFault) : ¬ FaultAt grants index fault := by
  obtain ⟨hnodup, -, hrange⟩ := faultAfter_eq_none_iff.mp h
  intro hfault
  cases hfault with
  | repeated here earlier =>
    obtain ⟨hindex, rfl⟩ := List.getElem?_eq_some_iff.mp here
    rw [← List.take_append_drop index grants, List.drop_eq_getElem_cons hindex, List.map_append,
      List.map_cons] at hnodup
    exact (List.nodup_append.mp hnodup).2.2 _ earlier _ List.mem_cons_self rfl
  | outOfRange here new outside =>
    exact outside (Amount.inRange_iff.mp (hrange _ (List.mem_of_getElem? here)))

private theorem FaultAt.of_append {before after : List Grant} {index : Nat} {fault : GrantFault}
    (hindex : index < before.length) (h : FaultAt (before ++ after) index fault) :
    FaultAt before index fault := by
  have hsame : (before ++ after).take index = before.take index :=
    List.take_append_of_le_length (by omega)
  cases h with
  | repeated here earlier =>
    rw [List.getElem?_append_left hindex] at here
    rw [hsame] at earlier
    exact .repeated here earlier
  | outOfRange here new outside =>
    rw [List.getElem?_append_left hindex] at here
    rw [hsame] at new
    exact .outOfRange here new outside

private theorem FaultAt.eq_ite {grants : List Grant} {index : Nat} {fault : GrantFault}
    {grant : Grant} (h : FaultAt grants index fault) (hgrant : grants[index]? = some grant) :
    fault = if grant.height ∈ (grants.take index).map height then .duplicateHeight grant.height
      else .amountOutOfRange grant.height grant.amount := by
  cases h with
  | repeated here earlier =>
    rw [hgrant, Option.some.injEq] at here
    rw [← here] at earlier ⊢
    rw [if_pos earlier]
  | outOfRange here new _ =>
    rw [hgrant, Option.some.injEq] at here
    rw [← here] at new ⊢
    rw [if_neg new]

private theorem FaultAt.exists_grant {grants : List Grant} {index : Nat} {fault : GrantFault}
    (h : FaultAt grants index fault) : ∃ grant, grants[index]? = some grant := by
  cases h with
  | repeated here _ => exact ⟨_, here⟩
  | outOfRange here _ _ => exact ⟨_, here⟩

theorem FaultAt.unique {grants : List Grant} {index : Nat} {fault other : GrantFault}
    (h : FaultAt grants index fault) (hother : FaultAt grants index other) : fault = other := by
  obtain ⟨grant, hgrant⟩ := h.exists_grant
  rw [h.eq_ite hgrant, hother.eq_ite hgrant]

theorem FirstFault.unique {grants : List Grant} {fault other : GrantFault}
    (h : FirstFault grants fault) (hother : FirstFault grants other) : fault = other := by
  obtain ⟨index, hfault, hfirst⟩ := h
  obtain ⟨index', hfault', hfirst'⟩ := hother
  have hsame : index = index' := by
    apply Nat.le_antisymm
    · exact Nat.le_of_not_lt fun hlt => hfirst index' hlt other hfault'
    · exact Nat.le_of_not_lt fun hlt => hfirst' index hlt fault hfault
  rw [← hsame] at hfault'
  exact hfault.unique hfault'

private theorem firstFault_of_faultAfter {grants : List Grant} {fault : GrantFault}
    (h : faultAfter [] grants = some fault) : FirstFault grants fault := by
  obtain ⟨before, grant, after, rfl, hbefore, hfault⟩ := exists_split_of_faultAfter h
  rw [List.append_nil] at hfault
  have hhere : (before ++ grant :: after)[before.length]? = some grant := by simp
  have htake : (before ++ grant :: after).take before.length = before := by simp
  refine ⟨before.length, ?_, ?_⟩
  · rcases hfault with ⟨hseen, rfl⟩ | ⟨hnew, houtside, rfl⟩
    · exact .repeated hhere (by rwa [htake])
    · refine .outOfRange hhere (by rwa [htake]) ?_
      rw [← Amount.inRange_iff, houtside]
      exact Bool.false_ne_true
  · intro earlier hearlier other hother
    exact not_faultAt_of_faultAfter_eq_none hbefore earlier other (hother.of_append hearlier)

/-- The scan reports the first fault. -/
theorem faultAfter_eq_some_iff {grants : List Grant} {fault : GrantFault} :
    faultAfter [] grants = some fault ↔ FirstFault grants fault := by
  constructor
  · exact firstFault_of_faultAfter
  · intro hfirst
    cases h : faultAfter [] grants with
    | none =>
      obtain ⟨index, hfault, -⟩ := hfirst
      exact absurd hfault (not_faultAt_of_faultAfter_eq_none h index fault)
    | some other => rw [hfirst.unique (firstFault_of_faultAfter h)]

end Grant

namespace GrantTable

variable {grants : List Grant} {table : GrantTable}

theorem ofList_eq_error_iff {fault : GrantFault} :
    ofList grants = .error fault ↔ Grant.FirstFault grants fault := by
  rw [← Grant.faultAfter_eq_some_iff, ofList]
  split
  next other h => rw [h, Except.error.injEq, Option.some.injEq]
  next h => simp [h]

example : ofList [⟨5, 1⟩, ⟨5, -1⟩] = .error (.duplicateHeight 5) := rfl

theorem ofList_eq_ok_iff :
    ofList grants = .ok table ↔ Grant.faultAfter [] grants = none ∧ table.grants = grants := by
  rw [ofList]
  split
  next other h => simp [h]
  next h =>
    rw [Except.ok.injEq, and_iff_right h]
    constructor
    · rintro rfl
      rfl
    · rintro rfl
      rfl

private theorem exists_ofList_eq_ok_iff :
    (∃ table, ofList grants = .ok table) ↔
      (grants.map Grant.height).Nodup ∧
        ∀ grant ∈ grants, 0 ≤ grant.amount ∧ grant.amount ≤ Amount.maxMoney := by
  have hnone : (∃ table, ofList grants = .ok table) ↔ Grant.faultAfter [] grants = none := by
    constructor
    · rintro ⟨table, h⟩
      exact (ofList_eq_ok_iff.mp h).1
    · intro h
      have hvalid := Grant.faultAfter_eq_none_iff.mp h
      exact ⟨⟨grants, hvalid.1, hvalid.2.2⟩, ofList_eq_ok_iff.mpr ⟨h, rfl⟩⟩
  rw [hnone, Grant.faultAfter_eq_none_iff]
  simp [Amount.inRange_iff]

theorem grantAt?_eq_some_iff {height : Height} {grant : Grant} :
    table.grantAt? height = some grant ↔ grant ∈ table.grants ∧ grant.height = height := by
  constructor
  · intro h
    exact ⟨List.mem_of_find?_eq_some h, by simpa using List.find?_some h⟩
  · rintro ⟨hmem, rfl⟩
    cases h : table.grantAt? grant.height with
    | none =>
      have hnot := List.find?_eq_none.mp h grant hmem
      simp at hnot
    | some other =>
      have hother : other ∈ table.grants := List.mem_of_find?_eq_some h
      have hheight : other.height = grant.height := by simpa using List.find?_some h
      rw [List.inj_on_of_nodup_map table.heights_nodup hother hmem hheight]

theorem grantAt?_eq_none_iff {height : Height} :
    table.grantAt? height = none ↔ ∀ grant ∈ table.grants, grant.height ≠ height := by
  simp [grantAt?]

/-- What a table of these grants, in any order, answers at a height. -/
structure Answers (table : GrantTable) (grants : List Grant) (height : Height) : Prop where
  grantAt : ∀ grant, table.grantAt? height = some grant ↔ grant ∈ grants ∧ grant.height = height
  isGrantHeight : table.isGrantHeight height = true ↔ ∃ grant ∈ grants, grant.height = height
  amount : ∀ grant ∈ grants, grant.height = height → table.amountAt height = grant.amount
  nothing : (∀ grant ∈ grants, grant.height ≠ height) → table.amountAt height = 0

private theorem answers_of_perm (h : table.grants.Perm grants) (height : Height) :
    table.Answers grants height := by
  have hgrantAt (grant : Grant) :
      table.grantAt? height = some grant ↔ grant ∈ grants ∧ grant.height = height := by
    rw [grantAt?_eq_some_iff, h.mem_iff]
  refine ⟨hgrantAt, ?_, ?_, ?_⟩
  · rw [isGrantHeight, Option.isSome_iff_exists]
    simp only [hgrantAt]
  · intro grant hmem hheight
    rw [amountAt, (hgrantAt grant).mpr ⟨hmem, hheight⟩]
    rfl
  · intro hnot
    have hnone : table.grantAt? height = none := by
      rw [grantAt?_eq_none_iff]
      intro grant hmem
      exact hnot grant (h.mem_iff.mp hmem)
    rw [amountAt, hnone]
    rfl

private theorem grantAt?_of_perm {other : GrantTable} (h : other.grants.Perm table.grants)
    (height : Height) : other.grantAt? height = table.grantAt? height := by
  apply Option.ext
  intro grant
  rw [(answers_of_perm h height).grantAt, grantAt?_eq_some_iff]

theorem exists_ofList_of_perm {arranged : List Grant} (h : ofList grants = .ok table)
    (hperm : arranged.Perm grants) :
    ∃ other, ofList arranged = .ok other ∧ other.grants.Perm table.grants := by
  have hvalid := exists_ofList_eq_ok_iff.mp ⟨table, h⟩
  have harranged : (arranged.map Grant.height).Nodup ∧
      ∀ grant ∈ arranged, 0 ≤ grant.amount ∧ grant.amount ≤ Amount.maxMoney := by
    refine ⟨(hperm.map Grant.height).nodup_iff.mpr hvalid.1, fun grant hmem => ?_⟩
    exact hvalid.2 grant (hperm.mem_iff.mp hmem)
  obtain ⟨other, hother⟩ := exists_ofList_eq_ok_iff.mpr harranged
  refine ⟨other, hother, ?_⟩
  rw [(ofList_eq_ok_iff.mp hother).2, (ofList_eq_ok_iff.mp h).2]
  exact hperm

/-- A list of grants is a table exactly if its heights differ and its amounts are in range, and is
refused with its first fault otherwise. A table has the grants of its list, each at its own height, also
one of nothing. Every order of the same grants gives a table with the same answers. -/
theorem ofList_first_fault_or_lookup (grants : List Grant) :
    ((∃ table, ofList grants = .ok table) ↔
      (grants.map Grant.height).Nodup ∧
        ∀ grant ∈ grants, 0 ≤ grant.amount ∧ grant.amount ≤ Amount.maxMoney) ∧
    (∀ fault, ofList grants = .error fault ↔ Grant.FirstFault grants fault) ∧
    ∀ table, ofList grants = .ok table →
      (∀ height, table.Answers grants height) ∧
      ∀ arranged, arranged.Perm grants → ∃ other, ofList arranged = .ok other ∧ ∀ height,
        other.grantAt? height = table.grantAt? height ∧
        other.isGrantHeight height = table.isGrantHeight height ∧
        other.amountAt height = table.amountAt height := by
  refine ⟨exists_ofList_eq_ok_iff, fun fault => ofList_eq_error_iff, fun table htable => ⟨?_, ?_⟩⟩
  · intro height
    apply answers_of_perm
    rw [(ofList_eq_ok_iff.mp htable).2]
  · intro arranged hperm
    obtain ⟨other, hother, hsame⟩ := exists_ofList_of_perm htable hperm
    refine ⟨other, hother, fun height => ?_⟩
    have hgrantAt := grantAt?_of_perm hsame height
    rw [isGrantHeight, isGrantHeight, amountAt, amountAt, hgrantAt]
    exact ⟨rfl, rfl, rfl⟩

/-- A grant of nothing and one of seven. -/
def smallGrants : List Grant :=
  [⟨5, 0⟩, ⟨3, 7⟩]

theorem ofList_first_fault_or_lookup_small :
    ∃ table, ofList smallGrants = .ok table ∧ smallGrants.reverse.Perm smallGrants ∧
      table.isGrantHeight 5 = true ∧ table.amountAt 4 = 0 ∧
      ∃ other, ofList smallGrants.reverse = .ok other ∧
        other.isGrantHeight 5 = true ∧ other.amountAt 3 = 7 := by
  obtain ⟨haccepted, -, hlookup⟩ := ofList_first_fault_or_lookup smallGrants
  have hvalid : (smallGrants.map Grant.height).Nodup ∧
      ∀ grant ∈ smallGrants, 0 ≤ grant.amount ∧ grant.amount ≤ Amount.maxMoney := by decide
  obtain ⟨table, htable⟩ := haccepted.mpr hvalid
  obtain ⟨hanswers, hperm⟩ := hlookup table htable
  have hnothing : table.isGrantHeight 5 = true :=
    (hanswers 5).isGrantHeight.mpr ⟨⟨5, 0⟩, by decide, rfl⟩
  have hbetween : table.amountAt 4 = 0 := (hanswers 4).nothing (by decide)
  have hseven : table.amountAt 3 = 7 := (hanswers 3).amount ⟨3, 7⟩ (by decide) rfl
  obtain ⟨other, hother, hsame⟩ := hperm smallGrants.reverse (List.reverse_perm smallGrants)
  refine ⟨table, htable, List.reverse_perm smallGrants, hnothing, hbetween, other, hother, ?_, ?_⟩
  · rw [(hsame 5).2.1, hnothing]
  · rw [(hsame 3).2.2, hseven]

end GrantTable

end Paymaster
