import Mathlib.Data.List.Sort
import Paymaster.Proofs.Listing.Window
/-!
# Which payee stands at which height

A listing goes through two lists: the chain up to the tip, and the projected payees,
which begin above the tip and not at the window. Together they are in ascending order,
and they assign to each height of the window its payee or no entry at all.
-/
namespace Paymaster

private theorem Height.pairwise_range (start stop : Height) :
    (range start stop).Pairwise (· < ·) := by
  have hleast := Int32.le_toInt start
  have hmost := Int32.toInt_lt stop
  rw [range, List.pairwise_map]
  apply List.Pairwise.imp_of_mem _ List.pairwise_lt_range
  intro i j hi hj hlt
  rw [List.mem_range] at hi hj
  rw [Int32.lt_iff_toInt_lt, Int32.toInt_ofInt_of_le (by omega) (by omega),
    Int32.toInt_ofInt_of_le (by omega) (by omega)]
  omega

/-- In ascending order of the heights, so that no height stands twice. -/
def Ascending {α : Type} (entries : List (Height × α)) : Prop :=
  entries.Pairwise fun left right => left.1 < right.1

theorem Ascending.lookup_eq {α : Type} {entries : List (Height × α)} (h : Ascending entries)
    {height : Height} {a : α} (hmem : (height, a) ∈ entries) : entries.lookup height = some a := by
  obtain ⟨before, after, rfl⟩ := List.append_of_mem hmem
  have hbefore := (List.pairwise_append.mp h).2.2
  refine List.lookup_eq_some_iff.mpr ⟨before, after, rfl, ?_⟩
  intro entry hentry
  have hlt := hbefore entry hentry (height, a) List.mem_cons_self
  simpa using (Int32.ne_of_lt hlt).symm

theorem Ascending.eq_of_mem_iff {α : Type} {left right : List (Height × α)} (hleft : Ascending left)
    (hright : Ascending right) (h : ∀ entry, entry ∈ left ↔ entry ∈ right) : left = right := by
  have : Std.Irrefl fun a b : Height × α => a.1 < b.1 := ⟨fun _ => Int32.lt_irrefl⟩
  have : Std.Antisymm fun a b : Height × α => a.1 < b.1 :=
    ⟨fun a b hab hba => absurd hba (Int32.lt_asymm hab)⟩
  exact List.Pairwise.eq_of_mem_iff hleft hright h

namespace World

private theorem mem_enumerate_iff {start height : Height} {nodes : List Masternode}
    {node : Masternode} (hfits : start.toInt + nodes.length ≤ 2147483647) :
    (height, node) ∈ enumerate start nodes ↔
      ∃ i : Nat, nodes[i]? = some node ∧ height.toInt = start.toInt + i := by
  induction nodes generalizing start with
  | nil => simp [enumerate]
  | cons first rest ih =>
    rw [List.length_cons] at hfits
    have hnext : (start + 1).toInt = start.toInt + 1 := Height.toInt_add_one (by omega)
    rw [enumerate, List.mem_cons, ih (by omega), hnext]
    constructor
    · rintro (heq | ⟨i, hnode, hheight⟩)
      · cases heq
        exact ⟨0, rfl, by simp⟩
      · exact ⟨i + 1, hnode, by omega⟩
    · rintro ⟨i, hnode, hheight⟩
      cases i with
      | zero =>
        left
        rw [List.getElem?_cons_zero, Option.some.injEq] at hnode
        have hsame : height = start := Int32.toInt_inj.mp (by simpa using hheight)
        rw [hsame, hnode]
      | succ i => exact .inr ⟨i, hnode, by omega⟩

private theorem ascending_enumerate {start : Height} {nodes : List Masternode}
    (hfits : start.toInt + nodes.length ≤ 2147483647) : Ascending (enumerate start nodes) := by
  induction nodes generalizing start with
  | nil => exact .nil
  | cons first rest ih =>
    rw [List.length_cons] at hfits
    have hnext : (start + 1).toInt = start.toInt + 1 := Height.toInt_add_one (by omega)
    refine .cons ?_ (ih (by omega))
    rintro ⟨height, node⟩ hentry
    obtain ⟨i, _, hheight⟩ := (mem_enumerate_iff (by omega)).mp hentry
    rw [Int32.lt_iff_toInt_lt]
    dsimp only
    omega

/-- The payees that are projected for the heights from the tip to the end of a window. -/
def upcoming (world : World) (chain : Chain) (stop : Height) : List Masternode :=
  world.masternodes.projected (stop.toInt - chain.height.toInt).toNat

/-- The payee that a window has at a height, if the height has an entry: up to the tip whoever is
paid after the block below, if any, and above it the projected payees in turn. -/
def assigned? (world : World) (chain : Chain) (start stop height : Height) :
    Option (Option Masternode) :=
  if max start 1 ≤ height ∧ height < stop then
    if height ≤ chain.height then some (world.payeeBelow chain height)
    else ((world.upcoming chain stop)[(height.toInt - chain.height.toInt - 1).toNat]?).map some
  else none

/-- What a listing goes through: the heights up to the tip, then those above it. -/
def windowEntries (world : World) (chain : Chain) (start stop : Height) :
    List (Height × Option Masternode) :=
  world.history chain (max start 1) stop ++ world.projection chain (max start 1) stop

section Entries

variable {world : World} {chain : Chain} {start stop : Height}
  (hfits : chain.height.toInt + 2 + (world.upcoming chain stop).length ≤ 2147483647)

include hfits

private theorem toInt_succ_tip : chain.height.succ.toInt = chain.height.toInt + 1 := by
  rw [Height.toInt_succ]
  omega

theorem mem_history_iff {height : Height} {payee : Option Masternode} :
    (height, payee) ∈ world.history chain start stop ↔
      start ≤ height ∧ height < stop ∧ height ≤ chain.height ∧
        payee = world.payeeBelow chain height := by
  have htip : height < chain.height.succ ↔ height ≤ chain.height := by
    rw [Int32.lt_iff_toInt_lt, Int32.le_iff_toInt_le, toInt_succ_tip hfits]
    omega
  simp only [history, List.mem_map, Height.mem_range_iff, Height.lt_min_iff]
  constructor
  · rintro ⟨height', ⟨hstart, hstop, hbelow⟩, heq⟩
    cases heq
    exact ⟨hstart, hstop, htip.mp hbelow, rfl⟩
  · rintro ⟨hstart, hstop, hbelow, rfl⟩
    exact ⟨height, ⟨hstart, hstop, htip.mpr hbelow⟩, rfl⟩

private theorem mem_enumerate_upcoming_iff {height : Height} {node : Masternode} :
    (height, node) ∈ enumerate chain.height.succ (world.upcoming chain stop) ↔
      chain.height < height ∧
        (world.upcoming chain stop)[(height.toInt - chain.height.toInt - 1).toNat]? = some node := by
  have hfirst := toInt_succ_tip hfits
  rw [mem_enumerate_iff (by omega), hfirst, Int32.lt_iff_toInt_lt]
  constructor
  · rintro ⟨i, hnode, hheight⟩
    have hi : (height.toInt - chain.height.toInt - 1).toNat = i := by omega
    exact ⟨by omega, by rw [hi, hnode]⟩
  · rintro ⟨habove, hnode⟩
    exact ⟨_, hnode, by omega⟩

theorem mem_projection_iff {height : Height} {payee : Option Masternode} :
    (height, payee) ∈ world.projection chain start stop ↔
      start ≤ height ∧ height < stop ∧ chain.height < height ∧
        ∃ node, payee = some node ∧
          (world.upcoming chain stop)[(height.toInt - chain.height.toInt - 1).toNat]? = some node := by
  rw [projection]
  split
  · simp only [List.mem_map, List.mem_filter, Bool.and_eq_true, decide_eq_true_eq]
    constructor
    · rintro ⟨⟨height', node⟩, ⟨hentry, hstart, hstop⟩, heq⟩
      cases heq
      obtain ⟨habove, hnode⟩ := (mem_enumerate_upcoming_iff hfits).mp hentry
      exact ⟨hstart, hstop, habove, node, rfl, hnode⟩
    · rintro ⟨hstart, hstop, habove, node, rfl, hnode⟩
      have hentry := (mem_enumerate_upcoming_iff hfits).mpr ⟨habove, hnode⟩
      exact ⟨(height, node), ⟨hentry, hstart, hstop⟩, rfl⟩
  · next hwindow =>
    rw [Int32.lt_iff_toInt_lt, Int32.lt_iff_toInt_lt, toInt_succ_tip hfits] at hwindow
    simp only [Int32.le_iff_toInt_le, Int32.lt_iff_toInt_lt]
    constructor
    · intro hnone
      cases hnone
    · intro hentry
      omega

/-- What a listing goes through is what is assigned. -/
theorem mem_windowEntries_iff {height : Height} {payee : Option Masternode} :
    (height, payee) ∈ world.windowEntries chain start stop ↔
      world.assigned? chain start stop height = some payee := by
  rw [windowEntries, List.mem_append, mem_history_iff hfits, mem_projection_iff hfits, assigned?]
  split
  · next hwindow =>
    obtain ⟨hstart, hstop⟩ := hwindow
    split
    · next htip =>
      have hbelow : ¬ chain.height < height := Int32.not_lt.mpr htip
      simp [hstart, hstop, htip, hbelow, eq_comm]
    · next htip =>
      have habove : chain.height < height := Int32.not_le.mp htip
      simp [hstart, hstop, htip, habove, and_comm, eq_comm]
  · next hwindow =>
    have houtside (h : Prop) : ¬ (max start 1 ≤ height ∧ height < stop ∧ h) :=
      fun ⟨hstart, hstop, _⟩ => hwindow ⟨hstart, hstop⟩
    simp [houtside]

theorem ascending_windowEntries : Ascending (world.windowEntries chain start stop) := by
  refine List.pairwise_append.mpr ⟨?_, ?_, ?_⟩
  · rw [history, List.pairwise_map]
    exact Height.pairwise_range _ _
  · rw [projection]
    split
    · have hfirst := toInt_succ_tip hfits
      have hupcoming : Ascending (enumerate chain.height.succ (world.upcoming chain stop)) :=
        ascending_enumerate (by omega)
      rw [List.pairwise_map]
      exact hupcoming.filter _
    · exact .nil
  · rintro ⟨lower, payee⟩ hlower ⟨upper, payee'⟩ hupper
    obtain ⟨_, _, htip, _⟩ := (mem_history_iff hfits).mp hlower
    obtain ⟨_, _, habove, _⟩ := (mem_projection_iff hfits).mp hupper
    exact Int32.lt_of_le_of_lt htip habove

end Entries

end World

end Paymaster
