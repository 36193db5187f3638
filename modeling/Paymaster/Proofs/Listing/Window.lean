import Mathlib.Data.List.Forall2
import Paymaster.Payment.Listing
import Paymaster.Proofs.Chain.Change
/-!
# The window of a listing

A listing goes through the heights of its window and renders the payee of each. Up
to the tip the chain has the block below every height; the projected payees come
after them, at the heights above the tip.
-/
namespace Paymaster

namespace Height

private theorem toInt_one : (1 : Height).toInt = 1 := rfl

theorem lt_min_iff {height left right : Height} :
    height < min left right ↔ height < left ∧ height < right := by
  change height < (if left ≤ right then left else right) ↔ _
  simp only [Int32.lt_iff_toInt_lt, Int32.le_iff_toInt_le]
  split <;> omega

theorem max_le_iff {height left right : Height} :
    max left right ≤ height ↔ left ≤ height ∧ right ≤ height := by
  change (if left ≤ right then right else left) ≤ height ↔ _
  simp only [Int32.le_iff_toInt_le]
  split <;> omega

theorem mem_range_iff {start stop height : Height} :
    height ∈ range start stop ↔ start ≤ height ∧ height < stop := by
  have hstart := Int32.le_toInt start
  have hheight := Int32.le_toInt height
  have hstop := Int32.toInt_lt stop
  rw [range, List.mem_map, Int32.le_iff_toInt_le, Int32.lt_iff_toInt_lt]
  constructor
  · rintro ⟨i, hi, rfl⟩
    rw [List.mem_range] at hi
    have hvalue : (Int32.ofInt (start.toInt + i)).toInt = start.toInt + i :=
      Int32.toInt_ofInt_of_le (by omega) (by omega)
    rw [hvalue]
    omega
  · intro ⟨hlow, hhigh⟩
    refine ⟨(height.toInt - start.toInt).toNat, List.mem_range.mpr (by omega), ?_⟩
    have hvalue : start.toInt + ((height.toInt - start.toInt).toNat : Int) = height.toInt := by omega
    rw [hvalue, Int32.ofInt_toInt]

private theorem toInt_sub_one {height : Height} (h : 1 ≤ height) :
    (height - 1).toInt = height.toInt - 1 := by
  have hmost := Int32.toInt_lt height
  rw [Int32.le_iff_toInt_le, toInt_one] at h
  rw [Int32.toInt_sub, toInt_one]
  apply Int.bmod_eq_of_le <;> omega

theorem sub_one_eq_pred {height : Height} (h : 1 ≤ height) : height - 1 = height.pred := by
  have hsub := toInt_sub_one h
  rw [Int32.le_iff_toInt_le, toInt_one] at h
  rw [← Int32.toInt_inj, hsub, toInt_pred]
  omega

theorem toInt_add_one {height : Height} (h : height.toInt < 2147483647) :
    (height + 1).toInt = height.toInt + 1 := by
  have hleast := Int32.le_toInt height
  rw [Int32.toInt_add, toInt_one]
  apply Int.bmod_eq_of_le <;> omega

end Height

namespace Chain

/-- The tip is never shown above the last block, however long the chain. -/
private theorem toInt_height_lt {chain : Chain} (h : 0 ≤ chain.height.toInt) :
    chain.height.toInt.toNat < chain.hashes.size := by
  have hsize : (Int32.size : Int) = 4294967296 := rfl
  rw [height, Int32.toInt_sub, Height.toInt_one, Int32.toInt_ofNat', Int.bmod_sub_bmod,
    Int.bmod_def, hsize] at h ⊢
  omega

theorem get?_isSome_of_le_height {chain : Chain} {height : Height} (hpositive : 1 ≤ height)
    (htip : height ≤ chain.height) : ∃ block, chain.get? height.pred = some block := by
  have hsub := Height.toInt_sub_one hpositive
  rw [Height.sub_one_eq_pred hpositive] at hsub
  rw [Int32.le_iff_toInt_le, Height.toInt_one] at hpositive
  rw [Int32.le_iff_toInt_le] at htip
  have hlast : chain.height.toInt.toNat < chain.hashes.size := toInt_height_lt (by omega)
  have hnegative : ¬ height.pred < 0 := by
    rw [Int32.lt_iff_toInt_lt, Int32.toInt_zero]
    omega
  have hindex : height.pred.toInt.toNat < chain.hashes.size := by omega
  rw [get?, if_neg hnegative, Array.getElem?_eq_getElem hindex]
  exact ⟨_, rfl⟩

end Chain

theorem forall₂_of_mapM_eq_ok {α β ε : Type} {f : α → Except ε β} {l : List α} {out : List β}
    (h : l.mapM f = .ok out) : List.Forall₂ (fun a b => f a = .ok b) l out := by
  induction l generalizing out with
  | nil =>
    cases h
    exact .nil
  | cons a rest ih =>
    rw [List.mapM_cons] at h
    cases ha : f a with
    | error e =>
      rw [ha] at h
      cases h
    | ok b =>
      cases hrest : rest.mapM f with
      | error e =>
        rw [ha, hrest] at h
        cases h
      | ok tail =>
        rw [ha, hrest] at h
        cases h
        exact .cons ha (ih hrest)

namespace World

/-- What a listing says of a triggered superblock behind the payee. -/
def superblockNote (world : World) (height : Height) : String :=
  if world.governance.isTriggered height then ", " ++ world.governance.description height else ""

theorem listing_eq (world : World) (height : Height) (payee : Option Masternode) :
    world.listing height payee =
      (world.listedPayee payee).map fun name => name ++ world.superblockNote height := by
  rw [listing, superblockNote]
  cases world.listedPayee payee with
  | error e => rfl
  | ok name =>
    cases htriggered : world.governance.isTriggered height with
    | true => simp [bind, Except.bind, pure, Except.pure, Except.map, String.append_assoc]
    | false => simp [bind, Except.bind, pure, Except.pure, Except.map]

/-- One line of a listing: a height and the text for its payee. -/
def listedEntry (world : World) (entry : Height × Option Masternode) :
    Except PaymentError (Height × String) := do
  let text ← world.listing entry.1 entry.2
  return (entry.1, text)

theorem listings_of_readable {lock : ChainLock} (hlock : lock.poisoned = false) (world : World)
    (start stop : Height) :
    world.listings lock start stop =
      (world.history lock.chain (max start 1) stop ++
        world.projection lock.chain (max start 1) stop).mapM world.listedEntry := by
  obtain ⟨chain, poisoned⟩ := lock
  subst hlock
  have hread : (ChainLock.mk chain false).read = .ok chain := rfl
  have hbind {α : Type} (next : Chain → Except PaymentError α) : (.ok chain >>= next) = next chain := rfl
  rw [listings, hread, hbind]
  rfl

theorem listedEntry_eq_ok_iff {world : World} {entry : Height × Option Masternode}
    {line : Height × String} :
    world.listedEntry entry = .ok line ↔
      line.1 = entry.1 ∧ world.listing entry.1 entry.2 = .ok line.2 := by
  obtain ⟨height, text⟩ := line
  rw [listedEntry]
  cases world.listing entry.1 entry.2 <;> simp [bind, Except.bind, pure, Except.pure, eq_comm]

theorem lookup_of_listed {world : World} {entries : List (Height × Option Masternode)}
    {lines : List (Height × String)}
    (h : List.Forall₂ (fun entry line => world.listedEntry entry = .ok line) entries lines)
    {height : Height} {payee : Option Masternode} (hentry : entries.lookup height = some payee) :
    ∃ text, world.listing height payee = .ok text ∧ lines.lookup height = some text := by
  induction h with
  | nil => cases hentry
  | @cons entry line entries lines hline _ ih =>
    obtain ⟨hkey, htext⟩ := listedEntry_eq_ok_iff.mp hline
    obtain ⟨key, payee'⟩ := entry
    obtain ⟨key', text⟩ := line
    subst hkey
    rw [List.lookup_cons] at hentry ⊢
    cases hsame : height == key' with
    | true =>
      rw [hsame] at hentry
      cases hentry
      rw [beq_iff_eq.mp hsame]
      exact ⟨text, htext, rfl⟩
    | false =>
      rw [hsame] at hentry
      exact ih hentry

theorem mem_of_listed {world : World} {entries : List (Height × Option Masternode)}
    {lines : List (Height × String)}
    (h : List.Forall₂ (fun entry line => world.listedEntry entry = .ok line) entries lines)
    {height : Height} {text : String} (hline : (height, text) ∈ lines) :
    ∃ payee, (height, payee) ∈ entries ∧ world.listing height payee = .ok text := by
  induction h with
  | nil => cases hline
  | @cons entry line entries lines hhead _ ih =>
    rcases List.mem_cons.mp hline with rfl | hrest
    · obtain ⟨key, payee⟩ := entry
      obtain ⟨hkey, htext⟩ := listedEntry_eq_ok_iff.mp hhead
      subst hkey
      exact ⟨payee, List.mem_cons_self, htext⟩
    · obtain ⟨payee, hmem, htext⟩ := ih hrest
      exact ⟨payee, List.mem_cons_of_mem _ hmem, htext⟩

/-- The payee after the block below a height, if there is one. -/
def payeeBelow (world : World) (chain : Chain) (height : Height) : Option Masternode :=
  (chain.get? (height - 1)).bind world.masternodes.payeeAfter

private theorem lookup_history (world : World) {chain : Chain} {start stop height : Height}
    (hstart : start ≤ height) (hstop : height < stop) (htip : height ≤ chain.height) :
    (world.history chain start stop).lookup height = some (world.payeeBelow chain height) := by
  have hmem : height ∈ Height.range start (min stop chain.height.succ) := by
    have hmost := Int32.toInt_lt stop
    have hsucc : height < chain.height.succ := by
      rw [Int32.lt_iff_toInt_lt] at hstop ⊢
      rw [Int32.le_iff_toInt_le] at htip
      rw [Height.toInt_succ]
      omega
    exact Height.mem_range_iff.mpr ⟨hstart, Height.lt_min_iff.mpr ⟨hstop, hsucc⟩⟩
  exact List.lookup_graph (world.payeeBelow chain) hmem

private theorem eq_payeeBelow_of_mem_history {world : World} {chain : Chain}
    {start stop height : Height}
    {payee : Option Masternode} (h : (height, payee) ∈ world.history chain start stop) :
    payee = world.payeeBelow chain height := by
  obtain ⟨_, _, heq⟩ := List.mem_map.mp h
  cases heq
  rfl

private theorem le_of_mem_enumerate {start height : Height} {nodes : List Masternode}
    {node : Masternode}
    (hfits : start.toInt + nodes.length ≤ 2147483648) (h : (height, node) ∈ enumerate start nodes) :
    start.toInt ≤ height.toInt := by
  induction nodes generalizing start with
  | nil => cases h
  | cons first rest ih =>
    rw [enumerate] at h
    rcases List.mem_cons.mp h with heq | hrest
    · cases heq
      exact Int.le_refl _
    · have hlong : 0 < rest.length := by
        cases rest with
        | nil => cases hrest
        | cons => exact Nat.succ_pos _
      rw [List.length_cons] at hfits
      have hnext : (start + 1).toInt = start.toInt + 1 := Height.toInt_add_one (by omega)
      have hle := ih (by omega) hrest
      omega

private theorem height_lt_of_mem_projection {world : World} {chain : Chain}
    {start stop height : Height} {payee : Option Masternode}
    (hcount : ∀ count, (world.masternodes.projected count).length ≤ count)
    (h : (height, payee) ∈ world.projection chain start stop) :
    chain.height.toInt < height.toInt := by
  rw [projection] at h
  split at h
  · next hwindow =>
    obtain ⟨entry, hentry, heq⟩ := List.mem_map.mp h
    cases heq
    have hmost := Int32.toInt_lt stop
    have habove := hwindow.2
    have hlength := hcount (stop.toInt - chain.height.toInt).toNat
    rw [Int32.lt_iff_toInt_lt, Height.toInt_succ] at habove
    have hfits : chain.height.succ.toInt +
        (world.masternodes.projected (stop.toInt - chain.height.toInt).toNat).length ≤ 2147483648 := by
      rw [Height.toInt_succ]
      omega
    have hle := le_of_mem_enumerate hfits (List.mem_filter.mp hentry).1
    rw [Height.toInt_succ] at hle
    omega
  · cases h

section UpToTheTip

variable {world : World} {lock : ChainLock} {start stop height : Height}
  {report : List (Height × String)}
  (hlock : lock.poisoned = false) (hreport : world.listings lock start stop = .ok report)
  (htip : height ≤ lock.chain.height)

include hlock hreport htip

theorem lookup_listings (hstart : max start 1 ≤ height) (hstop : height < stop) :
    ∃ text, world.listing height (world.payeeBelow lock.chain height) = .ok text ∧
      report.lookup height = some text := by
  rw [listings_of_readable hlock] at hreport
  apply lookup_of_listed (forall₂_of_mapM_eq_ok hreport)
  rw [List.lookup_append, world.lookup_history hstart hstop htip]
  rfl

/-- It is listed once, unless more payees are projected than were asked for. -/
theorem listing_of_mem_listings
    (hcount : ∀ count, (world.masternodes.projected count).length ≤ count) {text : String}
    (hline : (height, text) ∈ report) :
    world.listing height (world.payeeBelow lock.chain height) = .ok text := by
  rw [listings_of_readable hlock] at hreport
  obtain ⟨payee, hentry, htext⟩ := mem_of_listed (forall₂_of_mapM_eq_ok hreport) hline
  rcases List.mem_append.mp hentry with hhistory | hprojection
  · rwa [← eq_payeeBelow_of_mem_history hhistory]
  · have habove := height_lt_of_mem_projection hcount hprojection
    rw [Int32.le_iff_toInt_le] at htip
    omega

end UpToTheTip

end World

end Paymaster
