import Paymaster.Proofs.Listing.Assignment
import Paymaster.Proofs.Listing.ReportedPayee
/-!
# A listing, height by height

A listing renders the assigned payees from the lowest height on and ends at the first
one who cannot be paid. If there is none, it has for each height the text of the
payee that is assigned there, and no line for any other height.
-/
namespace Paymaster

/-- A traversal that can fail gives all results, or the error of the first entry that has one. -/
private theorem mapM_cases {α β ε : Type} (f : α → Except ε β) (l : List α) :
    (∃ out, l.mapM f = .ok out) ∧ (∀ a ∈ l, ∃ b, f a = .ok b) ∨
      ∃ before a after e, l = before ++ a :: after ∧ (∀ b ∈ before, ∃ c, f b = .ok c) ∧
        f a = .error e ∧ l.mapM f = .error e := by
  induction l with
  | nil => exact .inl ⟨⟨[], rfl⟩, by simp⟩
  | cons a rest ih =>
    rw [List.mapM_cons]
    cases ha : f a with
    | error e => exact .inr ⟨[], a, rest, e, rfl, by simp, ha, rfl⟩
    | ok b =>
      rcases ih with ⟨⟨out, hout⟩, hall⟩ | ⟨before, failing, after, e, rfl, hbefore, hfailing, herror⟩
      · refine .inl ⟨⟨b :: out, by rw [hout]; rfl⟩, ?_⟩
        simpa [ha] using hall
      · refine .inr ⟨a :: before, failing, after, e, rfl, ?_, hfailing, by rw [herror]; rfl⟩
        simpa [ha] using hbefore

namespace World

/-- Whether the text for a payee can be given: "Unknown" if there is none, else its address. -/
def Listable (world : World) : Option Masternode → Prop
  | none => True
  | some node => ∃ destination, world.destination? node.payout = some destination

private theorem listable_of_listedEntry {world : World} {entry : Height × Option Masternode}
    {line : Height × String} (h : world.listedEntry entry = .ok line) : world.Listable entry.2 := by
  obtain ⟨height, payee⟩ := entry
  obtain ⟨_, htext⟩ := listedEntry_eq_ok_iff.mp h
  cases payee with
  | none => exact trivial
  | some node =>
    obtain ⟨address, haddress, _⟩ := listing_some_eq_ok htext
    rw [scriptAddress?_eq, Option.map_eq_some_iff] at haddress
    obtain ⟨destination, hdestination, _⟩ := haddress
    exact ⟨destination, hdestination⟩

private theorem unpayable_of_listedEntry {world : World} {entry : Height × Option Masternode}
    {e : PaymentError} (h : world.listedEntry entry = .error e) :
    ∃ node, entry.2 = some node ∧ world.destination? node.payout = none ∧
      e = .unresolvableDestination (Hex.ofBytes node.payout) := by
  obtain ⟨height, payee⟩ := entry
  rw [listedEntry, listing_eq] at h
  cases payee with
  | none => cases h
  | some node =>
    rw [listedPayee, scriptAddress?_eq] at h
    cases hdestination : world.destination? node.payout with
    | some destination =>
      rw [hdestination] at h
      cases h
    | none =>
      rw [hdestination] at h
      cases h
      exact ⟨node, rfl, hdestination, rfl⟩

private theorem ascending_of_listed {world : World} {entries : List (Height × Option Masternode)}
    {lines : List (Height × String)} (hentries : Ascending entries)
    (h : List.Forall₂ (fun entry line => world.listedEntry entry = .ok line) entries lines) :
    Ascending lines := by
  have hkeys : entries.map Prod.fst = lines.map Prod.fst := by
    induction h with
    | nil => rfl
    | cons hline _ ih =>
      rw [List.map_cons, List.map_cons, (listedEntry_eq_ok_iff.mp hline).1, ih hentries.of_cons]
  have hpairwise : (entries.map Prod.fst).Pairwise (· < ·) := List.pairwise_map.mpr hentries
  rw [hkeys] at hpairwise
  exact List.pairwise_map.mp hpairwise

section Window

variable {world : World} {chain : Chain} {start stop : Height}
  (hfits : chain.height.toInt + 2 + (world.upcoming chain stop).length ≤ 2147483647)

include hfits

private theorem lookup_of_listed_window {report : List (Height × String)}
    (h : (world.windowEntries chain start stop).mapM world.listedEntry = .ok report) (height : Height) :
    (report.lookup height).map .ok =
      (world.assigned? chain start stop height).map (world.listing height) := by
  have hlisted := forall₂_of_mapM_eq_ok h
  cases hassigned : world.assigned? chain start stop height with
  | some payee =>
    have hentry := (mem_windowEntries_iff hfits).mpr hassigned
    obtain ⟨text, htext, hlookup⟩ :=
      lookup_of_listed hlisted ((ascending_windowEntries hfits).lookup_eq hentry)
    rw [hlookup, Option.map_some, Option.map_some, htext]
  | none =>
    cases hlookup : report.lookup height with
    | none => rfl
    | some text =>
      obtain ⟨before, after, hreport, _⟩ := List.lookup_eq_some_iff.mp hlookup
      have hline : (height, text) ∈ report := by simp [hreport]
      obtain ⟨payee, hentry, _⟩ := mem_of_listed hlisted hline
      rw [mem_windowEntries_iff hfits, hassigned] at hentry
      cases hentry

private theorem mem_before_of_assigned {before after : List (Height × Option Masternode)}
    {height : Height} {payee : Option Masternode}
    (hsplit : world.windowEntries chain start stop = before ++ (height, payee) :: after)
    {lower : Height} {payee' : Option Masternode} (hlower : lower < height)
    (hassigned : world.assigned? chain start stop lower = some payee') :
    (lower, payee') ∈ before := by
  have hascending : Ascending (world.windowEntries chain start stop) := ascending_windowEntries hfits
  have hentry := (mem_windowEntries_iff hfits).mpr hassigned
  rw [hsplit] at hentry hascending
  rcases List.mem_append.mp hentry with hbefore | hrest
  · exact hbefore
  · have htail := (List.pairwise_append.mp hascending).2.1
    rcases List.mem_cons.mp hrest with heq | hafter
    · cases heq
      exact absurd hlower Int32.lt_irrefl
    · exact absurd hlower (Int32.lt_asymm (List.rel_of_pairwise_cons htail hafter))

end Window

/-- A world whose masternodes are projected in another way. -/
def projecting (world : World) (projected : Nat → List Masternode) : World :=
  { world with masternodes := { world.masternodes with projected } }

private theorem assigned?_projecting {world : World} {chain : Chain} {start stop : Height}
    {projected : Nat → List Masternode}
    (hagree : ∀ i : Nat, (max start 1).toInt ≤ chain.height.toInt + 1 + i →
      chain.height.toInt + 1 + i < stop.toInt →
        ((world.projecting projected).upcoming chain stop)[i]? = (world.upcoming chain stop)[i]?)
    (height : Height) :
    (world.projecting projected).assigned? chain start stop height =
      world.assigned? chain start stop height := by
  rw [assigned?, assigned?]
  split
  · next hwindow =>
    obtain ⟨hstart, hstop⟩ := hwindow
    split
    · rfl
    · next htip =>
      rw [Int32.le_iff_toInt_le] at hstart htip
      rw [Int32.lt_iff_toInt_lt] at hstop
      rw [hagree _ (by omega) (by omega)]
  · rfl

/-- So payees projected for other heights make no difference to what a listing goes through. -/
private theorem windowEntries_projecting {world : World} {chain : Chain} {start stop : Height}
    {projected : Nat → List Masternode}
    (hfits : chain.height.toInt + 2 + (world.upcoming chain stop).length ≤ 2147483647)
    (hfits' : chain.height.toInt + 2 + ((world.projecting projected).upcoming chain stop).length ≤
      2147483647)
    (hagree : ∀ i : Nat, (max start 1).toInt ≤ chain.height.toInt + 1 + i →
      chain.height.toInt + 1 + i < stop.toInt →
        ((world.projecting projected).upcoming chain stop)[i]? = (world.upcoming chain stop)[i]?) :
    (world.projecting projected).windowEntries chain start stop =
      world.windowEntries chain start stop := by
  apply (ascending_windowEntries hfits').eq_of_mem_iff (ascending_windowEntries hfits)
  rintro ⟨height, payee⟩
  rw [mem_windowEntries_iff hfits', mem_windowEntries_iff hfits, assigned?_projecting hagree]

/-- A listing, height by height. The block below every height of the window up to the tip exists.
Either everyone assigned can be paid, and the listing has, in ascending order, exactly the heights
with an assigned payee, each with the text for that payee; or the listing ends at the lowest height
whose payee cannot be paid, with that payee's script. Payees projected for heights outside the
window make no difference. -/
theorem listings_pointwise {world : World} {lock : ChainLock} (hlock : lock.poisoned = false)
    (start : Height) {stop : Height}
    (hfits : lock.chain.height.toInt + 2 + (world.upcoming lock.chain stop).length ≤ 2147483647) :
    (∀ height, max start 1 ≤ height → height ≤ lock.chain.height →
      ∃ block, lock.chain.get? (height - 1) = some block) ∧
    ((∀ height payee, world.assigned? lock.chain start stop height = some payee →
          world.Listable payee) ∧
        (∃ report, world.listings lock start stop = .ok report ∧ Ascending report ∧
          ∀ height, (report.lookup height).map .ok =
            (world.assigned? lock.chain start stop height).map (world.listing height)) ∨
      ∃ height node, world.assigned? lock.chain start stop height = some (some node) ∧
        world.destination? node.payout = none ∧
        (∀ lower payee, lower < height →
          world.assigned? lock.chain start stop lower = some payee → world.Listable payee) ∧
        world.listings lock start stop =
          .error (.unresolvableDestination (Hex.ofBytes node.payout))) ∧
    ∀ projected,
      lock.chain.height.toInt + 2 + ((world.projecting projected).upcoming lock.chain stop).length ≤
        2147483647 →
      (∀ i : Nat, (max start 1).toInt ≤ lock.chain.height.toInt + 1 + i →
        lock.chain.height.toInt + 1 + i < stop.toInt →
          ((world.projecting projected).upcoming lock.chain stop)[i]? =
            (world.upcoming lock.chain stop)[i]?) →
      (world.projecting projected).listings lock start stop = world.listings lock start stop := by
  have hlistings (world : World) : world.listings lock start stop =
      (world.windowEntries lock.chain start stop).mapM world.listedEntry :=
    listings_of_readable hlock world start stop
  refine ⟨?_, ?_, ?_⟩
  · intro height hstart htip
    have hpositive := (Height.max_le_iff.mp hstart).2
    rw [Height.sub_one_eq_pred hpositive]
    exact Chain.get?_isSome_of_le_height hpositive htip
  · rw [hlistings]
    rcases mapM_cases world.listedEntry (world.windowEntries lock.chain start stop) with
      ⟨⟨report, hreport⟩, hall⟩ | ⟨before, entry, after, e, hsplit, hbefore, hentry, herror⟩
    · left
      refine ⟨?_, report, hreport, ?_, lookup_of_listed_window hfits hreport⟩
      · intro height payee hassigned
        obtain ⟨line, hline⟩ := hall _ ((mem_windowEntries_iff hfits).mpr hassigned)
        exact listable_of_listedEntry hline
      · exact ascending_of_listed (ascending_windowEntries hfits) (forall₂_of_mapM_eq_ok hreport)
    · right
      obtain ⟨height, payee⟩ := entry
      obtain ⟨node, hnode, hdestination, rfl⟩ := unpayable_of_listedEntry hentry
      dsimp only at hnode
      subst hnode
      have hassigned : world.assigned? lock.chain start stop height = some (some node) := by
        rw [← mem_windowEntries_iff hfits, hsplit]
        simp
      refine ⟨height, node, hassigned, hdestination, ?_, herror⟩
      intro lower payee hlower hpayee
      obtain ⟨line, hline⟩ := hbefore _ (mem_before_of_assigned hfits hsplit hlower hpayee)
      exact listable_of_listedEntry hline
  · intro projected hfits' hagree
    rw [hlistings, hlistings, windowEntries_projecting hfits hfits' hagree]
    rfl

/-- The small world, where the masternode is projected and then one who cannot be paid. -/
def smallAhead : World :=
  small.projecting fun _ => [smallNode, ⟨.zero 32, [], [], 0⟩]

theorem listings_pointwise_small :
    ChainLock.small.poisoned = false ∧
    (∀ stop, ChainLock.small.chain.height.toInt + 2 +
      (smallAhead.upcoming ChainLock.small.chain stop).length ≤ 2147483647) ∧
    (∃ report, smallAhead.listings .small 2 4 = .ok report ∧ Ascending report ∧
      (report.lookup 3).map .ok = some (smallAhead.listing 3 (some smallNode)) ∧
      report.lookup 4 = none) ∧
    (∃ script, smallAhead.listings .small 2 5 = .error (.unresolvableDestination script)) ∧
    (smallAhead.projecting fun _ => [smallNode]).listings .small 2 4 =
      smallAhead.listings .small 2 4 := by
  have hlock : ChainLock.small.poisoned = false := rfl
  have hfits (stop : Height) : ChainLock.small.chain.height.toInt + 2 +
      (smallAhead.upcoming ChainLock.small.chain stop).length ≤ 2147483647 := by
    change (2 : Int) + 2 + 2 ≤ 2147483647
    decide
  obtain ⟨_, hshort, hprojected⟩ := listings_pointwise hlock 2 (hfits 4)
  obtain ⟨_, hlong, _⟩ := listings_pointwise hlock 2 (hfits 5)
  refine ⟨hlock, hfits, ?_, ?_, ?_⟩
  · rcases hshort with ⟨_, report, hreport, hascending, hlookup⟩ | ⟨_, _, _, _, _, herror⟩
    · refine ⟨report, hreport, hascending, hlookup 3, ?_⟩
      have houtside := hlookup 4
      rwa [show smallAhead.assigned? ChainLock.small.chain 2 4 4 = none from rfl, Option.map_none,
        Option.map_eq_none_iff] at houtside
    · cases herror
  · rcases hlong with ⟨hlistable, _⟩ | ⟨_, node, _, _, _, herror⟩
    · obtain ⟨_, hdestination⟩ := hlistable 4 (some ⟨.zero 32, [], [], 0⟩) rfl
      cases hdestination
    · exact ⟨_, herror⟩
  · apply hprojected
    · change (2 : Int) + 2 + 1 ≤ 2147483647
      decide
    · intro i _ hstop
      change (2 : Int) + 1 + i < 4 at hstop
      have hi : i = 0 := by omega
      subst hi
      rfl

end World

end Paymaster
