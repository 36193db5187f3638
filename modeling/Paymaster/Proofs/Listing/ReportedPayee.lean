import Paymaster.Proofs.Listing.Window
import Paymaster.Proofs.Payment.Verification
import Paymaster.Proofs.Template.Completion
/-!
# The reported payee is the one that gets paid

A listing and the schedule of a height look up the payee below it on ways of their
own. Up to the tip both find the same record, so that the address in the listing is
the one to which the height pays.
-/
namespace Paymaster.World

theorem scriptAddress?_eq (world : World) (script : Bytes) :
    world.scriptAddress? script = (world.destination? script).map world.address := rfl

private theorem scriptAddress?_of_paysScript {world : World} {tx : Transaction} {script : Bytes}
    {address : String} (hpaid : world.PaysScript tx script)
    (haddress : world.scriptAddress? script = some address) :
    ∃ output ∈ tx.outputs, world.scriptAddress? output.script = some address := by
  obtain ⟨destination, hscript, output, houtput, hpays⟩ := hpaid
  refine ⟨output, houtput, ?_⟩
  rw [scriptAddress?_eq, hpays, ← haddress, scriptAddress?_eq, hscript]

theorem listing_some_eq_ok {world : World} {height : Height} {node : Masternode} {text : String}
    (h : world.listing height (some node) = .ok text) :
    ∃ address, world.scriptAddress? node.payout = some address ∧
      text = address ++ world.superblockNote height := by
  rw [listing_eq, listedPayee] at h
  cases haddress : world.scriptAddress? node.payout with
  | none =>
    rw [haddress] at h
    cases h
  | some address =>
    rw [haddress] at h
    cases h
    exact ⟨address, rfl, rfl⟩

private theorem scheduleOn_of_no_payee {world : World} {chain : Chain} {height : Height}
    {block : BlockEntry} (hblock : chain.get? height.pred = some block)
    (hnone : world.masternodes.payeeAfter block = none) (expected : Amount) :
    world.scheduleOn chain height expected = .unavailable .noPayee := by
  simp [scheduleOn, payeeAt, hblock, hnone]

/-- The owner's output stands first, and every transaction that passes pays the owner's script. -/
theorem owner_paid {world : World} {lock : ChainLock} {height : Height} {expected : Amount}
    {node : Masternode}
    (hschedule : world.scheduleOn lock.chain height expected =
      .payees ((RewardSplit.ofReward node (world.masternodeReward height expected)).outputs node))
    (howner : 0 < (RewardSplit.ofReward node (world.masternodeReward height expected)).owner)
    {tx : Transaction} {gate : Gate}
    (hverified : (world.checkTransaction lock tx height expected).outcome gate = .ok .verified) :
    world.PaysScript tx node.payout := by
  obtain ⟨_, _, outputs, houtputs, hpaid⟩ := checkTransaction_verified_iff.mp hverified
  rw [hschedule] at houtputs
  cases houtputs
  exact (RewardSplit.forall_mem_outputs.mp hpaid).1 howner

/-- What a listing tells about a height up to the tip is true of the payments there. Either no
masternode is owed the block, and the listing says so, or the schedule splits the reward of the
masternode whose address the listing gives. If the owner gets a share, it goes to this address in
the first scheduled output, and every transaction that is verified pays to it. -/
theorem reported_payee_is_paid {world : World} {lock : ChainLock} (hlock : lock.poisoned = false)
    {start stop : Height} {report : List (Height × String)}
    (hreport : world.listings lock start stop = .ok report) {height : Height}
    (hstart : start ≤ height) (hstop : height < stop) (hpositive : 1 ≤ height)
    (htip : height ≤ lock.chain.height) (expected : Amount) :
    ∃ text, report.lookup height = some text ∧
      ((∀ count, (world.masternodes.projected count).length ≤ count) →
        ∀ other, (height, other) ∈ report → other = text) ∧
      (world.payeeBelow lock.chain height = none ∧
          world.schedule lock height expected = .ok (.unavailable .noPayee) ∧
          world.listing height none = .ok text ∨
        ∃ node address,
          let split := RewardSplit.ofReward node (world.masternodeReward height expected)
          world.payeeBelow lock.chain height = some node ∧
          world.schedule lock height expected = .ok (.payees (split.outputs node)) ∧
          world.listing height (some node) = .ok text ∧
          text = address ++ world.superblockNote height ∧
          (0 < split.owner →
            (∃ first, (split.outputs node).head? = some first ∧
              world.scriptAddress? first.script = some address) ∧
            ∀ tx gate, (world.checkTransaction lock tx height expected).outcome gate = .ok .verified →
              ∃ output ∈ tx.outputs, world.scriptAddress? output.script = some address)) := by
  obtain ⟨text, htext, hlookup⟩ :=
    lookup_listings hlock hreport htip (Height.max_le_iff.mpr ⟨hstart, hpositive⟩) hstop
  obtain ⟨block, hblock⟩ := Chain.get?_isSome_of_le_height hpositive htip
  have hbelow : world.payeeBelow lock.chain height = world.masternodes.payeeAfter block := by
    rw [payeeBelow, Height.sub_one_eq_pred hpositive, hblock]
    rfl
  refine ⟨text, hlookup, ?_, ?_⟩
  · intro hcount other hother
    have hlisted := listing_of_mem_listings hlock hreport htip hcount hother
    rw [htext] at hlisted
    exact (Except.ok.inj hlisted).symm
  · rw [schedule_of_readable hlock]
    rw [hbelow] at htext ⊢
    cases hnode : world.masternodes.payeeAfter block with
    | none =>
      have hschedule := scheduleOn_of_no_payee hblock hnode expected
      rw [hnode] at htext
      exact .inl ⟨rfl, by rw [hschedule], htext⟩
    | some node =>
      have hschedule : world.scheduleOn lock.chain height expected = .payees _ :=
        scheduleOn_eq_payees_iff.mpr ⟨block, node, hblock, hnode, rfl⟩
      rw [hnode] at htext
      obtain ⟨address, haddress, hrendered⟩ := listing_some_eq_ok htext
      refine .inr ⟨node, address, rfl, by rw [hschedule], htext, hrendered, ?_⟩
      intro howner
      refine ⟨?_, ?_⟩
      · rw [RewardSplit.outputs, if_pos howner]
        exact ⟨_, rfl, haddress⟩
      · intro tx gate hverified
        exact scriptAddress?_of_paysScript (owner_paid hschedule howner hverified) haddress

/-- The masternode of the small world. -/
def smallNode : Masternode :=
  ⟨.zero 32, Script.payToKeyHash (.zero 20), Script.payToScriptHash (.zero 20), 2500⟩

/-- The payees of heights 1 and 2 of the small world; a superblock is triggered at the second. -/
def smallReport : List (Height × String) :=
  let address := small.address (.key (.zero 20))
  [(1, address), (2, address ++ ", " ++ "")]

theorem reported_payee_is_paid_small :
    ChainLock.small.poisoned = false ∧ small.listings .small 0 3 = .ok smallReport ∧
    (0 : Height) ≤ 2 ∧ (2 : Height) < 3 ∧ (1 : Height) ≤ 2 ∧ 2 ≤ ChainLock.small.chain.height ∧
    ∃ address, smallReport.lookup 2 = some (address ++ small.superblockNote 2) ∧
      ∃ output ∈ (smallFilled 2 400).outputs, small.scriptAddress? output.script = some address := by
  have hlock : ChainLock.small.poisoned = false := rfl
  have hreport : small.listings .small 0 3 = .ok smallReport := rfl
  have hstart : (0 : Height) ≤ 2 := by decide
  have hstop : (2 : Height) < 3 := by decide
  have hpositive : (1 : Height) ≤ 2 := by decide
  have htip : 2 ≤ ChainLock.small.chain.height := by decide
  have hverified : (small.checkTransaction .small (smallFilled 2 400) 2 400).outcome .wide =
      .ok .verified := rfl
  obtain ⟨text, hlookup, _, hcases⟩ :=
    reported_payee_is_paid hlock hreport hstart hstop hpositive htip 400
  rcases hcases with ⟨_, hnone, _⟩ | ⟨node, address, hnode, _, _, htext, hpaid⟩
  · cases hnone
  · have hnode : smallNode = node := Option.some.inj hnode
    subst hnode
    have howner : 0 < (RewardSplit.ofReward smallNode (small.masternodeReward 2 400)).owner := by
      decide
    exact ⟨hlock, hreport, hstart, hstop, hpositive, htip, address, by rw [hlookup, htext],
      (hpaid howner).2 _ _ hverified⟩

end Paymaster.World
