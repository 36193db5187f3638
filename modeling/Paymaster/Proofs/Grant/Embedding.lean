import Paymaster.Proofs.Bytes.HalfBytes
import Paymaster.Proofs.Grant.Recipient
import Paymaster.Proofs.Payment.Verification
import Paymaster.Proofs.Template.Completion
/-!
# Scripts that count as paying a grant

The recipient of grants is looked for in the hexadecimal text of a script. So a script
counts if it embeds the recipient's key hash, and also if the half bytes of the hash
stand in it half a byte later, although the bytes then do not occur. No other script
counts.
-/
namespace Paymaster.Grant

/-- The recipient's key hash stands in the script, at a byte or half a byte later. -/
def EmbedsRecipient (script : Bytes) : Prop :=
  recipient.bytes <:+: script ∨ ∃ first last, Hex.shifted first last recipient.bytes <:+: script

instance (script : Bytes) : Decidable (EmbedsRecipient script) :=
  inferInstanceAs (Decidable (_ ∨ ∃ _ _, _))

theorem namesRecipient_ofBytes_iff_embeds {script : Bytes} :
    namesRecipient (Hex.ofBytes script) = true ↔ EmbedsRecipient script :=
  namesRecipient_ofBytes_iff.trans Hex.digits_infix_iff_shifted

private theorem embedsRecipient_script : EmbedsRecipient Grant.script :=
  .inl ⟨Script.keyHashFrame.1, Script.keyHashFrame.2, rfl⟩

private theorem countP_paysGrant (amount : Amount) (outputs : List Output) :
    outputs.countP (World.paysGrant amount) =
      outputs.countP fun output => output.value = amount ∧ EmbedsRecipient output.script := by
  apply List.countP_congr
  intro output _
  rw [World.paysGrant_eq_true_iff, Output.scriptText, namesRecipient_ofBytes_iff_embeds,
    decide_eq_true_iff]

/-- A script is recognised exactly if it embeds the recipient's key hash at a byte or half a byte
later, where the half bytes of the hash stand between one before and one behind them. The script that
templates pay grants with is recognised. The payee check of a grant height counts the outputs of the
granted amount with such scripts, and no others. -/
theorem recipient_recognised_by_half_bytes :
    (∀ script, namesRecipient (Hex.ofBytes script) = true ↔
      recipient.bytes <:+: script ∨
        ∃ first last, Hex.shifted first last recipient.bytes <:+: script) ∧
    (∀ first last, Hex.halfBytes (Hex.shifted first last recipient.bytes) =
      first :: (Hex.halfBytes recipient.bytes ++ [last])) ∧
    namesRecipient (Hex.ofBytes Grant.script) = true ∧
    ∀ (world : World) (height : Height) (grant : Grant),
      world.grants.grantAt? height = some grant →
      ∀ (lock : ChainLock) (tx : Transaction) (expected actual : Amount) (gate : Gate),
        let found := tx.outputs.countP fun output =>
          output.value = grant.amount ∧ EmbedsRecipient output.script
        (world.checkPayee lock tx height expected actual).outcome gate =
          if found = 1 then .ok .verified else .error (.invalidGrantPayment height found) := by
  refine ⟨?_, ?_, ?_, ?_⟩
  · intro script
    exact namesRecipient_ofBytes_iff_embeds
  · intro first last
    exact Hex.halfBytes_shifted first last recipient.bytes
  · exact namesRecipient_ofBytes_iff_embeds.mpr embedsRecipient_script
  · intro world height grant hgrant lock tx expected actual gate
    dsimp only
    rw [World.outcome_checkPayee_of_grant hgrant, countP_paysGrant]

/-- The recipient's key hash half a byte later, between two zero half bytes. -/
def betweenBytes : Bytes :=
  [0x05, 0xb1, 0xc7, 0x13, 0x01, 0x7e, 0x9e, 0x6e, 0x01, 0x92, 0x64,
    0xb0, 0xe6, 0xe3, 0xe8, 0xc3, 0xa5, 0xe0, 0x3a, 0x3d, 0xb0]

/-- A transaction that pays the grant of the small world to a script between the bytes. -/
def payingBetweenBytes : Transaction where
  inputs := []
  outputs := [⟨7, betweenBytes⟩]

theorem recipient_recognised_by_half_bytes_small :
    World.small.grants.grantAt? 3 = some ⟨3, 7⟩ ∧ EmbedsRecipient betweenBytes ∧
    (World.small.checkPayee .small payingBetweenBytes 3 0 0).outcome .wide = .ok .verified := by
  have hgrant : World.small.grants.grantAt? 3 = some ⟨3, 7⟩ := rfl
  have hembeds : EmbedsRecipient betweenBytes := .inr ⟨0, 0, [], [], by decide⟩
  have hcounted :=
    recipient_recognised_by_half_bytes.2.2.2 _ _ _ hgrant .small payingBetweenBytes 0 0 .wide
  refine ⟨hgrant, hembeds, ?_⟩
  rw [hcounted]
  simp [payingBetweenBytes, hembeds]

/-- The recipient is recognised in a script in which its bytes do not occur, and the script counts as
paying a grant. -/
theorem recipient_recognised_between_bytes :
    namesRecipient (Hex.ofBytes betweenBytes) = true ∧ ¬ recipient.bytes <:+: betweenBytes ∧
    (World.small.checkPayee .small payingBetweenBytes 3 0 0).outcome .wide = .ok .verified := by
  have hnamed : namesRecipient (Hex.ofBytes betweenBytes) = true := by decide
  have habsent : ¬ recipient.bytes <:+: betweenBytes := by decide
  exact ⟨hnamed, habsent, by decide⟩

end Paymaster.Grant
