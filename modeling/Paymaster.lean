import Paymaster.Diagnostics.LogRun
import Paymaster.Scenario
import Paymaster.Proofs.Address.Codec
import Paymaster.Proofs.Bytes.Base58
import Paymaster.Proofs.Chain.Change
import Paymaster.Proofs.Diagnostics.Filtering
import Paymaster.Proofs.Governance.Influence
import Paymaster.Proofs.Listing.ReportedPayee
import Paymaster.Proofs.Payment.HeightPurity
import Paymaster.Proofs.Payment.SuperblockAgreement
import Paymaster.Proofs.Session.Diagnostics
import Paymaster.Proofs.Session.Poisoned
import Paymaster.Proofs.Template.Conservation
import Paymaster.Proofs.Template.PayeeAcceptance
import Paymaster.Proofs.Template.ValueAcceptance
import Paymaster.Proofs.Chain.Refinement
import Paymaster.Proofs.Diagnostics.Capture
import Paymaster.Proofs.Payment.PaidDestinations
import Paymaster.Proofs.Payment.RewardShares
import Paymaster.Proofs.Grant.Embedding
import Paymaster.Proofs.Listing.Pointwise
import Paymaster.Proofs.Payment.BrokenSchedule
import Paymaster.Proofs.Script.Normalisation
import Paymaster.Proofs.Bytes.HexText
import Paymaster.Proofs.Diagnostics.CategoryRespelling
import Paymaster.Proofs.Grant.Table
import Paymaster.Proofs.Calendar.PrintedTime
import Paymaster.Proofs.Amount.DecimalText
import Paymaster.Proofs.Bytes.Base58Words
