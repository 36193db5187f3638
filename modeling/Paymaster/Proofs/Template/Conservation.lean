import Paymaster.Proofs.Session.Reply
import Paymaster.Proofs.Template.Completion
/-!
# Conservation of a template

Filling the register of a session either fails and changes nothing, or completes
the transaction in it. A completion moves value from the miner to the masternode
and creates the grant and the superblock; everything else stays in its place.
-/
namespace Paymaster

namespace World

end World

namespace Session

open World (smallPayments smallFilled)

theorem step_fill_of_error {session : Session} {height : Height} {expected : Amount} {gate : Gate}
    {left : Transaction} {e : PaymentError}
    (h : (session.world.fill session.lock height expected).outcome session.register gate =
      (.error e, left)) :
    (session.step gate (.fill height expected)).1 = { session with register := left } ∧
      (session.step gate (.fill height expected)).2.result = .error e := by
  apply step_of_outcome
  change (fillRegister height expected).outcome session gate = _
  rw [outcome_fillRegister, h]

end Session

end Paymaster
