import Paymaster.Diagnostics.Logger
/-!
# Runs of a logger

The steps that a logger is taken through, and what each of them answers and
writes. A run folds its steps into the logger.
-/
namespace Paymaster

inductive LogStep where
  | configure (config : LogConfig)
  | setCategories (categories : CategorySet)
  | setWriting (writing : Bool)
  | enableCapture (capacity : Nat)
  | disableCapture
  | clear
  | setClock (clock : Instant)
  | snapshot (limit : Nat)
  | askLevel (level : Level)
  | askCategory (category : Category)
  | log (call : LogCall)
  | logIn (category : Category) (file : String) (line : UInt32) (text : String)

inductive LogReply where
  | done
  | flag (value : Bool)
  | entries (entries : List LogEntry)

/-- The reply to a step and the text that it wrote. -/
structure LogEffect where
  reply : LogReply
  written : String

namespace Logger

def stepSilently (logger : Logger) (reply : LogReply) : Logger × LogEffect :=
  (logger, ⟨reply, ""⟩)

def stepWriting (result : Logger × String) : Logger × LogEffect :=
  (result.1, ⟨.done, result.2⟩)

def step (logger : Logger) : LogStep → Logger × LogEffect
  | .configure config => stepSilently (logger.configure config) .done
  | .setCategories categories => stepSilently (logger.setCategories categories) .done
  | .setWriting on => stepSilently (logger.setWriting on) .done
  | .enableCapture capacity => stepSilently (logger.enableCapture capacity) .done
  | .disableCapture => stepSilently logger.disableCapture .done
  | .clear => stepSilently logger.clear .done
  | .setClock clock => stepSilently (logger.setClock clock) .done
  | .snapshot limit => stepSilently logger (.entries (logger.snapshot limit))
  | .askLevel level => stepSilently logger (.flag (logger.gate.admitsLevel level))
  | .askCategory category => stepSilently logger (.flag (logger.gate.admitsCategory category))
  | .log call => stepWriting (logger.log call)
  | .logIn category file line text => stepWriting (logger.logIn category file line text)

def run (logger : Logger) (steps : List LogStep) : Logger :=
  steps.foldl (fun current next => (current.step next).1) logger

end Logger

end Paymaster
