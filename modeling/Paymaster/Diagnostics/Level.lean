import Paymaster.Text.Keyword
/-!
# Levels and line formats

Messages have one of five levels, from errors to traces; a threshold admits its
own level and every graver one. Lines are written as plain text or as JSON.
-/
namespace Paymaster

inductive Level where
  | error
  | warn
  | info
  | debug
  | trace
deriving DecidableEq

namespace Level

/-- One for the gravest level, five for the finest. -/
def rank : Level → Nat
  | error => 1
  | warn => 2
  | info => 3
  | debug => 4
  | trace => 5

def name : Level → String
  | error => "ERROR"
  | warn => "WARN"
  | info => "INFO"
  | debug => "DEBUG"
  | trace => "TRACE"

def ofName? (raw : String) : Option Level :=
  match Text.keyword raw with
  | "error" => some error
  | "warn" | "warning" => some warn
  | "info" => some info
  | "debug" => some debug
  | "trace" => some trace
  | _ => none

def admits (threshold level : Level) : Bool :=
  level.rank ≤ threshold.rank

end Level

inductive LineFormat where
  | text
  | json
deriving DecidableEq

def LineFormat.ofName? (raw : String) : Option LineFormat :=
  match Text.keyword raw with
  | "text" => some text
  | "json" => some json
  | _ => none

end Paymaster
