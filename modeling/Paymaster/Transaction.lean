import Paymaster.Amount
import Paymaster.Bytes.Hex
/-!
# Transactions and blocks

Outputs carry an amount and a script. A coinstake spends a real output and opens
with an empty one; a block whose second transaction is a coinstake pays its
reward there, any other block in its first transaction.
-/
namespace Paymaster

/-- An output of an earlier transaction. -/
structure OutPoint where
  hash : Hash256
  index : UInt32
deriving DecidableEq

namespace OutPoint

/-- The out point of an input that spends nothing. -/
def null : OutPoint :=
  ⟨.zero 32, 0xffffffff⟩

def isNull (point : OutPoint) : Bool :=
  point = null

end OutPoint

structure Input where
  previous : OutPoint
  signature : Bytes := []
  sequence : UInt32 := 0xffffffff
deriving DecidableEq

structure Output where
  value : Amount
  script : Bytes
deriving DecidableEq

namespace Output

/-- The output without value and script that opens a coinstake. -/
def isEmpty (output : Output) : Bool :=
  output.value == 0 && output.script.isEmpty

def scriptText (output : Output) : String :=
  Hex.ofBytes output.script

def render (output : Output) : String :=
  "TxOut(value=" ++ output.value.format ++ ", script_pubkey=" ++ output.scriptText ++ ")"

end Output

structure Transaction where
  inputs : List Input
  outputs : List Output
  version : Int32 := 1
  lockTime : UInt32 := 0
deriving DecidableEq

namespace Transaction

def empty : Transaction where
  inputs := []
  outputs := []

def isCoinstake (tx : Transaction) : Bool :=
  match tx.inputs, tx.outputs with
  | input :: _, output :: _ :: _ => !input.previous.isNull && output.isEmpty
  | _, _ => false

/-- One line for the transaction and one for each output. -/
def render (tx : Transaction) : String :=
  let version := tx.version
  let lockTime := tx.lockTime
  let inputCount := tx.inputs.length
  let outputCount := tx.outputs.length
  let header := s!"Transaction(version={version}, vin.size={inputCount}, vout.size={outputCount}, " ++
    s!"lock_time={lockTime})\n"
  header ++ String.join (tx.outputs.map fun output => "    " ++ output.render ++ "\n")

end Transaction

structure Block where
  transactions : List Transaction
deriving DecidableEq

namespace Block

def isProofOfStake (block : Block) : Bool :=
  block.transactions[1]?.any Transaction.isCoinstake

/-- The transaction that carries the block reward. -/
def paymentTransaction? (block : Block) : Option Transaction :=
  if block.isProofOfStake then block.transactions[1]? else block.transactions[0]?

end Block

end Paymaster
