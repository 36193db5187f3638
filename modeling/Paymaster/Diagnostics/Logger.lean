import Paymaster.Diagnostics.Gate
import Paymaster.Diagnostics.Timestamp
import Paymaster.Text.JsonString
/-!
# The logger

A logger writes the entries that pass its gate as lines, and keeps the latest
ones in a buffer while capturing. Its capacity says how many; none means that
nothing is captured, and what the buffer holds then stays as it is.
-/
namespace Paymaster

/-- What the caller says of one entry. -/
structure LogCall where
  level : Level
  target : String
  file : String
  line : UInt32
  text : String
deriving DecidableEq

/-- An entry with the time of its writing in milliseconds. -/
structure LogEntry extends LogCall where
  time : UInt64
deriving DecidableEq

structure LogConfig where
  level : Level := .info
  format : LineFormat := .text
  timestamps : Bool := true
  categories : CategorySet := .none

structure Logger where
  gate : Gate
  format : LineFormat
  timestamps : Bool
  writing : Bool
  capacity : Nat
  buffer : List LogEntry
  clock : Instant

namespace LogEntry

def jsonLine (entry : LogEntry) : String :=
  let line := entry.line
  let time := entry.time
  "\x7b\"file\":" ++ Text.quote entry.file ++ ",\"level\":" ++ Text.quote entry.level.name ++
    s!",\"line\":{line},\"msg\":" ++ Text.quote entry.text ++ ",\"target\":" ++
    Text.quote entry.target ++ s!",\"ts_ms\":{time}" ++ "\x7d\n"

end LogEntry

def LogCall.textLine (call : LogCall) : String :=
  call.level.name ++ " " ++ call.target ++ ": " ++ call.text ++ "\n"

namespace Logger

/-- A silent logger without captured entries at the start of 1970. -/
def fresh : Logger where
  gate := ⟨.info, .none⟩
  format := .text
  timestamps := true
  writing := false
  capacity := 0
  buffer := []
  clock := .epoch

def configure (logger : Logger) (config : LogConfig) : Logger :=
  { logger with
    gate := ⟨config.level, config.categories⟩
    format := config.format
    timestamps := config.timestamps }

def setCategories (logger : Logger) (categories : CategorySet) : Logger :=
  { logger with gate := { logger.gate with categories } }

def setWriting (logger : Logger) (writing : Bool) : Logger :=
  { logger with writing }

/-- Captures up to `capacity` entries from now on; none ends the capture. -/
def enableCapture (logger : Logger) (capacity : Nat) : Logger :=
  { logger with capacity }

def disableCapture (logger : Logger) : Logger :=
  logger.enableCapture 0

def clear (logger : Logger) : Logger :=
  { logger with buffer := [] }

def setClock (logger : Logger) (clock : Instant) : Logger :=
  { logger with clock }

/-- The latest entries, at most `limit` of them, oldest first. -/
def snapshot (logger : Logger) (limit : Nat) : List LogEntry :=
  logger.buffer.drop (logger.buffer.length - limit)

/-- Adds an entry and drops the oldest ones beyond the capacity. -/
def capture (logger : Logger) (entry : LogEntry) : Logger :=
  if logger.capacity = 0 then logger
  else
    let buffer := logger.buffer ++ [entry]
    { logger with buffer := buffer.drop (buffer.length - logger.capacity) }

/-- The line for an entry, if lines are written at all. -/
def line (logger : Logger) (entry : LogEntry) : String :=
  if logger.writing then
    match logger.format with
    | .text =>
      if logger.timestamps then logger.clock.timestamp.render ++ " " ++ entry.textLine
      else entry.textLine
    | .json => entry.jsonLine
  else ""

/-- Writes and captures an entry whose level passes the gate. -/
def log (logger : Logger) (call : LogCall) : Logger × String :=
  if logger.gate.admitsLevel call.level then
    let entry : LogEntry := { call with time := logger.clock.milliseconds }
    (logger.capture entry, logger.line entry)
  else (logger, "")

/-- Writes and captures a debug entry of a category that passes the gate. -/
def logIn (logger : Logger) (category : Category) (file : String) (line : UInt32) (text : String) :
    Logger × String :=
  if logger.gate.admitsCategory category then
    logger.log ⟨.debug, category.name, file, line, text⟩
  else (logger, "")

end Logger

end Paymaster
