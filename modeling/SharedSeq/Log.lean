import SharedSeq.Fault

/-!
# Logging

Two events can be logged (`LogEvent`), each at a `Level`.
-/

namespace SharedSeq

/-- How important an event is, the most important first. -/
inductive Level
  | error
  | warn
  | info
  | debug
  | trace
  deriving DecidableEq, Repr

namespace Level

def rank : Level → Nat
  | error => 1
  | warn => 2
  | info => 3
  | debug => 4
  | trace => 5

/-- The level as log lines name it. -/
def label : Level → String
  | error => "ERROR"
  | warn => "WARN"
  | info => "INFO"
  | debug => "DEBUG"
  | trace => "TRACE"

end Level

inductive LogEvent
  /-- Logging has begun, with the filter as it was written. -/
  | initialized (filter : String)
  /-- A fault of an operation was kept for the caller. -/
  | reported (operation : String) (fault : Fault)
  deriving DecidableEq, Repr

namespace LogEvent

def level : LogEvent → Level
  | initialized _ => .debug
  | reported .. => .warn

/-- The part of the program that the event comes from. -/
def target : LogEvent → String
  | initialized _ => "pyc_runtime::logging"
  | reported .. => "pyc_runtime::error"

def fields : LogEvent → List String
  | initialized _ => ["message", "filter"]
  | reported .. => ["message", "op", "error"]

def text : LogEvent → String
  | initialized filter => "runtime logging initialized filter=" ++ filter
  | reported operation fault =>
    "runtime error reported to caller op=\"" ++ operation ++ "\" error=" ++ fault.message

/-- The event as a line of the log. -/
def line (e : LogEvent) : String := e.level.label ++ " " ++ e.target ++ ": " ++ e.text ++ "\n"

end LogEvent

end SharedSeq
