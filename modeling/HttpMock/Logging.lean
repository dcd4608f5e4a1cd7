/-
# Log levels and the installation of a log

A log shows the events of its level and of the more urgent ones; at the level `off` it shows none.
A process has at most one log: the first that is installed stays, and every later one is refused.
-/

namespace HttpMock

/-- How much a log shows. -/
inductive LogLevel
  | trace
  | debug
  | info
  | warn
  | error
  | off
deriving DecidableEq, Repr

namespace LogLevel

/-- The levels, from the most talkative to the silent one. -/
def all : List LogLevel := [trace, debug, info, warn, error, off]

/-- The name of a level. -/
def name : LogLevel → String
  | trace => "trace"
  | debug => "debug"
  | info => "info"
  | warn => "warn"
  | error => "error"
  | off => "off"

/-- The level with a name, which is matched with its case. -/
def ofName? (s : String) : Option LogLevel := all.find? fun l => l.name == s

@[simp] theorem ofName?_name (l : LogLevel) : ofName? l.name = some l := by cases l <;> rfl

end LogLevel

/-- What the log of a process is. -/
structure Logging where
  /-- The level of the installed log, if there is one. -/
  installed : Option LogLevel
deriving DecidableEq, Repr

namespace Logging

/-- No log is installed. -/
def start : Logging := ⟨none⟩

/-- Installs a log unless there is one, and tells whether it did. -/
def install (l : Logging) (level : LogLevel) : Bool × Logging :=
  match l.installed with
  | none => (true, ⟨some level⟩)
  | some _ => (false, l)

end Logging
end HttpMock
