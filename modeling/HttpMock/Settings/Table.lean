/-
# Settings from a table

A table sets what its keys name and leaves the rest at its default.  The keys are taken in the
order of their code points, and the first that does not fit decides the misfit.  The settings of
the log are a table of their own, or a list that gives its values in order.  A log level is its
name, or a table with that name as its one key and nothing under it.
-/
import HttpMock.Settings.Basic
import HttpMock.Settings.Misfit

namespace HttpMock

namespace LogLevel

/-- The level with a name. -/
def parse (name : String) : Except Misfit LogLevel :=
  match ofName? name with
  | some level => .ok level
  | none => .error (.unknownLevel name)

/-- The level that a value names. -/
def ofValue : Toml.Value → Except Misfit LogLevel
  | .string name => parse name
  | .table [] => .error .levelWithoutEntry
  | .table [(name, entry)] => do
    let level ← parse name
    match entry with
    | .array [] | .table [] => .ok level
    | .array _ => .error .levelWithItems
    | .table _ => .error .levelWithEntries
    | found => .error (.levelWithScalar found)
  | .table _ => .error .levelWithMoreEntries
  | _ => .error .levelOfWrongKind

end LogLevel

namespace Settings

/-- The entries of a table in the order of their keys. -/
def sorted (table : Toml.Table) : Toml.Table := table.mergeSort fun a b => a.1 ≤ b.1

/-- The keys of settings. -/
def keys : List String :=
  ["default_host", "server_name", "max_body_size", "conditional_requests", "logger"]

/-- The keys of the settings of a log. -/
def loggerKeys : List String := ["level"]

/-- A value as a text. -/
def textOf : Toml.Value → Except Misfit String
  | .string text => .ok text
  | found => .error (.wrongKind found .text)

/-- A value as a count. -/
def sizeOf : Toml.Value → Except Misfit Nat
  | .integer i => if i < 0 then .error (.negativeSize i) else .ok i.toNat
  | found => .error (.wrongKind found .size)

/-- A value as a truth value. -/
def flagOf : Toml.Value → Except Misfit Bool
  | .boolean b => .ok b
  | found => .error (.wrongKind found .flag)

/-- Takes one entry of the table of a log; a level that is given replaces the one so far. -/
def setLevel (_ : LogLevel) (entry : String × Toml.Value) : Except Misfit LogLevel :=
  if entry.1 = "level" then LogLevel.ofValue entry.2
  else .error (.unknownField entry.1 loggerKeys)

/-- The entries that a date shows where a table is expected: its text, under a reserved key. -/
def datetimeEntries (text : String) : Toml.Table :=
  [("$__toml_private_datetime", .string text)]

/-- A value as the settings of a log, which are its level. -/
def loggerOf : Toml.Value → Except Misfit LogLevel
  | .table entries => (sorted entries).foldlM setLevel default.logLevel
  | .datetime text => (datetimeEntries text).foldlM setLevel default.logLevel
  | .array [] => .ok default.logLevel
  | .array (level :: _) => LogLevel.ofValue level
  | found => .error (.wrongKind found .logger)

/-- Takes one entry of a table. -/
def setEntry (s : Settings) (entry : String × Toml.Value) : Except Misfit Settings :=
  match entry.1 with
  | "default_host" => (textOf entry.2).map fun host => { s with defaultHost := host }
  | "server_name" => (textOf entry.2).map fun name => { s with serverName := some name }
  | "max_body_size" => (sizeOf entry.2).map fun size => { s with maxBodySize := size }
  | "conditional_requests" => (flagOf entry.2).map fun b => { s with conditionalRequests := b }
  | "logger" => (loggerOf entry.2).map fun level => { s with logLevel := level }
  | key => .error (.unknownField key keys)

/-- The settings that a table makes. -/
def ofTable (table : Toml.Table) : Except Misfit Settings :=
  (sorted table).foldlM setEntry default

end Settings
end HttpMock
