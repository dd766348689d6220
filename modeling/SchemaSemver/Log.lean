/-
SchemaSemver.Log — what a check tells while it runs.
-/

namespace SchemaSemver

/-- How important a log entry is. -/
inductive LogLevel where
  | debug
  | info
  | warning
  | error
deriving DecidableEq, Repr

namespace LogLevel

/-- The level as it is named in front of an entry. -/
def label : LogLevel → String
  | debug => "DEBUG"
  | info => "INFO"
  | warning => "WARNING"
  | error => "ERROR"

/-- The place of the level in the order of importance. -/
def rank : LogLevel → Nat
  | debug => 0
  | info => 1
  | warning => 2
  | error => 3

/-- All levels, the least important first. -/
def all : List LogLevel := [debug, info, warning, error]

/-- The level of a word, in letters of either case. -/
def ofName? (name : String) : Option LogLevel :=
  all.find? fun level => level.label.toLower == name.toLower

end LogLevel

/-- One line of a log. -/
structure LogEntry where
  level : LogLevel
  text : String
deriving DecidableEq, Repr

/-- The entry as it is printed. -/
def LogEntry.line (entry : LogEntry) : String := entry.level.label ++ ": " ++ entry.text

/-- The entries of at least the given importance. -/
def visibleEntries (threshold : LogLevel) (entries : List LogEntry) : List LogEntry :=
  entries.filter fun entry => threshold.rank ≤ entry.level.rank

end SchemaSemver
