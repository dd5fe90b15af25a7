import Retrace.Text.Case
import Retrace.Text.Quoted

/-!
# Levels and formats of the journal

An event has a level, and the journal writes it if its level is at least the one that is set.  The
journal is written as JSON or in columns for a console.
-/

namespace Retrace.Journal

/-- How much an event matters. -/
inductive Level
  | debug
  | info
  | warning
  | error
  | critical
deriving DecidableEq, Repr

/-- How events are written. -/
inductive Format
  | json
  | console
deriving DecidableEq, Repr

namespace Level

/-- The levels from the least on. -/
def all : List Level := [debug, info, warning, error, critical]

/-- The number by which levels are compared. -/
def severity : Level → Nat
  | debug => 10
  | info => 20
  | warning => 30
  | error => 40
  | critical => 50

/-- The name of a level in capital letters, by which it is set. -/
def name : Level → Text
  | debug => "DEBUG".toList
  | info => "INFO".toList
  | warning => "WARNING".toList
  | error => "ERROR".toList
  | critical => "CRITICAL".toList

/-- The name of a level in an event. -/
def tag (l : Level) : Text := l.name.map Char.toLower

/-- The level of a name in capital letters. -/
def ofName? (t : Text) : Option Level := all.find? (·.name = t)

/-- The level of a name in an event. -/
def ofTag? (t : Text) : Option Level := all.find? (·.tag = t)

end Level

namespace Format

/-- All formats. -/
def all : List Format := [json, console]

/-- The name of a format. -/
def name : Format → Text
  | json => "json".toList
  | console => "console".toList

/-- The format of a name. -/
def ofName? (t : Text) : Option Format := all.find? (·.name = t)

end Format

/-- What is written of the events. -/
structure Settings where
  level : Level := .warning
  format : Format := .console
deriving DecidableEq, Repr

/-- Why settings are refused. -/
inductive SettingsFault
  /-- A name, in capital letters, that no level has. -/
  | level (name : Text)
  /-- A name, in small letters, that no format has. -/
  | format (name : Text)
deriving DecidableEq, Repr

/-- The wording of a fault. -/
def SettingsFault.message : SettingsFault → Text
  | .level name => Text.quoted name ++ " is not a valid LogLevel".toList
  | .format name => Text.quoted name ++ " is not a valid LogFormat".toList

/-- The settings of names in any case, the level being looked at first. -/
def Settings.ofNames (level format : Text) : Except SettingsFault Settings :=
  match Level.ofName? (Text.upper level), Format.ofName? (Text.lower format) with
  | none, _ => .error (.level (Text.upper level))
  | _, none => .error (.format (Text.lower format))
  | some level, some format => .ok { level, format }

end Retrace.Journal
