import Retrace.Journal.Level
import Retrace.Journal.Template
import Retrace.Json.Printer

/-!
# Sessions of the journal

A session has settings, once they have been made, and a context of fields that every event
carries.  An event that is written carries the context under its own fields, its text, and the
program's own fields, which nothing overrides.  An event below the level of the settings is left
out before anything but the names of its fields is looked at.

Events go through loggers.  A logger that is used once there are settings keeps their format, and
writes in it also when other settings are made later.
-/

namespace Retrace.Journal

/-- Fields of an event or a context. -/
abbrev Fields := List (Text × Json)

/-- Sets fields over others. -/
def overlay (under upper : Fields) : Fields :=
  upper.foldl (fun fields (key, v) => Json.setField key v fields) under

/-- The name of the program in its events. -/
def service : Text := "crashlyfix".toList

/-- The version of the program. -/
def version : Text := "0.1.0".toList

/-- Fields with those of the program. -/
def withProgram (fields : Fields) : Fields :=
  overlay fields [("service".toList, .text service), ("version".toList, .text version)]

/-- An event that is to be written. -/
structure Event where
  level : Level
  /-- The part of the program that the event comes from. -/
  logger : Text
  /-- The text of the event, a template if there are arguments. -/
  text : Text
  arguments : List Json := []
  fields : Fields := []
deriving Repr

/-- A session of the journal. -/
structure Session where
  settings : Option Settings := none
  context : Fields := []
  /-- The formats that loggers keep, by the numbers of the loggers. -/
  kept : List (Nat × Format) := []
deriving Repr

/-- What the writing of an event comes to. -/
inductive Written
  /-- The event is left out. -/
  | nothing
  /-- A text for a console, without the end of its last line. -/
  | plain (t : Text)
  /-- An event as JSON. -/
  | object (fields : Fields)
deriving Repr

/-- Why an event cannot be written. -/
inductive EventFault
  /-- A field has the name of a part of the event. -/
  | fieldName
  /-- The field for a record of another journal holds something else. -/
  | record
  /-- The text cannot be filled, or the number of a field cannot be written. -/
  | template (f : TemplateFault)
  /-- A field that a console shows as it is holds no text. -/
  | notText
deriving DecidableEq, Repr

/-- The text of an event, if it is written. -/
def Written.text? : Written → Option Text
  | .nothing => none
  | .plain t => some t
  | .object fields => some (Json.object fields).print

/-! ## Special fields

Some names of fields ask for something, and are not written.  Nor is a field with the name of the
moment of writing: the moment, which is not looked at here, would take its place. -/

/-- The names that a field of an event may not have. -/
def reservedNames : List Text := ["event".toList, "self".toList, "method_name".toList]

/-- The name of the field for a record of another journal.  It holds null, if anything. -/
def recordField : Text := "_record".toList

/-- The name of the field for arguments of an event that has none of its own. -/
def argumentsField : Text := "positional_args".toList

/-- The name of the field that asks for the calls at hand. -/
def callsRequest : Text := "stack_info".toList

/-- The name of the field that the calls at hand would have. -/
def callsField : Text := "stack".toList

/-- The name of the field that asks for the exception at hand, of which there is none. -/
def exceptionRequest : Text := "exc_info".toList

/-- The name of the field that an exception would have. -/
def exceptionField : Text := "exception".toList

/-- The name of the field for the moment of writing. -/
def momentField : Text := "timestamp".toList

/-- The arguments that a value stands for which is not empty: a text for itself, and anything else
that has items as a whole, but for an object that is the only item of a list. -/
def argumentsOf : Json → Except TemplateFault Arguments
  | .text t => .ok (.ordered [.text t])
  | .list [.object (field :: fields)] => .ok (.whole (.object (field :: fields)) false)
  | .list items => .ok (.whole (.list items) false)
  | .object [_] => .error .missing
  | .object fields => .ok (.whole (.object fields) false)
  | .null | .bool _ | .int _ | .real _ => .error .arguments

/-- The text of an event with its own arguments, else with those that a field gives, if there is
one.  A single argument that is an object gives arguments by name. -/
def filled (e : Event) (given : Option Json) : Except TemplateFault Text :=
  match e.arguments with
  | [] =>
    match given with
    | none => .ok e.text
    | some v =>
      if v.isSomething then (argumentsOf v).bind (fill e.text) else .ok e.text
  | [.object (field :: fields)] => fill e.text (.whole (.object (field :: fields)) false)
  | args => fill e.text (.ordered args)

/-- Whether a field asks for something. -/
def isRequest (e : Event) (key : Text) (v : Json) : Bool :=
  key = callsRequest || key = exceptionRequest
    || (key = argumentsField && !(v.isNull && e.arguments.isEmpty))

/-- Fields without those that ask for something.  The calls at hand and the moment of writing are
left out, and so is what stands in their place. -/
def withoutRequests (e : Event) (fields : Fields) : Fields :=
  let asksCalls := (Json.field? callsRequest fields).any Json.isSomething
  fields.filter fun (key, v) =>
    !isRequest e key v && !(asksCalls && key = callsField) && key ≠ momentField

/-! ## Consoles -/

/-- The characters that make a console quote the text of a field. -/
def quotedMarks : Text := [' ', '\t', '=', '\r', '\n', '"', '\'']

/-- The value of a field as a console shows it. -/
def shownField : Json → Text
  | .text t => if t.any quotedMarks.contains then Text.quoted t else t
  | v => v.inner

/-- A field that a console shows as it is, below everything else. -/
def consoleBlock (key : Text) (fields : Fields) : Except EventFault Text :=
  match Json.field? key fields with
  | none | some .null => .ok []
  | some (.text t) => .ok ('\n' :: t)
  | some _ => .error .notText

/-- What a console shows between calls and an exception. -/
def blockRule : Text := "\n\n".toList ++ List.replicate 79 '=' ++ ['\n']

/-- The fields that a console shows below everything else, with a rule between them if both are
there. -/
def consoleBlocks (calls exception : Text) : Text :=
  if calls.isEmpty || exception.isEmpty then calls ++ exception
  else calls ++ blockRule ++ exception

/-- The names of the fields that a console shows in a place of their own. -/
def placedNames : List Text :=
  ["event".toList, "logger".toList, "level".toList, callsField, exceptionField]

/-- An event for a console: its level, its text, the part of the program, its other fields by their
names, and below them the fields that are shown as they are. -/
def consoleText (e : Event) (text : Text) (fields : Fields) : Except EventFault Text :=
  let others := fields.filter fun (key, _) => !placedNames.contains key
  if (Json.longField? others).isSome then .error (.template (.numeral .tooLongToWrite))
  else do
    let calls ← consoleBlock callsField fields
    let exception ← consoleBlock exceptionField fields
    pure ('[' :: e.level.tag ++ "] ".toList ++ text ++ " [".toList ++ e.logger ++ [']']
      ++ (others.flatMap fun (key, v) => ' ' :: key ++ '=' :: shownField v)
      ++ consoleBlocks calls exception)

namespace Session

/-- Makes settings.  Names that are refused change nothing. -/
def configure (s : Session) (level format : Text) : Except SettingsFault Session :=
  (Settings.ofNames level format).map fun settings => { s with settings := some settings }

/-- Adds fields to the context. -/
def bind (s : Session) (fields : Fields) : Session :=
  { s with context := overlay s.context fields }

/-- Takes all fields from the context. -/
def clear (s : Session) : Session := { s with context := [] }

/-- Whether an event of a level is written. -/
def writes (s : Session) (level : Level) : Bool :=
  match s.settings with
  | none => false
  | some settings => settings.level.severity ≤ level.severity

/-- The fields that an event carries: its own, under which are those of the context, and those of
the program. -/
def carried (s : Session) (e : Event) : Fields :=
  withProgram (overlay s.context e.fields)

/-- The fields of an event as it is written as JSON. -/
def eventFields (e : Event) (text : Text) (fields : Fields) : Fields :=
  overlay fields [
    ("event".toList, .text text), ("logger".toList, .text e.logger),
    ("level".toList, .text e.level.tag)]

/-- An event in a format. -/
def inFormat (f : Format) (e : Event) (text : Text) (fields : Fields) : Except EventFault Written :=
  match f with
  | .console => (consoleText e text fields).map .plain
  | .json =>
    let fields := eventFields e text fields
    if (Json.longField? fields).isSome then .error (.template (.numeral .tooLongToWrite))
    else .ok (.object fields)

/-- Writes an event through a logger that has not been used.  Without settings nothing is written,
but an event that no console could show is still at fault. -/
def emit (s : Session) (e : Event) : Except EventFault Written :=
  if e.fields.any fun (key, _) => reservedNames.contains key then .error .fieldName
  else
    let fields := s.carried e
    match s.settings with
    | none => do
      let text ← (filled e none).mapError .template
      let _ ← consoleText e text (withoutRequests e fields)
      pure .nothing
    | some settings =>
      if !s.writes e.level then .ok .nothing
      else if (Json.field? recordField fields).any (!·.isNull) then .error .record
      else do
        let text ← (filled e (Json.field? argumentsField fields)).mapError .template
        inFormat settings.format e text (withoutRequests e fields)

end Session

/-! ## Loggers -/

namespace Session

/-- The session as a logger finds it: in the format that the logger keeps, if it keeps one. -/
def through (s : Session) (logger : Nat) : Session :=
  { s with settings := s.settings.map fun settings =>
      { settings with format := (s.kept.lookup logger).getD settings.format } }

/-- The session once a logger has been used: the logger keeps the format of the settings, if there
are any, unless it keeps one already. -/
def use (s : Session) (logger : Nat) : Session :=
  match s.settings, s.kept.lookup logger with
  | some settings, none => { s with kept := (logger, settings.format) :: s.kept }
  | _, _ => s

end Session

/-! ## Requests

A session is asked for one thing after another.  Settings that are refused leave it as it is, and an
event that fails does but for its logger, which has been used. -/

/-- What is asked of a session. -/
inductive Request
  | configure (level format : Text)
  | bind (fields : Fields)
  | clear
  /-- An event is to be written through the logger of a number. -/
  | emit (logger : Nat) (e : Event)
deriving Repr

/-- What a session answers to a request. -/
inductive Reply
  /-- Settings were made. -/
  | configured
  /-- Settings were refused. -/
  | refused (f : SettingsFault)
  /-- The context has changed to these fields. -/
  | context (fields : Fields)
  /-- What an event came to. -/
  | event (r : Except EventFault Written)
deriving Repr

namespace Session

/-- The session after a request, and what it answers. -/
def step (s : Session) : Request → Session × Reply
  | .configure level format =>
    match s.configure level format with
    | .ok next => (next, .configured)
    | .error f => (s, .refused f)
  | .bind fields => (s.bind fields, .context (s.bind fields).context)
  | .clear => (s.clear, .context s.clear.context)
  | .emit logger e => (s.use logger, .event ((s.through logger).emit e))

/-- The session after requests, and its answers to them. -/
def run (s : Session) : List Request → Session × List Reply
  | [] => (s, [])
  | r :: rs =>
    let (next, reply) := s.step r
    let (last, replies) := next.run rs
    (last, reply :: replies)

end Session

end Retrace.Journal
