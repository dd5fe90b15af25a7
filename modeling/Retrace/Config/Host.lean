import Retrace.Config.Rules

/-!
# What a configuration is loaded on

Loading a configuration depends on some things that are no part of it: by what encodings bytes can
be read, where the homes of users are, and what the words of a command line say about settings.  A
`Host` stands for them, and everything about configurations holds on any host.

Words may do more than to set something: they may end the program, as those that ask for help do.
-/

namespace Retrace.Config

/-- What a program leaves behind that words have ended. -/
structure Farewell where
  status : Nat
  stdout : Text := []
  complaint : Text := []
deriving DecidableEq, Repr

/-- What comes of the words of a command line. -/
inductive Spoken
  /-- A layer of sections. -/
  | settings (layer : Fields)
  /-- They are refused as a value is. -/
  | refused
  | ended (f : Farewell)
  /-- They cannot be read at all. -/
  | broken
deriving Repr

/-- What a configuration is loaded on. -/
structure Host where
  /-- How bytes are read by the encoding of a name, if there is one. -/
  decoder? : Text → Option (List UInt8 → Option Text)
  /-- The home of a user, or of the program's own if the name is empty. -/
  home? : Text → Option Text
  /-- What comes of the words in the rules of a document, which may ask for those that the program
  itself was started with. -/
  speak : Fields → Spoken

end Retrace.Config
