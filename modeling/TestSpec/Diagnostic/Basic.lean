import TestSpec.Diagnostic.Message

/-!
# Diagnostics

A diagnostic is a message at a location, with remarks that point at other
locations.  Usually it is built from the table of messages; it may also be built
by hand with any category, text and number.
-/

namespace TestSpec

/-- Where a diagnostic is attached: a file, or a unit such as a type, and a stretch of it. -/
structure Location where
  file : String := ""
  start : Nat := 0
  length : Nat := 0
  deriving DecidableEq, Repr, Inhabited

namespace Location

/-- A location that names a file or unit as a whole. -/
def ofFile (file : String) : Location := { file }

/-- The file alone where it is meant as a whole, the file and the start otherwise. -/
def render (l : Location) : String :=
  if l.length = 0 ∧ l.start = 0 then l.file else l.file ++ ":" ++ toString l.start

end Location

/-- A remark that belongs to a diagnostic. -/
structure Remark where
  location : Location
  text : String
  category : Category := .message
  code : Nat := 0
  deriving DecidableEq, Repr

/-- One complaint. -/
structure Diagnostic where
  location : Location
  text : String
  category : Category
  code : Nat
  related : List Remark := []
  deriving DecidableEq, Repr

namespace Diagnostic

/-- The diagnostic for a message of the table, in the category of the table. -/
def ofMessage (location : Location) (m : Message) (args : List String) : Diagnostic :=
  { location, text := m.text args, category := m.category, code := m.code }

/-- The diagnostic for a number.  One that the table lacks is an error whose text is the first
argument. -/
def ofCode (location : Location) (code : Nat) (args : List String) : Diagnostic :=
  match Message.ofCode? code with
  | some m => ofMessage location m args
  | none => { location, text := Text.fill "\x7b0\x7d" args, category := .error, code }

/-- The diagnostic with one more remark. -/
def withRemark (d : Diagnostic) (location : Location) (text : String) : Diagnostic :=
  { d with related := d.related ++ [{ location, text }] }

/-- The diagnostic counts as an error. -/
def isError (d : Diagnostic) : Bool := d.category == .error

/-- One line: the location, the category, the number and the text. -/
def render (d : Diagnostic) : String :=
  d.location.render ++ ": " ++ d.category.word ++ " TT" ++ toString d.code ++ ": " ++ d.text

end Diagnostic

end TestSpec
