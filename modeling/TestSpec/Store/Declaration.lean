import TestSpec.Kind
import TestSpec.Pass
import TestSpec.Diagnostic.Basic
import TestSpec.Constraint.Basic

/-!
# Type declarations

A declaration gives a type its name, kind and dialect, and the parts that its kind
calls for: fields or alternatives, an element type, enumerators, parameters, or the
type it is an alias of.  Parts refer to other declarations by name or by number, and
may refer to declarations that come later or back to the declaration itself.

The only part of a declaration that ever changes is its check stamp.
-/

namespace TestSpec

/-- The number of a declaration in its store. -/
abbrev TypeId := Nat

/-- A reference from one declaration to another. -/
inductive TypeRef where
  | id (id : TypeId)
  | name (name : String)
  deriving DecidableEq, Repr

/-- A field of a record or set, or an alternative of a union. -/
structure Field where
  name : String
  type : TypeRef
  isOptional : Bool := false
  deriving DecidableEq, Repr

/-- A named constant of an enumerated type. -/
structure Enumerator where
  name : String
  value : Int64
  deriving DecidableEq, Repr

/-- Which way a parameter carries a value. -/
inductive Direction where
  | incoming
  | outgoing
  | both
  deriving DecidableEq, Repr

namespace Direction

/-- The word a direction is written as. -/
def word : Direction → String
  | .incoming => "in"
  | .outgoing => "out"
  | .both => "inout"

/-- All directions, the default first. -/
def all : List Direction := [.incoming, .outgoing, .both]

/-- The direction that a word names. -/
def ofWord? (s : String) : Option Direction := all.find? fun d => d.word == s

/-- A value flows from the caller through the parameter. -/
def isIncoming (d : Direction) : Bool := d != .outgoing

/-- A value flows back to the caller through the parameter. -/
def isOutgoing (d : Direction) : Bool := d != .incoming

end Direction

/-- A parameter of a signature. -/
structure Parameter where
  name : String
  type : TypeRef
  direction : Direction := .incoming
  deriving DecidableEq, Repr

/-- One type declaration. -/
structure Declaration where
  name : String := ""
  kind : Kind := .undefined
  dialect : Dialect := .ttcn3
  /-- The fields or alternatives in the order they are declared. -/
  fields : List Field := []
  /-- The type of the elements of a list type. -/
  element : Option TypeRef := none
  /-- The number of elements of an array type. -/
  dimension : Option Nat := none
  enumerators : List Enumerator := []
  parameters : List Parameter := []
  constraint : Option Constraint := none
  /-- The type that an alias stands for. -/
  target : Option TypeRef := none
  /-- Builtin types are never checked. -/
  isBuiltin : Bool := false
  /-- Where diagnostics of the declaration are attached. -/
  location : Location := .ofFile name
  stamp : CheckStamp := {}
  deriving Repr, Inhabited

namespace Declaration

/-- The field with a name, if there is one; of several, the first. -/
def field? (d : Declaration) (name : String) : Option Field :=
  d.fields.find? fun f => f.name == name

/-- The enumerator with a name. -/
def enumerator? (d : Declaration) (name : String) : Option Enumerator :=
  d.enumerators.find? fun e => e.name == name

/-- The parameter with a name. -/
def parameter? (d : Declaration) (name : String) : Option Parameter :=
  d.parameters.find? fun p => p.name == name

/-- The declaration is an alias of another type. -/
def isAlias (d : Declaration) : Bool := d.kind == .referenced

/-- The last check of the declaration found an error. -/
def isErroneous (d : Declaration) : Bool := d.stamp.erroneous

end Declaration

end TestSpec
