import TestSpec.Session.Basic

/-!
# Parameter redirects

A redirect assigns the parameters of a signature to variables by name, when a call
or a reply is received.  A redirect in order gets a table with one entry per
parameter, in the order of the parameters, so that values can be copied by position.

On the side of a reply only parameters that carry values back may be redirected, on
the side of a call only those that carry values in.  A redirect is checked at most
once per pass, like a declaration.
-/

namespace TestSpec

/-- The assignment of a parameter to its target, a variable. -/
structure ParameterAssignment where
  parameter : String
  target : String
  /-- The declared type of the variable, when it is known. -/
  variableType : Option TypeId := none
  location : Location
  deriving DecidableEq, Repr

/-- The entry for a parameter; without a variable, the parameter is not redirected. -/
structure VariableEntry where
  parameter : String
  target : Option String
  deriving DecidableEq, Repr

/-- A redirect, its check stamp, and the table built when it was last found in order. -/
structure Redirect where
  location : Location
  assignments : List ParameterAssignment
  stamp : CheckStamp := {}
  entries : Option (List VariableEntry) := none
  deriving DecidableEq, Repr

/-- The side that a redirect belongs to. -/
inductive RedirectSide where
  | call
  | reply
  deriving DecidableEq, Repr

/-- The complaint about a parameter that carries no value on a side. -/
def RedirectSide.complaint? (side : RedirectSide) (d : Direction) : Option Message :=
  match side with
  | .reply => if d.isOutgoing then none else some .parameterIsIn
  | .call => if d.isIncoming then none else some .parameterIsOut

/-- The table for a signature: for each parameter the variable of the first assignment to it. -/
def variableTable (parameters : List Parameter) (assignments : List ParameterAssignment) :
    List VariableEntry :=
  parameters.map fun p =>
    { parameter := p.name
      target := (assignments.find? fun a => a.parameter == p.name).map
        ParameterAssignment.target }

namespace Check

/-- Check the assignment of a parameter that no earlier assignment names. -/
def assignment (signature : String) (parameters : List Parameter) (side : RedirectSide)
    (a : ParameterAssignment) : Check Unit := do
  match parameters.find? fun p => p.name == a.parameter with
  | none => report a.location .noSuchParameter [signature, a.parameter]
  | some p =>
    match side.complaint? p.direction with
    | some m => report a.location m [a.parameter, signature]
    | none =>
      match a.variableType, (← get).store.resolveRef? p.type with
      | some variableType, some type =>
        let _ ← reference variableType { location := a.location, type } .value
      | _, _ => return ()

/-- Check assignments from the left; `given` are those that came first for their parameter. -/
def assignments (signature : String) (parameters : List Parameter) (side : RedirectSide)
    (given : List ParameterAssignment) : List ParameterAssignment → Check Unit
  | [] => return ()
  | a :: rest => do
    match given.find? fun b => b.parameter == a.parameter with
    | some first =>
      report a.location .duplicateRedirect [a.parameter]
      report first.location .redirectAlreadyGiven [a.parameter]
      assignments signature parameters side given rest
    | none =>
      assignment signature parameters side a
      assignments signature parameters side (a :: given) rest

/-- Check the assignments of a redirect against a declaration that should be a signature. -/
def redirectParts (signature : String) (d : Declaration) (side : RedirectSide) (r : Redirect) :
    Check Unit :=
  if d.kind ≠ .signature then report r.location .notASignature [signature]
  else if d.parameters.isEmpty then report r.location .signatureWithoutParameters [signature]
  else assignments signature d.parameters side [] r.assignments

/-- Check a redirect against its signature, unless this pass has done so: whether it is in order,
and the redirect with its stamp and table. -/
def redirect (signature : TypeId) (r : Redirect) (side : RedirectSide) :
    Check (Bool × Redirect) := do
  let s ← get
  match r.stamp.claim? s.pass with
  | none => return (!r.stamp.erroneous, r)
  | some stamp =>
    if s.store.isErroneous signature then return (true, { r with stamp, entries := none })
    match s.store.resolveAlias? signature with
    | none => return (true, { r with stamp, entries := none })
    | some last =>
      let d := s.store.get last
      redirectParts (s.store.name signature) d side r
      let ok := (← get).errorCount = s.errorCount
      let entries := if ok then some (variableTable d.parameters r.assignments) else none
      return (ok, { r with stamp := stamp.mark !ok, entries })

end Check

end TestSpec
