import TestSpec.Store.Basic

/-!
# Following references and aliases

A reference is resolved when its declaration is there.  An alias is followed from
declaration to declaration until one is no alias; that fails when a reference cannot
be resolved, and when the chain comes back to a declaration it has passed or grows
beyond `maxAliasHops`.

Two questions are answered along the chain without following it to its end: the
constraint in force for a type, which is the first one met, and whether anything on
the chain is erroneous.
-/

namespace TestSpec

/-- The most aliases that are followed. -/
def maxAliasHops : Nat := 64

/-- Why a reference leads to no declaration. -/
inductive ResolveError where
  /-- No declaration carries the name. -/
  | unresolved (name : String)
  /-- The names of an alias chain that leads back to itself. -/
  | circular (chain : List String)
  deriving DecidableEq, Repr

/-- The names of a chain. -/
def chainText (chain : List String) : String := " -> ".intercalate chain

/-- The text of a failure to resolve. -/
def ResolveError.message : ResolveError → String
  | .unresolved name => "unresolved type reference `" ++ name ++ "'"
  | .circular chain => "circular type reference chain: " ++ chainText chain

namespace Store

/-- The declaration that a reference means. -/
def resolveRef (s : Store) : TypeRef → Except ResolveError TypeId
  | .id id =>
    if id < s.size then .ok id else .error (.unresolved ("TypeId(" ++ toString id ++ ")"))
  | .name name =>
    match s.lookup name with
    | some id => .ok id
    | none => .error (.unresolved name)

/-- The declaration that a reference means, if it means one. -/
def resolveRef? (s : Store) (r : TypeRef) : Option TypeId :=
  match s.resolveRef r with
  | .ok id => some id
  | .error _ => none

/-- Follow aliases from `id`, `passed` being the aliases passed already. -/
def followAlias (s : Store) : (hops : Nat) → (passed : List TypeId) → TypeId →
    Except ResolveError TypeId
  | hops, passed, id =>
    let d := s.get id
    if !d.isAlias then .ok id
    else match hops with
      | 0 => .error (.circular ((passed ++ [id]).map s.name))
      | hops + 1 =>
        if passed.contains id then .error (.circular ((passed ++ [id]).map s.name))
        else match d.target with
          | none => .error (.unresolved d.name)
          | some target =>
            match s.resolveRef target with
            | .error e => .error e
            | .ok next => s.followAlias hops (passed ++ [id]) next

/-- The declaration at the end of an alias chain. -/
def resolveAlias (s : Store) (id : TypeId) : Except ResolveError TypeId :=
  s.followAlias maxAliasHops [] id

/-- The declaration at the end of an alias chain, if the chain has one. -/
def resolveAlias? (s : Store) (id : TypeId) : Option TypeId :=
  match s.resolveAlias id with
  | .ok last => some last
  | .error _ => none

/-- The next declaration on the alias chain from `id`, if there is one. -/
def nextAlias? (s : Store) (id : TypeId) : Option TypeId :=
  let d := s.get id
  if d.isAlias then d.target.bind s.resolveRef? else none

/-- The first constraint on the alias chain from `id` within a number of declarations. -/
def constraintWithin (s : Store) : (count : Nat) → TypeId → Option Constraint
  | 0, _ => none
  | count + 1, id =>
    match (s.get id).constraint with
    | some c => some c
    | none => (s.nextAlias? id).bind (s.constraintWithin count)

/-- The constraint in force for a type: its own, or the nearest one on its alias chain. -/
def effectiveConstraint (s : Store) (id : TypeId) : Option Constraint :=
  s.constraintWithin maxAliasHops id

/-- Whether anything on the alias chain from `id` within a number of declarations is erroneous. -/
def erroneousWithin (s : Store) : (count : Nat) → TypeId → Bool
  | 0, _ => false
  | count + 1, id =>
    (s.get id).isErroneous || (s.nextAlias? id).any (s.erroneousWithin count)

/-- Whether a type, or anything on its alias chain, is erroneous. -/
def isErroneous (s : Store) (id : TypeId) : Bool := s.erroneousWithin maxAliasHops id

/-- Kind and dialect at the end of an alias chain; undefined if the chain is broken. -/
def resolvedKind (s : Store) (id : TypeId) : Kind × Dialect :=
  match s.resolveAlias? id with
  | some last => ((s.get last).kind, (s.get last).dialect)
  | none => (.undefined, .ttcn3)

/-- The type of the elements of a list type. -/
def elementType (s : Store) (id : TypeId) : Option TypeId := do
  let last ← s.resolveAlias? id
  s.resolveRef? (← (s.get last).element)

/-- The type of a field or alternative. -/
def fieldType (s : Store) (id : TypeId) (name : String) : Option TypeId := do
  let last ← s.resolveAlias? id
  s.resolveRef? (← (s.get last).field? name).type

/-- Checks against a type stay silent if it is erroneous or its alias chain is broken. -/
def isSilenced (s : Store) (id : TypeId) : Bool :=
  s.isErroneous id || (s.resolveAlias? id).isNone

end Store

end TestSpec
