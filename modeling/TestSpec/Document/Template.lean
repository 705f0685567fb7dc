import TestSpec.Document.Declarations
import TestSpec.Document.Schema
import TestSpec.Document.Value
import TestSpec.Template.Range

/-!
# Templates in documents

A template is read against its type too.  The strings `?`, `*` and `omit` are the
wildcards, an array lists elements, and an object that is no form is a template for
fields, in which each member is a template.  Any other JSON is a specific value.

A form is an object with one member for the matching mechanism and maybe members for
modifiers.  An object for a type without fields is always a form, one for a type
with fields is a form if any member carries the name of a mechanism or modifier.
-/

namespace TestSpec.Document

/-- The names of the modifiers. -/
def modifierNames : List String := ["ifpresent", "length", "nocase"]

/-- The names of the matching mechanisms. -/
def mechanismNames : List String :=
  ["value", "list", "complement", "range", "pattern", "decmatch", "fields", "elements", "any",
   "anyOrOmit", "omit"]

/-- The name of a modifier. -/
def isModifier (name : String) : Bool := modifierNames.contains name

/-- A name that makes an object a form. -/
def isFormName (name : String) : Bool := mechanismNames.contains name || isModifier name

/-- Values of the kind have named parts. -/
def hasNamedParts (kind : Kind) : Bool :=
  kind.isRecordLike || kind.isSetLike || kind.isUnionLike

/-- The truth value of a modifier; one that is given as something else is off. -/
def isSwitchedOn (j : Json) : Bool := j.boolean?.getD false

/-- The restriction of lengths that a modifier gives: a number, or a range. -/
def readLength (j : Json) : Except Failure LengthRestriction :=
  match j.nat? with
  | some n => .ok (.single n)
  | none =>
    locate .lengthRestriction <|
      match lengthSchema .value (.ofJson j) with
      | .ok r => .ok (.range r.least r.greatest)
      | .error refusal => .error (.refused refusal)

/-- A template with the modifiers among the members of a form. -/
def withModifiers (members : List (String × Json)) (t : Template) : Except Failure Template := do
  let t := (Json.member? "ifpresent" members).elim t fun j => t.withIfPresent (isSwitchedOn j)
  match Json.member? "length" members with
  | none => return t
  | some j => return t.withLength (some (← readLength j))

/-- An end of a range of values, if there is one. -/
def readBound (s : Store) (type : TypeId) (isExclusive : Bool) :
    Option Json → Except Failure (Option Bound)
  | none => .ok none
  | some j => (fun v => some ⟨v, isExclusive⟩) <$> readValue s type j

/-- A range of values. -/
def readRange (s : Store) (type : TypeId) (j : Json) : Except Failure Template := do
  let r ← locate .valueRange ((rangeSchema .value (.ofJson j)).mapError .refused)
  let lower ← readBound s type r.minExclusive r.min
  let upper ← readBound s type r.maxExclusive r.max
  (Template.range lower upper).mapError .contradictory

/-- A pattern. -/
def readPattern (ignoresCase : Bool) (j : Json) : Except Failure Template :=
  match j.string? with
  | none => .error .patternForm
  | some text =>
    match Pattern.compile? text ignoresCase with
    | .ok p => .ok (.ofSelector (.pattern p))
    | .error fault => .error (.badPattern text fault)

/-- The type that a content is decoded to, by its name in a form. -/
def readTarget (s : Store) (members : List (String × Json)) :
    Except Failure (DecodeTarget × TypeId) :=
  match (Json.member? "type" members).bind Json.string? with
  | none => .error .decodedType
  | some name => do
    let type ← typeOfName s name
    return (⟨name, (s.resolvedKind type).1⟩, type)

/-- A template for a union names exactly one alternative. -/
def checkAlternatives (kind : Kind) (type : String) (members : List (String × Json)) :
    Except Failure Unit :=
  if kind.isUnionLike && members.length != 1 then .error (.templateAlternatives type) else .ok ()

/-- The failure for a part that a type of some kind does not have. -/
def noPart (kind : Kind) (type name : String) : Failure :=
  if kind.isUnionLike then .noAlternative type name else .noField type name

/-- The template for the named parts of a type of some kind. -/
def ofParts (kind : Kind) (parts : List FieldTemplate) : Template :=
  match kind.isUnionLike, parts with
  | true, [.mk alternative t] => .ofSelector (.union kind alternative t)
  | _, parts => .ofSelector (.record kind parts)

mutual

/-- The template that JSON stands for as a template of a type. -/
def readTemplate (s : Store) (type : TypeId) (j : Json) : Except Failure Template := do
  let last ← (s.resolveAlias type).mapError .unresolved
  let kind := (s.get last).kind
  let name := s.name type
  match j with
  | .string "?" => return .ofSelector .any
  | .string "*" => return .ofSelector .anyOrOmit
  | .string "omit" => return .ofSelector .omit
  | .array items =>
    match s.elementType last with
    | none => .error (.noList name)
    | some t => return .ofSelector (.elements kind (← readTemplates s t items))
  | .object members =>
    if !hasNamedParts kind || members.any fun m => isFormName m.1 then
      let ignoresCase := (Json.member? "nocase" members).any isSwitchedOn
      withModifiers members (← readMechanism s type last kind ignoresCase members)
    else
      checkAlternatives kind name members
      return ofParts kind (← readParts s last kind name members)
  | j => .specific <$> readValue s type j

/-- The template of the one matching mechanism among the members of a form. -/
def readMechanism (s : Store) (type last : TypeId) (kind : Kind) (ignoresCase : Bool) :
    List (String × Json) → Except Failure Template
  | [] => .error (.noMechanism (s.name type))
  | (mechanism, body) :: rest =>
    if isModifier mechanism then readMechanism s type last kind ignoresCase rest
    else if rest.any fun m => !isModifier m.1 then .error (.manyMechanisms (s.name type))
    else match mechanism with
      | "value" => .specific <$> readValue s type body
      | "any" => .ok (.ofSelector .any)
      | "anyOrOmit" => .ok (.ofSelector .anyOrOmit)
      | "omit" => .ok (.ofSelector .omit)
      | "list" =>
        match body with
        | .array items => do return .ofSelector (.valueList (← readTemplates s type items))
        | _ => .error .listForm
      | "complement" =>
        match body with
        | .array items => do return .ofSelector (.complement (← readTemplates s type items))
        | _ => .error .listForm
      | "range" => readRange s type body
      | "pattern" => readPattern ignoresCase body
      | "decmatch" =>
        match body with
        | .object members => do
          let (target, targetType) ← readTarget s members
          match ← readInner s targetType members with
          | none => .error .decodedTemplate
          | some t => return .ofSelector (.decoded target t)
        | _ => .error .decodedType
      | "fields" =>
        match body with
        | .object members => do
          checkAlternatives kind (s.name type) members
          return ofParts kind (← readParts s last kind (s.name type) members)
        | _ => .error (.unexpected .object (s.name type))
      | "elements" =>
        match body with
        | .array items =>
          match s.elementType last with
          | none => .error (.noList (s.name type))
          | some t => do return .ofSelector (.elements kind (← readTemplates s t items))
        | _ => .error .elementsForm
      | name => .error (.unknownMechanism name)

/-- Templates of one type. -/
def readTemplates (s : Store) (type : TypeId) : List Json → Except Failure (List Template)
  | [] => .ok []
  | j :: rest => do
    let t ← readTemplate s type j
    return t :: (← readTemplates s type rest)

/-- The templates of named parts. -/
def readParts (s : Store) (last : TypeId) (kind : Kind) (type : String) :
    List (String × Json) → Except Failure (List FieldTemplate)
  | [] => .ok []
  | (name, j) :: rest =>
    match s.fieldType last name with
    | none => .error (noPart kind type name)
    | some t => do
      let part ← readTemplate s t j
      return .mk name part :: (← readParts s last kind type rest)

/-- The template for a decoded content among the members of a form. -/
def readInner (s : Store) (type : TypeId) :
    List (String × Json) → Except Failure (Option Template)
  | [] => .ok none
  | (name, j) :: rest =>
    if name = "template" then some <$> readTemplate s type j else readInner s type rest

end

end TestSpec.Document
