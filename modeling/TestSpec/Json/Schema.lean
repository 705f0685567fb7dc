import TestSpec.Json.Refusal

/-!
# Reading the parts of a document

A `Schema` reads one part of a document.  It takes parts in the order in which they
stand in the text, so that the refusal it gives is the first one in reading order.
Members that nobody asks for are passed over.

A structure is read from an object by the names of its fields, or from an array by
their order.  Fields may be left out if they need not be given; a structure is
refused at its end if a required field was left out.

Three places are read from: the text itself, a part that was read to its end before
it was looked at, and a value inside a document.  They differ in what is said of
an array that is too long and of a word that is no string.
-/

namespace TestSpec.Json

/-- Where a part is read from. -/
inductive Place where
  | text
  /-- A part whose text has been read to its end. -/
  | buffer
  /-- A value inside a document. -/
  | value
  deriving DecidableEq, Repr

/-- A way to read a part of a document. -/
abbrev Schema (α : Type) := Place → Source → Except Refusal α

namespace Schema

/-- Refuse something for what it is. -/
def mistyped {α : Type} (expected : String) (s : Source) : Except Refusal α :=
  .error (s.found?.elim .malformed (.wrongType · expected))

/-- Any value. -/
def any : Schema Json := fun _ s =>
  match s.json? with
  | some j => .ok j
  | none => .error .malformed

/-- A string. -/
def string : Schema String := fun _ s =>
  match s with
  | .string t => .ok t
  | s => mistyped "a string" s

/-- A truth value. -/
def boolean : Schema Bool := fun _ s =>
  match s with
  | .boolean b => .ok b
  | s => mistyped "a boolean" s

/-- A number from zero on. -/
def count : Schema Nat := fun _ s =>
  match s with
  | .integer i => if 0 ≤ i then .ok i.toNat else .error (.wrongValue (.integer i) "usize")
  | s => mistyped "usize" s

/-- A whole number of 64 bits with a sign. -/
def whole : Schema Int64 := fun _ s =>
  match s with
  | .integer i =>
    if fitsInt64 i then .ok (Int64.ofInt i) else .error (.wrongValue (.integer i) "i64")
  | s => mistyped "i64" s

/-- Something or null. -/
def optional {α : Type} (schema : Schema α) : Schema (Option α) := fun place s =>
  match s with
  | .null => .ok none
  | s => some <$> schema place s

/-- The end of an array. -/
def close (isClosed : Bool) : Except Refusal Unit :=
  if isClosed then .ok () else .error .malformed

/-- An array of parts of one kind. -/
def list {α : Type} (schema : Schema α) : Schema (List α) := fun place s =>
  match s with
  | .array items isClosed => do
    let parts ← items.mapM (schema place)
    close isClosed
    return parts
  | s => mistyped "a sequence" s

/-! ### Variants -/

/-- What the name of a variant stands for. -/
def named {α : Type} (variants : List (String × α)) (name : String) : Except Refusal α :=
  match variants.lookup name with
  | some a => .ok a
  | none => .error (.unknownVariant name (variants.map Prod.fst))

/-- The name of a variant where one must be. -/
def variantName {α : Type} (variants : List (String × α)) : Source → Except Refusal α
  | .string name => named variants name
  | s => mistyped "variant identifier" s

/-- Nothing further for a variant that holds nothing.  In a buffer an empty object is nothing. -/
def nothing (place : Place) : Source → Except Refusal Unit
  | .null => .ok ()
  | .object [] true =>
    if place = .text then .error (.wrongType .map "unit") else .ok ()
  | s => mistyped "unit" s

/-- A variant from an object with a member for it, whose value `read` takes. -/
def variantObject {α β : Type} (variants : List (String × α))
    (read : α → Source → Except Refusal β) (place : Place)
    (members : List (Option String × Source)) (isClosed : Bool) : Except Refusal β :=
  match members with
  | [] => .error (if place = .text then .malformed else .wrongValue .map "map with a single key")
  | (none, _) :: _ => .error .malformed
  | (some name, s) :: rest =>
    if place ≠ .text ∧ rest ≠ [] then .error (.wrongValue .map "map with a single key")
    else do
      let variant ← named variants name
      let part ← read variant s
      close (rest.isEmpty && isClosed)
      return part

/-- Something that is neither a name nor an object where a variant must be. -/
def noVariant {α : Type} (place : Place) (s : Source) : Except Refusal α :=
  if place = .text then .error .malformed else mistyped "string or map" s

/-- A variant that holds nothing: its name, or an object with the name and null. -/
def word {α : Type} (variants : List (String × α)) : Schema α := fun place s =>
  match s with
  | .string name => named variants name
  | .object members isClosed =>
    variantObject variants (fun a s => (fun _ => a) <$> nothing place s) place members isClosed
  | s => noVariant place s

/-- A variant that holds a part: an object with its name and the part. -/
def variant {α : Type} (variants : List (String × Schema α)) : Schema α := fun place s =>
  match s with
  | .string name => do
    let _ ← named variants name
    .error (.wrongType .bareVariant "newtype variant")
  | .object members isClosed =>
    variantObject variants (fun schema s => schema place s) place members isClosed
  | s => noVariant place s

end Schema

/-! ### Structures -/

/-- A field of a structure `σ`: how it is put in when it is given. -/
structure Member (σ : Type) where
  name : String
  isRequired : Bool
  put : Place → Source → σ → Except Refusal σ

/-- A field that must be given. -/
def Member.required {σ α : Type} (name : String) (schema : Schema α) (set : α → σ → σ) : Member σ :=
  { name, isRequired := true, put := fun place s x => (set · x) <$> schema place s }

/-- A field that may be left out. -/
def Member.free {σ α : Type} (name : String) (schema : Schema α) (set : α → σ → σ) : Member σ :=
  { name, isRequired := false, put := fun place s x => (set · x) <$> schema place s }

/-- A structure: what messages call it, and its fields in order. -/
structure Structure (σ : Type) where
  title : String
  members : List (Member σ)

namespace Structure

variable {σ : Type}

/-- The length that messages say an array for a structure should have. -/
def lengthText (r : Structure σ) : String :=
  let count := r.members.length
  r.title ++ " with " ++ toString count ++ (if count = 1 then " element" else " elements")

/-- What is said of an array of which only `count` items are used. -/
def tooLong (place : Place) (count length : Nat) : Refusal :=
  match place with
  | .text => .malformed
  | .buffer =>
    .wrongLength length (toString count ++ (if count = 1 then " element" else " elements") ++
      " in sequence")
  | .value => .wrongLength length "fewer elements in array"

/-- Put in the members of an object: the structure, and the names that were given. -/
def readMembers (r : Structure σ) (place : Place) (given : List String) (x : σ) :
    List (Option String × Source) → Except Refusal (σ × List String)
  | [] => .ok (x, given)
  | (none, _) :: _ => .error .malformed
  | (some name, s) :: rest =>
    match r.members.find? fun m => m.name == name with
    | none => if s.isWhole then r.readMembers place given x rest else .error .malformed
    | some m =>
      if given.contains name then .error (.duplicateField name)
      else do
        let x ← m.put place s x
        r.readMembers place (name :: given) x rest

/-- Put in the items of an array, `position` being the number of those put in before. -/
def readItems (r : Structure σ) (place : Place) (position : Nat) (isClosed : Bool) (x : σ) :
    List (Member σ) → List Source → Except Refusal σ
  | [], [] => if isClosed then .ok x else .error .malformed
  | [], rest => .error (tooLong place position (position + rest.length))
  | m :: members, [] =>
    if !isClosed then .error .malformed
    else if m.isRequired then .error (.wrongLength position r.lengthText)
    else r.readItems place (position + 1) isClosed x members []
  | m :: members, s :: rest => do
    let x ← m.put place s x
    r.readItems place (position + 1) isClosed x members rest

/-- A structure from an object or an array; `blank` holds what fields have that are left out. -/
def schema (r : Structure σ) (blank : σ) : Schema σ := fun place s =>
  match s with
  | .object members isClosed => do
    let (x, given) ← r.readMembers place [] blank members
    Schema.close isClosed
    match r.members.find? fun m => m.isRequired && !given.contains m.name with
    | some m => .error (.missingField m.name)
    | none => return x
  | .array items isClosed => r.readItems place 0 isClosed blank r.members items
  | s => Schema.mistyped r.title s

end Structure

end TestSpec.Json
