import TestSpec.Decimal.Notation
import TestSpec.Word

/-!
# JSON values and their texts

The values of JSON with the order of object members kept.  A number is whole or
binary: one that is written without point and exponent and fits 64 bits stays
whole, any other is the nearest number of the binary format.

Two texts are written.  `Json.compact` has no white space and is quoted in
messages; `Json.pretty` puts every item and member on a line of its own, indented
by two spaces per level.
-/

namespace TestSpec

/-- A JSON value. -/
inductive Json where
  | null
  | boolean (b : Bool)
  | integer (i : Int)
  | real (x : Binary64)
  | string (s : String)
  | array (items : List Json)
  | object (members : List (String × Json))
  deriving Repr, Inhabited

namespace Json

/-- A whole number fits 64 bits with a sign. -/
def fitsInt64 (i : Int) : Bool := int64Min ≤ i && i ≤ int64Max

/-- The truth value that a value is. -/
def boolean? : Json → Option Bool
  | .boolean b => some b
  | _ => none

/-- The text that a value is. -/
def string? : Json → Option String
  | .string s => some s
  | _ => none

/-- The signed 64-bit number that a value is. -/
def int64? : Json → Option Int64
  | .integer i => if fitsInt64 i then some (Int64.ofInt i) else none
  | _ => none

/-- The whole number, not negative, that a value is. -/
def nat? : Json → Option Nat
  | .integer i => if 0 ≤ i then some i.toNat else none
  | _ => none

/-- The number that a value is, rounded to the binary format. -/
def binary64? : Json → Option Binary64
  | .integer i => some (Binary64.ofInt i)
  | .real x => some x
  | _ => none

/-- The items of a value that is an array. -/
def array? : Json → Option (List Json)
  | .array items => some items
  | _ => none

/-- The members of a value that is an object. -/
def object? : Json → Option (List (String × Json))
  | .object members => some members
  | _ => none

/-- The value of the first member with a name. -/
def member? (name : String) (members : List (String × Json)) : Option Json :=
  (members.find? fun m => m.1 == name).map Prod.snd

/-- The value of a member of a value that is an object. -/
def get? (j : Json) (name : String) : Option Json := j.object?.bind (member? name)

/-- A member put into an object: a name that is there keeps its place and takes the new value. -/
def putMember (name : String) (value : Json) : List (String × Json) → List (String × Json)
  | [] => [(name, value)]
  | m :: rest => if m.1 == name then (name, value) :: rest else m :: putMember name value rest

/-- Members in the order given, each name once, at its first place and with its last value. -/
def collectMembers (members : List (String × Json)) : List (String × Json) :=
  members.foldl (fun acc m => putMember m.1 m.2 acc) []

/-- The characters a character of a text is written as. -/
def escapeChar (c : Char) : List Char :=
  if c = '"' then ['\\', '"']
  else if c = '\\' then ['\\', '\\']
  else if c = '\x08' then ['\\', 'b']
  else if c = '\x0c' then ['\\', 'f']
  else if c = '\n' then ['\\', 'n']
  else if c = '\r' then ['\\', 'r']
  else if c = '\t' then ['\\', 't']
  else if c.toNat < 0x20 then
    ['\\', 'u', '0', '0', Nat.digitChar (c.toNat / 16), Nat.digitChar (c.toNat % 16)]
  else [c]

/-- A text between quotes, with quotes, backslashes and control characters escaped. -/
def quote (s : String) : String :=
  String.ofList ('"' :: s.toList.flatMap escapeChar ++ ['"'])

mutual

/-- The text of a value without white space. -/
def compact : Json → String
  | .null => "null"
  | .boolean b => if b then "true" else "false"
  | .integer i => toString i
  | .real x => Decimal.Layout.json.render x
  | .string s => quote s
  | .array items => "[" ++ ",".intercalate (compactItems items) ++ "]"
  | .object members => "\x7b" ++ ",".intercalate (compactMembers members) ++ "\x7d"

/-- The texts of the items of an array. -/
def compactItems : List Json → List String
  | [] => []
  | j :: rest => compact j :: compactItems rest

/-- The texts of the members of an object. -/
def compactMembers : List (String × Json) → List String
  | [] => []
  | (name, j) :: rest => (quote name ++ ":" ++ compact j) :: compactMembers rest

end

/-- The start of a line at a level of indentation. -/
def lineStart (level : Nat) : String := "\n" ++ String.ofList (List.replicate (2 * level) ' ')

/-- Lines between brackets; nothing but the brackets when there are no lines. -/
def bracketed (opening closing : String) (level : Nat) (lines : List String) : String :=
  if lines.isEmpty then opening ++ closing
  else
    opening ++ lineStart (level + 1) ++ ("," ++ lineStart (level + 1)).intercalate lines ++
      lineStart level ++ closing

mutual

/-- The text of a value at a level of indentation. -/
def prettyAt (level : Nat) : Json → String
  | .array items => bracketed "[" "]" level (prettyItems (level + 1) items)
  | .object members => bracketed "\x7b" "\x7d" level (prettyMembers (level + 1) members)
  | j => compact j

/-- The texts of the items of an array. -/
def prettyItems (level : Nat) : List Json → List String
  | [] => []
  | j :: rest => prettyAt level j :: prettyItems level rest

/-- The texts of the members of an object. -/
def prettyMembers (level : Nat) : List (String × Json) → List String
  | [] => []
  | (name, j) :: rest => (quote name ++ ": " ++ prettyAt level j) :: prettyMembers level rest

end

/-- The text of a value over several lines. -/
def pretty (j : Json) : String := prettyAt 0 j

end Json

end TestSpec
