import TestSpec.Json.Number
import TestSpec.Text.Hex

/-!
# JSON as it stands in a text

A document is read part by part, and the first fault in reading order is the one
reported, whether the text is no JSON at some place or holds something else than
the document needs there.  So a text is first read into a `Source`: the tree of its
values as far as the text goes, with members in the order written and names repeated
as written.

Three things keep a value from being read although its text is sound: a number
beyond the binary format, half of a surrogate pair, and containers nested deeper
than `maxContainers`.  Such a value is `refused` when it is read, but may be passed
over where nobody reads it.
-/

namespace TestSpec.Json

/-- The number of containers that may be nested. -/
def maxContainers : Nat := 127

/-- What a text was found to hold at a place. -/
inductive Found where
  | null
  | boolean (b : Bool)
  | integer (i : Int)
  | real (x : Binary64)
  | string (s : String)
  | sequence
  | map
  /-- A variant by its name alone. -/
  | bareVariant
  deriving DecidableEq, Repr

/-- The tree of values in a text. -/
inductive Source where
  | null
  | boolean (b : Bool)
  | integer (i : Int)
  | real (x : Binary64)
  | string (s : String)
  | array (items : List Source) (isClosed : Bool)
  /-- A member whose name holds half of a surrogate pair has no name. -/
  | object (members : List (Option String × Source)) (isClosed : Bool)
  /-- A value that cannot be read; its text is whole or breaks off. -/
  | refused (isWhole : Bool)
  deriving Repr, Inhabited

namespace Source

/-- The text of a value is whole, so that it can be passed over. -/
def isWhole : Source → Bool
  | .array _ isClosed => isClosed
  | .object _ isClosed => isClosed
  | .refused whole => whole
  | _ => true

/-- What a reader finds who needs something else. -/
def found? : Source → Option Found
  | .null => some .null
  | .boolean b => some (.boolean b)
  | .integer i => some (.integer i)
  | .real x => some (.real x)
  | .string s => some (.string s)
  | .array _ _ => some .sequence
  | .object _ _ => some .map
  | .refused _ => none

mutual

/-- The value that a tree stands for, if all of it can be read. -/
def json? : Source → Option Json
  | .null => some .null
  | .boolean b => some (.boolean b)
  | .integer i => some (.integer i)
  | .real x => some (.real x)
  | .string s => some (.string s)
  | .array items isClosed => do
    let values ← itemValues? items
    guard isClosed
    return .array values
  | .object members isClosed => do
    let values ← memberValues? members
    guard isClosed
    return .object (collectMembers values)
  | .refused _ => none

/-- The values of the items of an array. -/
def itemValues? : List Source → Option (List Json)
  | [] => some []
  | s :: rest => do return (← json? s) :: (← itemValues? rest)

/-- The members of an object with their values. -/
def memberValues? : List (Option String × Source) → Option (List (String × Json))
  | [] => some []
  | (name, s) :: rest => do return (← name, ← json? s) :: (← memberValues? rest)

end

mutual

/-- The tree of a value. -/
def ofJson : Json → Source
  | .null => .null
  | .boolean b => .boolean b
  | .integer i => .integer i
  | .real x => .real x
  | .string s => .string s
  | .array items => .array (ofItems items) true
  | .object members => .object (ofMembers members) true

/-- The trees of the items of an array. -/
def ofItems : List Json → List Source
  | [] => []
  | j :: rest => ofJson j :: ofItems rest

/-- The trees of the members of an object. -/
def ofMembers : List (String × Json) → List (Option String × Source)
  | [] => []
  | (name, j) :: rest => (some name, ofJson j) :: ofMembers rest

end

/-! ### Strings -/

/-- The character that a letter after a backslash stands for. -/
def escaped? : Char → Option Char
  | '"' => some '"'
  | '\\' => some '\\'
  | '/' => some '/'
  | 'b' => some '\x08'
  | 'f' => some '\x0c'
  | 'n' => some '\n'
  | 'r' => some '\r'
  | 't' => some '\t'
  | _ => none

/-- The number that four hexadecimal digits stand for. -/
def hexUnit? (digits : List Char) : Option Nat :=
  (digits.mapM Text.hexDigit?).map fun ds => ds.foldl (fun n d => 16 * n + d.val) 0

/-- Code points read up to the closing quote, and the text behind it.  Only escapes give halves
of surrogate pairs. -/
def readUnits : List Char → Option (List Nat × List Char)
  | '"' :: rest => some ([], rest)
  | '\\' :: 'u' :: a :: b :: c :: d :: rest => do
    let unit ← hexUnit? [a, b, c, d]
    let (units, after) ← readUnits rest
    return (unit :: units, after)
  | '\\' :: c :: rest => do
    let char ← escaped? c
    let (units, after) ← readUnits rest
    return (char.toNat :: units, after)
  | c :: rest =>
    if c = '\\' ∨ c.toNat < 0x20 then none
    else do
      let (units, after) ← readUnits rest
      return (c.toNat :: units, after)
  | [] => none

/-- The first half of a surrogate pair. -/
def isLeading (unit : Nat) : Bool := 0xD800 ≤ unit && unit ≤ 0xDBFF

/-- The second half of a surrogate pair. -/
def isTrailing (unit : Nat) : Bool := 0xDC00 ≤ unit && unit ≤ 0xDFFF

/-- The characters of code points, with surrogate pairs joined; nothing if a half stands alone. -/
def joinUnits? : List Nat → Option (List Char)
  | [] => some []
  | unit :: rest =>
    if isTrailing unit then none
    else if isLeading unit then
      match rest with
      | [] => none
      | next :: rest =>
        if isTrailing next then
          (joinUnits? rest).map
            (Char.ofNat (0x10000 + 1024 * (unit - 0xD800) + (next - 0xDC00)) :: ·)
        else none
    else (joinUnits? rest).map (Char.ofNat unit :: ·)

/-- A string read up to its closing quote, and the text behind it.  The string is absent if half
of a surrogate pair stands alone in it. -/
def readString (cs : List Char) : Option (Option String × List Char) :=
  (readUnits cs).map fun (units, after) => ((joinUnits? units).map String.ofList, after)

/-! ### Values -/

/-- The text behind white space. -/
def skipBlank (cs : List Char) : List Char :=
  cs.dropWhile fun c => c = ' ' || c = '\t' || c = '\n' || c = '\r'

/-- A value and the text behind it; there is none where the text breaks off. -/
abbrev Reading (α : Type) := α × Option (List Char)

/-- A value whose text breaks off. -/
def brokenOff : Reading Source := (.refused false, none)

/-- A number read at the start of a text. -/
def readNumber (cs : List Char) : Reading Source :=
  match Numeral.take? cs with
  | none => brokenOff
  | some (n, rest) =>
    match n.value? with
    | none => (.refused true, some rest)
    | some j => (ofJson j, some rest)

/-- A container read to its end; too deep in others, it is refused. -/
def contained (room : Nat) (container : Source) (after : Option (List Char)) : Reading Source :=
  if room = 0 then (.refused after.isSome, after) else (container, after)

mutual

/-- The value at the start of a text, inside which `room` containers may be nested.  The fuel
bounds the depth of the recursion; twice the length of the text is enough. -/
def readValue : (fuel : Nat) → (room : Nat) → List Char → Reading Source
  | 0, _, _ => brokenOff
  | fuel + 1, room, cs =>
    match skipBlank cs with
    | 'n' :: 'u' :: 'l' :: 'l' :: rest => (.null, some rest)
    | 't' :: 'r' :: 'u' :: 'e' :: rest => (.boolean true, some rest)
    | 'f' :: 'a' :: 'l' :: 's' :: 'e' :: rest => (.boolean false, some rest)
    | '"' :: rest =>
      match readString rest with
      | none => brokenOff
      | some (none, after) => (.refused true, some after)
      | some (some s, after) => (.string s, some after)
    | '[' :: rest =>
      match skipBlank rest with
      | ']' :: after => contained room (.array [] true) (some after)
      | body =>
        let (items, after) := readItems fuel (room - 1) body
        contained room (.array items after.isSome) after
    | '{' :: rest =>
      match skipBlank rest with
      | '}' :: after => contained room (.object [] true) (some after)
      | body =>
        let (members, after) := readMembers fuel (room - 1) body
        contained room (.object members after.isSome) after
    | rest => readNumber rest

/-- The items of an array from one on that must be there, to the closing bracket. -/
def readItems : (fuel : Nat) → (room : Nat) → List Char → Reading (List Source)
  | 0, _, _ => ([], none)
  | fuel + 1, room, cs =>
    let (item, after) := readValue fuel room cs
    match after.map skipBlank with
    | some (']' :: rest) => ([item], some rest)
    | some (',' :: rest) =>
      let (items, after) := readItems fuel room rest
      (item :: items, after)
    | _ => ([item], none)

/-- The members of an object from one on that must be there, to the closing brace. -/
def readMembers : (fuel : Nat) → (room : Nat) → List Char →
    Reading (List (Option String × Source))
  | 0, _, _ => ([], none)
  | fuel + 1, room, cs =>
    match skipBlank cs with
    | '"' :: rest =>
      match readString rest with
      | none => ([], none)
      | some (name, rest) =>
        match skipBlank rest with
        | ':' :: rest =>
          let (value, after) := readValue fuel room rest
          match after.map skipBlank with
          | some ('}' :: rest) => ([(name, value)], some rest)
          | some (',' :: rest) =>
            let (members, after) := readMembers fuel room rest
            ((name, value) :: members, after)
          | _ => ([(name, value)], none)
        | _ => ([(name, .refused false)], none)
    | _ => ([], none)

end

/-- The tree of the value that a text begins with, and whether nothing but white space follows. -/
def ofText (s : String) : Source × Bool :=
  let cs := s.toList
  let (value, after) := readValue (2 * cs.length + 2) maxContainers cs
  (value, after.any fun rest => (skipBlank rest).isEmpty)

end Source

/-- The value that a text is, if it is one. -/
def ofText? (s : String) : Option Json :=
  let (source, isAll) := Source.ofText s
  if isAll then source.json? else none

end TestSpec.Json
