import TestSpec.Pattern.Token

/-!
# Reading wildcard patterns

A pattern is read character by character by a small machine.  Its `Mode` says what
the last characters have begun: a star, a double star, an escape, or a set between
brackets.  Groups between braces may be nested; the branches of the open ones wait
on a stack.

Inside a set nothing is special but the bracket that closes it, a mark of negation
at its start and a dash between two characters; a closing bracket or a dash that
comes first, and a dash that comes last, stand for themselves.
-/

namespace TestSpec

namespace Pattern

/-- A set of characters that is being read. -/
structure OpenSet where
  isNegated : Bool := false
  /-- The ranges so far, the last one first. -/
  ranges : List (Char × Char) := []
  /-- A mark of negation may still come. -/
  atStart : Bool := true
  /-- A dash has begun the second half of the last range. -/
  inRange : Bool := false

/-- What the characters read last have begun. -/
inductive Mode where
  | text
  | escape
  /-- One star; `before` is the character in front of it. -/
  | star (before : Option Char)
  | doubleStar (before : Option Char)
  | set (s : OpenSet)

/-- A group that is open: the tokens in front of it, last one first, and its finished branches. -/
structure OpenGroup where
  before : List Token
  branches : List (List Token)

/-- The state of the machine; the tokens of the current branch stand last one first. -/
structure Reading where
  mode : Mode := .text
  current : List Token := []
  groups : List OpenGroup := []
  previous : Option Char := none

namespace Reading

/-- The state with one more token in the current branch. -/
def push (r : Reading) (t : Token) : Reading := { r with current := t :: r.current }

/-- The tokens of the current branch once a double star ends a component, `token` being what the
double star stands for if nothing of the sort precedes it. -/
def endComponents (r : Reading) (token : Token) : Reading :=
  match r.current with
  | .leadingComponents :: _ => r
  | .trailingComponents :: _ => r
  | _ :: rest => { r with current := token :: rest }
  | [] => r

/-- Settle a double star in front of the next character.  The second part says whether that
character is a slash that belongs to it. -/
def settleDoubleStar (r : Reading) (before next : Option Char) : Reading × Bool :=
  let twoRuns := (r.push .anyRun).push .anyRun
  let inGroup := !r.groups.isEmpty
  if r.current.isEmpty then
    if next.all (· == '/') then (r.push .leadingComponents, next.isSome) else (twoRuns, false)
  else if before == some '/' || (inGroup && (before == some ',' || before == some '\x7b')) then
    if next.isNone || (inGroup && (next == some ',' || next == some '\x7d')) then
      (r.endComponents .trailingComponents, false)
    else if next == some '/' then (r.endComponents .innerComponents, true)
    else (twoRuns, false)
  else (twoRuns, false)

/-- Read a character that is no part of anything begun before it. -/
def readText (r : Reading) (c : Char) : Except Fault Reading :=
  let r' := { r with mode := .text, previous := some c }
  match c with
  | '?' => .ok (r'.push .anyOctet)
  | '*' => .ok { r' with mode := .star r.previous }
  | '[' => .ok { r' with mode := .set {} }
  | '\\' => .ok { r' with mode := .escape }
  | '\x7b' => .ok { r' with current := [], groups := ⟨r.current, []⟩ :: r.groups }
  | '\x7d' =>
    match r.groups with
    | [] => .error .unopenedGroup
    | g :: outer =>
      .ok { r' with
        current := .alternatives (g.branches ++ [r.current.reverse]) :: g.before
        groups := outer }
  | ',' =>
    match r.groups with
    | [] => .ok (r'.push (.literal c))
    | g :: outer =>
      .ok { r' with
        current := []
        groups := ⟨g.before, g.branches ++ [r.current.reverse]⟩ :: outer }
  | _ => .ok (r'.push (.literal c))

end Reading

namespace OpenSet

/-- The set with one more character. -/
def add (s : OpenSet) (c : Char) : OpenSet :=
  { s with ranges := (c, c) :: s.ranges, atStart := false, inRange := false }

/-- The set with the last range ended by a character. -/
def endRange (s : OpenSet) (c : Char) : Except Fault OpenSet :=
  match s.ranges with
  | (first, _) :: rest =>
    if c < first then .error (.invalidRange first c)
    else .ok { s with ranges := (first, c) :: rest, inRange := false }
  | [] => .ok (s.add c)

/-- Read a character that belongs to the set. -/
def read (s : OpenSet) (c : Char) : Except Fault OpenSet :=
  if s.inRange then s.endRange c
  else if c = '-' ∧ s.ranges ≠ [] then .ok { s with inRange := true }
  else .ok (s.add c)

/-- The token of a set that is complete. -/
def token (s : OpenSet) : Token :=
  let complete := if s.inRange then s.add '-' else s
  .octetSet complete.isNegated complete.ranges.reverse

end OpenSet

namespace Reading

/-- Read one character. -/
def step (r : Reading) (c : Char) : Except Fault Reading :=
  match r.mode with
  | .text => r.readText c
  | .escape => .ok ({ r with mode := .text, previous := some c }.push (.literal c))
  | .star before =>
    if c = '*' then .ok { r with mode := .doubleStar before, previous := some c }
    else (r.push .anyRun).readText c
  | .doubleStar before =>
    let (settled, takesSlash) := r.settleDoubleStar before (some c)
    if takesSlash then .ok { settled with mode := .text, previous := some c }
    else settled.readText c
  | .set s =>
    let read := { r with previous := some c }
    if s.atStart && (c == '!' || c == '^') then
      .ok { read with mode := .set { s with isNegated := true, atStart := false } }
    else if c = ']' ∧ s.ranges ≠ [] then .ok ({ read with mode := .text }.push s.token)
    else (s.read c).map fun s => { read with mode := .set s }

/-- The tokens of a pattern that has been read to its end. -/
def finish (r : Reading) : Except Fault (List Token) := do
  let done ← match r.mode with
    | .text => .ok r
    | .escape => .error .danglingEscape
    | .star _ => .ok (r.push .anyRun)
    | .doubleStar before => .ok (r.settleDoubleStar before none).1
    | .set _ => .error .unclosedSet
  if done.groups.isEmpty then .ok done.current.reverse else .error .unclosedGroup

end Reading

/-- The tokens of a pattern. -/
def tokens? (text : List Char) : Except Fault (List Token) :=
  text.foldlM Reading.step {} >>= Reading.finish

end Pattern

end TestSpec
