import TestSpec.Pattern.Basic
import TestSpec.Pattern.Parser
import TestSpec.Text.Utf8

/-!
# Matching wildcard patterns

A text has a place before each of its octets and one behind the last.  A token takes
the set of places where the tokens before it can end to the set of places where it can
end itself, so a sequence of tokens is run over a set of places; the pattern matches
if the place behind the last octet is in the set in the end.  A set of places is a
list with a truth value for each place, the first place first.

Without regard to case means ASCII letters only.  The octets of the
characters of a set are all members of it, a range reaching from the last octet of
its first character to the first octet of its last one.  A branch of a group that
can never write anything, such as one between two commas, is no branch at all.
-/

namespace TestSpec

namespace Pattern

/-- An octet written in the other case, if it is an ASCII letter. -/
def otherCase (b : UInt8) : UInt8 :=
  if 0x41 ≤ b ∧ b ≤ 0x5A then b + 0x20
  else if 0x61 ≤ b ∧ b ≤ 0x7A then b - 0x20
  else b

/-- Two octets are the same, perhaps without regard to case. -/
def sameOctet (ignoresCase : Bool) (a b : UInt8) : Bool :=
  a == b || (ignoresCase && a == otherCase b)

/-- The octets of a character. -/
def octetsOf (c : Char) : List UInt8 := String.utf8EncodeChar c

/-- The octet ranges of a range of characters. -/
def octetRanges (range : Char × Char) : List (UInt8 × UInt8) :=
  let single (b : UInt8) : UInt8 × UInt8 := (b, b)
  let first := octetsOf range.1
  let last := octetsOf range.2
  if range.1 = range.2 then first.map single
  else
    match first.getLast?, last with
    | some low, high :: rest => first.dropLast.map single ++ (low, high) :: rest.map single
    | _, _ => []

/-- The octet lies in one of the ranges. -/
def inRanges (ranges : List (Char × Char)) (b : UInt8) : Bool :=
  (ranges.flatMap octetRanges).any fun r => r.1 ≤ b && b ≤ r.2

/-- The octet belongs to a set. -/
def inSet (ignoresCase isNegated : Bool) (ranges : List (Char × Char)) (b : UInt8) : Bool :=
  isNegated != (inRanges ranges b || (ignoresCase && inRanges ranges (otherCase b)))

/-- A set of places of a text. -/
abbrev Places := List Bool

/-- No place of a text. -/
def noPlace (octets : List UInt8) : Places := false :: octets.map fun _ => false

/-- The place before the first octet of a text. -/
def firstPlace (octets : List UInt8) : Places := true :: octets.map fun _ => false

/-- The union of two sets of places. -/
def unionPlaces (a b : Places) : Places := List.zipWith (· || ·) a b

/-- The places behind those octets of a sort that come next at a place of a set. -/
def takeOctet (p : UInt8 → Bool) (octets : List UInt8) (set : Places) : Places :=
  false :: List.zipWith (fun b isIn => isIn && p b) octets set

/-- The places of a set and all places behind them, or all places if one was `passed` already. -/
def placesFrom (passed : Bool) : Places → Places
  | [] => []
  | isIn :: rest => (passed || isIn) :: placesFrom (passed || isIn) rest

/-- The places at or behind a place of a set. -/
def takeRun (set : Places) : Places := placesFrom false set

/-- The octet of a slash. -/
def slash : UInt8 := 0x2F

/-- The places behind a slash, anything standing between a place of a set and it. -/
def takeThroughSlash (octets : List UInt8) (set : Places) : Places :=
  takeOctet (· == slash) octets (takeRun set)

mutual

/-- The token can write nothing but the empty text. -/
def Token.isBlank : Token → Bool
  | .alternatives branches => allBlank branches
  | _ => false

/-- All tokens of a sequence can write nothing. -/
def sequenceIsBlank : List Token → Bool
  | [] => true
  | t :: rest => t.isBlank && sequenceIsBlank rest

/-- All branches of a group can write nothing. -/
def allBlank : List (List Token) → Bool
  | [] => true
  | branch :: rest => sequenceIsBlank branch && allBlank rest

end

mutual

/-- The places where a token can end that begins at a place of a set. -/
def Token.advance (ignoresCase : Bool) (octets : List UInt8) (set : Places) : Token → Places
  | .literal c =>
    (octetsOf c).foldl (fun set b => takeOctet (sameOctet ignoresCase b) octets set) set
  | .anyOctet => takeOctet (fun _ => true) octets set
  | .anyRun => takeRun set
  | .leadingComponents => unionPlaces set (takeThroughSlash octets set)
  | .trailingComponents => takeRun (takeOctet (· == slash) octets set)
  | .innerComponents =>
    let behind := takeOctet (· == slash) octets set
    unionPlaces behind (takeThroughSlash octets behind)
  | .octetSet isNegated ranges => takeOctet (inSet ignoresCase isNegated ranges) octets set
  | .alternatives branches =>
    if allBlank branches then set else advanceBranches ignoresCase octets set branches

/-- The places where a sequence of tokens can end that begins at a place of a set. -/
def advanceSequence (ignoresCase : Bool) (octets : List UInt8) (set : Places) :
    List Token → Places
  | [] => set
  | t :: rest => advanceSequence ignoresCase octets (t.advance ignoresCase octets set) rest

/-- The places where any branch of a group can end that begins at a place of a set. -/
def advanceBranches (ignoresCase : Bool) (octets : List UInt8) (set : Places) :
    List (List Token) → Places
  | [] => noPlace octets
  | branch :: rest =>
    let others := advanceBranches ignoresCase octets set rest
    if sequenceIsBlank branch then others
    else unionPlaces (advanceSequence ignoresCase octets set branch) others

end

/-- The whole text matches the tokens.  Nothing but whole components matches everything. -/
def accepts (ignoresCase : Bool) (tokens : List Token) (text : String) : Bool :=
  match tokens with
  | [.leadingComponents] => true
  | tokens =>
    let octets := Text.Utf8.encode text
    (advanceSequence ignoresCase octets (firstPlace octets) tokens).getLast? == some true

/-- The wildcard pattern that a text is. -/
def compile? (source : String) (ignoresCase : Bool) : Except Fault Pattern :=
  (tokens? source.toList).map fun tokens =>
    { source, ignoresCase, isMatch := accepts ignoresCase tokens }

/-- What is said of a text that is no pattern. -/
def invalidMessage (source : String) (fault : Fault) : String :=
  "invalid pattern \"" ++ source ++ "\": " ++ fault.message

end Pattern

end TestSpec
