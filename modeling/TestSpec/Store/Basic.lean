import TestSpec.Store.Declaration

/-!
# The store of declarations

A store numbers declarations in the order they are made.  A name means the latest
declaration that carries it.  Every store begins with the builtin types, each under
the keyword of its kind.
-/

namespace TestSpec

/-- All declarations, by number. -/
structure Store where
  declarations : Array Declaration := #[]

namespace Store

/-- How many declarations there are. -/
def size (s : Store) : Nat := s.declarations.size

/-- The declaration with a number; a number that was never given out means an undefined type. -/
def get (s : Store) (id : TypeId) : Declaration := s.declarations.getD id {}

/-- The name of a declaration. -/
def name (s : Store) (id : TypeId) : String := (s.get id).name

/-- Make a declaration; its number is the size of the store before. -/
def declare (s : Store) (d : Declaration) : Store := ⟨s.declarations.push d⟩

/-- The latest of the first `count` declarations that carries a name. -/
def lookupBelow (s : Store) (name : String) : (count : Nat) → Option TypeId
  | 0 => none
  | count + 1 => if s.name count = name then some count else s.lookupBelow name count

/-- The declaration that a name means. -/
def lookup (s : Store) (name : String) : Option TypeId := s.lookupBelow name s.size

/-- The builtin kinds and the dialects they belong to. -/
def builtinKinds : List (Kind × Dialect) :=
  [(.null, .asn1), (.boolean, .ttcn3), (.integer, .ttcn3), (.integerAsn, .asn1), (.real, .ttcn3),
   (.bitstring, .ttcn3), (.bitstringAsn, .asn1), (.hexstring, .ttcn3), (.octetstring, .ttcn3),
   (.charstring, .ttcn3), (.universalCharstring, .ttcn3), (.utf8String, .asn1),
   (.numericString, .asn1), (.printableString, .asn1), (.teletexString, .asn1),
   (.videotexString, .asn1), (.ia5String, .asn1), (.graphicString, .asn1),
   (.visibleString, .asn1), (.generalString, .asn1), (.universalString, .asn1),
   (.bmpString, .asn1), (.utcTime, .asn1), (.generalizedTime, .asn1),
   (.objectDescriptor, .asn1), (.objectIdentifier, .ttcn3), (.relativeOid, .asn1),
   (.verdict, .ttcn3), (.default, .ttcn3), (.any, .asn1)]

/-- The declaration of a builtin type. -/
def builtinDeclaration (kind : Kind) (dialect : Dialect) : Declaration :=
  { name := kind.keyword, kind, dialect, isBuiltin := true }

/-- The store that holds the builtin types alone. -/
def initial : Store := ⟨(builtinKinds.map fun k => builtinDeclaration k.1 k.2).toArray⟩

/-- The builtin type of a kind, unless a later declaration has taken its name. -/
def builtin (s : Store) (kind : Kind) : Option TypeId :=
  (s.lookup kind.keyword).filter fun id => (s.get id).isBuiltin

/-- All names in the order they first appeared. -/
def names (s : Store) : List String := (s.declarations.toList.map Declaration.name).eraseDups

/-- The declarations that names mean, in the order the names first appeared, without the builtin
types. -/
def userTypes (s : Store) : List TypeId :=
  (s.names.filterMap s.lookup).filter fun id => !(s.get id).isBuiltin

/-- The store with another check stamp on a declaration. -/
def setStamp (s : Store) (id : TypeId) (stamp : CheckStamp) : Store :=
  ⟨s.declarations.modify id fun d => { d with stamp }⟩

end Store

end TestSpec
