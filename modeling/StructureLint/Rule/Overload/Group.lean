import StructureLint.Program.Basic

/-!
Contract: groups of overloads.

A type's overloads are the regular methods with bodies that it and its bases
declare, most derived first.  A method with the name and the parameter types
of a more derived one is shadowed.

Owns:
- the groups of a type, and the canonical overload of a group;
- agreement of two parameter lists on the order of shared parameters.

Does not own: what is asked of a group.
-/

namespace StructureLint.Overload

/-- Bases that turn public methods into request handlers. -/
def controllerBases : List String := ["Controller", "ControllerBase"]

/-- Attributes of a public method of a controller that handles no request. -/
def nonActionMarks : List String := ["NonAction"]

/-- A proper base of the type is a controller. -/
def isController (program : Program) (id : TypeId) : Bool :=
  ((program.baseChain id).drop 1).any fun base =>
    (program.type? base).any fun symbol => Name.matchesAny symbol.name controllerBases

/-- The member handles requests if its type is a controller. -/
def isAction (member : MemberSymbol) (declaration : Declaration) : Bool :=
  member.accessibility == .publicAccess && !member.isStatic &&
    (Attribute.find? nonActionMarks declaration.attributes).isNone

/-- The member takes part in groups of overloads. -/
def isCandidate (program : Program) (controller : Bool) (member : MemberSymbol) : Bool :=
  member.kind.isRegularMethod &&
    (program.declarationOf? member).any fun declaration =>
      declaration.body.isSome && !(controller && isAction member declaration)

/-- The candidates of a type and its bases, most derived type first. -/
def candidates (program : Program) (id : TypeId) : List (MemberId × MemberSymbol) :=
  ((program.baseChain id).flatMap program.membersOf).filterMap fun memberId =>
    (program.member? memberId).bind fun member =>
      if isCandidate program (isController program id) member then some (memberId, member)
      else none

/-- Two members with one name and the same parameter types. -/
def sameSignature (left right : MemberSymbol) : Bool :=
  left.name == right.name && left.sameParameterTypes right

/-- Keeps a candidate that none of those kept before shadows. -/
def keepUnshadowed (kept : List (MemberId × MemberSymbol)) (entry : MemberId × MemberSymbol) :
    List (MemberId × MemberSymbol) :=
  if kept.any fun other => sameSignature other.2 entry.2 then kept else kept ++ [entry]

/-- The candidates that are not shadowed. -/
def overloads (program : Program) (id : TypeId) : List (MemberId × MemberSymbol) :=
  (candidates program id).foldl keepUnshadowed []

/-- The overloads of one name. -/
structure Group where
  name : String
  members : List MemberId
  deriving DecidableEq, Repr

/-- The names of overloads, each once, in order. -/
def groupNames (members : List (MemberId × MemberSymbol)) : List String :=
  (members.map fun entry => entry.2.name).eraseDups.mergeSort fun left right =>
    (compare left right).isLE

/-- The groups of a type with at least two members, by name. -/
def groups (program : Program) (id : TypeId) : List Group :=
  let members := overloads program id
  ((groupNames members).map fun name =>
    { name, members := (members.filter fun entry => entry.2.name == name).map Prod.fst }).filter
    fun group => 2 ≤ group.members.length

/-- The number of parameters of a member. -/
def arity (program : Program) (id : MemberId) : Nat :=
  (program.member? id).elim 0 fun member => member.parameters.length

/-- The only member with the most parameters, if it is the only one. -/
def canonical? (program : Program) (members : List MemberId) : Option MemberId :=
  match members.filter fun id => (members.map (arity program)).all fun other =>
      other ≤ arity program id with
  | [longest] => some longest
  | _ => none

/-! ## Order of parameters -/

/-- The names of the parameters with or without a default, a spread aside. -/
def category (defaulted : Bool) (parameters : List Parameter) : List String :=
  (parameters.filter fun parameter =>
    !parameter.isSpread && parameter.hasDefault == defaulted).map Parameter.name

/-- The first name that stands elsewhere in the canonical names. -/
def misplaced? (names canonicalNames : List String) : Option String :=
  (names.zipIdx.find? fun entry =>
    (canonicalNames.findIdx? (· == entry.1)).any fun position => position != entry.2).map Prod.fst

/-- The first parameter that stands elsewhere in the canonical list: among those
without a default, then among those with one. -/
def orderMismatch? (parameters canonicalParameters : List Parameter) : Option String :=
  [false, true].findSome? fun defaulted =>
    misplaced? (category defaulted parameters) (category defaulted canonicalParameters)

end StructureLint.Overload
