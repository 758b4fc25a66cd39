import StructureLint.Attribute
import StructureLint.Finding

/-!
Contract: attributes that silence a rule on a declaration.

A suppression names the rule by its name, by its code in any case, or by
`all`, in some positional text; a colon ends the name.  The first suppression
that names the rule decides, and its justification counts only if it is not
blank.

Owns:
- whether and with which justification a rule is suppressed;
- what becomes of a suppressed finding.

Does not own: which rules ask for a justification.
-/

namespace StructureLint

/-- Whether a rule is suppressed, and the justification given. -/
inductive Suppression where
  | absent
  | present (reason : Option String)
  deriving DecidableEq, Repr

namespace Suppression

/-- The attributes that suppress a rule. -/
def attributeNames : List String := ["SuppressMessage", "Allow"]

/-- The named arguments that may carry the justification, in order of preference. -/
def reasonNames : List String := ["Justification", "Reason"]

/-- A positional text names the rule. -/
def namesRule (ruleName code target : String) : Bool :=
  let named := String.ofList (Text.trimChars (target.toList.takeWhile (· != ':')))
  named == "all" || named == ruleName || Text.lowerAscii named == Text.lowerAscii code

/-- The attribute is a suppression that names the rule. -/
def targets (ruleName code : String) (mark : Attribute) : Bool :=
  attributeNames.contains (Name.ofAttribute mark.name) &&
    (mark.positional.filterMap AttributeValue.str?).any (namesRule ruleName code)

/-- The justification that an attribute carries. -/
def reasonOf (mark : Attribute) : Option String :=
  ((reasonNames.findSome? mark.named?).bind AttributeValue.str?).bind fun text =>
    let trimmed := Text.trim text
    if trimmed == "" then none else some trimmed

/-- Whether the attributes suppress the rule. -/
def ofAttributes (marks : List Attribute) (ruleName code : String) : Suppression :=
  match marks.find? (targets ruleName code) with
  | none => .absent
  | some mark => .present (reasonOf mark)

/-- The warning in place of a finding whose suppression is not justified. -/
def missingReason (ruleName : String) (finding : Finding) : Finding :=
  { code := finding.code
    rule := finding.rule
    severity := .warning
    location := finding.location
    message := "Suppression of `" ++ ruleName ++ "` is missing a required justification" }

/-- What becomes of a finding: it stays when nothing suppresses it, and is
dropped otherwise, unless the rule asks for a justification that is missing. -/
def apply (marks : List Attribute) (ruleName : String) (requiresReason : Bool)
    (finding : Finding) : Option Finding :=
  match ofAttributes marks ruleName finding.code with
  | .absent => some finding
  | .present none => if requiresReason then some (missingReason ruleName finding) else none
  | .present (some _) => none

end Suppression

end StructureLint
