import StructureLint.Attribute
import StructureLint.Pass

/-!
Contract: the value of an option for a declaration.

An attribute on the declaration beats the value set for its file, and that
beats the built-in value.  A malformed value set for the file is an error and
never replaced by the built-in one.

Owns:
- the order of precedence and the origin of a value.

Does not own: which attributes override which option.
-/

namespace StructureLint

/-- Where a value came from. -/
inductive SettingOrigin where
  | attribute
  | file
  | builtin
  deriving DecidableEq, Repr

/-- The origin in one word. -/
def SettingOrigin.name : SettingOrigin → String
  | .attribute => "Override"
  | .file => "File"
  | .builtin => "Default"

/-- A value with its option key and its origin. -/
structure Resolved (α : Type) where
  key : String
  value : α
  origin : SettingOrigin
  deriving DecidableEq, Repr

/-- A limit: its option key, its built-in value, and the attributes that override it. -/
structure Limit where
  key : String
  builtin : Nat
  overrides : List String

namespace Setting

/-- A count set for the file, or the built-in one. -/
def fileCount (file : SourcePath) (rule key : String) (builtin : Nat) : Pass (Resolved Nat) := do
  let request := { file, rule, key }
  match ← Pass.ask request with
  | none => return { key, value := builtin, origin := .builtin }
  | some raw =>
    match count? raw with
    | some value => return { key, value, origin := .file }
    | none => .fail { request, shape := .count, value := raw }

/-- The count that the first overriding attribute carries, if it is not negative. -/
def overrideCount? (overrides : List String) (marks : List Attribute) : Option Nat :=
  ((Attribute.find? overrides marks).bind Attribute.int?).bind fun value =>
    if 0 ≤ value.toInt then some value.toInt.toNat else none

/-- The limit for a declaration with those attributes. -/
def limit (file : SourcePath) (rule : String) (limit : Limit) (marks : List Attribute) :
    Pass (Resolved Nat) :=
  match overrideCount? limit.overrides marks with
  | some value => return { key := limit.key, value, origin := .attribute }
  | none => fileCount file rule limit.key limit.builtin

/-- A flag set for the file, or the built-in one. -/
def flag (file : SourcePath) (rule key : String) (builtin : Bool) : Pass (Resolved Bool) := do
  let request := { file, rule, key }
  match ← Pass.ask request with
  | none => return { key, value := builtin, origin := .builtin }
  | some raw =>
    match flag? raw with
    | some value => return { key, value, origin := .file }
    | none => .fail { request, shape := .flag, value := raw }

/-- A text set for the file, or the built-in one. -/
def text (file : SourcePath) (rule key builtin : String) : Pass (Resolved String) := do
  match ← Pass.ask { file, rule, key } with
  | none => return { key, value := builtin, origin := .builtin }
  | some raw => return { key, value := raw, origin := .file }

end Setting

end StructureLint
