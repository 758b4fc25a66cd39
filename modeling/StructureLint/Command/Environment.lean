import StructureLint.Disk
import StructureLint.Text.Blank

/-!
Contract: what the environment of a command says.

Owns:
- where the configuration for all projects is;
- where the ignore rules for all repositories are: in the file that the settings
  of version control name, else in the user's settings directory.

Does not own: how an environment is obtained, and what the files mean.
-/

namespace StructureLint.Command

/-- What the environment says: the configuration to take, and directories of the user. -/
structure Environment where
  config : Option String := none
  configDirectory : Option String := none
  home : Option String := none
  userDirectory : Option String := none

/-- The configuration for all projects. -/
def Environment.globalConfig? (environment : Environment) : Option SourcePath :=
  let directory : Option SourcePath :=
    match environment.configDirectory with
    | some directory => some ⟨directory⟩
    | none => environment.home.map fun home => SourcePath.join ⟨home⟩ ⟨".shapelint"⟩
  directory.map fun directory => directory.join ⟨"config.toml"⟩

/-! ## Rules for all repositories -/

/-- The directory with the settings of the user. -/
def Environment.settingsDirectory? (environment : Environment) : Option SourcePath :=
  match environment.userDirectory with
  | some directory => if directory == "" then fallback else some ⟨directory⟩
  | none => fallback
where
  fallback : Option SourcePath :=
    environment.home.map fun home => SourcePath.join ⟨home⟩ ⟨".config"⟩

/-- The text behind the spelling of `excludesFile`, which is in any case. -/
def behindExcludesFile? (line : List Char) : Option (List Char) :=
  let key := "excludesfile".toList
  if (line.take key.length).map Char.toLower == key then some (line.drop key.length) else none

/-- The value of a setting behind `=`, with or without quotes around it. -/
def settingValue? (text : List Char) : Option (List Char) :=
  match text.dropWhile Char.isWhitespace with
  | '=' :: rest =>
    let value := (Text.trimEndWhere Char.isWhitespace rest).dropWhile Char.isWhitespace
    let opened := match value with
      | '\x22' :: inner => inner.dropWhile Char.isWhitespace
      | _ => value
    let closed := match opened.reverse with
      | '\x22' :: inner => (inner.dropWhile Char.isWhitespace).reverse
      | _ => opened
    if closed.isEmpty || closed.any Char.isWhitespace then none else some closed
  | _ => none

/-- The path of the rules for all repositories that a settings file names; `~`
stands for the home directory. -/
def excludesFile? (home : Option String) (text : String) : Option SourcePath :=
  let value? := (text.toList.splitOn '\n').findSome? fun line =>
    (behindExcludesFile? (line.dropWhile Char.isWhitespace)).bind settingValue?
  value?.map fun value =>
    ⟨String.ofList (value.flatMap fun character =>
      if character == '~' then (home.getD "~").toList else [character])⟩

/-- The text of the rules for all repositories: of the file that the settings
name, else of the one in the user's settings directory. -/
def globalIgnoreText {m : Type → Type} [Monad m] (disk : Disk m) (environment : Environment) :
    m String := do
  let textOf := fun (path : Option SourcePath) => do
    match path with
    | none => return ""
    | some path =>
      match ← disk.read path with
      | .ok text => return text
      | .error _ => return ""
  let homeSettings ← textOf (environment.home.map fun home => SourcePath.join ⟨home⟩ ⟨".gitconfig"⟩)
  let userSettings ← textOf (environment.settingsDirectory?.map (·.join ⟨"git/config"⟩))
  textOf (excludesFile? environment.home homeSettings <|>
    excludesFile? environment.home userSettings <|>
    environment.settingsDirectory?.map (·.join ⟨"git/ignore"⟩))

end StructureLint.Command
