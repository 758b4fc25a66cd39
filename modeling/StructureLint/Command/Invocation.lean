import StructureLint.Rule.Preset

/-!
Contract: the words of a command line.

Options may stand before or behind the name of the command and between its
paths.  An option with a value takes it from the same word, behind `=` or
directly behind its letter, or from the next word, which must not look like an
option.  No option is given twice at one place.  Behind `--` every word is a
path.

What the words say is admitted part by part, and the first part that is
refused decides: a fault before a request for help is a fault, one behind it is
never looked at.  One part waits: an option in front of the command whose value
was a word of its own is admitted behind the parts of the command.

Owns:
- commands with their options;
- reading of words, and the refusals.

Does not own: what the commands do.
-/

namespace StructureLint.Command

/-- How a report is shown. -/
inductive OutputFormat where
  | text
  | json
  | compact
  deriving DecidableEq, Repr

/-- How a format is spelled. -/
def OutputFormat.spelling : OutputFormat → String
  | .text => "text"
  | .json => "json"
  | .compact => "compact"

/-- The format with exactly this spelling. -/
def OutputFormat.ofSpelling? (text : String) : Option OutputFormat :=
  [OutputFormat.text, .json, .compact].find? fun format => format.spelling == text

/-- What to check, and how. -/
structure CheckOptions where
  paths : List SourcePath := [⟨"."⟩]
  format : OutputFormat := .text
  rules : Option String := none
  preset : Option Preset := none

/-- What is asked for. -/
inductive Action where
  | check (options : CheckOptions)
  | listRules
  | createConfig (force : Bool)

/-- A whole command line. -/
structure Invocation where
  action : Action
  config : Option SourcePath := none

/-- Why a command line is not carried out. -/
inductive Refusal where
  | usage
  | help
  | version
  deriving DecidableEq, Repr

/-- The options of all commands. -/
inductive OptionName where
  | verbose
  | config
  | format
  | rules
  | preset
  | force
  | help
  | version
  deriving DecidableEq, Repr

namespace OptionName

/-- How an option is spelled out. -/
def long : OptionName → String
  | .verbose => "verbose"
  | .config => "config"
  | .format => "format"
  | .rules => "rules"
  | .preset => "preset"
  | .force => "force"
  | .help => "help"
  | .version => "version"

/-- The letter of an option. -/
def short? : OptionName → Option Char
  | .verbose => some 'v'
  | .config => some 'c'
  | .format => some 'f'
  | .help => some 'h'
  | .version => some 'V'
  | .rules | .preset | .force => none

/-- The option has a value. -/
def takesValue : OptionName → Bool
  | .config | .format | .rules | .preset => true
  | .verbose | .force | .help | .version => false

/-- Options that every command has. -/
def everywhere : List OptionName := [.verbose, .config, .help]

end OptionName

/-! ## Words -/

/-- What a word or two say.  A value is detached if it was a word of its own. -/
inductive Part where
  | flag (name : OptionName)
  | valued (name : OptionName) (value : String) (detached : Bool)
  | word (text : String)
  | fault
  deriving DecidableEq, Repr

/-- What a word says by itself; `pending` is an option that waits for its value. -/
structure WordReading where
  parts : List Part := []
  pending : Option OptionName := none

/-- The word looks like an option. -/
def isOptionLike : List Char → Bool
  | '-' :: _ :: _ => true
  | _ => false

/-- A word with two dashes in front of a name. -/
def readLong (known : List OptionName) (word : List Char) : WordReading :=
  let name := word.takeWhile (· != '=')
  match known.find? fun option => option.long == String.ofList name, word.dropWhile (· != '=') with
  | none, _ => { parts := [.fault] }
  | some option, [] =>
    if option.takesValue then { pending := some option } else { parts := [.flag option] }
  | some option, _ :: value =>
    if option.takesValue then { parts := [.valued option (String.ofList value) false] }
    else { parts := [.fault] }

/-- The value behind the letter of an option. -/
def attachedValue : List Char → String
  | '=' :: value => String.ofList value
  | value => String.ofList value

/-- Letters behind one dash. -/
def readLetters (known : List OptionName) : List Char → WordReading
  | [] => {}
  | letter :: rest =>
    match known.find? fun option => option.short? == some letter with
    | none => { parts := [.fault] }
    | some option =>
      if !option.takesValue then
        let reading := readLetters known rest
        { reading with parts := .flag option :: reading.parts }
      else if rest.isEmpty then
        { pending := some option }
      else
        { parts := [.valued option (attachedValue rest) false] }

/-- What a word says. -/
def readWord (known : List OptionName) (word : String) : WordReading :=
  match word.toList with
  | '-' :: '-' :: name => readLong known name
  | '-' :: letter :: rest => readLetters known (letter :: rest)
  | _ => { parts := [.word word] }

/-- The parts of words.  With `untilWord`, reading ends at the first word that
belongs to no option, and the rest is handed back. -/
def readWords (known : List OptionName) (untilWord : Bool) :
    List String → List Part × List String
  | [] => ([], [])
  | "--" :: rest => (if untilWord then [.fault] else rest.map .word, [])
  | word :: rest =>
    if untilWord && !isOptionLike word.toList then
      ([], word :: rest)
    else
      let reading := readWord known word
      match reading.pending, rest with
      | none, rest =>
        let (parts, behind) := readWords known untilWord rest
        (reading.parts ++ parts, behind)
      | some _, [] => (reading.parts ++ [.fault], [])
      | some option, value :: rest =>
        if isOptionLike value.toList then
          (reading.parts ++ [.fault], [])
        else
          let (parts, behind) := readWords known untilWord rest
          (reading.parts ++ .valued option value true :: parts, behind)

/-! ## Admission -/

/-- The option of a part. -/
def Part.option? : Part → Option OptionName
  | .flag name => some name
  | .valued name _ _ => some name
  | .word _ => none
  | .fault => none

/-- The option is given by one of the parts. -/
def isGiven (parts : List Part) (option : OptionName) : Bool :=
  parts.any fun part => part.option? == some option

/-- The option has such values: paths are not empty, formats and presets exist. -/
def OptionName.accepts (option : OptionName) (value : String) : Bool :=
  match option with
  | .config => value != ""
  | .format => (OutputFormat.ofSpelling? value).isSome
  | .preset => (Preset.parse value).toOption.isSome
  | .rules => true
  | .verbose | .force | .help | .version => false

/-- Admits a part behind earlier ones; `takesPaths` says whether words are paths. -/
def Part.admit (takesPaths : Bool) (earlier : List Part) : Part → Except Refusal Unit
  | .flag .help => .error .help
  | .flag .version => .error .version
  | .flag name => if isGiven earlier name then .error .usage else .ok ()
  | .valued name value _ =>
    if isGiven earlier name || !name.accepts value then .error .usage else .ok ()
  | .word text => if takesPaths && text != "" then .ok () else .error .usage
  | .fault => .error .usage

/-- Admits parts one by one behind earlier ones, the first one first. -/
def admitAll (takesPaths : Bool) (earlier : List Part) : List Part → Except Refusal Unit
  | [] => .ok ()
  | part :: rest => do
    part.admit takesPaths earlier
    admitAll takesPaths (part :: earlier) rest

/-- The parts that are admitted at once, and the one that waits. -/
def splitWaiting (parts : List Part) : List Part × List Part :=
  match parts.reverse with
  | .valued name value true :: earlier => (earlier.reverse, [.valued name value true])
  | _ => (parts, [])

/-! ## Commands -/

/-- The value of an option. -/
def value? (parts : List Part) (option : OptionName) : Option String :=
  parts.findSome? fun part =>
    match part with
    | .valued name value _ => if name == option then some value else none
    | _ => none

/-- The words that belong to no option, as paths. -/
def paths (parts : List Part) : List SourcePath :=
  parts.filterMap fun part =>
    match part with
    | .word text => some ⟨text⟩
    | _ => none

/-- A command: its options, whether it takes paths, and what its admitted parts ask for. -/
structure CommandShape where
  options : List OptionName
  takesPaths : Bool
  action : List Part → Action

namespace CommandShape

/-- Checks models. -/
def check : CommandShape where
  options := [.format, .rules, .preset]
  takesPaths := true
  action parts := .check {
    paths := if (paths parts).isEmpty then [⟨"."⟩] else paths parts
    format := ((value? parts .format).bind OutputFormat.ofSpelling?).getD .text
    rules := value? parts .rules
    preset := (value? parts .preset).bind fun text => (Preset.parse text).toOption }

/-- Lists the rules. -/
def listRules : CommandShape where
  options := []
  takesPaths := false
  action _ := .listRules

/-- Writes a configuration to start from. -/
def createConfig : CommandShape where
  options := [.force]
  takesPaths := false
  action parts := .createConfig (isGiven parts .force)

/-- The command with this name. -/
def named? : String → Option CommandShape
  | "check" => some check
  | "list-rules" => some listRules
  | "init" => some createConfig
  | _ => none

end CommandShape

/-- What `help` with these words behind it comes to: there is help on all, on one
command and on `help` itself. -/
def helpOn : List String → Refusal
  | [] => .help
  | [name] => if name == "help" || (CommandShape.named? name).isSome then .help else .usage
  | _ => .usage

/-- The configuration of the environment, which is looked at unless one is given
at both places. -/
def variableConfig (configVariable : Option String) (outer inner : List Part) :
    Except Refusal (Option String) :=
  if isGiven outer .config && isGiven inner .config then .ok none
  else if configVariable == some "" then .error .usage
  else .ok configVariable

/-- Reads a command line.  A configuration given behind the command counts
before one in front of it, and either before the one of the environment. -/
def Invocation.parse (configVariable : Option String) (arguments : List String) :
    Except Refusal Invocation := do
  let (outer, rest) := readWords (.version :: OptionName.everywhere) true arguments
  let (settled, waiting) := splitWaiting outer
  admitAll false [] settled
  match rest with
  | [] => .error .usage
  | "help" :: names => .error (helpOn names)
  | name :: rest =>
    match CommandShape.named? name with
    | none => .error .usage
    | some command =>
      let (inner, _) := readWords (OptionName.everywhere ++ command.options) false rest
      admitAll command.takesPaths [] inner
      admitAll false settled waiting
      let fallback ← variableConfig configVariable outer inner
      let config := value? inner .config <|> value? outer .config <|> fallback
      return { action := command.action inner, config := config.map SourcePath.mk }

end StructureLint.Command
