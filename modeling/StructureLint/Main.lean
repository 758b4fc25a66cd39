import StructureLint.Command
import StructureLint.Disk.Memory

/-!
Contract: the process around the command line.

Owns:
- the file system of the machine, with paths below the working directory;
- printing of an outcome, and the exit code.

Does not own: any decision of a command.
-/

namespace StructureLint.Main

/-- Why an operation of the machine failed. -/
def diskError : IO.Error → DiskError
  | .noFileOrDirectory _ _ _ => .missing
  | .inappropriateType _ _ "not a directory" => .notDirectory
  | .inappropriateType _ _ _ => .isDirectory
  | other => .other (toString other)

/-- The outcome of an operation of the machine. -/
def attempt {α : Type} (operation : IO α) : IO (Except DiskError α) := do
  match ← operation.toBaseIO with
  | .ok value => return .ok value
  | .error error => return .error (diskError error)

/-- What stands at a path. -/
def kind (path : SourcePath) : IO EntryKind := do
  let place := (← IO.currentDir) / path.text
  match ← attempt place.metadata with
  | .error _ => return .missing
  | .ok metadata =>
    match metadata.type with
    | .dir => return .directory
    | .file => return .file
    | _ => return .missing

/-- The entries and texts of the machine. -/
def source : EntrySource IO where
  kind := kind
  read path := attempt (IO.FS.readFile path.text)

/-- The tree below a path. -/
partial def list (path : SourcePath) : IO Listing := do
  let place := (← IO.currentDir) / path.text
  match ← attempt place.readDir with
  | .error _ => return .directory {} []
  | .ok entries =>
    let mut found : Array (String × Listing) := #[]
    for entry in entries do
      let inner := path.join ⟨entry.fileName⟩
      match ← kind inner with
      | .file => found := found.push (entry.fileName, .file)
      | .directory => found := found.push (entry.fileName, ← list inner)
      | .missing => pure ()
    return .directory (← source.notes path) found.toList

/-- The directories above a path, nearest first. -/
def above (path : SourcePath) : IO (List DirectoryAbove) := do
  let place ← IO.FS.realPath path.text
  let names := (DiskNode.segments ⟨place.toString⟩).filter fun name => name != ""
  source.above ⟨"/"⟩ names

/-- The file system of the machine. -/
def disk : Disk IO where
  kind := kind
  read path := attempt (IO.FS.readFile path.text)
  list := list
  above := above
  write path content := attempt (IO.FS.writeFile path.text content)

/-- Prints an outcome. -/
def report (outcome : Command.Outcome) : IO Unit := do
  for warning in outcome.warnings do
    IO.eprintln ("WARN " ++ warning)
  IO.print outcome.output
  if outcome.exitCode == 2 then
    IO.eprint Command.usageText
  match outcome.failure with
  | none => pure ()
  | some error => IO.eprintln ("Error: " ++ error.render)

end StructureLint.Main

/-- Runs the command line of the process. -/
def main (arguments : List String) : IO UInt32 := do
  let environment : StructureLint.Command.Environment :=
    { config := ← IO.getEnv "SHAPELINT_CONFIG"
      configDirectory := ← IO.getEnv "SHAPELINT_CONFIG_DIR"
      home := ← IO.getEnv "HOME"
      userDirectory := ← IO.getEnv "XDG_CONFIG_HOME" }
  let outcome ← StructureLint.Command.run StructureLint.Main.disk environment arguments
  StructureLint.Main.report outcome
  return outcome.exitCode.toUInt32
