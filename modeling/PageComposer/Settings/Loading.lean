import PageComposer.Files
import PageComposer.Settings
import PageComposer.Settings.EnvFile

/-!
# Settings of a process

Besides keywords, a process gives its environment variables, the environment files of its working
directory and directories of secrets, where each file is named for a setting. Files may be missing.
Keywords that start with an underscore say where and how settings are read.
-/

namespace PageComposer.Settings

/-- How the settings of a process are read. -/
structure Reading where
  /-- Environment files; later ones win. -/
  files : List String := [".env"]
  /-- Directories of secrets; later ones win. -/
  secrets : List String := []
  namePrefix : String := defaultPrefix
  exactCase : Bool := false
  /-- Whether variables without a text count as missing. -/
  ignoresEmpty : Bool := false
  /-- The text that stands for no value. -/
  noneText : Option String := none

namespace Reading

/-- The paths that a keyword names: one, several or none. -/
def paths : Value → Except Fault (List String)
  | .none => .ok []
  | .str s => .ok [s]
  | v => do
    let items ← match v with
      | .list items => .ok items
      | .dict entries => .ok (entries.map (·.1))
      | v => .error (.notIterable v.typeName)
    items.mapM fun
      | .str s => .ok s
      | v =>
        .error (.typeProblem ("expected str, bytes or os.PathLike object, not " ++ v.typeName))

/-- How settings are read under keywords. Those that are none leave the default. -/
def ofKeywords (keywords : List (String × Value)) : Except Fault Reading := do
  let given (name : String) : Option Value := (keywords.find? fun e => e.1 == name).map (·.2)
  let flag (name : String) : Bool := ((given name).map Value.truthy).getD false
  let files ← match given "_env_file" with
    | some v => paths v
    | none => pure [".env"]
  let secrets ← paths ((given "_secrets_dir").getD .none)
  return {
    files, secrets
    namePrefix := ((given "_env_prefix").bind Value.text?).getD defaultPrefix
    exactCase := flag "_case_sensitive"
    ignoresEmpty := flag "_env_ignore_empty"
    noneText := (given "_env_parse_none_str").bind Value.text? }

/-- The value of a variable, unless it counts as missing. -/
def value? (r : Reading) (text : String) : Option Value :=
  if r.ignoresEmpty && text.isEmpty then none
  else if r.noneText == some text then some .none
  else some (.str text)

end Reading

/-- Whether there is a file at a path. -/
def isFile (files : Files) (path : Path) : Except Fault Bool :=
  match Files.find files path with
  | .ok _ => .ok true
  | .error (.nameTooLong shown) => .error (.nameTooLong shown)
  | .error _ => .ok false

/-- The variables of an environment file. -/
def fileVariables (r : Reading) (environment : List (String × String)) (files : Files)
    (name : String) : Except Fault (List (String × Option Value)) := do
  let path := Path.ofText name
  if ← isFile files path then
    return (EnvFile.read environment (← Files.readText files path)).filterMap fun (name, text) =>
      match text with
      | some text => (r.value? text).map fun v => (name, some v)
      | none => some (name, none)
  else return []

/-- A text without the blanks around it. -/
def stripped (s : String) : String :=
  let trimmed (cs : List Char) : List Char := (cs.dropWhile Text.isBlank).reverse
  String.ofList (trimmed (trimmed s.toList))

/-- The secrets in a directory by the names of their files. -/
def secretsIn (files : Files) (name : String) : Except Fault (List (String × Value)) := do
  let folder := Path.ofText name
  match Files.find files folder with
  | .ok _ =>
    .error (.raised "SettingsError" (.str "secrets_dir must reference a directory, not a file"))
  | .error _ =>
    let place ← files.resolve folder
    let inside := files.held.keys.filter fun key =>
      let parts := (Path.ofText key).parts
      parts.dropLast == place.parts && !parts.isEmpty
    inside.mapM fun key => do
      let text ← Files.readText files (Path.ofText key)
      return ((Path.ofText key).parts.getLast?.getD "", .str (stripped text))

/-- The settings that keywords, environment variables and the files of the working directory give. -/
def ofProcess (keywords : List (String × Value)) (environment : List (String × String))
    (files : Files) : Except Fault Settings := do
  let r ← Reading.ofKeywords keywords
  let written ← r.files.mapM (fileVariables r environment files)
  let secrets ← r.secrets.mapM (secretsIn files)
  load {
    keywords
    environment := environment.filterMap fun (name, text) => (r.value? text).map fun v => (name, v)
    file := written.flatten
    secrets := secrets.flatten
    namePrefix := r.namePrefix
    exactCase := r.exactCase }

end PageComposer.Settings
