import ExtTypes.Settings.Resolve
import ExtTypes.Yaml.Value

/-! Finding and reading the configuration of a project. The project is where its configuration would
be, whether there is one or not. -/
namespace ExtTypes

/-- Where relative paths start; the home directories of users, of which that of the current user has
no name; and what stands elsewhere. -/
structure Surroundings where
  cwd : Location
  links : Links
  home? : String → Option Path

namespace Settings

/-- The path with a home directory in place of a tilde at its start. -/
def expandHome (env : Surroundings) (p : Path) : Except Failure Path :=
  match p.anchor, p.parts with
  | .relative, q :: qs =>
    match q.text.toList with
    | '~' :: user =>
      if user.contains '\x00' then .error (.value .nulInPath)
      else match env.home? (String.ofList user) with
      | some home => .ok (home.join ⟨.relative, qs⟩)
      | none => .error .noHome
    | _ => .ok p
  | _, _ => .ok p

/-- The path of the configuration that `p` asks for: in the directory `p`, or beside the file. -/
def configPath (files : FileSystem) (env : Surroundings) (p : Path) : Except Failure Path :=
  (files.pathIsDir env.cwd p).map fun isDir =>
    if isDir then p.child configFileName
    else if p.lastName = configFileName then p
    else p.parent.child configFileName

/-- A reader of the format that configurations are written in. -/
abbrev Reader := String → Except Failure Value

/-- The configuration that a text holds; a text of blanks holds none. -/
def readConfig (reader : Reader) (text : String) : Except Failure Value :=
  if Text.trim text = "" then .ok .emptyMap
  else match reader text with
    | .error e => .error e
    | .ok v =>
      match v.view with
      | .scalar .null => .ok .emptyMap
      | .map _ => .ok v
      | _ => fault .notMapping

/-- The settings of the project at `p`. -/
def loadWith (reader : Reader) (files : FileSystem) (env : Surroundings) (p : Path) :
    Except Failure Settings := do
  let p ← configPath files env (← expandHome env p)
  -- a configuration that is not there still says where the project is
  let file ← FileSystem.resolve env.links env.cwd p
  let config ←
    if (← files.find [] file.path).isSome then do
      readConfig reader (← files.readText [] file.path)
    else pure .emptyMap
  resolve env.links (Location.path file.dropLast) config

/-- `loadWith` with the reader of the program. -/
def load (files : FileSystem) (env : Surroundings) (p : Path) : Except Failure Settings :=
  loadWith Yaml.load files env p

end Settings

end ExtTypes
