import ExtTypes.CommandLine.Run
import Std.Time.Zoned

/-! The program. It copies what a run looks at from the disk, runs on the copy, and brings to the
disk what is new in it. -/
namespace ExtTypes.Program

def isPresent (l : Location) : IO Bool := do (← IO.currentDir) / l.text |>.pathExists

def isDirectory (l : Location) : IO Bool := do (← IO.currentDir) / l.text |>.isDir

/-- The names in a directory of the disk. -/
def namesIn (l : Location) : IO (List Name) := do
  let listing ← ((← IO.currentDir) / l.text).readDir
  return listing.toList.filterMap fun e =>
    if h : IsName e.fileName then some ⟨e.fileName, h⟩ else none

/-- The copy with one more place, whose directory is in it. -/
def copyOne (files : FileSystem) (l : Location) : IO FileSystem := do
  if ← isDirectory l then return files.makeDir l
  else if ← isPresent l then return files.writeFile l (← IO.FS.readBinFile l.text)
  else return files

/-- The copy with all places on the way to one. -/
def copyTo (files : FileSystem) (l : Location) : IO FileSystem :=
  ((List.range l.length).map fun k => l.take (k + 1)).foldlM copyOne files

/-- The copy with all places that a path touches. -/
def copyAlong (cwd : Location) (files : FileSystem) (p : Path) : IO FileSystem :=
  ((List.range (p.parts.length + 1)).map fun k =>
    Path.collapse cwd ⟨p.anchor, p.parts.take k⟩).foldlM copyTo files

/-- The copy with a place and all that is below it, but not below a name that is skipped. -/
partial def copyBelow (skips : Name → Bool) (files : FileSystem) (l : Location) :
    IO FileSystem := do
  let files ← copyOne files l
  if ← isDirectory l then
    ((← namesIn l).filter fun n => ! skips n).foldlM
      (fun files n => copyBelow skips files (l ++ [n])) files
  else return files

def copyWhole (files : FileSystem) (l : Location) : IO FileSystem := do
  copyBelow (fun _ => false) (← copyTo files l) l

/-- The copy with the source files in a directory. -/
def copySources (files : FileSystem) (p : Path) : IO FileSystem := do
  copyBelow (·.val = "node_modules") (← copyAlong [] files p) (p.collapse [])

/-- There are no hooks but in the settings. -/
def plugins : Plugins := ⟨[], []⟩

/-- The copy with everything that a run with these settings looks at. -/
def copyFor (files : FileSystem) (s : Settings) : IO FileSystem := do
  let files ← copyWhole files s.publicDir
  let files ← copyWhole files s.entrypointsDir
  let files ← copyTo files s.sourceDir
  let dirs := (s.imports?.map (·.dirs)).getD []
  let files ← (dirs.map s.sourceDir.path.child).foldlM copySources files
  let files ← copyTo files s.typesDir
  let entries : Action (List Entry) := do
    let es ← Action.look fun files => Entrypoint.discover files s
    Generate.collect s es (.plugins plugins)
  match (entries ⟨.unset, "", [], files⟩).1 with
  | .error _ => return files
  | .ok entries =>
    ((Generate.targets s entries).map fun f => Path.ofString f.path).foldlM (copyAlong []) files

/-- The copy with the log file. -/
def copyLog (env : Surroundings) (target : CommandLine.LogTarget) (files : FileSystem) :
    IO FileSystem :=
  match target with
  | .file path => copyAlong env.cwd files (Path.ofString path)
  | .console | .empty => return files

/-- What a run with these arguments looks at. -/
def copyFromDisk (env : Surroundings) (args : List String) : IO FileSystem := do
  match CommandLine.parse args with
  | .error _ => return .empty
  | .ok a =>
    let files ← copyLog env a.log (← copyTo .empty env.cwd)
    match Settings.expandHome env (Path.ofString a.path) with
    | .error _ => return files
    | .ok p =>
      let files ← copyAlong env.cwd files p
      match Settings.configPath files env p >>= FileSystem.resolve env.links env.cwd with
      | .error _ => return files
      | .ok l =>
        let files ← copyTo files l
        match Settings.load files env (Path.ofString a.path) with
        | .error _ => return files
        | .ok s => copyFor files s

/-- Makes a place on the disk what it is in the copy after the run. -/
def bring (before : FileSystem) (place : Location × Node) : IO Unit :=
  if before.node? place.1 = some place.2 then return
  else match place.2 with
    | .dir => IO.FS.createDirAll place.1.text
    | .file b => IO.FS.writeBinFile place.1.text b

/-- The location that a text of the system says. -/
def locationOf (s : String) : Location := (Path.ofString s).collapse []

/-- A directory at the root that stands elsewhere. -/
def linkOf? (n : Name) : IO (Option (Location × Location)) := do
  let found := locationOf (← IO.FS.realPath (Location.text [n])).toString
  return if found = [n] then none else some ([n], found)

/-- The name of a user and the home directory, from a line of the list of users. -/
def userOf? (line : String) : Option (String × Path) :=
  match Text.splitAt ':' line with
  | name :: _ :: _ :: _ :: _ :: home :: _ => some (name, Path.ofString home)
  | _ => none

def surroundings : IO Surroundings := do
  let users := Text.splitAt '\n' (← IO.FS.readFile "/etc/passwd" <|> return "")
  let home? := (← IO.getEnv "HOME").map Path.ofString
  return {
    cwd := locationOf (← IO.currentDir).toString
    links := (← (← namesIn []).mapM linkOf?).filterMap id
    home? user := if user = "" then home? else (users.filterMap userOf?).lookup user }

/-- The time that stands in front of a line of a log file. -/
def stamp : IO String := do
  let t ← Std.Time.PlainDateTime.now
  let date : Date := ⟨t.year.toInt.toNat, t.month.toInt.toNat, t.day.toInt.toNat⟩
  let time : TimeOfDay :=
    ⟨t.hour.toInt.toNat, t.minute.toInt.toNat, t.second.toInt.toNat, 0⟩
  return date.text ++ " " ++ time.text ++ "," ++
    paddedNat 3 (t.nanosecond.toInt.toNat / 1000000) ++ " "

def run (args : List String) : IO UInt32 := do
  let env ← surroundings
  let files ← copyFromDisk env args
  let outcome := CommandLine.run env plugins (← stamp) files args
  (outcome.files.below []).forM (bring files)
  IO.eprint outcome.console
  IO.print outcome.output
  match outcome.failure? with
  | some e => IO.eprintln e.message
  | none => pure ()
  return (outcome.exit?.getD 1).toUInt32

end ExtTypes.Program

def main (args : List String) : IO UInt32 := ExtTypes.Program.run args
