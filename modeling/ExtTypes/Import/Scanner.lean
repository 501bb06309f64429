import ExtTypes.Action
import ExtTypes.FileSystem.Walk
import ExtTypes.Import.Basic
import ExtTypes.Import.Export

/-! Finding imports in source directories. A scan replaces what the last one found; one that fails
changes nothing. -/
namespace ExtTypes

def isAsciiWord (c : Char) : Bool := c.isAlpha || c.isDigit

/-- The runs of ASCII letters and digits. -/
def asciiWords (s : List Char) : List (List Char) :=
  (Text.fields ' ' (s.map fun c => if isAsciiWord c then c else ' ')).filter (· ≠ [])

def lowerFirst : List Char → List Char
  | [] => []
  | c :: s => c.toLower :: s

def upperFirst : List Char → List Char
  | [] => []
  | c :: s => c.toUpper :: s

/-- The name of a default export, for its file: the words of the file's name, or of its directory's
name for an `index`, run together. -/
def defaultName (path : Path) : String :=
  let first := path.lastName.toList.takeWhile (· ≠ '.')
  let stem := if first = "index".toList then path.parent.lastName.toList else first
  match asciiWords stem with
  | [] => String.ofList stem
  | w :: ws => String.ofList (lowerFirst w ++ ws.flatMap upperFirst)

/-- The import of a symbol of the file at `path`. -/
def importOf (path : Path) : Export.Symbol → Import
  | .named name => ⟨name, slashed path.text, none⟩
  | .standard => ⟨"default", slashed path.text, some (defaultName path)⟩

/-- The imports that the text of the file at `path` offers. -/
def importsOf (path : Path) (text : String) : List Import :=
  (exportedSymbols text.toList).map (importOf path)

/-- What is known: the imports that were configured, and those of the last scan. -/
structure Scanner where
  presets : List Import
  scanned : List Import
  deriving DecidableEq, Repr

namespace Scanner

/-- The imports of one file. -/
def scanFile (files : FileSystem) (path : Path) : Except Failure (List Import) :=
  (files.readText [] path).map (importsOf path)

/-- The imports of the files in the order given, up to the first that cannot be read. -/
def scanFiles (files : FileSystem) : List Path → Except Failure (List Import)
  | [] => .ok []
  | p :: ps =>
    match scanFile files p with
    | .error e => .error e
    | .ok is => (scanFiles files ps).map (is ++ ·)

/-- The imports of the source files below the directory `l`, whose path is `p`. -/
def scanBelow (files : FileSystem) (p : Path) (l : Location) : Except Failure (List Import) :=
  match files.sourcePaths p l with
  | .error e => .error e
  | .ok ps => scanFiles files ps

/-- The imports of one directory; none if it is missing. -/
def scanDir (base : Path) : Action (List Import) := do
  match ← Action.look fun files => files.dirAt? [] base with
  | some l => Action.look fun files => scanBelow files base l
  | none =>
    Action.note .debug "imports" ("Skipping missing import directory " ++ base.text)
    pure []

/-- The imports of the directories, as seen from `source`. -/
def scanDirs (source : Path) : List String → Action (List Import)
  | [] => pure []
  | d :: ds => do
    let found ← scanDir (source.child d)
    let rest ← scanDirs source ds
    pure (found ++ rest)

/-- Looks for imports in the directories. -/
def scan (s : Scanner) (source : Path) (dirs : List String) : Action Scanner := do
  if ← Action.look fun files => files.pathIsDir [] source then
    let found ← scanDirs source dirs
    Action.note .debug "imports"
      ("Indexed " ++ toString found.length ++ " imports under " ++ source.text)
    pure { s with scanned := found }
  else Action.ofExcept (.error (.noSourceDir source.text))

/-- The imports with different exposed names, and those left out with the ones that shadow them. -/
def sifted (s : Scanner) : List Import × List (Import × Import) :=
  Import.sift [] (s.presets ++ s.scanned)

/-- A warning for each import that is left out. -/
def warnings (s : Scanner) : List Log.Record :=
  s.sifted.2.map fun (i, j) => ⟨.warning, Log.loggerName "imports", Import.shadowText i j⟩

/-- All imports with different exposed names, after the warnings. -/
def imports (s : Scanner) : Action (List Import) := do
  s.warnings.forM Action.log
  pure s.sifted.1

end Scanner

end ExtTypes
