import ExtTypes.Declaration.Imports

/-! A scanner in use. Requests come one after the other; what a scan finds is kept for the requests
after it. -/
namespace ExtTypes

/-- A computation with a scanner at hand. What it did before a failure stays: to the scanner as to the
files. -/
def Session (α : Type) : Type := Scanner × Log.State → Except Failure α × (Scanner × Log.State)

namespace Session

instance : Monad Session where
  pure a := fun s => (.ok a, s)
  bind x f := fun s =>
    match x s with
    | (.ok a, s') => f a s'
    | (.error e, s') => (.error e, s')

/-- An action that may look at the scanner. -/
def act {α : Type} (f : Scanner → Action α) : Session α := fun (sc, σ) =>
  ((f sc σ).1, (sc, (f sc σ).2))

/-- Puts these imports in place of those of the last scan. -/
def keep (found : List Import) : Session Unit := fun (sc, σ) =>
  (.ok (), ({ sc with scanned := found }, σ))

/-- Looks for imports in the directories. -/
def scan (source : Path) (dirs : List String) : Session (List Import) := do
  if ← act fun _ => Action.look fun files => files.pathIsDir [] source then
    let found ← act fun _ => Scanner.scanDirs source dirs
    keep found
    act fun _ => Action.note .debug "imports"
      ("Indexed " ++ toString found.length ++ " imports under " ++ source.text)
    pure found
  else act fun _ => Action.ofExcept (.error (.noSourceDir source.text))

def imports : Session (List Import) := act Scanner.imports

def declarations (cwd : Location) (start? : Option Path) : Session String :=
  act fun sc => Declaration.importsText cwd sc start?

/-- What can be asked of a scanner. -/
inductive Request
  | scan (source : Path) (dirs : List String)
  | imports
  | declarations (cwd : Location) (start? : Option Path)

inductive Answer
  | imports (is : List Import)
  | text (t : String)
  deriving DecidableEq, Repr

def serve : Request → Session Answer
  | .scan source dirs => do return .imports (← scan source dirs)
  | .imports => do return .imports (← imports)
  | .declarations cwd start? => do return .text (← declarations cwd start?)

end Session

end ExtTypes
