import ExtTypes.Action
import ExtTypes.Entry

/-! Writing files where their content changes. Every file is tried; the first failure, in the order
of the files, is the failure of all. -/
namespace ExtTypes

structure WriteResult where
  path : String
  written : Bool
  deriving DecidableEq, Repr

namespace WriteResult

def record (r : WriteResult) : Log.Record :=
  ⟨.debug, Log.loggerName "writer", (if r.written then "Wrote " else "Unchanged ") ++ r.path⟩

end WriteResult

namespace Writer

/-- Writes one file, below directories that are made if they are missing. -/
def writeOne (fs : FileSystem) (f : FileEntry) : FileSystem.Outcome WriteResult :=
  let p := Path.ofString f.path
  match fs.makeDirs [] p.parent with
  | (.error e, fs') => (.error e, fs')
  | (.ok (), fs') =>
    match fs'.writeIfDifferent [] p f.text with
    | (.error e, fs'') => (.error e, fs'')
    | (.ok written, fs'') => (.ok ⟨p.text, written⟩, fs'')

/-- Writes one file, and logs what became of it. -/
def attempt (f : FileEntry) : Action WriteResult := do
  let r ← Action.change fun files => writeOne files f
  Action.log r.record
  pure r

/-- Writes files one after the other, whatever becomes of each. -/
def writeEach (s : Log.State) : List FileEntry → List (Except Failure WriteResult) × Log.State
  | [] => ([], s)
  | f :: files =>
    let (r, s') := attempt f s
    let (rs, s'') := writeEach s' files
    (r :: rs, s'')

/-- All values, or the first failure. -/
def collect {α : Type} : List (Except Failure α) → Except Failure (List α)
  | [] => .ok []
  | .error e :: _ => .error e
  | .ok a :: rs => (collect rs).map (a :: ·)

/-- Writes all files; their paths must be absolute. -/
def writeAll (files : List FileEntry) : Action (List WriteResult) := fun s =>
  match files.find? fun f => ! (Path.ofString f.path).isAbsolute with
  | some f => (.error (.value (.relativeEntry f.path)), s)
  | none =>
    let (rs, s') := writeEach s files
    (collect rs, s')

end Writer

end ExtTypes
