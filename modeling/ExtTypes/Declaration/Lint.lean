import ExtTypes.Declaration.Frame
import ExtTypes.Entry
import ExtTypes.Import.Scanner
import ExtTypes.Json.Printer
import ExtTypes.Settings.Basic

/-! The globals that a linter should know of. -/
namespace ExtTypes

def GlobalAccess.json : GlobalAccess → Json
  | flag b => .bool b
  | word s => .str s

namespace Declaration

/-- The object that gives each name its access; a name counts once. -/
def lintObject (names : List String) (access : GlobalAccess) : Json :=
  .obj [("globals", .obj (dedupFields (names.map fun n => (n, access.json))))]

def lintText (names : List String) (access : GlobalAccess) : String :=
  (lintObject names access).document

/-- The names that imports expose, by code point; an empty name is none. -/
def exposedNames (is : List Import) : List String :=
  ((is.map Import.exposed).filter (· ≠ "")).mergeSort fun a b => decide (a ≤ b)

def lintFile (is : List Import) (o : LintOptions) : FileEntry :=
  ⟨o.filePath, lintText (exposedNames is) o.access, false⟩

def lintEntry (scanner : Scanner) (o : LintOptions) : Action FileEntry := do
  let is ← scanner.imports
  pure (lintFile is o)

end Declaration

end ExtTypes
