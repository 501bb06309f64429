import ExtTypes.Declaration.Frame
import ExtTypes.Entry
import ExtTypes.Settings.Basic

/-! The file that refers to all others: to modules by name, to files by path. -/
namespace ExtTypes.Declaration

def referenceLine (types : String) : String := "/// <reference types=\"" ++ types ++ "\" />"

/-- The line of an entry that is referred to. -/
def entryLine? (s : Settings) : Entry → Option String
  | .module name => some (referenceLine name)
  | .file f =>
    if f.referenced then
      let out := s.outputDir.path
      some (referenceLine ("./" ++ relativeText [] (out.child f.path) out))
    else none

def referenceLines (s : Settings) (entries : List Entry) : List String :=
  entries.filterMap (entryLine? s)

def referenceEntry (s : Settings) (entries : List Entry) : FileEntry :=
  ⟨"wxt.d.ts", Text.joinText "\n" (header :: referenceLines s entries), false⟩

end ExtTypes.Declaration
