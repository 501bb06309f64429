import ExtTypes.Declaration.Frame
import ExtTypes.Entry
import ExtTypes.Import.Scanner
import ExtTypes.Settings.Basic

/-! A global constant for each import. -/
namespace ExtTypes.Declaration

/-- The text without the ending of a source file. A line feed after the ending does not count. -/
def dropSourceEnding (s : String) : String :=
  let (body, tail) := match s.toList.reverse with
    | '\n' :: r => (r, ['\n'])
    | r => (r, [])
  match sourceEndings.find? fun e => e.toList.reverse.isPrefixOf body with
  | some e => String.ofList ((body.drop e.toList.length).reverse ++ tail)
  | none => s

/-- How a source is named in an import: a path from `start`, without its ending, or a module. -/
def specifier (cwd : Location) (source : String) (start? : Option Path) : String :=
  if (Path.ofString source).isAbsolute then
    let short := dropSourceEnding source
    match start? with
    | none => short
    | some start =>
      let relative := relativeText cwd (Path.ofString short) start
      if "../".toList.isPrefixOf relative.toList then relative else "./" ++ relative
  else source

def importLine (cwd : Location) (start? : Option Path) (i : Import) : String :=
  "  const " ++ i.exposed ++ ": typeof import('" ++ specifier cwd i.source start? ++ "')['" ++
    i.name ++ "']"

def importLines (cwd : Location) (start? : Option Path) (is : List Import) : List String :=
  (is.mergeSort fun a b => decide (a.exposed ≤ b.exposed)).map (importLine cwd start?)

/-- The declarations of all imports that are known. -/
def importsText (cwd : Location) (scanner : Scanner) (start? : Option Path) : Action String := do
  let is ← scanner.imports
  pure (Text.joinText "\n"
    (["export \x7b\x7d", "declare global \x7b"] ++ importLines cwd start? is ++ ["\x7d"]))

/-- Scans the source directory, and declares what is known then. -/
def importsEntry (s : Settings) (scanner : Scanner) (dirs : List String) :
    Action (FileEntry × Scanner) := do
  let scanner ← scanner.scan s.sourceDir.path dirs
  let text ← importsText [] scanner (some s.typesDir.path)
  pure (⟨"types/imports.d.ts", unlines [header, text], true⟩, scanner)

end ExtTypes.Declaration
