import ExtTypes.Declaration.Frame
import ExtTypes.Entrypoint
import ExtTypes.Entry

/-! The paths that can be asked for at run time: bundles and public files, as a union of texts. -/
namespace ExtTypes.Declaration

/-- The members of a list in order, each once. -/
def dedupSorted : List String → List String
  | a :: b :: s => if a = b then dedupSorted (b :: s) else a :: dedupSorted (b :: s)
  | s => s

/-- The texts by code point, each once. -/
def sortedSet (s : List String) : List String :=
  dedupSorted (s.mergeSort fun a b => decide (a ≤ b))

/-- One member of the union. -/
def pathRow (path : String) : String := "    | \"/" ++ slashed path ++ "\""

def pathRows (paths : List String) : List String :=
  match sortedSet (paths.map pathRow) with
  | [] => ["    | never"]
  | rows => rows

def pathsText (paths : List String) : String :=
  unlines <|
    [header,
     "import \"wxt/browser\";",
     "",
     "declare module \"wxt/browser\" \x7b",
     "  export type PublicPath ="] ++
    pathRows paths ++
    ["  type HtmlPublicPath = Extract<PublicPath, `$\x7bstring\x7d.html`>",
     "  export interface WxtRuntime extends Runtime.Static \x7b",
     "    getURL(path: PublicPath): string;",
     "    getURL(path: `$\x7bHtmlPublicPath\x7d$\x7bstring\x7d`): string;",
     "  \x7d",
     "\x7d"]

/-- The paths of all bundles. -/
def bundlePaths (s : Settings) (entrypoints : List Entrypoint) : List String :=
  entrypoints.map fun e => e.bundlePath s.outDir (if e.isHtml then ".html" else ".js")

/-- The paths of all bundles, then of all public files. -/
def publicPaths (files : FileSystem) (s : Settings) (entrypoints : List Entrypoint) :
    Except Failure (List String) :=
  (files.publicFiles s.publicDir.path).map fun ps => bundlePaths s entrypoints ++ ps

def pathsEntry (files : FileSystem) (s : Settings) (entrypoints : List Entrypoint) :
    Except Failure FileEntry :=
  (publicPaths files s entrypoints).map fun ps => ⟨"types/paths.d.ts", pathsText ps, true⟩

end ExtTypes.Declaration
