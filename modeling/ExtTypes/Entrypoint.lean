import ExtTypes.FileSystem.Walk
import ExtTypes.Settings.Basic

/-! The scripts and pages of an extension: a file each, or a directory with an index file. The name
tells what an entrypoint is. -/
namespace ExtTypes

inductive EntrypointKind
  | popup
  | options
  | background
  | sandbox
  | newtab
  | devtools
  | sidepanel
  | contentScript
  | unlistedPage
  | unlistedScript
  deriving DecidableEq, Repr

namespace EntrypointKind

def text : EntrypointKind → String
  | popup => "popup"
  | options => "options"
  | background => "background"
  | sandbox => "sandbox"
  | newtab => "newtab"
  | devtools => "devtools"
  | sidepanel => "sidepanel"
  | contentScript => "content-script"
  | unlistedPage => "unlisted-page"
  | unlistedScript => "unlisted-script"

/-- The kinds that are named as their entrypoints are. -/
def ofName? (name : String) : Option EntrypointKind :=
  [popup, options, background, sandbox, newtab, devtools, sidepanel].find? (·.text = name)

end EntrypointKind

structure Entrypoint where
  name : String
  inputPath : Path
  outputDir : Path
  kind : EntrypointKind
  deriving DecidableEq

/-- The endings of input files; of several index files the first one counts. -/
def entrypointSuffixes : List String := [".html", ".ts", ".tsx", ".js", ".jsx"]

/-- A path's suffix in small letters. No letter beyond ASCII is a capital form of one that is
compared here. -/
def plainSuffix (p : Path) : String := String.ofList (p.suffix.toList.map Char.toLower)

/-- Whether a name says that it is a content script, which may have a name of its own before. -/
def isContentName (name : String) : Bool :=
  name = "content" || ".content".toList.isSuffixOf name.toList

/-- A content script's own name. -/
def contentName (name : String) : String :=
  if ".content".toList.isSuffixOf name.toList then
    String.ofList (name.toList.take (name.toList.length - ".content".toList.length))
  else name

namespace Entrypoint

def isHtml (e : Entrypoint) : Bool := plainSuffix e.inputPath = ".html"

/-- The path of the bundle with ending `ext`, from the directory `out`. -/
def bundlePath (e : Entrypoint) (out : Path) (ext : String) : String :=
  relativeText [] (e.outputDir.child (e.name ++ ext)) out

def ofName (name : String) (input : Path) (out : Path) : Entrypoint :=
  if isContentName name then
    ⟨contentName name, input, out.child "content-scripts", .contentScript⟩
  else
    let other := if plainSuffix input = ".html" then .unlistedPage else .unlistedScript
    ⟨name, input, out, (EntrypointKind.ofName? name).getD other⟩

/-- The index file of a directory. No ending is tried after the first one that is there. -/
def indexFile? (files : FileSystem) (l : Location) : Except Failure (Option Path) :=
  (entrypointSuffixes.map fun ext => l.path.child ("index" ++ ext)).findM? (files.pathIsFile [])

/-- The entrypoint that a name in the directory `l` stands for. -/
def ofChild? (files : FileSystem) (l : Location) (out : Path) (n : Name) :
    Except Failure (Option Entrypoint) := do
  let child : Location := l ++ [n]
  if ← files.pathIsDir [] child.path then
    let input? ← indexFile? files child
    return input?.map fun input => ofName n.val input out
  else if plainSuffix child.path ∈ entrypointSuffixes then
    return some (ofName child.path.stem child.path out)
  else return none

/-- The entrypoints in the directory `l`, by name; those of one name by the names of their files. -/
def inDir (files : FileSystem) (l : Location) (out : Path) : Except Failure (List Entrypoint) := do
  let names := (files.children l).mergeSort fun a b => decide (a.val ≤ b.val)
  let found ← names.mapM (ofChild? files l out)
  return (found.filterMap id).mergeSort fun a b => decide (a.name ≤ b.name)

/-- All entrypoints of a project. -/
def discover (files : FileSystem) (s : Settings) : Except Failure (List Entrypoint) := do
  if ← files.pathIsDir [] s.entrypointsDir.path then inDir files s.entrypointsDir s.outDir
  else return []

end Entrypoint

end ExtTypes
