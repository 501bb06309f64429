import ExtTypes.FileSystem.Disk

/-! Listing what is below a directory: files for all to see, and source files. -/
namespace ExtTypes

/-- Text that ends in one of `suffixes`. -/
def endsInOneOf (suffixes : List String) (s : String) : Bool :=
  suffixes.any fun x => x.toList.isSuffixOf s.toList

/-- Endings of files in which exported symbols are looked for. -/
def sourceEndings : List String := [".ts", ".tsx", ".mts", ".js", ".jsx", ".mjs"]

/-- Whether a file with this name is a source, and no declaration file. -/
def isSourceFile (n : Name) : Bool :=
  endsInOneOf sourceEndings n.val && ! endsInOneOf [".d.ts"] n.val

namespace Path

/-- The path of what these names lead to. -/
def below (p : Path) (names : List Name) : Path := p.join ⟨.relative, names.map .name⟩

end Path

namespace Tree

/-- Entries by name. -/
def byName {α : Type} (es : List (Name × α)) : List (Name × α) :=
  es.mergeSort fun d e => decide (d.1.val ≤ e.1.val)

/-- Whether an entry is a source file. -/
def isSourceEntry (e : Name × Tree) : Bool := e.2.node ≠ .dir && isSourceFile e.1

/-- Whether a walk through sources gets into an entry: a directory, but none of foreign modules. -/
def isEntered (e : Name × Tree) : Bool := e.2.node = .dir && e.1.val ≠ "node_modules"

/-- What directories with these names hold, one after the other, up to the first that cannot be
walked. -/
def joinFound : List (Name × Except Failure (List (List Name))) →
    Except Failure (List (List Name))
  | [] => .ok []
  | (_, .error e) :: _ => .error e
  | (n, .ok found) :: rest => (joinFound rest).map ((found.map (n :: ·)) ++ ·)

mutual

/-- The source files below a directory with this path: first its own ones, then those in its
directories. A directory with a path that is too long cannot be listed. -/
def sources (p : Path) : Tree → Except Failure (List (List Name))
  | file _ => .error (.disk .notDirectory p.text)
  | dir es =>
    if FileSystem.fits p then
      (joinFound (byName (sourcesIn p es))).map
        (((byName (es.filter isSourceEntry)).map fun e => [e.1]) ++ ·)
    else .error (.disk .nameTooLong p.text)

/-- What a walk finds in each of the directories that it gets into. -/
def sourcesIn (p : Path) : List (Name × Tree) → List (Name × Except Failure (List (List Name)))
  | [] => []
  | (n, t) :: es =>
    if isEntered (n, t) then (n, sources (p.below [n]) t) :: sourcesIn p es else sourcesIn p es

end

/-- Whether an entry is a directory. -/
def isDirEntry (e : Name × Tree) : Bool := e.2.node = .dir

mutual

/-- The files below a directory with this path: first its own ones, then those in its directories. A
directory with a path that is too long is passed over. -/
def files (p : Path) : Tree → List (List Name)
  | file _ => []
  | dir es =>
    if FileSystem.fits p then
      ((es.filter (! isDirEntry ·)).map fun e => [e.1]) ++
        (byName (filesIn p es)).flatMap fun e => e.2.map (e.1 :: ·)
    else []

/-- The files below each of the directories. -/
def filesIn (p : Path) : List (Name × Tree) → List (Name × List (List Name))
  | [] => []
  | (n, t) :: es =>
    if isDirEntry (n, t) then (n, files (p.below [n]) t) :: filesIn p es else filesIn p es

end

end Tree

namespace FileSystem

/-- The paths of the source files below the directory `l`, whose path is `p`, in the order of a
walk. -/
def sourcePaths (fs : FileSystem) (p : Path) (l : Location) : Except Failure (List Path) :=
  match fs.tree? l with
  | none => .error (.disk .notFound p.text)
  | some t => (t.sources p).map fun found => found.map p.below

/-- All files below the directory at a path, as slashed paths from there, by code point. -/
def publicFiles (fs : FileSystem) (p : Path) : Except Failure (List String) :=
  (fs.dirAt? [] p).map fun l? =>
    let found := ((l?.bind fs.tree?).map (Tree.files p)).getD []
    (found.map fun names => slashed (Path.text ⟨.relative, names.map .name⟩)).mergeSort
      fun a b => decide (a ≤ b)

end FileSystem

end ExtTypes
