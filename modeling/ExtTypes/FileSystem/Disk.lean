import ExtTypes.Failure
import ExtTypes.FileSystem.Basic
import ExtTypes.Text.Newline

/-! Reading and writing by path. Here `..` leads where the disk says, so what comes before it has to
be a directory. Relative paths start at `cwd`. -/
namespace ExtTypes

/-- Places of the system that stand elsewhere, each with the place where it stands. -/
abbrev Links := List (Location × Location)

end ExtTypes

namespace ExtTypes.FileSystem

/-- The greatest number of bytes of a name. -/
def nameLimit : Nat := 255

/-- The number of bytes from which on a path is too long. -/
def pathLimit : Nat := 4096

/-- A place on the way: the steps that led to it, the last one first, each with what stood where it
was taken, and what stands there now. -/
structure Spot where
  taken : List (Name × Option Tree)
  here? : Option Tree

namespace Spot

def location (s : Spot) : Location := (s.taken.map Prod.fst).reverse

/-- One part further on; nothing is above the root. -/
def step (s : Spot) : Part → Spot
  | .up =>
    match s.taken with
    | [] => s
    | (_, t?) :: taken => ⟨taken, t?⟩
  | .name n => ⟨(n, s.here?) :: s.taken, s.here?.bind (Tree.child? n)⟩

/-- Follows parts; all but the last place must be directories. A name that is too long is not looked
for. -/
def follow (s : Spot) : List Part → Except DiskCause Spot
  | [] => .ok s
  | p :: ps =>
    match s.here? with
    | none => .error .notFound
    | some (.file _) => .error .notDirectory
    | some (.dir _) =>
      if nameLimit < p.text.utf8ByteSize then .error .nameTooLong else (s.step p).follow ps

end Spot

/-- The spot at a location. -/
def spot (fs : FileSystem) (l : Location) : Spot :=
  l.foldl (fun s n => s.step (.name n)) ⟨[], some fs.root⟩

theorem spot_append (fs : FileSystem) (l : Location) (n : Name) :
    fs.spot (l ++ [n]) = (fs.spot l).step (.name n) := by
  simp [spot]

theorem spot_location (fs : FileSystem) (l : Location) : (fs.spot l).location = l := by
  have key (s : Spot) : (l.foldl (fun s n => s.step (.name n)) s).location = s.location ++ l := by
    induction l generalizing s with
    | nil => simp
    | cons n l ih =>
      rw [List.foldl_cons, ih]
      simp [Spot.step, Spot.location]
  exact key _

theorem spot_here? (fs : FileSystem) (l : Location) : (fs.spot l).here? = fs.tree? l := by
  have key (s : Spot) :
      (l.foldl (fun s n => s.step (.name n)) s).here? = Tree.find? s.here? l := by
    induction l generalizing s with
    | nil => simp
    | cons n l ih =>
      rw [List.foldl_cons, ih]
      cases h : s.here? <;> simp [Spot.step, h, Tree.find?, Tree.at?]
  exact key _

/-- A step from the spot at a location leads to the spot at the next one. -/
theorem step_spot (fs : FileSystem) (l : Location) (p : Part) :
    (fs.spot l).step p = fs.spot (l.step p) := by
  cases p with
  | name n => exact (spot_append fs l n).symm
  | up =>
    rcases List.eq_nil_or_concat l with rfl | ⟨l, n, rfl⟩
    · rfl
    · simp [spot_append, Spot.step, Location.step]

/-- Whether the path holds a character that no path on disk can hold. -/
def hasNul (p : Path) : Bool := p.parts.any fun q => q.text.toList.contains '\x00'

/-- Whether a path is short enough to be looked for. -/
def fits (p : Path) : Bool := p.text.utf8ByteSize < pathLimit

/-- Where the path leads; something must be there except at its very end. -/
def locate (fs : FileSystem) (cwd : Location) (p : Path) : Except DiskCause Location :=
  if fits p then
    ((fs.spot (if p.isAbsolute then [] else cwd)).follow p.parts).map Spot.location
  else .error .nameTooLong

/-- What stands where the path leads. It is a failure only to ask for something too long. -/
def find (fs : FileSystem) (cwd : Location) (p : Path) : Except Failure (Option Node) :=
  if hasNul p then .ok none
  else match fs.locate cwd p with
    | .ok l => .ok (fs.node? l)
    | .error .nameTooLong => .error (.disk .nameTooLong p.text)
    | .error _ => .ok none

def pathIsDir (fs : FileSystem) (cwd : Location) (p : Path) : Except Failure Bool :=
  (fs.find cwd p).map fun n => n = some .dir

def pathIsFile (fs : FileSystem) (cwd : Location) (p : Path) : Except Failure Bool :=
  (fs.find cwd p).map fun
    | some (.file _) => true
    | _ => false

/-- The location of the directory at the path, if there is one. -/
def dirAt? (fs : FileSystem) (cwd : Location) (p : Path) : Except Failure (Option Location) :=
  (fs.pathIsDir cwd p).map fun isDir => if isDir then (fs.locate cwd p).toOption else none

/-- The bytes of the file at the path. -/
def read (fs : FileSystem) (cwd : Location) (p : Path) : Except Failure ByteArray :=
  if hasNul p then .error (.value .nulInPath)
  else match fs.locate cwd p with
    | .error c => .error (.disk c p.text)
    | .ok l =>
      match fs.node? l with
      | none => .error (.disk .notFound p.text)
      | some .dir => .error (.disk .isDirectory p.text)
      | some (.file b) => .ok b

def decode (b : ByteArray) : Except Failure String :=
  match Text.decodeUtf8 b with
  | .ok s => .ok s
  | .error e => .error (.encoding e)

/-- The text of a file, its line ends unified. -/
def readText (fs : FileSystem) (cwd : Location) (p : Path) : Except Failure String := do
  let s ← decode (← fs.read cwd p)
  return Text.withNewlines s

/-- The text of a file as it stands there; nothing for a file that is not there. -/
def readExact? (fs : FileSystem) (cwd : Location) (p : Path) : Except Failure (Option String) :=
  match fs.read cwd p with
  | .ok b => (decode b).map some
  | .error (.disk .notFound _) => .ok none
  | .error e => .error e

/-- One part further on; a place that is known to stand elsewhere leads there. -/
def stepLinked (links : Links) (l : Location) (q : Part) : Location :=
  (links.lookup (l.step q)).getD (l.step q)

/-- The path as a location, without a look at what is there. -/
def resolve (links : Links) (cwd : Location) (p : Path) : Except Failure Location :=
  if hasNul p then .error (.value .nulInPath)
  else .ok (p.parts.foldl (stepLinked links) (if p.isAbsolute then [] else cwd))

/-- Where nothing stands elsewhere, `..` just drops the part before it. -/
theorem resolve_nil (cwd : Location) (p : Path) (h : hasNul p = false) :
    resolve [] cwd p = .ok (p.collapse cwd) := by
  have hs : stepLinked [] = Location.step := by funext l q; rfl
  simp [resolve, h, hs, Path.collapse]

/-- A new directory, in a directory that is there. -/
def makeOneDir (fs : FileSystem) (cwd : Location) (p : Path) : Except DiskCause FileSystem :=
  match fs.locate cwd p with
  | .error c => .error c
  | .ok l => if (fs.node? l).isSome then .error .alreadyExists else .ok (fs.makeDir l)

/-- What a change of the files gives: a failure or a value, and the file system after it. -/
abbrev Outcome (α : Type) := Except Failure α × FileSystem

/-- How a refusal to make a directory ends: well, if there is a directory. -/
def settleDir (fs : FileSystem) (cwd : Location) (p : Path) (c : DiskCause) : Outcome Unit :=
  match fs.pathIsDir cwd p with
  | .error e => (.error e, fs)
  | .ok true => (.ok (), fs)
  | .ok false => (.error (.disk c p.text), fs)

/-- The directory whose parts are given from the last one back, and what is missing above it. -/
def makeDirsBack (fs : FileSystem) (cwd : Location) (anchor : Anchor) : List Part → Outcome Unit
  | [] => fs.settleDir cwd ⟨anchor, []⟩ .alreadyExists
  | q :: above =>
    let p : Path := ⟨anchor, (q :: above).reverse⟩
    match fs.makeOneDir cwd p with
    | .ok fs' => (.ok (), fs')
    | .error .notFound =>
      match fs.makeDirsBack cwd anchor above with
      | (.error e, fs') => (.error e, fs')
      | (.ok (), fs') =>
        -- what was missing above is there now, and `p` itself may have come with it
        match fs'.makeOneDir cwd p with
        | .ok fs'' => (.ok (), fs'')
        | .error .notFound => (.error (.disk .notFound p.text), fs')
        | .error c => fs'.settleDir cwd p c
    | .error c => fs.settleDir cwd p c

/-- A directory at the path, and all directories above it. -/
def makeDirs (fs : FileSystem) (cwd : Location) (p : Path) : Outcome Unit :=
  if hasNul p then (.error (.value .nulInPath), fs)
  else fs.makeDirsBack cwd p.anchor p.parts.reverse

/-- These bytes in the file at the path, which may be new. -/
def write (fs : FileSystem) (cwd : Location) (p : Path) (b : ByteArray) : Outcome Unit :=
  if hasNul p then (.error (.value .nulInPath), fs)
  else match fs.locate cwd p with
    | .error c => (.error (.disk c p.text), fs)
    | .ok l =>
      match fs.node? l with
      | some .dir => (.error (.disk .isDirectory p.text), fs)
      | _ => (.ok (), fs.writeFile l b)

/-- Writes the text, unless the file has it already; says whether it was written. -/
def writeIfDifferent (fs : FileSystem) (cwd : Location) (p : Path) (text : String) :
    Outcome Bool :=
  match fs.readExact? cwd p with
  | .error e => (.error e, fs)
  | .ok old? =>
    if old? = some text then (.ok false, fs)
    else match fs.write cwd p text.toUTF8 with
      | (.error e, fs') => (.error e, fs')
      | (.ok (), fs') => (.ok true, fs')

end ExtTypes.FileSystem
