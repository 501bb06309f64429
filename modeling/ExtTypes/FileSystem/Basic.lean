import ExtTypes.FileSystem.Tree

/-! A file system without links: a root directory whose tree is proper. Main statements:
`node?_writeFile`, `node?_makeDir` and `node?_remove`, what stands at each location after a change. -/
namespace ExtTypes

structure FileSystem where
  /-- What is in the root. -/
  entries : List (Name × Tree)
  proper : (Tree.dir entries).IsProper

namespace FileSystem

def root (fs : FileSystem) : Tree := .dir fs.entries

def empty : FileSystem := ⟨[], .dir [] (by simp) (by simp)⟩

/-- The tree at a location. -/
def tree? (fs : FileSystem) (l : Location) : Option Tree := Tree.find? (some fs.root) l

/-- What stands at a location. -/
def node? (fs : FileSystem) (l : Location) : Option Node := (fs.tree? l).map Tree.node

@[simp] theorem tree?_nil (fs : FileSystem) : fs.tree? [] = some fs.root := rfl

theorem node?_nil (fs : FileSystem) : fs.node? [] = some .dir := rfl

theorem isProper_root (fs : FileSystem) : ∀ t ∈ some fs.root, t.IsProper := by
  rintro t ⟨⟩
  exact fs.proper

/-- Changes what is at a location other than the root. -/
def alter (fs : FileSystem) (f : Tree.Change) (hf : f.IsProper) : Location → FileSystem
  | [] => fs
  | n :: l =>
    ⟨Tree.alterEntry (Tree.alter f l) n fs.entries,
      Tree.isProper_alterEntry (Tree.isProper_alter hf l) fs.proper⟩

theorem tree?_alter (fs : FileSystem) {f : Tree.Change} (hf : f.IsProper) {l : Location}
    (hl : l ≠ []) (l' : Location) :
    (fs.alter f hf l).tree? l' = Tree.find? (Tree.alter f l (some fs.root)) l' := by
  cases l with
  | nil => exact absurd rfl hl
  | cons n l => rfl

/-- A directory where nothing is. -/
def newDir : Tree.Change
  | none => some (.dir [])
  | some t => some t

/-- A file where no directory is. -/
def newFile (b : ByteArray) : Tree.Change
  | some (.dir es) => some (.dir es)
  | _ => some (.file b)

theorem isProper_newDir : newDir.IsProper := by
  intro t? ht t h
  match t? with
  | none =>
    cases h
    exact .dir [] (by simp) (by simp)
  | some s => exact ht t h

theorem isProper_newFile (b : ByteArray) : (newFile b).IsProper := by
  intro t? ht t h
  match t? with
  | none | some (.file _) =>
    cases h
    exact .file b
  | some (.dir es) => exact ht t h

theorem isProper_none : Tree.Change.IsProper fun _ => none := by
  intro t? _ t h
  cases h

/-- The file system with a new directory, where there is nothing yet in a directory. -/
def makeDir (fs : FileSystem) (l : Location) : FileSystem := fs.alter newDir isProper_newDir l

/-- The file system with these bytes in a file, which is new in a directory or has other bytes
so far. -/
def writeFile (fs : FileSystem) (l : Location) (b : ByteArray) : FileSystem :=
  fs.alter (newFile b) (isProper_newFile b) l

/-- The file system without `l` and what is below it. -/
def remove (fs : FileSystem) (l : Location) : FileSystem :=
  fs.alter (fun _ => none) isProper_none l

theorem tree?_parent {fs : FileSystem} {l : Location} (h : fs.node? l.dropLast = some .dir) :
    ∃ es, Tree.find? (some fs.root) l.dropLast = some (.dir es) := by
  obtain ⟨t, ht, hn⟩ := Option.map_eq_some_iff.mp h
  cases t with
  | file b => cases hn
  | dir es => exact ⟨es, ht⟩

/-- A change shows at its own location. -/
theorem tree?_alter_self {fs : FileSystem} {f : Tree.Change} (hf : f.IsProper) {l : Location}
    (hl : l ≠ []) (hp : fs.node? l.dropLast = some .dir) :
    (fs.alter f hf l).tree? l = f (fs.tree? l) := by
  rw [tree?_alter fs hf hl]
  exact Tree.find?_alter_self fs.isProper_root (.inr (tree?_parent hp))

/-- A change shows nowhere but at its location and below it. -/
theorem node?_alter {fs : FileSystem} {f : Tree.Change} (hf : f.IsProper) {l l' : Location}
    (h : ¬ l <+: l') : (fs.alter f hf l).node? l' = fs.node? l' := by
  cases l with
  | nil => rfl
  | cons n l =>
    rw [node?, tree?_alter fs hf (List.cons_ne_nil n l)]
    exact Tree.node_find?_alter fs.isProper_root h

theorem tree?_append (fs : FileSystem) (l r : Location) :
    fs.tree? (l ++ r) = Tree.find? (fs.tree? l) r := Tree.find?_append _ l r

/-- What stands where after a change at a location in a directory. -/
theorem node?_alter_append {fs : FileSystem} {f : Tree.Change} (hf : f.IsProper) {l : Location}
    (hl : l ≠ []) (hp : fs.node? l.dropLast = some .dir) (r : Location) :
    (fs.alter f hf l).node? (l ++ r) = (Tree.find? (f (fs.tree? l)) r).map Tree.node := by
  rw [node?, tree?_append, tree?_alter_self hf hl hp]

/-- A file that is written has its bytes, and nothing else changes. -/
theorem node?_writeFile {fs : FileSystem} {l : Location} (b : ByteArray) (hl : l ≠ [])
    (hp : fs.node? l.dropLast = some .dir) (hd : fs.node? l ≠ some .dir) (l' : Location) :
    (fs.writeFile l b).node? l' = if l' = l then some (.file b) else fs.node? l' := by
  by_cases h : l <+: l'
  · obtain ⟨r, rfl⟩ := h
    rw [writeFile, node?_alter_append _ hl hp, node?, tree?_append]
    match ht : fs.tree? l, r with
    | some (.dir es), _ => simp [node?, ht, Tree.node] at hd
    | none, [] | none, _ :: _ | some (.file c), [] | some (.file c), _ :: _ =>
      simp [newFile, Tree.node]
  · rw [writeFile, node?_alter _ h, if_neg]
    rintro rfl
    exact h List.prefix_rfl

/-- A new directory is empty, and nothing else changes. -/
theorem node?_makeDir {fs : FileSystem} {l : Location} (hl : l ≠ [])
    (hp : fs.node? l.dropLast = some .dir) (hn : fs.node? l = none) (l' : Location) :
    (fs.makeDir l).node? l' = if l' = l then some .dir else fs.node? l' := by
  by_cases h : l <+: l'
  · obtain ⟨r, rfl⟩ := h
    rw [makeDir, node?_alter_append _ hl hp, node?, tree?_append]
    have ht : fs.tree? l = none := by simpa [node?] using hn
    cases r <;> simp [ht, newDir, Tree.node, Tree.named?]
  · rw [makeDir, node?_alter _ h, if_neg]
    rintro rfl
    exact h List.prefix_rfl

/-- What is removed is gone with all below it, and nothing else changes. -/
theorem node?_remove {fs : FileSystem} {l : Location} (hl : l ≠ [])
    (hp : fs.node? l.dropLast = some .dir) (l' : Location) :
    (fs.remove l).node? l' = if l <+: l' then none else fs.node? l' := by
  by_cases h : l <+: l'
  · obtain ⟨r, rfl⟩ := h
    rw [remove, node?_alter_append _ hl hp]
    simp
  · rw [remove, node?_alter _ h, if_neg h]

/-- The names in the directory `l`, in the order of the listing. -/
def children (fs : FileSystem) (l : Location) : List Name := ((fs.tree? l).map Tree.names).getD []

/-- All places below `l`, as the names that lead to them from there, in the order of the listing. -/
def below (fs : FileSystem) (l : Location) : List (List Name × Node) :=
  ((fs.tree? l).map Tree.places).getD []

theorem mem_below {fs : FileSystem} {l r : Location} {k : Node} :
    (r, k) ∈ fs.below l ↔ r ≠ [] ∧ fs.node? (l ++ r) = some k := by
  rw [below, node?, tree?_append]
  match h : fs.tree? l with
  | none => simp
  | some t => exact Tree.mem_places (Tree.isProper_find? fs.isProper_root h)

/-- The files below `l`. -/
def filesBelow (fs : FileSystem) (l : Location) : List (List Name) :=
  (fs.below l).filterMap fun e =>
    match e.2 with
    | .dir => none
    | .file _ => some e.1

/-- The directory `l` and those below it. -/
def dirsBelow (fs : FileSystem) (l : Location) : List (List Name) :=
  [] :: (fs.below l).filterMap fun e =>
    match e.2 with
    | .dir => some e.1
    | .file _ => none

end FileSystem

end ExtTypes
