import ExtTypes.FileSystem.Walk
import ExtTypes.Proofs.FileSystem.Write
import ExtTypes.Proofs.Text.Sorted

/-! Listing what is below a directory. A listing is sorted, so that it depends on nothing but what
is there. Main statement: `sourceFiles_congr`. -/
namespace ExtTypes

theorem val_le_antisymm {x y : Name} (h : x.val ≤ y.val) (h' : y.val ≤ x.val) : x = y :=
  Subtype.ext (String.le_antisymm h h')

theorem val_lt_of_le {x y : Name} (hle : x.val ≤ y.val) (hne : x ≠ y) : x.val < y.val :=
  Std.lt_of_le_of_ne hle fun h => hne (Subtype.ext h)

/-! ### The order of a walk -/

/-- The order of a walk: the files of a directory, then its directories with all they hold, both by
name. -/
def walkLe : List Name → List Name → Bool
  | [], _ => true
  | _ :: _, [] => false
  | [x], [y] => x.val ≤ y.val
  | [_], _ :: _ :: _ => true
  | _ :: _ :: _, [_] => false
  | x :: s, y :: t => if x = y then walkLe s t else x.val ≤ y.val

/-- Two names first, of which something more follows after both, after one, or after none. -/
theorem walkLe_cons_cons (x y : Name) (s t : List Name) :
    walkLe (x :: s) (y :: t) = true ↔
      if s = [] then t ≠ [] ∨ x.val ≤ y.val
      else t ≠ [] ∧ if x = y then walkLe s t = true else x.val ≤ y.val := by
  cases s with
  | nil => cases t <;> simp [walkLe]
  | cons x' s =>
    cases t with
    | nil => simp [walkLe]
    | cons y' t => by_cases h : x = y <;> simp [walkLe, h]

theorem walkLe_total (s t : List Name) : (walkLe s t || walkLe t s) = true := by
  rw [Bool.or_eq_true]
  induction s generalizing t with
  | nil => simp [walkLe]
  | cons x s ih =>
    cases t with
    | nil => simp [walkLe]
    | cons y t =>
      have hxy := String.le_total x.val y.val
      rw [walkLe_cons_cons, walkLe_cons_cons]
      specialize ih t
      grind

theorem walkLe_antisymm (s t : List Name) (hst : walkLe s t = true) (hts : walkLe t s = true) :
    s = t := by
  induction s generalizing t with
  | nil => cases t <;> simp_all [walkLe]
  | cons x s ih =>
    cases t with
    | nil => simp [walkLe] at hst
    | cons y t =>
      have hxy := val_le_antisymm (x := x) (y := y)
      rw [walkLe_cons_cons] at hst hts
      specialize ih t
      grind

theorem walkLe_trans (s t u : List Name) (hst : walkLe s t = true) (htu : walkLe t u = true) :
    walkLe s u = true := by
  induction s generalizing t u with
  | nil => simp [walkLe]
  | cons x s ih =>
    cases t with
    | nil => simp [walkLe] at hst
    | cons y t =>
      cases u with
      | nil => simp [walkLe] at htu
      | cons z u =>
        have hxyz := String.le_trans (a := x.val) (b := y.val) (c := z.val)
        have hxy := val_le_antisymm (x := x) (y := y)
        rw [walkLe_cons_cons] at hst htu ⊢
        specialize ih t u
        grind

/-! ### What is below a directory -/

namespace Tree

theorem head?_of_mem_placesIn {es : List (Name × Tree)} {l : Location}
    (h : l ∈ (placesIn es).map Prod.fst) : ∃ e ∈ es, l.head? = some e.1 := by
  obtain ⟨⟨l, k⟩, hm, rfl⟩ := List.mem_map.mp h
  obtain ⟨e, he, ⟨rfl, -⟩ | ⟨r, rfl, -⟩⟩ := mem_placesIn.mp hm
  · exact ⟨e, he, rfl⟩
  · exact ⟨e, he, rfl⟩

theorem nodup_placesIn {es : List (Name × Tree)} (hn : (es.map Prod.fst).Nodup)
    (hes : ∀ e ∈ es, e.2.IsProper ∧ (e.2.places.map Prod.fst).Nodup) :
    ((placesIn es).map Prod.fst).Nodup := by
  induction es with
  | nil => simp [placesIn]
  | cons e es ih =>
    obtain ⟨hne, hn⟩ := List.nodup_cons.mp hn
    obtain ⟨hproper, hplaces⟩ := hes e List.mem_cons_self
    have hrest := ih hn fun d hd => hes d (List.mem_cons_of_mem e hd)
    -- what is in another entry starts with another name
    have hother (l : Location) (hl : l ∈ (placesIn es).map Prod.fst) : l.head? ≠ some e.1 := by
      obtain ⟨d, hd, hh⟩ := head?_of_mem_placesIn hl
      rw [hh]
      intro he
      have hde : d.1 = e.1 := Option.some.inj he
      exact hne (hde ▸ List.mem_map_of_mem hd)
    have hown : (e.2.places.map fun d => e.1 :: d.1) =
        (e.2.places.map Prod.fst).map (e.1 :: ·) := by simp
    rw [placesIn, List.map_append, List.map_cons, List.map_map, Function.comp_def, hown,
      List.nodup_append, List.nodup_cons]
    have hbelow : ((e.2.places.map Prod.fst).map (e.1 :: ·)).Nodup :=
      List.Pairwise.map _ (fun a b hab h => hab (List.cons.inj h).2) hplaces
    refine ⟨⟨?_, hbelow⟩, hrest, ?_⟩
    · intro hm
      obtain ⟨r, hr, he⟩ := List.mem_map.mp hm
      obtain ⟨⟨r, k⟩, hk, rfl⟩ := List.mem_map.mp hr
      exact ((mem_places hproper).mp hk).1 (List.cons.inj he).2
    · rintro l hl l' hl' rfl
      apply hother l hl'
      rcases List.mem_cons.mp hl with rfl | hl
      · rfl
      · obtain ⟨r, -, rfl⟩ := List.mem_map.mp hl
        rfl

/-- A listing names no place twice. -/
theorem nodup_places {t : Tree} (h : t.IsProper) : (t.places.map Prod.fst).Nodup := by
  induction h with
  | file b => simp [places]
  | dir es hn hes ih => exact nodup_placesIn hn fun e he => ⟨hes e he, ih e he⟩

end Tree

/-- Whether a walk through sources leaves out what is below these names. -/
def isForeign (names : List Name) : Bool := names.any (·.val = "node_modules")

/-- Whether the file at the end of these names is a source file of the project's own. -/
def isOwnSource (names : List Name) : Bool :=
  match names.getLast? with
  | none => false
  | some n => isSourceFile n && ! isForeign names.dropLast

namespace FileSystem

/-- The source files below `l`, in the order of a walk. -/
def sourceFiles (fs : FileSystem) (l : Location) : List (List Name) :=
  ((fs.filesBelow l).filter isOwnSource).mergeSort walkLe

variable {fs fs' : FileSystem} {l : Location} {p : Path}

theorem nodup_below (fs : FileSystem) (l : Location) : ((fs.below l).map Prod.fst).Nodup := by
  unfold below
  cases h : fs.tree? l with
  | none => simp
  | some t => exact Tree.nodup_places (Tree.isProper_find? fs.isProper_root h)

theorem mem_filesBelow {r : List Name} :
    r ∈ fs.filesBelow l ↔ r ≠ [] ∧ ∃ b, fs.node? (l ++ r) = some (.file b) := by
  unfold filesBelow
  rw [List.mem_filterMap]
  constructor
  · rintro ⟨⟨r', k⟩, hm, h⟩
    obtain ⟨hne, hk⟩ := mem_below.mp hm
    cases k with
    | dir => cases h
    | file b =>
      cases h
      exact ⟨hne, b, hk⟩
  · rintro ⟨hne, b, hk⟩
    exact ⟨(r, .file b), mem_below.mpr ⟨hne, hk⟩, rfl⟩

theorem mem_dirsBelow {r : List Name} :
    r ∈ fs.dirsBelow l ↔ r = [] ∨ fs.node? (l ++ r) = some .dir := by
  unfold dirsBelow
  rw [List.mem_cons, List.mem_filterMap]
  constructor
  · rintro (rfl | ⟨⟨r', k⟩, hm, h⟩)
    · exact .inl rfl
    · obtain ⟨hne, hk⟩ := mem_below.mp hm
      cases k with
      | file b => cases h
      | dir =>
        cases h
        exact .inr hk
  · rintro (rfl | hk)
    · exact .inl rfl
    · by_cases hne : r = []
      · exact .inl hne
      · exact .inr ⟨(r, .dir), mem_below.mpr ⟨hne, hk⟩, rfl⟩

theorem nodup_filesBelow (fs : FileSystem) (l : Location) : (fs.filesBelow l).Nodup := by
  have h := nodup_below fs l
  rw [List.Nodup, List.pairwise_map] at h
  rw [filesBelow, List.Nodup, List.pairwise_filterMap]
  apply h.imp
  rintro ⟨r, k⟩ ⟨r', k'⟩ hne s hs s' hs'
  cases k <;> cases k' <;> simp_all

/-- The names in a directory are those at which something stands. -/
theorem mem_children {n : Name} : n ∈ fs.children l ↔ fs.node? (l ++ [n]) ≠ none := by
  rw [children, node?, tree?_append]
  cases h : fs.tree? l with
  | none => simp
  | some t =>
    cases t with
    | file b => simp [Tree.names]
    | dir es =>
      have hproper : (Tree.dir es).IsProper := Tree.isProper_find? fs.isProper_root h
      rw [Option.map_some, Option.getD_some, Tree.names, List.mem_map, Tree.find?_dir_cons,
        Tree.find?_nil]
      constructor
      · rintro ⟨e, he, rfl⟩
        rw [Tree.named?_of_mem hproper.nodup he]
        exact Option.some_ne_none _
      · intro hne
        obtain ⟨t, ht⟩ := Option.ne_none_iff_exists'.mp fun hn : Tree.named? n es = none =>
          hne (by rw [hn]; rfl)
        exact ⟨(n, t), Tree.mem_of_named? ht, rfl⟩

theorem nodup_children (fs : FileSystem) (l : Location) : (fs.children l).Nodup := by
  unfold children
  cases h : fs.tree? l with
  | none => exact .nil
  | some t =>
    cases t with
    | file b => exact .nil
    | dir es =>
      have hproper : (Tree.dir es).IsProper := Tree.isProper_find? fs.isProper_root h
      exact hproper.nodup

/-- Whether the names lead to a file. -/
def HasFile (fs : FileSystem) (l : Location) : Prop := ∃ b, fs.node? l = some (.file b)

theorem filesBelow_filter_perm {keep : List Name → Bool}
    (h : ∀ r, r ≠ [] → keep r = true → (fs.HasFile (l ++ r) ↔ fs'.HasFile (l ++ r))) :
    ((fs.filesBelow l).filter keep).Perm ((fs'.filesBelow l).filter keep) := by
  refine (List.perm_ext_iff_of_nodup ?_ ?_).mpr fun r => ?_
  · exact (nodup_filesBelow fs l).filter keep
  · exact (nodup_filesBelow fs' l).filter keep
  · simp only [List.mem_filter, mem_filesBelow, and_congr_left_iff, and_congr_right_iff]
    exact fun hk hne => h r hne hk

/-- The source files in a walk are told by which of them are there. -/
theorem sourceFiles_congr
    (h : ∀ r, isOwnSource r = true → (fs.HasFile (l ++ r) ↔ fs'.HasFile (l ++ r))) :
    fs.sourceFiles l = fs'.sourceFiles l := by
  refine mergeSort_eq_of_perm walkLe_trans walkLe_total walkLe_antisymm ?_
  exact filesBelow_filter_perm fun r _ hr => h r hr

theorem mem_sourceFiles {r : List Name} :
    r ∈ fs.sourceFiles l ↔ isOwnSource r = true ∧ fs.HasFile (l ++ r) := by
  have hnil : isOwnSource [] = false := rfl
  rw [sourceFiles, List.mem_mergeSort, List.mem_filter, mem_filesBelow]
  constructor
  · rintro ⟨⟨-, h⟩, hr⟩
    exact ⟨hr, h⟩
  · rintro ⟨hr, h⟩
    refine ⟨⟨?_, h⟩, hr⟩
    rintro rfl
    simp [hnil] at hr

theorem dirAt?_eq (fs : FileSystem) (cwd : Location) (p : Path) : fs.dirAt? cwd p =
    (fs.pathIsDir cwd p).map fun isDir => if isDir then some (p.collapse cwd) else none := by
  unfold dirAt?
  cases h : fs.pathIsDir cwd p with
  | error e => rfl
  | ok isDir =>
    cases isDir with
    | false => rfl
    | true =>
      obtain ⟨-, hl, -⟩ := pathIsDir_eq_true.mp h
      simp [Except.map, hl, Except.toOption]

end FileSystem

end ExtTypes
