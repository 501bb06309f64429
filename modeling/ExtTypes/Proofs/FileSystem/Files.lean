import ExtTypes.Proofs.FileSystem.Walk
import ExtTypes.Proofs.Path.Extent

/-! A walk to all files below a directory. It comes to each file once, but for those in directories
that have too long a path. Main statements: `mem_files`, the files that it comes to, and
`publicFiles_eq`, its listing in terms of these. -/
namespace ExtTypes

namespace Tree

variable {es : List (Name × Tree)} {p : Path}

theorem filesIn_eq (p : Path) (es : List (Name × Tree)) : filesIn p es =
    (es.filter isDirEntry).map fun e => (e.1, e.2.files (p.below [e.1])) := by
  induction es with
  | nil => rfl
  | cons e es ih =>
    rw [filesIn, ih]
    cases h : isDirEntry e <;> simp [h]

/-- A file that a walk comes to is the directory's own, or below one of its directories. -/
theorem mem_files_dir {names : List Name} : names ∈ (dir es).files p ↔ FileSystem.fits p = true ∧
    ((∃ e ∈ es, isDirEntry e = false ∧ names = [e.1]) ∨
      ∃ e ∈ es, isDirEntry e = true ∧ ∃ r ∈ e.2.files (p.below [e.1]), names = e.1 :: r) := by
  rw [files]
  split
  · next hfits =>
    rw [and_iff_right hfits, List.mem_append, List.mem_map, List.mem_flatMap, filesIn_eq]
    refine or_congr ?_ ?_
    · constructor
      · rintro ⟨e, he, rfl⟩
        obtain ⟨he, hown⟩ := List.mem_filter.mp he
        exact ⟨e, he, by simpa using hown, rfl⟩
      · rintro ⟨e, he, hown, rfl⟩
        exact ⟨e, List.mem_filter.mpr ⟨he, by simpa using hown⟩, rfl⟩
    · constructor
      · rintro ⟨d, hd, hnames⟩
        obtain ⟨e, he, rfl⟩ := List.mem_map.mp (mem_byName.mp hd)
        obtain ⟨he, hdir⟩ := List.mem_filter.mp he
        obtain ⟨r, hr, rfl⟩ := List.mem_map.mp hnames
        exact ⟨e, he, hdir, r, hr, rfl⟩
      · rintro ⟨e, he, hdir, r, hr, rfl⟩
        exact ⟨_, mem_byName.mpr (List.mem_map_of_mem (List.mem_filter.mpr ⟨he, hdir⟩)),
          List.mem_map_of_mem hr⟩
  · next hlong => simp [hlong]

theorem ne_nil_of_mem_files {t : Tree} {names : List Name} (h : names ∈ t.files p) :
    names ≠ [] := by
  cases t with
  | file b => cases h
  | dir es =>
    obtain ⟨-, ⟨e, -, -, rfl⟩ | ⟨e, -, -, r, -, rfl⟩⟩ := mem_files_dir.mp h
    · exact List.cons_ne_nil _ _
    · exact List.cons_ne_nil _ _

/-- No file is come to twice. -/
theorem nodup_files {t : Tree} (h : t.IsProper) (p : Path) : (t.files p).Nodup := by
  induction h generalizing p with
  | file b => exact .nil
  | dir es hn hes ih =>
    rw [files]
    split
    · have hfirst : ((byName (filesIn p es)).map Prod.fst).Nodup := by
        have hperm : ((byName (filesIn p es)).map Prod.fst).Perm
            ((es.filter isDirEntry).map Prod.fst) := by
          have hdirs : (filesIn p es).map Prod.fst = (es.filter isDirEntry).map Prod.fst := by
            rw [filesIn_eq, List.map_map]
            rfl
          rw [← hdirs]
          exact (List.mergeSort_perm _ _).map Prod.fst
        exact hperm.nodup_iff.mpr (hn.sublist (List.filter_sublist.map Prod.fst))
      -- the first names tell what is in different directories, and what a directory holds itself
      -- has no second name
      refine List.nodup_append.mpr ⟨?_, List.pairwise_flatMap.mpr ⟨fun d hd => ?_, ?_⟩, ?_⟩
      · have hown := hn.sublist ((List.filter_sublist (p := (! isDirEntry ·))).map Prod.fst)
        have hsingle := hown.map (f := fun n : Name => [n]) fun m n h => List.head_eq_of_cons_eq h
        rwa [List.map_map] at hsingle
      · rw [mem_byName, filesIn_eq] at hd
        obtain ⟨e, he, rfl⟩ := List.mem_map.mp hd
        exact (ih e (List.mem_filter.mp he).1 _).map fun r s h => List.tail_eq_of_cons_eq h
      · refine (List.pairwise_map.mp hfirst).imp fun hne r hr s hs hrs => hne ?_
        obtain ⟨r, -, rfl⟩ := List.mem_map.mp hr
        obtain ⟨s, -, rfl⟩ := List.mem_map.mp hs
        exact List.head_eq_of_cons_eq hrs
      · rintro _ hr _ hs rfl
        obtain ⟨e, -, rfl⟩ := List.mem_map.mp hr
        obtain ⟨d, hd, hs⟩ := List.mem_flatMap.mp hs
        rw [mem_byName, filesIn_eq] at hd
        obtain ⟨e', -, rfl⟩ := List.mem_map.mp hd
        obtain ⟨s, hs, heq⟩ := List.mem_map.mp hs
        exact ne_nil_of_mem_files hs (List.tail_eq_of_cons_eq heq)
    · exact .nil

end Tree

namespace FileSystem

variable {fs fs' : FileSystem} {l : Location} {p : Path}

/-- A walk comes to the files that are in directories with a path short enough. -/
theorem mem_files {t : Tree} (h : fs.tree? l = some t) {names : List Name} :
    names ∈ t.files p ↔
      names ≠ [] ∧ fs.HasFile (l ++ names) ∧ fits (p.below names.dropLast) = true := by
  have hproper : t.IsProper := Tree.isProper_find? fs.isProper_root h
  induction hproper generalizing l p names with
  | file b =>
    constructor
    · intro hnames
      cases hnames
    · rintro ⟨hne, ⟨c, hc⟩, -⟩
      have hdir := node?_of_append hne (by rw [hc]; exact Option.some_ne_none _)
      rw [node?, h] at hdir
      cases hdir
  | dir es hn hes ih =>
    have hself : p.below [] = p := by
      show (⟨p.anchor, p.parts ++ []⟩ : Path) = p
      rw [List.append_nil]
    have hchild {e : Name × Tree} (he : e ∈ es) {r : List Name} :
        r ∈ e.2.files (p.below [e.1]) ↔ r ≠ [] ∧ fs.HasFile (l ++ e.1 :: r) ∧
          fits (p.below (e.1 :: r.dropLast)) = true := by
      refine (ih e he (tree?_child h he)).trans ?_
      rw [List.append_cons l e.1 r, below_cons p e.1 r.dropLast]
    rw [Tree.mem_files_dir]
    constructor
    · rintro ⟨hfits, ⟨e, he, hown, rfl⟩ | ⟨e, he, -, r, hr, rfl⟩⟩
      · have hnode : fs.node? (l ++ [e.1]) = some e.2.node := by
          rw [node?, tree?_child h he, Option.map_some]
        refine ⟨List.cons_ne_nil _ _, ?_, hself.symm ▸ hfits⟩
        cases hk : e.2.node with
        | dir => simp [Tree.isDirEntry, hk] at hown
        | file b => exact ⟨b, hnode.trans (congrArg some hk)⟩
      · obtain ⟨hr, hfile, hfits⟩ := (hchild he).mp hr
        rw [List.dropLast_cons_of_ne_nil hr]
        exact ⟨List.cons_ne_nil _ _, hfile, hfits⟩
    · rintro ⟨hne, ⟨b, hb⟩, hfits⟩
      obtain ⟨n, r, rfl⟩ := List.exists_cons_of_ne_nil hne
      refine ⟨fits_above hfits, ?_⟩
      obtain ⟨t, he, ht⟩ := exists_entry h (by rw [hb]; exact Option.some_ne_none _)
      have hnode : fs.node? (l ++ [n]) = some t.node := by rw [node?, ht, Option.map_some]
      by_cases hr : r = []
      · subst hr
        have hfile : t.node = .file b := Option.some.inj (hnode.symm.trans hb)
        exact .inl ⟨(n, t), he, by simp [Tree.isDirEntry, hfile], rfl⟩
      · rw [List.dropLast_cons_of_ne_nil hr] at hfits
        have hdir : t.node = .dir := by
          rw [List.append_cons] at hb
          have hbelow := node?_of_append hr (by rw [hb]; exact Option.some_ne_none _)
          exact Option.some.inj (hnode.symm.trans hbelow)
        exact .inr ⟨(n, t), he, by simp [Tree.isDirEntry, hdir], r,
          (hchild he).mpr ⟨hr, ⟨b, hb⟩, hfits⟩, rfl⟩

/-- The listing shows the files below the directory that are in directories with a path short enough;
without a directory it shows none. -/
theorem publicFiles_eq (fs : FileSystem) (p : Path) : fs.publicFiles p =
    (fs.pathIsDir [] p).map fun isDir =>
      if isDir then (((fs.filesBelow (p.collapse [])).filter fun names =>
        fits (p.below names.dropLast)).map fun names =>
          slashed (Path.text ⟨.relative, names.map .name⟩)).mergeSort fun a b => decide (a ≤ b)
      else [] := by
  rw [publicFiles, dirAt?_eq]
  cases hdir : fs.pathIsDir [] p with
  | error e => rfl
  | ok isDir =>
    cases isDir with
    | false => exact congrArg Except.ok List.mergeSort_nil
    | true =>
      obtain ⟨-, -, hnode⟩ := pathIsDir_eq_true.mp hdir
      obtain ⟨t, ht, -⟩ := Option.map_eq_some_iff.mp hnode
      have hfound : (((some (p.collapse [])).bind fs.tree?).map (Tree.files p)).getD [] =
          t.files p := by
        rw [Option.bind_some, ht, Option.map_some, Option.getD_some]
      have hperm : (t.files p).Perm
          ((fs.filesBelow (p.collapse [])).filter fun names => fits (p.below names.dropLast)) := by
        refine (List.perm_ext_iff_of_nodup ?_ ?_).mpr fun names => ?_
        · exact Tree.nodup_files (Tree.isProper_find? fs.isProper_root ht) p
        · exact (nodup_filesBelow fs _).filter _
        · rw [mem_files ht, List.mem_filter, mem_filesBelow, and_assoc]
          rfl
      refine congrArg Except.ok (mergeSort_texts_eq_of_perm ?_)
      dsimp only
      rw [if_pos rfl, hfound]
      exact hperm.map _

/-- The public files are told by which files are there. -/
theorem publicFiles_congr (hdir : fs.pathIsDir [] p = fs'.pathIsDir [] p)
    (hfile : ∀ r, r ≠ [] →
      (fs.HasFile (p.collapse [] ++ r) ↔ fs'.HasFile (p.collapse [] ++ r))) :
    fs.publicFiles p = fs'.publicFiles p := by
  rw [publicFiles_eq, publicFiles_eq, ← hdir]
  cases fs.pathIsDir [] p with
  | error e => rfl
  | ok isDir =>
    cases isDir with
    | false => rfl
    | true =>
      refine congrArg Except.ok (mergeSort_texts_eq_of_perm (List.Perm.map _ ?_))
      exact filesBelow_filter_perm fun r hr _ => hfile r hr

end FileSystem

end ExtTypes
