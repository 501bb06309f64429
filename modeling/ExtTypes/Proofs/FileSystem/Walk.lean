import ExtTypes.Proofs.FileSystem.Source
import ExtTypes.Proofs.Outcome

/-! A walk through sources gets from directory to directory. It comes to the source files below the
first one in the order of a walk, and fails only at a directory with a path that is too long. Main
statements: `sourceFiles_eq`, one step of the walk, and `sourcePaths_eq_ok`. -/
namespace ExtTypes

theorem walkLe_of_precedes {s t : List Name} (h : Precedes s t) : walkLe s t = true := by
  induction h with
  | files h => exact decide_eq_true (Std.le_of_lt h)
  | deeper x y ht =>
    rw [walkLe_cons_cons, if_pos rfl]
    exact .inl ht
  | dirs h hs ht =>
    rw [walkLe_cons_cons, if_neg hs]
    refine ⟨ht, ?_⟩
    split
    · next hxy => exact absurd h (hxy ▸ String.lt_irrefl _)
    · exact Std.le_of_lt h
  | inside x h ih =>
    have hne := h.ne_nil
    rw [walkLe_cons_cons, if_neg hne.1]
    exact ⟨hne.2, by rw [if_pos rfl]; exact ih⟩

namespace Tree

variable {es : List (Name × Tree)} {e : Name × Tree} {p : Path}

theorem mem_byName {α : Type} {es : List (Name × α)} {e : Name × α} : e ∈ byName es ↔ e ∈ es :=
  List.mem_mergeSort

/-- Entries with different names are in strict order by name. -/
theorem pairwise_byName {α : Type} {es : List (Name × α)} (h : (es.map Prod.fst).Nodup) :
    (byName es).Pairwise fun d e => d.1.val < e.1.val := by
  have hle : (byName es).Pairwise fun d e => decide (d.1.val ≤ e.1.val) = true := by
    apply List.pairwise_mergeSort
    · intro a b c hab hbc
      exact decide_eq_true (String.le_trans (of_decide_eq_true hab) (of_decide_eq_true hbc))
    · intro a b
      simpa using String.le_total a.1.val b.1.val
  have hne : (byName es).Pairwise fun d e => d.1 ≠ e.1 := by
    have hperm : ((byName es).map Prod.fst).Perm (es.map Prod.fst) :=
      (List.mergeSort_perm es _).map Prod.fst
    exact List.pairwise_map.mp (hperm.nodup_iff.mpr h)
  exact (hle.and hne).imp fun ⟨hle, hne⟩ => val_lt_of_le (of_decide_eq_true hle) hne

theorem sourcesIn_eq (p : Path) (es : List (Name × Tree)) : sourcesIn p es =
    (es.filter isEntered).map fun e => (e.1, e.2.sources (p.below [e.1])) := by
  induction es with
  | nil => rfl
  | cons e es ih =>
    rw [sourcesIn, ih]
    cases h : isEntered e <;> simp [h]

theorem byName_sourcesIn (p : Path) (es : List (Name × Tree)) : byName (sourcesIn p es) =
    (byName (es.filter isEntered)).map fun e => (e.1, e.2.sources (p.below [e.1])) := by
  rw [sourcesIn_eq]
  symm
  apply List.map_mergeSort
  intro a _ b _
  rfl

/-- What is found in the directories is joined if all of them can be walked. -/
theorem joinFound_eq_ok {ds : List (Name × Tree)}
    {walk : Name × Tree → Except Failure (List (List Name))}
    {found : Name × Tree → List (List Name)}
    (h : ∀ e ∈ ds, ∀ r, walk e = .ok r → r = found e) {all : List (List Name)} :
    joinFound (ds.map fun e => (e.1, walk e)) = .ok all ↔
      (∀ e ∈ ds, walk e = .ok (found e)) ∧ all = ds.flatMap fun e => (found e).map (e.1 :: ·) := by
  induction ds generalizing all with
  | nil => simp [joinFound, eq_comm]
  | cons e ds ih =>
    obtain ⟨hfirst, hrest⟩ := List.forall_mem_cons.mp h
    rw [List.map_cons, List.forall_mem_cons, List.flatMap_cons]
    cases hwalk : walk e with
    | error f => simp [joinFound]
    | ok r =>
      obtain rfl := hfirst r hwalk
      rw [joinFound, map_eq_ok_iff]
      simp only [ih hrest, true_and]
      constructor
      · rintro ⟨rest, ⟨hall, rfl⟩, rfl⟩
        exact ⟨hall, rfl⟩
      · rintro ⟨hall, rfl⟩
        exact ⟨_, ⟨hall, rfl⟩, rfl⟩

end Tree

namespace FileSystem

variable {fs : FileSystem} {l : Location} {p : Path} {es : List (Name × Tree)}

theorem tree?_child (h : fs.tree? l = some (.dir es)) {e : Name × Tree} (he : e ∈ es) :
    fs.tree? (l ++ [e.1]) = some e.2 := by
  have hproper : (Tree.dir es).IsProper := Tree.isProper_find? fs.isProper_root h
  rw [tree?_append, h, Tree.find?_dir_cons, Tree.find?_nil]
  exact Tree.named?_of_mem hproper.nodup he

/-- The entry of a directory on the way to something below it. -/
theorem exists_entry (h : fs.tree? l = some (.dir es)) {n : Name} {r : List Name}
    (hr : fs.node? (l ++ n :: r) ≠ none) :
    ∃ t, (n, t) ∈ es ∧ fs.tree? (l ++ [n]) = some t := by
  rw [node?, tree?_append, h, Tree.find?_dir_cons] at hr
  cases hn : Tree.named? n es with
  | none => simp [hn] at hr
  | some t =>
    have he := Tree.mem_of_named? hn
    exact ⟨t, he, tree?_child h he⟩

/-- Files in the order of a walk are told by which of them are there. -/
theorem eq_sourceFiles {found : List (List Name)} (hpairwise : found.Pairwise Precedes)
    (hmem : ∀ names, names ∈ found ↔ isOwnSource names = true ∧ fs.HasFile (l ++ names)) :
    found = fs.sourceFiles l := by
  have hwalk := pairwise_sourceFiles fs l
  have hperm : found.Perm (fs.sourceFiles l) := by
    refine (List.perm_ext_iff_of_nodup ?_ ?_).mpr fun names => ?_
    · exact Precedes.nodup hpairwise
    · exact Precedes.nodup hwalk
    · rw [hmem, mem_sourceFiles]
  refine hperm.eq_of_pairwise (fun s t _ _ => walkLe_antisymm s t) ?_ ?_
  · exact hpairwise.imp walkLe_of_precedes
  · exact hwalk.imp walkLe_of_precedes

theorem ne_nil_of_mem_sourceFiles {names : List Name} (h : names ∈ fs.sourceFiles l) :
    names ≠ [] := by
  rintro rfl
  have hown := (mem_sourceFiles.mp h).1
  cases hown

/-- A walk comes to the source files of a directory by name, and then gets into its directories by
name. -/
theorem sourceFiles_eq (h : fs.tree? l = some (.dir es)) : fs.sourceFiles l =
    (Tree.byName (es.filter Tree.isSourceEntry)).map (fun e => [e.1]) ++
      (Tree.byName (es.filter Tree.isEntered)).flatMap fun e =>
        (fs.sourceFiles (l ++ [e.1])).map (e.1 :: ·) := by
  have hproper : (Tree.dir es).IsProper := Tree.isProper_find? fs.isProper_root h
  have hnames (keep : Name × Tree → Bool) : ((es.filter keep).map Prod.fst).Nodup :=
    hproper.nodup.sublist (List.filter_sublist.map Prod.fst)
  symm
  apply eq_sourceFiles
  · refine List.pairwise_append.mpr ⟨?_, List.pairwise_flatMap.mpr ⟨fun e he => ?_, ?_⟩, ?_⟩
    · exact List.pairwise_map.mpr ((Tree.pairwise_byName (hnames _)).imp .files)
    · exact List.pairwise_map.mpr ((pairwise_sourceFiles fs _).imp (.inside e.1))
    · refine (Tree.pairwise_byName (hnames _)).imp fun hlt _ hs _ ht => ?_
      obtain ⟨s, hs', rfl⟩ := List.mem_map.mp hs
      obtain ⟨t, ht', rfl⟩ := List.mem_map.mp ht
      exact .dirs hlt (ne_nil_of_mem_sourceFiles hs') (ne_nil_of_mem_sourceFiles ht')
    · intro _ hs _ ht
      obtain ⟨d, -, rfl⟩ := List.mem_map.mp hs
      obtain ⟨e, -, ht⟩ := List.mem_flatMap.mp ht
      obtain ⟨t, ht', rfl⟩ := List.mem_map.mp ht
      exact .deeper d.1 e.1 (ne_nil_of_mem_sourceFiles ht')
  · intro names
    rw [List.mem_append, List.mem_map, List.mem_flatMap]
    constructor
    · rintro (⟨e, he, rfl⟩ | ⟨e, he, hnames⟩)
      · obtain ⟨he, hsource⟩ := List.mem_filter.mp (Tree.mem_byName.mp he)
        obtain ⟨hfile, hsource⟩ := Bool.and_eq_true_iff.mp hsource
        have hown : isOwnSource [e.1] = isSourceFile e.1 := Bool.and_true _
        refine ⟨hown.trans hsource, ?_⟩
        rw [HasFile, node?, tree?_child h he]
        cases hnode : e.2.node with
        | dir => simp [hnode] at hfile
        | file b => exact ⟨b, congrArg some hnode⟩
      · obtain ⟨he, hentered⟩ := List.mem_filter.mp (Tree.mem_byName.mp he)
        obtain ⟨r, hr, rfl⟩ := List.mem_map.mp hnames
        obtain ⟨hown, hfile⟩ := mem_sourceFiles.mp hr
        rw [isOwnSource_cons e.1 (ne_nil_of_mem_sourceFiles hr), hown, List.append_cons]
        exact ⟨by simpa using (Bool.and_eq_true_iff.mp hentered).2, hfile⟩
    · rintro ⟨hown, b, hb⟩
      cases names with
      | nil => cases hown
      | cons n r =>
        obtain ⟨t, he, ht⟩ := exists_entry h (by rw [hb]; exact Option.some_ne_none _)
        have hnode : fs.node? (l ++ [n]) = some t.node := by rw [node?, ht, Option.map_some]
        by_cases hr : r = []
        · subst hr
          left
          refine ⟨(n, t), Tree.mem_byName.mpr (List.mem_filter.mpr ⟨he, ?_⟩), rfl⟩
          obtain hfile : t.node = .file b := Option.some.inj (hnode.symm.trans hb)
          have hsource : isOwnSource [n] = isSourceFile n := Bool.and_true _
          simp [Tree.isSourceEntry, hfile, ← hsource, hown]
        · right
          rw [isOwnSource_cons n hr, Bool.and_eq_true] at hown
          rw [List.append_cons] at hb
          have hdir : t.node = .dir := by
            have hbelow := node?_of_append hr (by rw [hb]; exact Option.some_ne_none _)
            exact Option.some.inj (hnode.symm.trans hbelow)
          refine ⟨(n, t), Tree.mem_byName.mpr (List.mem_filter.mpr ⟨he, ?_⟩), ?_⟩
          · simpa [Tree.isEntered, hdir] using hown.1
          · exact List.mem_map_of_mem (mem_sourceFiles.mpr ⟨hown.2, b, hb⟩)

/-- The directories on the way of a walk are the first one, and those on the way of the walks below
the entries that it gets into. -/
theorem forall_dirsBelow_iff (h : fs.tree? l = some (.dir es)) {good : List Name → Prop} :
    (∀ d ∈ fs.dirsBelow l, isForeign d = false → good d) ↔ good [] ∧
      ∀ e ∈ Tree.byName (es.filter Tree.isEntered),
        ∀ d ∈ fs.dirsBelow (l ++ [e.1]), isForeign d = false → good (e.1 :: d) := by
  constructor
  · refine fun hall => ⟨hall [] (mem_dirsBelow.mpr (.inl rfl)) rfl, fun e he d hd hforeign => ?_⟩
    obtain ⟨he, hentered⟩ := List.mem_filter.mp (Tree.mem_byName.mp he)
    obtain ⟨hdir, hown⟩ := Bool.and_eq_true_iff.mp hentered
    apply hall
    · rw [mem_dirsBelow, List.append_cons]
      right
      rcases mem_dirsBelow.mp hd with rfl | hd
      · rw [List.append_nil, node?, tree?_child h he]
        exact congrArg some (of_decide_eq_true hdir)
      · exact hd
    · rw [isForeign, List.any_cons, ← isForeign, hforeign, Bool.or_false]
      simpa using hown
  · rintro ⟨hfirst, hall⟩ d hd hforeign
    rcases mem_dirsBelow.mp hd with rfl | hnode
    · exact hfirst
    · cases d with
      | nil => exact hfirst
      | cons n d =>
        obtain ⟨t, he, ht⟩ := exists_entry h (by rw [hnode]; exact Option.some_ne_none _)
        obtain ⟨hown, hforeign⟩ := Bool.or_eq_false_iff.mp hforeign
        rw [List.append_cons] at hnode
        have hdir : fs.node? (l ++ [n]) = some .dir := by
          by_cases hd : d = []
          · rwa [hd, List.append_nil] at hnode
          · exact node?_of_append hd (by rw [hnode]; exact Option.some_ne_none _)
        have hentered : Tree.isEntered (n, t) = true := by
          rw [node?, ht] at hdir
          have hnode : t.node = .dir := Option.some.inj hdir
          simpa [Tree.isEntered, hnode] using hown
        refine hall (n, t) (Tree.mem_byName.mpr (List.mem_filter.mpr ⟨he, hentered⟩)) d ?_ hforeign
        exact mem_dirsBelow.mpr (.inr hnode)

theorem below_cons (p : Path) (n : Name) (d : List Name) :
    p.below (n :: d) = (p.below [n]).below d := by
  show (⟨p.anchor, p.parts ++ .name n :: d.map .name⟩ : Path) =
    ⟨p.anchor, p.parts ++ [.name n] ++ d.map .name⟩
  rw [List.append_cons]

/-- A walk gets through if every directory on the way can be listed. -/
theorem sources_eq_ok {t : Tree} (h : fs.tree? l = some t) {found : List (List Name)} :
    t.sources p = .ok found ↔ t.node = .dir ∧
      (∀ d ∈ fs.dirsBelow l, isForeign d = false → fits (p.below d) = true) ∧
        found = fs.sourceFiles l := by
  have hproper : t.IsProper := Tree.isProper_find? fs.isProper_root h
  induction hproper generalizing l p found with
  | file b => simp [Tree.sources, Tree.node]
  | dir es hn hes ih =>
    have hdir : (Tree.dir es).node = .dir := rfl
    have hself : p.below [] = p := by
      show (⟨p.anchor, p.parts ++ []⟩ : Path) = p
      rw [List.append_nil]
    rw [Tree.sources, and_iff_right hdir, forall_dirsBelow_iff h, hself]
    by_cases hfits : fits p = true
    · let ds := Tree.byName (es.filter Tree.isEntered)
      have hchild : ∀ e ∈ ds, ∀ r, e.2.sources (p.below [e.1]) = .ok r ↔
          (∀ d ∈ fs.dirsBelow (l ++ [e.1]), isForeign d = false →
            fits (p.below (e.1 :: d)) = true) ∧ r = fs.sourceFiles (l ++ [e.1]) := by
        intro e he r
        obtain ⟨he, hentered⟩ := List.mem_filter.mp (Tree.mem_byName.mp he)
        have hnode := of_decide_eq_true (Bool.and_eq_true_iff.mp hentered).1
        refine ((ih e he (tree?_child h he)).trans (and_iff_right hnode)).trans ?_
        refine and_congr_left' (forall₃_congr fun d _ _ => ?_)
        rw [below_cons p e.1 d]
      have hjoin (rest : List (List Name)) :
          Tree.joinFound (ds.map fun e => (e.1, e.2.sources (p.below [e.1]))) = .ok rest ↔
            (∀ e ∈ ds, e.2.sources (p.below [e.1]) = .ok (fs.sourceFiles (l ++ [e.1]))) ∧
              rest = ds.flatMap fun e => (fs.sourceFiles (l ++ [e.1])).map (e.1 :: ·) :=
        Tree.joinFound_eq_ok fun e he r hr => ((hchild e he r).mp hr).2
      have hall := forall₂_congr fun e he =>
        (hchild e he (fs.sourceFiles (l ++ [e.1]))).trans (and_iff_left rfl)
      rw [if_pos hfits, Tree.byName_sourcesIn, map_eq_ok_iff, sourceFiles_eq h, and_iff_right hfits]
      constructor
      · rintro ⟨rest, hrest, rfl⟩
        obtain ⟨hwalked, rfl⟩ := (hjoin rest).mp hrest
        exact ⟨hall.mp hwalked, rfl⟩
      · rintro ⟨hlisted, rfl⟩
        exact ⟨_, (hjoin _).mpr ⟨hall.mpr hlisted, rfl⟩, rfl⟩
    · rw [if_neg hfits]
      constructor
      · intro hf
        cases hf
      · rintro ⟨⟨hf, -⟩, -⟩
        exact absurd hf hfits

/-- A walk fails only at a directory with a path that is too long. -/
theorem sourcePaths_eq_ok {ps : List Path} : fs.sourcePaths p l = .ok ps ↔
    fs.node? l = some .dir ∧
      (∀ d ∈ fs.dirsBelow l, isForeign d = false → fits (p.below d) = true) ∧
        ps = (fs.sourceFiles l).map p.below := by
  unfold sourcePaths
  rw [node?]
  cases h : fs.tree? l with
  | none => simp
  | some t =>
    rw [Option.map_some, Option.some.injEq]
    dsimp only
    rw [map_eq_ok_iff]
    simp only [sources_eq_ok h]
    constructor
    · rintro ⟨_, ⟨hdir, hfits, rfl⟩, rfl⟩
      exact ⟨hdir, hfits, rfl⟩
    · rintro ⟨hdir, hfits, rfl⟩
      exact ⟨_, ⟨hdir, hfits, rfl⟩, rfl⟩

end FileSystem

end ExtTypes
