import ExtTypes.Declaration.Paths
import ExtTypes.Proofs.FileSystem.Lookup
import ExtTypes.Proofs.Generate.Inputs
import ExtTypes.Proofs.Path.Below
import ExtTypes.Proofs.Path.Extent
import ExtTypes.Proofs.Settings.Obstacle
import ExtTypes.Proofs.Text.Sorted

/-! The union of paths has a row for each bundle and each public file and no other one, whatever the
directory of the build is called. Main statement: `pathsEntry_rows`. -/
namespace ExtTypes

/-! ### Bundles -/

/-- The name of the directory for content scripts. -/
def contentScripts : Name := ⟨"content-scripts", by decide⟩

theorem isName_append {name ext : String} (hname : '/' ∉ name.toList)
    (hext : ext = ".html" ∨ ext = ".js") : IsName (name ++ ext) := by
  have hlen : 2 < ext.toList.length := by rcases hext with rfl | rfl <;> decide
  have hs : '/' ∉ ext.toList := by rcases hext with rfl | rfl <;> decide
  have hlist : name ++ ext = String.ofList (name.toList ++ ext.toList) := by simp
  rw [hlist]
  refine isName_ofList ?_ ?_
  · rw [List.length_append]
    omega
  · rw [List.mem_append]
    exact fun h => h.elim hname hs

namespace Entrypoint

/-- The ending of an entrypoint's bundle: a page stays a page, in whatever case its ending is. -/
def ending (e : Entrypoint) : String :=
  if e.inputPath.suffix.toList.map Char.toLower = ".html".toList then ".html" else ".js"

theorem ending_eq (e : Entrypoint) : e.ending = if e.isHtml then ".html" else ".js" := by
  have hiff : e.inputPath.suffix.toList.map Char.toLower = ".html".toList ↔
      e.isHtml = true := by
    rw [isHtml, plainSuffix, decide_eq_true_eq, ← String.toList_inj]
    simp only [String.toList_ofList]
  unfold ending
  exact if_congr hiff rfl rfl

/-- Where the bundle of an entrypoint goes, from the directory of the build. -/
def bundleText (e : Entrypoint) : String :=
  (if e.kind = .contentScript then "content-scripts/" else "") ++ (e.name ++ e.ending)

theorem ending_cases (e : Entrypoint) : e.ending = ".html" ∨ e.ending = ".js" := by
  unfold ending
  split
  · exact .inl rfl
  · exact .inr rfl

theorem slash_notMem_contentName {name : String} (h : '/' ∉ name.toList) :
    '/' ∉ (contentName name).toList := by
  unfold contentName
  split
  · rw [String.toList_ofList]
    exact fun hm => h (List.mem_of_mem_take hm)
  · exact h

/-- No kind is found for content scripts by the name alone. -/
theorem kind_ne_contentScript (name : String) {other : EntrypointKind}
    (h : other ≠ .contentScript) :
    (EntrypointKind.ofName? name).getD other ≠ .contentScript := by
  cases hkind : EntrypointKind.ofName? name with
  | none => exact h
  | some k =>
    rintro rfl
    exact absurd (List.mem_of_find?_eq_some hkind) (by decide)

/-- Where an entrypoint's bundle goes in a build in the directory `out`: content scripts have a
directory of their own. -/
structure IsBuiltIn (out : Path) (e : Entrypoint) : Prop where
  name : '/' ∉ e.name.toList
  outputDir : e.outputDir = if e.kind = .contentScript then out.below [contentScripts] else out

theorem isBuiltIn_ofName {name : String} (h : '/' ∉ name.toList) (input out : Path) :
    IsBuiltIn out (ofName name input out) := by
  have hchild : out.child "content-scripts" = out.below [contentScripts] :=
    out.child_val contentScripts
  have hother (c : Prop) [Decidable c] :
      (if c then EntrypointKind.unlistedPage else .unlistedScript) ≠ .contentScript := by
    split <;> decide
  unfold ofName
  split
  · exact ⟨slash_notMem_contentName h, hchild⟩
  · exact ⟨h, (if_neg (kind_ne_contentScript name (hother _))).symm⟩

theorem IsBuiltIn.bundlePath {out : Path} {e : Entrypoint} (h : IsBuiltIn out e)
    (hout : out.isAbsolute) : e.bundlePath out e.ending = slashed e.bundleText := by
  have hname := isName_append h.name e.ending_cases
  have hchild := Path.child_val e.outputDir ⟨e.name ++ e.ending, hname⟩
  rw [Entrypoint.bundlePath, hchild, h.outputDir, bundleText]
  split
  · rw [Path.below_below, Path.relativeText_below hout (by simp)]
    exact congrArg slashed (Text.joinText_pair "/" "content-scripts" _)
  · rw [Path.relativeText_below hout (by simp), String.empty_append]
    exact congrArg slashed (Text.joinText_singleton "/" _)

theorem slash_notMem_stem (l : Location) (n : Name) :
    '/' ∉ (Location.path (l ++ [n])).stem.toList := by
  have hlast : (Location.path (l ++ [n])).lastName = n.val := by
    simp [Path.lastName, Location.path, Part.text]
  intro h
  rw [Path.stem, String.toList_ofList, hlast] at h
  refine n.property.2.2.2 ?_
  rw [← cutSuffix_append n.val.toList]
  exact List.mem_append_left _ h

/-- The entrypoints in a directory are what the names in it stand for. -/
theorem mem_of_inDir {files : FileSystem} {l : Location} {out : Path} {es : List Entrypoint}
    (h : inDir files l out = .ok es) {e : Entrypoint} :
    e ∈ es ↔ ∃ n ∈ files.children l, ofChild? files l out n = .ok (some e) := by
  obtain ⟨found, hfound, hes⟩ := bind_eq_ok_iff.mp h
  obtain rfl := Except.ok.inj hes
  rw [List.mem_mergeSort, List.mem_filterMap]
  simp only [id, exists_eq_right, mem_of_mapM_eq_ok hfound, List.mem_mergeSort]

theorem exists_inDir {files : FileSystem} {l : Location} (out : Path)
    (h : ∀ n ∈ files.children l, ∃ e?, ofChild? files l out n = .ok e?) :
    ∃ es, inDir files l out = .ok es := by
  obtain ⟨found, hfound⟩ := exists_mapM_eq_ok fun n hn => h n (List.mem_mergeSort.mp hn)
  exact ⟨_, bind_eq_ok_iff.mpr ⟨found, hfound, rfl⟩⟩

theorem ofChild?_of_dir {files : FileSystem} {l : Location} {n : Name} (out : Path)
    (h : files.pathIsDir [] (Location.path (l ++ [n])) = .ok true) :
    ofChild? files l out n =
      (indexFile? files (l ++ [n])).map (Option.map fun input => ofName n.val input out) := by
  unfold ofChild?
  dsimp only
  rw [h]
  cases indexFile? files (l ++ [n]) <;> rfl

theorem ofChild?_of_not_dir {files : FileSystem} {l : Location} {n : Name} (out : Path)
    (h : files.pathIsDir [] (Location.path (l ++ [n])) = .ok false) :
    ofChild? files l out n =
      .ok (if plainSuffix (Location.path (l ++ [n])) ∈ entrypointSuffixes then
        some (ofName (Location.path (l ++ [n])).stem (Location.path (l ++ [n])) out) else none) := by
  unfold ofChild?
  dsimp only
  rw [h]
  by_cases hs : plainSuffix (Location.path (l ++ [n])) ∈ entrypointSuffixes
  · simp only [hs, if_true]
    rfl
  · simp only [hs, if_false]
    rfl

theorem isBuiltIn_of_ofChild? {files : FileSystem} {l : Location} {out : Path} {n : Name}
    {e : Entrypoint} (h : ofChild? files l out n = .ok (some e)) : IsBuiltIn out e := by
  obtain ⟨isDir, hisDir, -⟩ := bind_eq_ok_iff.mp h
  -- a directory is called by its own name, a file by its name without the ending
  cases isDir with
  | true =>
    rw [ofChild?_of_dir out hisDir] at h
    obtain ⟨input?, -, h⟩ := map_eq_ok_iff.mp h
    obtain ⟨input, -, rfl⟩ := Option.map_eq_some_iff.mp h
    exact isBuiltIn_ofName n.property.2.2.2 input out
  | false =>
    rw [ofChild?_of_not_dir out hisDir, Except.ok.injEq, Option.ite_none_right_eq_some] at h
    obtain ⟨-, h⟩ := h
    rw [← Option.some.inj h]
    exact isBuiltIn_ofName (slash_notMem_stem _ n) _ out

theorem isBuiltIn_of_discover {files : FileSystem} {s : Settings} {es : List Entrypoint}
    (h : discover files s = .ok es) : ∀ e ∈ es, IsBuiltIn s.outDir e := by
  obtain ⟨isDir, -, h⟩ := bind_eq_ok_iff.mp h
  cases isDir with
  | true =>
    intro e he
    obtain ⟨n, -, hchild⟩ := (mem_of_inDir h).mp he
    exact isBuiltIn_of_ofChild? hchild
  | false =>
    cases h
    exact fun e he => absurd he List.not_mem_nil

end Entrypoint

namespace Declaration

open FileSystem (Lists Refused)
open Generate (longName)

/-! ### Rows -/

theorem mem_dedupSorted {a : String} {s : List String} : a ∈ dedupSorted s ↔ a ∈ s := by
  fun_induction dedupSorted s with
  | case1 b s ih => simp [ih]
  | case2 b c s hne ih => rw [List.mem_cons, ih, ← List.mem_cons]
  | case3 => rfl

theorem pairwise_dedupSorted {s : List String} (h : s.Pairwise (· ≤ ·)) :
    (dedupSorted s).Pairwise (· < ·) := by
  fun_induction dedupSorted s with
  | case1 b s ih => exact ih h.of_cons
  | case2 b c s hne ih =>
    obtain ⟨hb, hs⟩ := List.pairwise_cons.mp h
    refine List.pairwise_cons.mpr ⟨fun a ha => ?_, ih hs⟩
    -- `b` is below the next text, and all others are not below that one
    have hbc : b < c := Std.lt_of_le_of_ne (hb c List.mem_cons_self) hne
    rcases List.mem_cons.mp (mem_dedupSorted.mp ha) with rfl | ha
    · exact hbc
    · exact Std.lt_of_lt_of_le hbc (List.rel_of_pairwise_cons hs ha)
  | case3 s hs =>
    rcases s with _ | ⟨a, _ | ⟨b, s⟩⟩
    · exact .nil
    · exact List.pairwise_singleton _ a
    · exact absurd rfl (hs a b s)

theorem mem_sortedSet {a : String} {s : List String} : a ∈ sortedSet s ↔ a ∈ s := by
  rw [sortedSet, mem_dedupSorted, List.mem_mergeSort]

theorem pairwise_sortedSet (s : List String) : (sortedSet s).Pairwise (· < ·) := by
  exact pairwise_dedupSorted (List.pairwise_mergeSort' (· ≤ ·) s)

theorem pathRows_eq {paths : List String} (h : paths ≠ []) :
    pathRows paths = sortedSet (paths.map pathRow) := by
  unfold pathRows
  split
  · next hnil =>
    obtain ⟨p, rest, rfl⟩ := List.exists_cons_of_ne_nil h
    have hmem : pathRow p ∈ sortedSet ((p :: rest).map pathRow) :=
      mem_sortedSet.mpr List.mem_cons_self
    rw [hnil] at hmem
    cases hmem
  · rfl

theorem pathRows_nil : pathRows [] = ["    | never"] := by
  simp [pathRows, sortedSet, dedupSorted]

theorem mem_pathRows {row : String} {paths : List String} : row ∈ pathRows paths ↔
    (∃ p ∈ paths, row = pathRow p) ∨ paths = [] ∧ row = "    | never" := by
  by_cases h : paths = []
  · subst h
    simp only [pathRows_nil, List.mem_singleton, List.not_mem_nil, false_and, exists_false,
      true_and, false_or]
  · rw [pathRows_eq h, mem_sortedSet, List.mem_map]
    simp only [h, false_and, or_false, eq_comm]

theorem pairwise_pathRows (paths : List String) : (pathRows paths).Pairwise (· < ·) := by
  by_cases h : paths = []
  · rw [h, pathRows_nil]
    exact List.pairwise_singleton _ _
  · rw [pathRows_eq h]
    exact pairwise_sortedSet _

/-- The row for no path is the row of no path. -/
theorem pathRow_ne_never (p : String) : pathRow p ≠ "    | never" := by
  intro h
  have hrow : (pathRow p).toList = "    | \"/".toList ++ ((slashed p).toList ++ "\"".toList) := by
    unfold pathRow
    simp only [String.toList_append, List.append_assoc]
  -- the two rows already differ in what comes after the bar
  have hchar : (pathRow p).toList[6]? = some '"' := by
    rw [hrow, List.getElem?_append_left (by decide)]
    rfl
  rw [h] at hchar
  exact absurd hchar (by decide)

theorem pathRows_eq_never {paths : List String} : pathRows paths = ["    | never"] ↔ paths = [] := by
  constructor
  · intro h
    refine List.eq_nil_iff_forall_not_mem.mpr fun p hp => ?_
    have hrow : pathRow p ∈ pathRows paths := mem_pathRows.mpr (.inl ⟨p, hp, rfl⟩)
    rw [h, List.mem_singleton] at hrow
    exact pathRow_ne_never p hrow
  · rintro rfl
    exact pathRows_nil

/-! ### Listed paths -/

/-- Whether a path is to be listed: that of a bundle, or the names of a public file with slashes
between them. -/
inductive IsListed (files : FileSystem) (s : Settings) (es : List Entrypoint) : String → Prop
  | bundle {e : Entrypoint} (h : e ∈ es) : IsListed files s es e.bundleText
  | file {names : List Name} (hne : names ≠ []) (h : files.HasFile (s.publicDir ++ names)) :
      IsListed files s es ("/".intercalate (names.map Subtype.val))

variable {files : FileSystem} {s : Settings} {es : List Entrypoint}

theorem bundlePaths_eq (h : ∀ e ∈ es, e.IsBuiltIn s.outDir) :
    bundlePaths s es = es.map fun e => slashed e.bundleText := by
  have hout : s.outDir.isAbsolute := Path.isAbsolute_child rfl _
  refine List.map_congr_left fun e he => ?_
  rw [← (h e he).bundlePath hout, Entrypoint.ending_eq]

theorem pathRow_slashed (p : String) : pathRow (slashed p) = pathRow p := by
  rw [pathRow, pathRow, slashed_slashed]

theorem isListed_of_child {n : Name} {p : String}
    (hes : Entrypoint.inDir files s.entrypointsDir s.outDir = .ok es)
    (hn : n ∈ files.children s.entrypointsDir)
    (hp : (Entrypoint.ofChild? files s.entrypointsDir s.outDir n).map
      (Option.map Entrypoint.bundleText) = .ok (some p)) : IsListed files s es p := by
  obtain ⟨e?, he, hsome⟩ := map_eq_ok_iff.mp hp
  obtain ⟨e, rfl, rfl⟩ := Option.map_eq_some_iff.mp hsome
  exact .bundle ((Entrypoint.mem_of_inDir hes).mpr ⟨n, hn, he⟩)

theorem publicPaths_eq_error (hnul : FileSystem.hasNul s.publicDir.path = false)
    (h : files.Refused s.publicDir) :
    publicPaths files s es = .error (.disk .nameTooLong s.publicDir.text) := by
  rw [publicPaths, (FileSystem.mem_publicFiles hnul).1 h]
  rfl

/-- Where all directories can be listed, so can all files. -/
theorem lists_iff {l : Location} (hdirs : ∀ names, files.node? (l ++ names) = some .dir →
      FileSystem.fits (Location.path (l ++ names)) = true) {names : List Name} :
    files.Lists l names ↔ names ≠ [] ∧ files.HasFile (l ++ names) := by
  refine ⟨fun h => ⟨h.1, h.2.1⟩, fun ⟨hne, hfile⟩ => ⟨hne, hfile, hdirs _ ?_⟩⟩
  obtain ⟨b, hb⟩ := hfile
  rw [← List.dropLast_append_of_ne_nil hne]
  exact (FileSystem.parent_of_file hb).2

theorem publicPaths_eq_ok (hnul : FileSystem.hasNul s.publicDir.path = false)
    (h : ¬ files.Refused s.publicDir) (hdirs : ∀ names, files.node? (s.publicDir ++ names) =
      some .dir → FileSystem.fits (Location.path (s.publicDir ++ names)) = true)
    (hbuilt : ∀ e ∈ es, e.IsBuiltIn s.outDir) :
    ∃ paths, publicPaths files s es = .ok paths ∧
      (∀ row, (∃ p ∈ paths, row = pathRow p) ↔ ∃ p, IsListed files s es p ∧ row = pathRow p) ∧
      (paths = [] ↔
        es = [] ∧ ¬ ∃ names, names ≠ [] ∧ files.HasFile (s.publicDir ++ names)) := by
  obtain ⟨ps, hps, hmem⟩ := (FileSystem.mem_publicFiles hnul).2 h
  simp only [lists_iff hdirs] at hmem
  have hshown {names : List Name} (hne : names ≠ []) :
      slashed (Path.text ⟨.relative, names.map .name⟩) =
        slashed ("/".intercalate (names.map Subtype.val)) := by
    rw [Path.text_names hne, Text.joinText_eq_intercalate]
  refine ⟨bundlePaths s es ++ ps, by rw [publicPaths, hps]; rfl, fun row => ?_, ?_⟩
  · rw [bundlePaths_eq hbuilt]
    constructor
    · rintro ⟨p, hp, rfl⟩
      rcases List.mem_append.mp hp with hp | hp
      · obtain ⟨e, he, rfl⟩ := List.mem_map.mp hp
        exact ⟨_, .bundle he, pathRow_slashed _⟩
      · obtain ⟨names, ⟨hne, hfile⟩, rfl⟩ := (hmem p).mp hp
        rw [hshown hne]
        exact ⟨_, .file hne hfile, pathRow_slashed _⟩
    · rintro ⟨p, hp, rfl⟩
      cases hp with
      | @bundle e he =>
        exact ⟨_, List.mem_append_left ps (List.mem_map.mpr ⟨e, he, rfl⟩), (pathRow_slashed _).symm⟩
      | @file names hne hfile =>
        refine ⟨_, List.mem_append_right _ ((hmem _).mpr ⟨names, ⟨hne, hfile⟩, rfl⟩), ?_⟩
        rw [hshown hne, pathRow_slashed]
  · have hps : ps = [] ↔ ¬ ∃ names, names ≠ [] ∧ files.HasFile (s.publicDir ++ names) := by
      rw [List.eq_nil_iff_forall_not_mem]
      constructor
      · rintro hnone ⟨names, hnames⟩
        exact hnone _ ((hmem _).mpr ⟨names, hnames, rfl⟩)
      · rintro hnone p hp
        obtain ⟨names, hnames, -⟩ := (hmem p).mp hp
        exact hnone ⟨names, hnames⟩
    rw [List.append_eq_nil_iff, hps, bundlePaths, List.map_eq_nil_iff]

/-- The declaration has a row for each bundle and each public file, and no other one, in order; only
where there is neither of them, it says so. It fails exactly where the system refuses to look for the
public directory. Nothing is said of directories in it that have too long a path to be listed. -/
theorem pathsEntry_rows {links : Links} {root : Path} {config : Value}
    (hlinks : ∀ k ∈ links, FileSystem.hasNul k.2.path = false)
    (h : Settings.resolve links root config = .ok s)
    (hes : Entrypoint.discover files s = .ok es) :
    (files.Refused s.publicDir →
      pathsEntry files s es = .error (.disk .nameTooLong s.publicDir.text)) ∧
    (¬ files.Refused s.publicDir →
      (∀ names, files.node? (s.publicDir ++ names) = some .dir →
        FileSystem.fits (Location.path (s.publicDir ++ names)) = true) →
      ∃ rows : List String,
        pathsEntry files s es = .ok ⟨"types/paths.d.ts", String.join
          ((["// Generated by wxt", "import \"wxt/browser\";", "",
            "declare module \"wxt/browser\" \x7b", "  export type PublicPath ="] ++ rows ++
            ["  type HtmlPublicPath = Extract<PublicPath, `$\x7bstring\x7d.html`>",
              "  export interface WxtRuntime extends Runtime.Static \x7b",
              "    getURL(path: PublicPath): string;",
              "    getURL(path: `$\x7bHtmlPublicPath\x7d$\x7bstring\x7d`): string;", "  \x7d",
              "\x7d"]).map (· ++ "\n")), true⟩ ∧
        rows.Pairwise (· < ·) ∧
        (∀ row, row ∈ rows ↔
          (∃ p, IsListed files s es p ∧ row = "    | \"/" ++
            String.ofList (p.toList.map fun c => if c = '\\' then '/' else c) ++ "\"") ∨
          (¬ ∃ p, IsListed files s es p) ∧ row = "    | never") ∧
        (rows = ["    | never"] ↔
          es = [] ∧ ¬ ∃ names, names ≠ [] ∧ files.HasFile (s.publicDir ++ names))) := by
  have hnul := Settings.hasNul_publicDir hlinks h
  constructor
  · intro hrefused
    rw [pathsEntry, publicPaths_eq_error hnul hrefused]
    rfl
  · intro hopen hdirs
    obtain ⟨paths, hpaths, hrows, hnil⟩ :=
      publicPaths_eq_ok hnul hopen hdirs (Entrypoint.isBuiltIn_of_discover hes)
    have hnone : paths = [] ↔ ¬ ∃ p, IsListed files s es p := by
      constructor
      · rintro rfl ⟨p, hp⟩
        obtain ⟨q, hq, -⟩ := (hrows (pathRow p)).mpr ⟨p, hp, rfl⟩
        cases hq
      · refine fun hno => List.eq_nil_iff_forall_not_mem.mpr fun p hp => hno ?_
        obtain ⟨q, hq, -⟩ := (hrows (pathRow p)).mp ⟨p, hp, rfl⟩
        exact ⟨q, hq⟩
    refine ⟨pathRows paths, ?_, pairwise_pathRows paths, fun row => ?_, ?_⟩
    · rw [pathsEntry, hpaths, ← unlines_eq_join]
      rfl
    · rw [mem_pathRows, hrows, hnone]
      rfl
    · rw [← hnil, pathRows_eq_never]

/-- The name of the browser leads out of the directory for builds. -/
def outsideBuild : Settings := { Generate.sample with browser := "../x" }

def pageFile : Name := ⟨"popup.HTML", by decide⟩

def scriptFile : Name := ⟨"a.content.ts", by decide⟩

def iconFile : Name := ⟨"16.png", by decide⟩

/-- A file with a backslash in its name. -/
def slashFile : Name := ⟨"icons\\16.png", by decide⟩

/-- A project with a page, a content script and a public file. -/
def smallProject : FileSystem :=
  let dirs := ((FileSystem.empty.makeDirs [] outsideBuild.entrypointsDir.path).2.makeDirs []
    outsideBuild.publicDir.path).2
  ((dirs.writeFile (outsideBuild.entrypointsDir ++ [pageFile]) .empty).writeFile
    (outsideBuild.entrypointsDir ++ [scriptFile]) .empty).writeFile
      (outsideBuild.publicDir ++ [slashFile]) .empty

theorem pathsEntry_rows_small : ∃ es,
    Settings.resolve [] (.ofString "/project") (.json (.obj [("imports", .bool false),
      ("browser", .str "../x")])) = .ok outsideBuild ∧
      Entrypoint.discover smallProject outsideBuild = .ok es ∧
      pathsEntry smallProject outsideBuild es = .ok ⟨"types/paths.d.ts",
        String.join (["// Generated by wxt", "import \"wxt/browser\";", "",
          "declare module \"wxt/browser\" \x7b", "  export type PublicPath =",
          "    | \"/content-scripts/a.js\"", "    | \"/icons/16.png\"", "    | \"/popup.html\"",
          "  type HtmlPublicPath = Extract<PublicPath, `$\x7bstring\x7d.html`>",
          "  export interface WxtRuntime extends Runtime.Static \x7b",
          "    getURL(path: PublicPath): string;",
          "    getURL(path: `$\x7bHtmlPublicPath\x7d$\x7bstring\x7d`): string;", "  \x7d",
          "\x7d"].map (· ++ "\n")), true⟩ := by
  have hs : Settings.resolve [] (.ofString "/project") (.json (.obj [("imports", .bool false),
      ("browser", .str "../x")])) = .ok outsideBuild := by decide +kernel
  have hdir : smallProject.pathIsDir [] outsideBuild.entrypointsDir.path = .ok true := by
    decide +kernel
  have hopen : ¬ smallProject.Refused outsideBuild.publicDir := by
    rw [FileSystem.refused_iff_locate]
    decide +kernel
  have hdirs : ∀ names ∈ smallProject.dirsBelow outsideBuild.publicDir,
      FileSystem.fits (Location.path (outsideBuild.publicDir ++ names)) = true := by
    decide +kernel
  have hchildren : smallProject.children outsideBuild.entrypointsDir = [pageFile, scriptFile] := by
    decide +kernel
  have hfiles : smallProject.filesBelow outsideBuild.publicDir = [[slashFile]] := by
    decide +kernel
  have hpage : (Entrypoint.ofChild? smallProject outsideBuild.entrypointsDir outsideBuild.outDir
      pageFile).map (Option.map Entrypoint.bundleText) = .ok (some "popup.html") := by
    decide +kernel
  have hscript : (Entrypoint.ofChild? smallProject outsideBuild.entrypointsDir outsideBuild.outDir
      scriptFile).map (Option.map Entrypoint.bundleText) = .ok (some "content-scripts/a.js") := by
    decide +kernel
  obtain ⟨es, hin⟩ : ∃ es, Entrypoint.inDir smallProject outsideBuild.entrypointsDir
      outsideBuild.outDir = .ok es := by
    refine Entrypoint.exists_inDir _ fun n hn => ?_
    rw [hchildren, List.mem_pair] at hn
    rcases hn with rfl | rfl
    · exact (map_eq_ok_iff.mp hpage).imp fun _ h => h.1
    · exact (map_eq_ok_iff.mp hscript).imp fun _ h => h.1
  have hes : Entrypoint.discover smallProject outsideBuild = .ok es :=
    bind_eq_ok_iff.mpr ⟨true, hdir, hin⟩
  have hlisted (p : String) : IsListed smallProject outsideBuild es p ↔
      p = "content-scripts/a.js" ∨ p = "icons\\16.png" ∨ p = "popup.html" := by
    constructor
    · rintro (⟨he⟩ | ⟨hne, hfile⟩)
      · obtain ⟨n, hn, hchild⟩ := (Entrypoint.mem_of_inDir hin).mp he
        rw [hchildren, List.mem_pair] at hn
        rcases hn with rfl | rfl
        · rw [hchild] at hpage
          exact .inr (.inr (Option.some.inj (Except.ok.inj hpage)))
        · rw [hchild] at hscript
          exact .inl (Option.some.inj (Except.ok.inj hscript))
      · have hmem := FileSystem.mem_filesBelow.mpr ⟨hne, hfile⟩
        rw [hfiles, List.mem_singleton] at hmem
        subst hmem
        exact .inr (.inl (by decide +kernel))
    · rintro (rfl | rfl | rfl)
      · exact isListed_of_child hin (by simp [hchildren]) hscript
      · have hmem : [slashFile] ∈ smallProject.filesBelow outsideBuild.publicDir := by
          rw [hfiles, List.mem_singleton]
        obtain ⟨hne, hfile⟩ := FileSystem.mem_filesBelow.mp hmem
        exact IsListed.file hne hfile
      · exact isListed_of_child hin (by simp [hchildren]) hpage
  obtain ⟨rows, hpaths, hsorted, hmem, -⟩ := (pathsEntry_rows (by simp) hs hes).2 hopen
    fun names hnames => hdirs names (FileSystem.mem_dirsBelow.mpr (.inr hnames))
  have hrows : rows = ["    | \"/content-scripts/a.js\"", "    | \"/icons/16.png\"",
      "    | \"/popup.html\""] := by
    refine List.Subset.antisymm_of_pairwise hsorted (by decide +kernel) (fun row hrow => ?_)
      fun row hrow => (hmem row).mpr (.inl ?_)
    · rcases (hmem row).mp hrow with ⟨p, hp, rfl⟩ | ⟨hnone, -⟩
      · rcases (hlisted p).mp hp with rfl | rfl | rfl <;> decide +kernel
      · exact absurd ⟨_, (hlisted _).mpr (.inl rfl)⟩ hnone
    · simp only [List.mem_cons, List.not_mem_nil, or_false] at hrow
      rcases hrow with rfl | rfl | rfl
      · exact ⟨_, (hlisted _).mpr (.inl rfl), by decide +kernel⟩
      · exact ⟨_, (hlisted _).mpr (.inr (.inl rfl)), by decide +kernel⟩
      · exact ⟨_, (hlisted _).mpr (.inr (.inr rfl)), by decide +kernel⟩
  subst hrows
  exact ⟨es, hs, hes, hpaths⟩

/-- Directories in one another, around an empty file. -/
def nest : List Name → Tree
  | [] => .file .empty
  | n :: names => .dir [(n, nest names)]

theorem isProper_nest (names : List Name) : (nest names).IsProper := by
  induction names with
  | nil => exact .file _
  | cons n names ih => exact .dir _ (by simp) (by simpa using ih)

/-- A disk with nothing but directories in one another, and a file in the last of them. -/
def nested : Location → FileSystem
  | [] => FileSystem.empty
  | n :: names => ⟨[(n, nest names)], isProper_nest (n :: names)⟩

theorem find?_nest_self (names : List Name) :
    Tree.find? (some (nest names)) names = some (.file .empty) := by
  induction names with
  | nil => rfl
  | cons n names ih =>
    rw [nest, Tree.find?_dir_cons, Tree.named?, if_pos rfl]
    exact ih

theorem eq_of_find?_nest (names : List Name) {l : List Name} {b : ByteArray}
    (h : (Tree.find? (some (nest names)) l).map Tree.node = some (.file b)) : l = names := by
  induction names generalizing l with
  | nil =>
    cases l with
    | nil => rfl
    | cons m l => cases h
  | cons n names ih =>
    cases l with
    | nil => cases h
    | cons m l =>
      rw [nest, Tree.find?_dir_cons, Tree.named?] at h
      split at h
      · next hm => rw [← (show n = m from hm), ih h]
      · cases h

/-- There is no other file on the disk. -/
theorem hasFile_nested {l t : Location} (h : l ≠ []) : (nested l).HasFile t ↔ t = l := by
  obtain ⟨n, names, rfl⟩ := List.exists_cons_of_ne_nil h
  constructor
  · rintro ⟨b, hb⟩
    exact eq_of_find?_nest (n :: names) hb
  · rintro rfl
    exact ⟨.empty, congrArg (Option.map Tree.node) (find?_nest_self (n :: names))⟩

theorem mem_of_find?_nest {names l : List Name} {n : Name}
    (h : Tree.find? (some (nest names)) (l ++ [n]) ≠ none) : n ∈ names := by
  induction names generalizing l with
  | nil => cases l <;> exact absurd rfl h
  | cons m names ih =>
    cases l with
    | nil =>
      rw [nest, List.nil_append, Tree.find?_dir_cons, Tree.named?] at h
      split at h
      · next hm => exact List.mem_cons.mpr (.inl hm.symm)
      · exact absurd rfl h
    | cons k l =>
      rw [nest, List.cons_append, Tree.find?_dir_cons, Tree.named?] at h
      split at h
      · exact List.mem_cons_of_mem m (ih h)
      · exact absurd rfl h

/-- No other names are on the disk either. -/
theorem mem_of_node?_nested {l t : Location} {n : Name} (hl : l ≠ [])
    (h : (nested l).node? (t ++ [n]) ≠ none) : n ∈ l := by
  obtain ⟨m, names, rfl⟩ := List.exists_cons_of_ne_nil hl
  apply mem_of_find?_nest (l := t)
  intro hnone
  exact h (congrArg (Option.map Tree.node) hnone)

theorem plain_replicate (k : Nat) : '\x00' ∉ (String.ofList (List.replicate k '😀')).toList := by
  rw [String.toList_ofList, List.mem_replicate]
  exact fun h => absurd h.2 (by decide)

/-- A name of 252 bytes. -/
def wideName : Name :=
  ⟨String.ofList (List.replicate 63 '😀'), isName_ofList (by decide) (by decide)⟩

/-- The sample with another name for the public directory. -/
def withPublic (n : Name) : Settings :=
  { Generate.sample with publicDir := Generate.sample.root ++ [n] }

theorem hasNul_withPublic {n : Name} (hn : '\x00' ∉ n.val.toList) :
    FileSystem.hasNul (withPublic n).publicDir.path = false :=
  FileSystem.hasNul_append_names.mpr ⟨by decide, fun _ hm => List.mem_singleton.mp hm ▸ hn⟩

/-- Names that a setting has are read as they are written. -/
theorem resolveDir_names {base : Location} {names : List Name} (hne : names ≠ [])
    (hnul : FileSystem.hasNul (Location.path (base ++ names)) = false) (default : String) :
    Settings.resolveDir [] base
      (some (.scalar (.str (Path.text ⟨.relative, names.map .name⟩)))) default =
        .ok (base ++ names) := by
  have hnonempty : Path.text ⟨.relative, names.map .name⟩ ≠ "" := by
    intro h
    have hparts := congrArg Path.parts (Path.ofString_text ⟨.relative, names.map .name⟩)
    rw [h] at hparts
    exact hne (List.map_eq_nil_iff.mp hparts.symm)
  have htext : View.nonemptyText? (some (.scalar (.str (Path.text ⟨.relative, names.map .name⟩)))) =
      .ok (some (Path.text ⟨.relative, names.map .name⟩)) := by
    show Except.ok ((some _).filter (· ≠ "")) = _
    rw [Option.filter_some, if_pos (by simpa using hnonempty)]
  rw [Settings.resolveDir, htext]
  show FileSystem.resolve [] [] (base.path.child (Path.text ⟨.relative, names.map .name⟩)) = _
  rw [Path.child_text, FileSystem.below_path, FileSystem.resolve_nil [] _ hnul, Path.collapse_path]

theorem resolve_withPublic {n : Name} (hn : '\x00' ∉ n.val.toList) :
    Settings.resolve [] (.ofString "/project") (.json (.obj [("imports", .bool false),
      ("public_dir", .str n.val)])) = .ok (withPublic n) := by
  have hpublic := resolveDir_names (List.cons_ne_nil n []) (hasNul_withPublic hn) "public"
  rw [List.map_singleton, Path.text_name] at hpublic
  exact bind_eq_ok_iff.mpr ⟨Generate.sample.root, rfl, bind_eq_ok_iff.mpr
    ⟨Generate.sample.root, rfl, bind_eq_ok_iff.mpr ⟨_, hpublic, rfl⟩⟩⟩

/-- A public directory with too long a name makes the declaration fail. -/
theorem pathsEntry_refuses : ∃ files s es,
    Settings.resolve [] (.ofString "/project") (.json (.obj [("imports", .bool false),
        ("public_dir", .str longName.val)])) = .ok s ∧
      Entrypoint.discover files s = .ok es ∧ ∀ f, pathsEntry files s es ≠ .ok f := by
  have hnul : '\x00' ∉ longName.val.toList := plain_replicate 64
  have hrefused : (nested (Generate.sample.root ++ [iconFile])).Refused
      (withPublic longName).publicDir :=
    .inr ⟨Generate.sample.root, longName, [], rfl, by decide +kernel, by decide +kernel⟩
  refine ⟨nested (Generate.sample.root ++ [iconFile]), withPublic longName, [],
    resolve_withPublic hnul, by decide +kernel, fun f hf => ?_⟩
  rw [pathsEntry, publicPaths_eq_error (hasNul_withPublic hnul) hrefused] at hf
  cases hf

end Declaration

end ExtTypes
