import ExtTypes.Import.Scanner
import ExtTypes.Proofs.Declaration.Lint
import ExtTypes.Proofs.Generate.Pipeline
import ExtTypes.Proofs.Import.Shadow
import ExtTypes.Proofs.Settings.Resolution
import ExtTypes.Proofs.Text.Sorted
import Mathlib.Data.List.TakeWhile

/-! The names under which imports can be used. None is empty: not in the presets, and not in what a
scan finds. Main statement: `Declaration.declared_names_eq_linted`. -/
namespace ExtTypes

namespace Text

theorem stripBy_eq_nil {p : Char → Bool} {s : List Char} :
    stripBy p s = [] ↔ ∀ c ∈ s, p c = true := by
  unfold stripBy
  rw [List.reverse_eq_nil_iff, List.dropWhile_eq_nil_iff]
  constructor
  · intro h
    apply List.dropWhile_eq_nil_iff.mp
    -- a text that does not start with such a character cannot be made of them
    apply Classical.byContradiction
    intro hne
    have hhead := List.head_dropWhile_not p hne
    have hmem : (s.dropWhile p).head hne ∈ (s.dropWhile p).reverse :=
      List.mem_reverse.mpr (List.head_mem hne)
    rw [h _ hmem] at hhead
    cases hhead
  · intro h c hc
    rw [List.dropWhile_eq_nil_iff.mpr h] at hc
    cases hc

/-- What is left at the end is not dropped. -/
theorem getLast_stripBy {p : Char → Bool} {s : List Char} (h : stripBy p s ≠ []) :
    p ((stripBy p s).getLast h) = false := by
  have hne : (s.dropWhile p).reverse.dropWhile p ≠ [] := by
    intro hnil
    exact h (by simp [stripBy, hnil])
  have hlast : (stripBy p s).getLast h = ((s.dropWhile p).reverse.dropWhile p).head hne := by
    simp [stripBy, List.getLast_reverse]
  rw [hlast]
  exact List.head_dropWhile_not p hne

theorem cutAt?_eq_some {pat s a b : List Char} (h : cutAt? pat s = some (a, b)) :
    s = a ++ (pat ++ b) := by
  induction s generalizing a with
  | nil =>
    by_cases hp : pat = []
    · obtain ⟨rfl, rfl⟩ : [] = a ∧ [] = b := by simpa [cutAt?, hp] using h
      simp [hp]
    · simp [cutAt?, hp] at h
  | cons c s ih =>
    rw [cutAt?] at h
    split at h
    · next hpre =>
      obtain ⟨t, ht⟩ := hpre
      obtain ⟨rfl, rfl⟩ : [] = a ∧ (c :: s).drop pat.length = b := by simpa using h
      rw [← ht, List.drop_left, List.nil_append]
    · obtain ⟨⟨a', b'⟩, hcut, hab⟩ := Option.map_eq_some_iff.mp h
      obtain ⟨rfl, rfl⟩ : c :: a' = a ∧ b' = b := by simpa using hab
      rw [ih hcut, List.cons_append]

end Text

namespace Export

/-- What is found was found at the start of some text. -/
theorem exists_of_mem_findAll {α : Type} {m : List Char → Option (α × List Char)} {lineStart : Bool}
    {skip : Nat} {s : List Char} {a : α} (h : a ∈ findAll m lineStart skip s) :
    ∃ t rest, m t = some (a, rest) := by
  fun_induction findAll m lineStart skip s with
  | case1 => cases h
  | case2 _ skip c s ih => exact ih h
  | case3 lineStart c s b rest hm ih =>
    rcases List.mem_cons.mp h with rfl | h
    · cases lineStart with
      | true => exact ⟨c :: s, rest, by simpa using hm⟩
      | false => simp at hm
    · exact ih h
  | case4 _ c s _ ih => exact ih h

theorem name?_ne_nil {s n rest : List Char} (h : name? s = some (n, rest)) : n ≠ [] := by
  cases s with
  | nil => cases h
  | cons c s =>
    rw [name?] at h
    split at h
    · cases h
      exact List.cons_ne_nil _ _
    · cases h

theorem declaration?_ne_nil {s n rest : List Char} (h : declaration? s = some (n, rest)) :
    n ≠ [] := by
  unfold declaration? at h
  obtain ⟨t, -, h⟩ := Option.bind_eq_some_iff.mp h
  obtain ⟨t, -, h⟩ := Option.bind_eq_some_iff.mp h
  obtain ⟨t, -, h⟩ := Option.bind_eq_some_iff.mp h
  exact name?_ne_nil h

/-- An item that is not blank has text on both sides of its ` as `. -/
theorem itemName?_ne_empty {item : List Char} {name : String} (h : itemName? item = some name) :
    name ≠ "" := by
  unfold itemName? at h
  dsimp only at h
  generalize hpart : Text.strip item = part at h
  split at h
  · cases h
  next hskip =>
  have hne : part ≠ [] := fun hnil => hskip (.inl hnil)
  split at h
  · next before exported hcut =>
    obtain rfl : String.ofList (Text.strip exported) = name := Option.some.inj h
    have hsplit : part = before ++ (" as ".toList ++ exported) := Text.cutAt?_eq_some hcut
    intro hempty
    have hblank : ∀ c ∈ exported, Text.isBlank c = true := by
      apply Text.stripBy_eq_nil.mp
      simpa [Text.strip] using hempty
    -- then the item would end in a blank
    have hlast : Text.isBlank (part.getLast hne) = false := by
      subst hpart
      exact Text.getLast_stripBy hne
    have hmem : part.getLast hne ∈ ' ' :: exported := by
      have hsuffix : ' ' :: exported <:+ part := by
        rw [hsplit]
        exact ⟨before ++ " as".toList, by simp⟩
      obtain ⟨front, hfront⟩ := hsuffix
      have hgl : part.getLast hne = (' ' :: exported).getLast (List.cons_ne_nil _ _) := by
        subst hfront
        rw [List.getLast_append_of_ne_nil]
      rw [hgl]
      exact List.getLast_mem _
    have hspace : Text.isBlank ' ' = true := by decide
    rcases List.mem_cons.mp hmem with hc | hc
    · rw [hc, hspace] at hlast
      cases hlast
    · rw [hblank _ hc] at hlast
      cases hlast
  · obtain rfl : String.ofList part = name := Option.some.inj h
    simpa using hne

theorem name_ne_empty_of_mem {text : List Char} {name : String}
    (h : .named name ∈ exportedSymbols text) : name ≠ "" := by
  unfold exportedSymbols at h
  rcases List.mem_append.mp h with h | h
  · rcases List.mem_append.mp h with h | h
    -- a declaration
    · obtain ⟨n, hn, hname⟩ := List.mem_map.mp h
      obtain ⟨t, rest, hm⟩ := exists_of_mem_findAll hn
      obtain rfl : String.ofList n = name := by simpa using hname
      simpa using declaration?_ne_nil hm
    -- an item of a list
    · obtain ⟨l, -, hl⟩ := List.mem_flatMap.mp h
      unfold listSymbols at hl
      split at hl
      · cases hl
      · obtain ⟨n, hn, hname⟩ := List.mem_map.mp hl
        obtain ⟨item, -, hitem⟩ := List.mem_filterMap.mp hn
        have hne : n ≠ "" := itemName?_ne_empty hitem
        unfold itemSymbol at hname
        split at hname
        · cases hname
        · cases hname
          exact hne
  -- the default export has no name of its own
  · split at h <;> simp at h

end Export

namespace Import

theorem exposed_ne_empty {i : Import} (h : i.name ≠ "") : i.exposed ≠ "" := by
  unfold exposed
  split
  · split
    · exact h
    · assumption
  · exact h

end Import

/-- A default export exposes the name of its file, or its own name if the file has none. -/
theorem exposed_ne_empty_of_mem_importsOf {path : Path} {text : String} {i : Import}
    (h : i ∈ importsOf path text) : i.exposed ≠ "" := by
  obtain ⟨symbol, hsymbol, rfl⟩ := List.mem_map.mp h
  apply Import.exposed_ne_empty
  cases symbol with
  | named name => exact Export.name_ne_empty_of_mem hsymbol
  | standard =>
    have hdefault : "default" ≠ "" := by decide
    exact hdefault

namespace Scanner

variable {files : FileSystem} {is : List Import} {i : Import} {σ τ : Log.State}

/-- The import was found in the text of some file. -/
def Sourced (i : Import) : Prop := ∃ path text, i ∈ importsOf path text

theorem sourced_of_scanFile {p : Path} (h : scanFile files p = .ok is) : ∀ i ∈ is, Sourced i := by
  unfold scanFile at h
  cases ht : files.readText [] p with
  | error e =>
    rw [ht] at h
    cases h
  | ok text =>
    rw [ht] at h
    cases h
    exact fun i hi => ⟨p, text, hi⟩

theorem sourced_of_scanFiles {ps : List Path} (h : scanFiles files ps = .ok is) :
    ∀ i ∈ is, Sourced i := by
  induction ps generalizing is with
  | nil =>
    cases h
    simp
  | cons p ps ih =>
    rw [scanFiles] at h
    cases hfirst : scanFile files p with
    | error e => simp [hfirst] at h
    | ok js =>
      cases hrest : scanFiles files ps with
      | error e => simp [hfirst, hrest, Except.map] at h
      | ok ks =>
        obtain rfl : js ++ ks = is := by simpa [hfirst, hrest, Except.map] using h
        intro i hi
        rcases List.mem_append.mp hi with hi | hi
        · exact sourced_of_scanFile hfirst i hi
        · exact ih hrest i hi

theorem sourced_of_scanDir {base : Path} (h : scanDir base σ = (.ok is, τ)) :
    ∀ i ∈ is, Sourced i := by
  obtain ⟨l?, σ₁, -, h⟩ := Action.bind_eq_ok.mp h
  cases l? with
  | none =>
    obtain ⟨-, σ₂, -, h⟩ := Action.bind_eq_ok.mp h
    cases h
    simp
  | some l =>
    obtain ⟨h, -⟩ := Action.look_eq_ok.mp h
    unfold scanBelow at h
    cases hp : σ₁.files.sourcePaths base l with
    | error e => simp [hp] at h
    | ok ps =>
      rw [hp] at h
      exact sourced_of_scanFiles h

theorem sourced_of_scanDirs {source : Path} {ds : List String}
    (h : scanDirs source ds σ = (.ok is, τ)) : ∀ i ∈ is, Sourced i := by
  induction ds generalizing is σ with
  | nil =>
    cases h
    simp
  | cons d ds ih =>
    obtain ⟨found, σ₁, hfound, h⟩ := Action.bind_eq_ok.mp h
    obtain ⟨rest, σ₂, hrest, h⟩ := Action.bind_eq_ok.mp h
    cases h
    intro i hi
    rcases List.mem_append.mp hi with hi | hi
    · exact sourced_of_scanDir hfound i hi
    · exact ih hrest i hi

/-- All that a scan finds comes from files. -/
theorem sourced_of_scan {sc sc' : Scanner} {source : Path} {ds : List String}
    (h : (sc.scan source ds σ).1 = .ok sc') : ∀ i ∈ sc'.scanned, Sourced i := by
  have hscan : sc.scan source ds σ = (.ok sc', (sc.scan source ds σ).2) := Prod.ext h rfl
  obtain ⟨isDir, σ₁, -, hscan⟩ := Action.bind_eq_ok.mp hscan
  cases isDir with
  | false => cases hscan
  | true =>
    obtain ⟨found, σ₂, hfound, hscan⟩ := Action.bind_eq_ok.mp hscan
    obtain ⟨-, σ₃, -, hscan⟩ := Action.bind_eq_ok.mp hscan
    obtain ⟨hsc, -⟩ := Prod.mk.inj hscan
    obtain rfl : { sc with scanned := found } = sc' := Except.ok.inj hsc
    exact sourced_of_scanDirs hfound

/-- The scanners that come of these presets after any scans, each in a state of its own. A scan that
fails leaves the scanner as it is. -/
inductive Reached (presets : List Import) : Scanner → Prop
  | start : Reached presets ⟨presets, []⟩
  | scan {sc sc' : Scanner} {source : Path} {ds : List String} {σ : Log.State}
      (before : Reached presets sc) (found : (sc.scan source ds σ).1 = .ok sc') :
      Reached presets sc'

theorem Reached.spec {presets : List Import} {sc : Scanner} (h : Reached presets sc) :
    sc.presets = presets ∧ ∀ i ∈ sc.scanned, Sourced i := by
  induction h with
  | start => simp
  | scan before found ih =>
    have hpresets := scan_presets (Prod.ext found rfl)
    refine ⟨?_, sourced_of_scan found⟩
    rw [hpresets]
    exact ih.1

end Scanner

namespace Scanner

/-- What a scanner knows has names that are all different. -/
theorem nodup_exposed_sifted (sc : Scanner) : (sc.sifted.1.map Import.exposed).Nodup := by
  obtain ⟨kept, lost, hshadow, hsift⟩ := Import.exists_shadowing (sc.presets ++ sc.scanned)
  rw [sifted, hsift, List.map_map]
  exact hshadow.distinct

theorem mem_exposed_sifted {sc : Scanner} {n : String} :
    n ∈ sc.sifted.1.map Import.exposed ↔ ∃ i ∈ sc.presets ++ sc.scanned, i.exposed = n := by
  obtain ⟨kept, lost, hshadow, hsift⟩ := Import.exists_shadowing (sc.presets ++ sc.scanned)
  rw [sifted, hsift, List.map_map, List.mem_map, ← hshadow.exposed_iff]
  rfl

theorem Reached.exposed_ne_empty {presets : List Import} {sc : Scanner} {n : String}
    (h : Reached presets sc) (hpresets : ∀ i ∈ presets, i.name ≠ "")
    (hn : n ∈ sc.sifted.1.map Import.exposed) : n ≠ "" := by
  obtain ⟨hp, hscanned⟩ := h.spec
  obtain ⟨i, hi, rfl⟩ := mem_exposed_sifted.mp hn
  rcases List.mem_append.mp hi with hi | hi
  · rw [hp] at hi
    exact Import.exposed_ne_empty (hpresets i hi)
  · obtain ⟨path, text, hmem⟩ := hscanned i hi
    exact exposed_ne_empty_of_mem_importsOf hmem

end Scanner

namespace Declaration

/-- Imports in the order of their names expose these names in order. -/
theorem map_exposed_mergeSort (is : List Import) :
    (is.mergeSort fun a b => decide (a.exposed ≤ b.exposed)).map Import.exposed =
      (is.map Import.exposed).mergeSort fun a b => decide (a ≤ b) := by
  apply List.map_mergeSort
  intro a _ b _
  rfl

/-- Both the declarations and the file for the linter name exactly what the presets and the last scan
expose, each name once and in the same order: whatever was scanned, and whatever was logged before
the one and the other. A line declares the name that stands after its `const`. -/
theorem declared_names_eq_linted {v? : Option View} {o : ImportOptions} {sc : Scanner}
    (hread : Settings.readImports v? = .ok (some o)) (hreached : Scanner.Reached o.presets sc)
    (cwd : Location) (start? : Option Path) (lint : LintOptions) (σ τ : Log.State) :
    ∃ (is : List Import) (fields : List (String × Json)) (text : String),
      (importsText cwd sc start? σ).1 =
          .ok ("\n".intercalate (["export \x7b\x7d", "declare global \x7b"] ++
            is.map (fun i => "  const " ++ i.exposed ++ ": typeof import('" ++
              specifier cwd i.source start? ++ "')['" ++ i.name ++ "']") ++ ["\x7d"])) ∧
        (lintEntry sc lint τ).1 = .ok ⟨lint.filePath, text, false⟩ ∧
        Json.parse text = .ok (.obj [("globals", .obj fields)]) ∧
        fields.map Prod.fst = is.map Import.exposed ∧
        (is.map Import.exposed).Pairwise (· < ·) ∧
        ∀ n, n ∈ is.map Import.exposed ↔ ∃ i ∈ sc.presets ++ sc.scanned, i.exposed = n := by
  have hnodup := sc.nodup_exposed_sifted
  have hpresets := fun i hi => (Settings.isPreset_of_readImports hread i hi).name
  obtain ⟨σ', hσ, -⟩ := sc.imports_apply σ
  obtain ⟨τ', hτ, -⟩ := sc.imports_apply τ
  let is := sc.sifted.1.mergeSort fun a b => decide (a.exposed ≤ b.exposed)
  let names := (sc.sifted.1.map Import.exposed).mergeSort fun a b => decide (a ≤ b)
  have hnames : is.map Import.exposed = names := map_exposed_mergeSort sc.sifted.1
  -- no name is empty, so that the linter is told of all
  have hall : exposedNames sc.sifted.1 = names := by
    unfold exposedNames
    rw [List.filter_eq_self.mpr]
    intro n hn
    exact decide_eq_true (hreached.exposed_ne_empty hpresets hn)
  have hincreasing : names.Pairwise (· < ·) := pairwise_lt_mergeSort hnodup
  -- and no name stands twice, so that each has a field of its own
  have hfields : dedupFields (names.map fun n => (n, lint.access.json)) =
      names.map fun n => (n, lint.access.json) := by
    apply dedupFields_of_nodup
    rw [List.map_map]
    have hid : (Prod.fst ∘ fun n => (n, lint.access.json)) = (id : String → String) := rfl
    rw [hid, List.map_id]
    exact (List.mergeSort_perm _ _).nodup_iff.mpr hnodup
  refine ⟨is, names.map fun n => (n, lint.access.json), lintText names lint.access, ?_, ?_, ?_, ?_,
    ?_, ?_⟩
  · show (importsText cwd sc start? σ).1 = _
    unfold importsText
    rw [Action.bind_of_ok hσ]
    exact congrArg Except.ok (Text.joinText_eq_intercalate _ _)
  · unfold lintEntry
    rw [Action.bind_of_ok hτ]
    show Except.ok (lintFile sc.sifted.1 lint) = _
    unfold lintFile
    rw [hall]
  · rw [lintText, Json.parse_document (legible_lintObject names lint.access), lintObject, hfields]
  · rw [hnames, List.map_map]
    exact List.map_id names
  · rw [hnames]
    exact hincreasing
  · intro n
    rw [hnames, (List.mergeSort_perm _ _).mem_iff]
    exact Scanner.mem_exposed_sifted

/-- A preset as a configuration has it. -/
def presetView : View :=
  .ofJson (.obj [("imports", .arr [.obj [("name", .str "ref"), ("from", .str "vue")]])])

/-- A project with one source file, whose default export goes by the name of the preset. -/
def sourceDisk : FileSystem :=
  (FileSystem.empty.makeDirs [] (Path.ofString "/project/utils")).2.writeFile
    (Generate.sample.root ++ [⟨"utils", by decide⟩, ⟨"ref.ts", by decide⟩])
    "export const count = 1\nexport default 1\n".toUTF8

/-- The scan of the project adds one name to that of the preset. -/
theorem declared_names_eq_linted_sample : ∃ o sc, ∃ is : List Import,
    Settings.readImports (some presetView) = .ok (some o) ∧
      ((⟨o.presets, []⟩ : Scanner).scan (Path.ofString "/project") o.dirs
        (Generate.quiet sourceDisk)).1 = .ok sc ∧
      (importsText [] sc none (Generate.quiet sourceDisk)).1 =
        .ok ("\n".intercalate (["export \x7b\x7d", "declare global \x7b"] ++
          is.map (fun i => "  const " ++ i.exposed ++ ": typeof import('" ++
            specifier [] i.source none ++ "')['" ++ i.name ++ "']") ++ ["\x7d"])) ∧
      ∀ n, n ∈ is.map Import.exposed ↔ n = "count" ∨ n = "ref" := by
  have hread : Settings.readImports (some presetView) =
      .ok (some ⟨["components", "composables", "hooks", "utils"], [⟨"ref", "vue", none⟩],
        .default⟩) := by
    rfl
  have hscan : ((⟨[⟨"ref", "vue", none⟩], []⟩ : Scanner).scan (Path.ofString "/project")
      ["components", "composables", "hooks", "utils"] (Generate.quiet sourceDisk)).1 =
      .ok ⟨[⟨"ref", "vue", none⟩], [⟨"count", "/project/utils/ref.ts", none⟩,
        ⟨"default", "/project/utils/ref.ts", some "ref"⟩]⟩ := by
    decide +kernel
  obtain ⟨is, fields, -, htext, -, -, -, -, hmem⟩ := declared_names_eq_linted hread
    (.scan .start hscan) [] none .default (Generate.quiet sourceDisk) (Generate.quiet sourceDisk)
  refine ⟨_, _, is, hread, hscan, htext, fun n => ?_⟩
  rw [hmem]
  have hpreset : (⟨"ref", "vue", none⟩ : Import).exposed = "ref" := rfl
  have hcount : (⟨"count", "/project/utils/ref.ts", none⟩ : Import).exposed = "count" := rfl
  have hdefault : (⟨"default", "/project/utils/ref.ts", some "ref"⟩ : Import).exposed = "ref" := by
    decide
  constructor
  · rintro ⟨i, hi, rfl⟩
    rcases List.mem_append.mp hi with hi | hi
    · rw [List.mem_singleton.mp hi, hpreset]
      exact .inr rfl
    · rcases List.mem_cons.mp hi with rfl | hi
      · exact .inl hcount
      · rw [List.mem_singleton.mp hi, hdefault]
        exact .inr rfl
  · rintro (rfl | rfl)
    · exact ⟨_, by simp, hcount⟩
    · exact ⟨_, by simp, hpreset⟩

end Declaration

end ExtTypes
