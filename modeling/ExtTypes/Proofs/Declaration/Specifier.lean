import ExtTypes.Declaration.Imports
import ExtTypes.Proofs.Generate.Pipeline
import ExtTypes.Proofs.Import.Names
import ExtTypes.Proofs.Import.Scan
import ExtTypes.Proofs.Import.Shadow
import ExtTypes.Proofs.Path.Shortest

/-! How a scanned file is named in declarations: by the way from a directory to the file, without the
ending of a source. A name that has nothing but dots before its ending is no name without it, so that
such a file goes by the name of a directory. Main statement: `Declaration.importsText_specifiers`. -/
namespace ExtTypes

namespace Text

theorem fields_append_fields (sep : Char) (s t : List Char) :
    fields sep (s ++ sep :: t) = fields sep s ++ fields sep t := by
  induction s with
  | nil => simp [fields]
  | cons c s ih =>
    by_cases hc : c = sep
    · simp [fields, hc, ih]
    · obtain ⟨p, ps, hp⟩ := List.exists_cons_of_ne_nil (fields_ne_nil sep s)
      simp [fields, hc, ih, hp]

/-- What is put after the last piece is put after the whole text. -/
theorem joinWith_concat_append (sep : List Char) (ps : List (List Char)) (p e : List Char) :
    joinWith sep (ps ++ [p ++ e]) = joinWith sep (ps ++ [p]) ++ e := by
  induction ps with
  | nil => rfl
  | cons q ps ih =>
    have hcons (r : List Char) : joinWith sep (q :: (ps ++ [r])) =
        q ++ sep ++ joinWith sep (ps ++ [r]) := by
      cases ps <;> rfl
    rw [List.cons_append, List.cons_append, hcons, hcons, ih, ← List.append_assoc]

/-- A text is cut at its last separator. -/
theorem exists_eq_append_last {sep : Char} {s : List Char} (h : sep ∈ s) :
    ∃ a b, s = a ++ sep :: b ∧ sep ∉ b := by
  obtain ⟨b, a, hrev, hb⟩ := List.eq_append_cons_of_mem (List.mem_reverse.mpr h)
  refine ⟨a.reverse, b.reverse, ?_, fun hmem => hb (List.mem_reverse.mp hmem)⟩
  have hs := congrArg List.reverse hrev
  simpa using hs

end Text

/-! ### Texts of absolute paths -/

theorem slashed_append (s t : String) : slashed (s ++ t) = slashed s ++ slashed t := by
  unfold slashed Text.mapText
  rw [String.toList_append, List.map_append, String.ofList_append]

namespace Path

theorem isAbsolute_ofString_iff {s : String} :
    (ofString s).isAbsolute = true ↔ s.toList.head? = some '/' := by
  show decide (Anchor.ofChars s.toList ≠ .relative) = true ↔ _
  rw [decide_eq_true_eq]
  cases s.toList with
  | nil => simp [Anchor.ofChars]
  | cons c t =>
    by_cases hc : c = '/'
    · subst hc
      unfold Anchor.ofChars
      split <;> simp_all
    · simp [Anchor.ofChars, hc]

/-- The text of a path ends in the text of its last part. -/
theorem suffix_text {p : Path} {ps : List Part} {q : Part} (h : p.parts = ps ++ [q]) :
    q.text.toList <:+ p.text.toList := by
  have hbody : q.text.toList <:+ body p.parts := by
    refine ⟨Text.joinWith ['/'] (ps.map (fun p => p.text.toList) ++ [[]]), ?_⟩
    rw [← Text.joinWith_concat_append, List.nil_append, body, h, List.map_append]
    rfl
  rw [toList_text, if_neg (by simp [h])]
  exact hbody.trans (List.suffix_append _ _)

theorem parts_ofString_concat (w : String) (n : Name) :
    (ofString (w ++ "/" ++ n.val)).parts = (ofString w).parts ++ [.name n] := by
  have hlist : (w ++ "/" ++ n.val).toList = w.toList ++ '/' :: n.val.toList := by simp
  have hname : Part.ofString? n.val = some (.name n) := Part.ofString?_text (.name n)
  rw [parts_ofString, hlist, Text.fields_append_fields, List.filterMap_append,
    Text.fields_of_notMem n.property.2.2.2, ← parts_ofString]
  simp [hname]

/-- A text whose last component is a name leads to something of that name. -/
theorem collapse_ofString_concat {w : String} {n : Name}
    (h : (ofString (w ++ "/" ++ n.val)).isAbsolute) :
    (ofString (w ++ "/" ++ n.val)).collapse [] =
      (ofString w).parts.foldl Location.step [] ++ [n] := by
  rw [collapse_of_isAbsolute h, parts_ofString_concat, List.foldl_append]
  rfl

end Path

/-- A longer last name makes a text that is longer by as much. -/
theorem Location.text_concat (l : Location) {n m : Name} {e : String} (h : m.val = n.val ++ e) :
    Location.text (l ++ [m]) = Location.text (l ++ [n]) ++ e := by
  have htext (k : Name) : (Location.text (l ++ [k])).toList =
      '/' :: Text.joinWith ['/'] (l.map (fun n => n.val.toList) ++ [k.val.toList]) := by
    have hroot : Anchor.root.text.toList = ['/'] := by decide
    have hparts : ((l ++ [k]).map Part.name).map (fun p => p.text.toList) =
        l.map (fun n => n.val.toList) ++ [k.val.toList] := by
      rw [List.map_map, List.map_append]
      rfl
    show (Path.text ⟨.root, (l ++ [k]).map .name⟩).toList = _
    rw [Path.toList_text, if_neg (by simp), Path.body, hparts, hroot]
    rfl
  apply String.toList_inj.mp
  rw [htext, String.toList_append, htext, h, String.toList_append, Text.joinWith_concat_append,
    List.cons_append]

namespace Declaration

variable {stem stem' e e' : String}

/-! ### Endings -/

theorem dropSourceEnding_append (he : e ∈ sourceEndings) (stem : String) :
    dropSourceEnding (stem ++ e) = stem := by
  unfold dropSourceEnding
  rw [String.toList_append, List.reverse_append]
  simp only [sourceEndings, List.mem_cons, List.not_mem_nil, or_false] at he
  rcases he with rfl | rfl | rfl | rfl | rfl | rfl <;> simp [sourceEndings]

theorem ending_unique (he : e ∈ sourceEndings) (he' : e' ∈ sourceEndings)
    (h : stem ++ e = stem' ++ e') : stem = stem' ∧ e = e' := by
  have hstem : stem = stem' := by
    rw [← dropSourceEnding_append he stem, h, dropSourceEnding_append he']
  subst hstem
  refine ⟨rfl, String.toList_inj.mp ?_⟩
  have hlist := congrArg String.toList h
  rw [String.toList_append, String.toList_append] at hlist
  exact List.append_cancel_left hlist

/-- What the endings have in common. -/
theorem ending_spec (he : e ∈ sourceEndings) :
    2 < e.toList.length ∧ '/' ∉ e.toList ∧ '\\' ∉ e.toList := by
  have hall : ∀ e ∈ sourceEndings, 2 < e.toList.length ∧ '/' ∉ e.toList ∧ '\\' ∉ e.toList := by
    decide
  exact hall e he

/-- The last component of the text is a name and an ending. -/
def IsNamed (source : String) : Prop :=
  ∃ (w : String) (n : Name), ∃ e ∈ sourceEndings, source = w ++ "/" ++ n.val ++ e

theorem isName_append_ending {x : String} (hx : '/' ∉ x.toList) (he : e ∈ sourceEndings) :
    IsName (x ++ e) := by
  obtain ⟨hlen, hslash, -⟩ := ending_spec he
  have hlist : x ++ e = String.ofList (x.toList ++ e.toList) := by simp
  rw [hlist]
  apply isName_ofList
  · rw [List.length_append]
    omega
  · rw [List.mem_append]
    exact fun h => h.elim hx hslash

/-! ### One source -/

/-- The text of an absolute path to a source file, with slashes only. -/
structure IsSource (source stem ending : String) : Prop where
  isEnding : ending ∈ sourceEndings
  eq_append : source = stem ++ ending
  absolute : (Path.ofString stem).isAbsolute
  no_backslash : '\\' ∉ stem.toList

namespace IsSource

variable {source ending : String}

theorem isAbsolute_source (h : IsSource source stem ending) : (Path.ofString source).isAbsolute := by
  have habs := Path.isAbsolute_ofString_iff.mp h.absolute
  apply Path.isAbsolute_ofString_iff.mpr
  rw [h.eq_append, String.toList_append, List.head?_append, habs]
  rfl

/-- The last component of what is left has no slash, and may be no name. -/
theorem exists_last (h : IsSource source stem ending) :
    ∃ w x : String, stem = w ++ "/" ++ x ∧ '/' ∉ x.toList := by
  have hmem : '/' ∈ stem.toList :=
    List.mem_of_mem_head? (Path.isAbsolute_ofString_iff.mp h.absolute)
  obtain ⟨a, b, hs, hb⟩ := Text.exists_eq_append_last hmem
  refine ⟨String.ofList a, String.ofList b, String.toList_inj.mp ?_, by simpa using hb⟩
  simp [hs]

/-- The file and what is left without its ending stand in one directory, under names that differ by
the ending, exactly if what is left ends in a name. -/
theorem isNamed_iff (h : IsSource source stem ending) : IsNamed source ↔
    ∃ (l : Location) (n m : Name), ∃ e ∈ sourceEndings, (Path.ofString stem).collapse [] = l ++ [n] ∧
      (Path.ofString source).collapse [] = l ++ [m] ∧ m.val = n.val ++ e := by
  have habs := h.isAbsolute_source
  constructor
  · rintro ⟨w, n, e, he, hsource⟩
    obtain ⟨rfl, rfl⟩ := ending_unique h.isEnding he (h.eq_append.symm.trans hsource)
    have hm : IsName (n.val ++ ending) := isName_append_ending n.property.2.2.2 he
    have hsource' : source = w ++ "/" ++ (⟨_, hm⟩ : Name).val := by
      rw [hsource, String.append_assoc]
    refine ⟨(Path.ofString w).parts.foldl Location.step [], n, ⟨_, hm⟩, ending, he, ?_, ?_, rfl⟩
    · exact Path.collapse_ofString_concat h.absolute
    · rw [hsource'] at habs ⊢
      exact Path.collapse_ofString_concat habs
  · rintro ⟨l, n, m, e, he, -, hm, hval⟩
    obtain ⟨w, x, rfl, hx⟩ := h.exists_last
    -- the file has the last component and the ending for a name
    have hname := isName_append_ending hx h.isEnding
    have hsource : source = w ++ "/" ++ (⟨_, hname⟩ : Name).val := by
      rw [h.eq_append, String.append_assoc]
    rw [hsource] at habs hm
    rw [Path.collapse_ofString_concat habs] at hm
    obtain ⟨-, hlast⟩ := List.append_inj' hm rfl
    have hvals : x ++ ending = n.val ++ e := by
      rw [← hval, ← List.singleton_inj.mp hlast]
    obtain ⟨rfl, -⟩ := ending_unique h.isEnding he hvals
    exact ⟨w, n, ending, h.isEnding, h.eq_append⟩

end IsSource

/-! ### One specifier -/

section

variable {cwd : Location} {start : Path} {source ending : String}

/-- The way from the directory to what is left of the source. -/
def wayTo (start : Path) (stem : String) : List Part :=
  (start.collapse []).partsTo ((Path.ofString stem).collapse [])

theorem specifier_eq (h : IsSource source stem ending) (hstart : start.isAbsolute) :
    specifier cwd source (some start) =
      if "../".toList.isPrefixOf (Path.text ⟨.relative, wayTo start stem⟩).toList
      then Path.text ⟨.relative, wayTo start stem⟩
      else "./" ++ Path.text ⟨.relative, wayTo start stem⟩ := by
  have hcollapse {p : Path} (hp : p.isAbsolute) : p.collapse cwd = p.collapse [] := by
    rw [Path.collapse, Path.collapse, if_pos hp, if_pos hp]
  have hrelative : relativeText cwd (Path.ofString stem) start =
      Path.text ⟨.relative, wayTo start stem⟩ := by
    rw [relativeText, hcollapse hstart, hcollapse h.absolute]
    exact slashed_text_partsTo h.no_backslash (by simp)
  rw [specifier, if_pos h.isAbsolute_source]
  dsimp only
  rw [h.eq_append, dropSourceEnding_append h.isEnding, hrelative]

theorem specifier_relative (h : IsSource source stem ending) (hstart : start.isAbsolute) :
    "./".toList <+: (specifier cwd source (some start)).toList ∨
      "../".toList <+: (specifier cwd source (some start)).toList := by
  rw [specifier_eq h hstart]
  split
  · next hup => exact .inr (List.isPrefixOf_iff_prefix.mp hup)
  · rw [String.toList_append]
    exact .inl (List.prefix_append _ _)

/-- The specifier leads from the directory to what is left of the source. -/
theorem collapse_child_specifier (h : IsSource source stem ending) (hstart : start.isAbsolute) :
    (start.child (specifier cwd source (some start))).collapse [] =
      (Path.ofString stem).collapse [] := by
  have hway : (⟨.relative, wayTo start stem⟩ : Path).collapse (start.collapse []) =
      (Path.ofString stem).collapse [] :=
    Path.collapse_partsTo _ _
  rw [Path.collapse_child, specifier_eq h hstart]
  split
  · rw [Path.ofString_text, hway]
  · rw [Path.ofString_dot_slash, Path.ofString_text, hway]

end

/-! ### What a scan finds -/

/-- The path of a source file is recorded with slashes only. -/
theorem exists_isSource {p : Path} (hp : p.isAbsolute) {names : List Name} (h : IsSourceName names) :
    ∃ stem ending, IsSource (slashed (p.below names).text) stem ending := by
  obtain ⟨ds, n, rfl, ⟨e, he, hsuffix⟩, -, -⟩ := h
  obtain ⟨hlen, hslash, hback⟩ := ending_spec he
  have hparts : (p.below (ds ++ [n])).parts = (p.parts ++ ds.map .name) ++ [.name n] := by
    simp [Path.below, Path.join, Path.isAbsolute]
  obtain ⟨t, ht⟩ := hsuffix.trans (Path.suffix_text hparts)
  have htext : (p.below (ds ++ [n])).text = String.ofList t ++ e := by
    apply String.toList_inj.mp
    rw [← ht, String.toList_append, String.toList_ofList]
  -- the text starts with a slash, and that is not in the ending
  have hhead : t.head? = some '/' := by
    have habs : (Path.ofString (p.below (ds ++ [n])).text).isAbsolute := by
      rw [Path.ofString_text]
      exact hp
    rw [Path.isAbsolute_ofString_iff, ← ht] at habs
    cases t with
    | nil => exact absurd (List.mem_of_mem_head? habs) hslash
    | cons c t => exact habs
  refine ⟨slashed (String.ofList t), e, he, ?_, ?_, backslash_notMem_slashed _⟩
  · rw [htext, slashed_append, slashed_of_notMem hback]
  · apply Path.isAbsolute_ofString_iff.mpr
    unfold slashed Text.mapText
    rw [String.toList_ofList, String.toList_ofList, List.head?_map, hhead]
    rfl

theorem isSource_of_scan {sc sc' : Scanner} {source : Path} {dirs : List String} {σ τ : Log.State}
    (hsource : source.isAbsolute) (h : sc.scan source dirs σ = (.ok sc', τ)) :
    ∀ i ∈ sc'.scanned, ∃ stem ending, IsSource i.source stem ending := by
  obtain ⟨isDir, σ₁, -, h⟩ := Action.bind_eq_ok.mp h
  cases isDir with
  | false => cases h
  | true =>
    obtain ⟨found, σ₂, hfound, h⟩ := Action.bind_eq_ok.mp h
    obtain ⟨-, σ₃, -, h⟩ := Action.bind_eq_ok.mp h
    cases h
    obtain ⟨-, reads, hpaths, rfl, hreads⟩ := Scanner.exists_reads_of_scanDirs hfound
    intro i hi
    obtain ⟨r, hr, hir⟩ := List.mem_flatMap.mp hi
    obtain ⟨ρ, -, hread⟩ := hreads r hr
    -- the file was met on a walk, and its path is recorded with what it offers
    have hpath : r.1 ∈ reads.map Prod.fst := List.mem_map_of_mem hr
    rw [hpaths] at hpath
    obtain ⟨d, -, hd⟩ := List.mem_flatMap.mp hpath
    obtain ⟨names, hnames, hr1⟩ := List.mem_map.mp hd
    have hname : IsSourceName names := by
      unfold Scanner.walk at hnames
      split at hnames
      · exact (FileSystem.mem_sourceFiles_iff.mp hnames).1
      · cases hnames
    have hrecorded : i.source = slashed r.1.text := by
      obtain ⟨text, -, his⟩ := map_eq_ok_iff.mp hread
      rw [← his] at hir
      obtain ⟨symbol, -, rfl⟩ := List.mem_map.mp hir
      cases symbol <;> rfl
    rw [hrecorded, ← hr1]
    exact exists_isSource (Path.isAbsolute_child hsource d) hname

/-! ### The declarations after a scan -/

/-- A specifier leads from the directory back to the source, save for the ending. It leads to the
place where the file would be without the ending exactly if that is not all of the file's name. -/
structure LeadsBack (start : Path) (source specifier : String) : Prop where
  relative : "./".toList <+: specifier.toList ∨ "../".toList <+: specifier.toList
  leads : ∃ stem, ∃ e ∈ sourceEndings, source = stem ++ e ∧
    (start.child specifier).collapse [] = (Path.ofString stem).collapse []
  isNamed_iff : IsNamed source ↔ ∃ (l : Location) (n m : Name), ∃ e ∈ sourceEndings,
    (start.child specifier).collapse [] = l ++ [n] ∧
      (Path.ofString source).collapse [] = l ++ [m] ∧ m.val = n.val ++ e

theorem IsSource.leadsBack {cwd : Location} {start : Path} {source ending : String}
    (h : IsSource source stem ending) (hstart : start.isAbsolute) :
    LeadsBack start source (specifier cwd source (some start)) := by
  have hleads : (start.child (specifier cwd source (some start))).collapse [] =
      (Path.ofString stem).collapse [] := collapse_child_specifier h hstart
  refine ⟨specifier_relative h hstart, ⟨stem, ending, h.isEnding, h.eq_append, hleads⟩, ?_⟩
  rw [hleads]
  exact h.isNamed_iff

/-- Specifiers of one place are those of files with one name and two endings, if the files have
names. -/
theorem LeadsBack.differ_in_ending {start : Path} {source source' s : String}
    (h : LeadsBack start source s) (h' : LeadsBack start source' s) (hnamed : IsNamed source)
    (hnamed' : IsNamed source') : ∃ t, ∃ e ∈ sourceEndings, ∃ e' ∈ sourceEndings,
      Location.text ((Path.ofString source).collapse []) = t ++ e ∧
        Location.text ((Path.ofString source').collapse []) = t ++ e' := by
  obtain ⟨l, n, m, e, he, hplace, hsource, hm⟩ := h.isNamed_iff.mp hnamed
  obtain ⟨l', n', m', e', he', hplace', hsource', hm'⟩ := h'.isNamed_iff.mp hnamed'
  obtain ⟨rfl, hlast⟩ := List.append_inj' (hplace.symm.trans hplace') rfl
  obtain rfl := List.singleton_inj.mp hlast
  refine ⟨Location.text (l ++ [n]), e, he, e', he', ?_, ?_⟩
  · rw [hsource, Location.text_concat l hm]
  · rw [hsource', Location.text_concat l hm']

/-- After a scan, each constant for what was found names its source by the way from the directory to
the file without its ending. Two that name it alike come from files which differ in the ending,
unless the name of one of them has nothing but dots before the ending. -/
theorem importsText_specifiers {sc sc' : Scanner} {source start : Path} {dirs : List String}
    {σ τ : Log.State} (hsource : source.isAbsolute) (hscan : sc.scan source dirs σ = (.ok sc', τ))
    (hstart : start.isAbsolute) (cwd : Location) (υ : Log.State) : ∃ is : List Import,
    (importsText cwd sc' (some start) υ).1 =
        .ok (Text.joinText "\n" (["export \x7b\x7d", "declare global \x7b"] ++
          is.map (fun i => "  const " ++ i.exposed ++ ": typeof import('" ++
            specifier cwd i.source (some start) ++ "')['" ++ i.name ++ "']") ++ ["\x7d"])) ∧
      (∀ i ∈ is, i ∈ sc'.presets ++ sc'.scanned) ∧
      (∀ i ∈ sc'.scanned, LeadsBack start i.source (specifier cwd i.source (some start))) ∧
      ∀ i ∈ sc'.scanned, ∀ j ∈ sc'.scanned,
        specifier cwd i.source (some start) = specifier cwd j.source (some start) →
        IsNamed i.source → IsNamed j.source →
        ∃ t, ∃ e ∈ sourceEndings, ∃ e' ∈ sourceEndings,
          Location.text ((Path.ofString i.source).collapse []) = t ++ e ∧
            Location.text ((Path.ofString j.source).collapse []) = t ++ e' := by
  have hleads : ∀ i ∈ sc'.scanned,
      LeadsBack start i.source (specifier cwd i.source (some start)) := by
    intro i hi
    obtain ⟨stem, ending, hi⟩ := isSource_of_scan hsource hscan i hi
    exact hi.leadsBack hstart
  obtain ⟨υ', hυ, -⟩ := sc'.imports_apply υ
  refine ⟨sc'.sifted.1.mergeSort fun a b => decide (a.exposed ≤ b.exposed), ?_, ?_, hleads, ?_⟩
  · unfold importsText
    rw [Action.bind_of_ok hυ]
    rfl
  · intro i hi
    obtain ⟨kept, lost, hshadow, hsift⟩ := Import.exists_shadowing (sc'.presets ++ sc'.scanned)
    rw [List.mem_mergeSort, Scanner.sifted, hsift] at hi
    have hsub := hshadow.kept_sublist.map Prod.fst
    rw [List.zipIdx_map_fst] at hsub
    exact hsub.subset hi
  · intro i hi j hj hsame hnamed hnamed'
    have hj' := hleads j hj
    rw [← hsame] at hj'
    exact (hleads i hi).differ_in_ending hj' hnamed hnamed'

/-- From two directories below the project, the way to a source goes up first. -/
theorem importsText_specifiers_up : ∃ is : List Import,
    (importsText [] ⟨[], [⟨"count", "/project/utils/ref.ts", none⟩,
        ⟨"default", "/project/utils/ref.ts", some "ref"⟩]⟩
      (some (Path.ofString "/project/.wxt/types")) (Generate.quiet sourceDisk)).1 =
        .ok (Text.joinText "\n" (["export \x7b\x7d", "declare global \x7b"] ++
          is.map (fun i => "  const " ++ i.exposed ++ ": typeof import('" ++
            specifier [] i.source (some (Path.ofString "/project/.wxt/types")) ++ "')['" ++
              i.name ++ "']") ++ ["\x7d"])) ∧
      specifier [] "/project/utils/ref.ts" (some (Path.ofString "/project/.wxt/types")) =
        "../../utils/ref" ∧
      LeadsBack (Path.ofString "/project/.wxt/types") "/project/utils/ref.ts" "../../utils/ref" := by
  have hfound : ((⟨[], []⟩ : Scanner).scan (Path.ofString "/project") ["utils"]
      (Generate.quiet sourceDisk)).1 = .ok ⟨[], [⟨"count", "/project/utils/ref.ts", none⟩,
        ⟨"default", "/project/utils/ref.ts", some "ref"⟩]⟩ := by
    decide +kernel
  have hspecifier : specifier [] "/project/utils/ref.ts"
      (some (Path.ofString "/project/.wxt/types")) = "../../utils/ref" := by
    decide +kernel
  have hproject : (Path.ofString "/project").isAbsolute := by decide
  have htypes : (Path.ofString "/project/.wxt/types").isAbsolute := by decide
  obtain ⟨is, htext, -, hleads, -⟩ := importsText_specifiers hproject
    (Prod.ext hfound rfl) htypes [] (Generate.quiet sourceDisk)
  refine ⟨is, htext, hspecifier, ?_⟩
  rw [← hspecifier]
  exact hleads ⟨"count", _, none⟩ List.mem_cons_self

/-- A file, and one in the directory of that name which has no name before its ending. -/
def dottedDisk : FileSystem :=
  let project := (FileSystem.empty.makeDirs [] (Path.ofString "/project")).2.writeFile
    ((Path.ofString "/project/utils.ts").collapse []) "export const a = 1\n".toUTF8
  (project.makeDirs [] (Path.ofString "/project/utils")).2.writeFile
    ((Path.ofString "/project/utils/.ts").collapse []) "export const b = 1\n".toUTF8

/-- What is found in the two files. -/
def dottedImports : List Import :=
  [⟨"a", "/project/utils.ts", none⟩, ⟨"b", "/project/utils/.ts", none⟩]

theorem scanBelow_dottedDisk :
    Scanner.scanBelow dottedDisk (Path.ofString "/project") Generate.sample.root =
      .ok dottedImports := by
  decide +kernel

theorem scan_dottedDisk (sc : Scanner) : ∃ τ, sc.scan (Path.ofString "/project") ["."]
    (Generate.quiet dottedDisk) = (.ok { sc with scanned := dottedImports }, τ) := by
  have hdir : Action.look (fun files => files.pathIsDir [] (Path.ofString "/project"))
      (Generate.quiet dottedDisk) = (.ok true, Generate.quiet dottedDisk) :=
    Action.look_eq_ok.mpr ⟨by decide +kernel, rfl⟩
  have hbase : Action.look (fun files => files.dirAt? [] ((Path.ofString "/project").child "."))
      (Generate.quiet dottedDisk) = (.ok (some Generate.sample.root), Generate.quiet dottedDisk) :=
    Action.look_eq_ok.mpr ⟨by decide +kernel, rfl⟩
  have hfound : Scanner.scanDir ((Path.ofString "/project").child ".") (Generate.quiet dottedDisk) =
      (.ok dottedImports, Generate.quiet dottedDisk) := by
    rw [Scanner.scanDir, Action.bind_of_ok hbase]
    exact Action.look_eq_ok.mpr ⟨scanBelow_dottedDisk, rfl⟩
  rw [Scanner.scan, Action.bind_of_ok hdir, if_pos rfl, Scanner.scanDirs, Action.bind_assoc,
    Action.bind_of_ok hfound]
  exact ⟨_, rfl⟩

/-- What is left of a name that is an ending is the directory, which goes by the name of the file. -/
theorem importsText_names_directory :
    (∃ τ, (⟨[], []⟩ : Scanner).scan (Path.ofString "/project") ["."] (Generate.quiet dottedDisk) =
        (.ok ⟨[], dottedImports⟩, τ)) ∧
      (importsText [] ⟨[], dottedImports⟩ (some (Path.ofString "/project"))
          (Generate.quiet dottedDisk)).1 =
        .ok (Text.joinText "\n" ["export \x7b\x7d", "declare global \x7b",
          "  const a: typeof import('./utils')['a']", "  const b: typeof import('./utils')['b']",
          "\x7d"]) ∧
      ¬ ∃ t, ∃ e ∈ sourceEndings, ∃ e' ∈ sourceEndings,
        Location.text ((Path.ofString "/project/utils.ts").collapse []) = t ++ e ∧
          Location.text ((Path.ofString "/project/utils/.ts").collapse []) = t ++ e' := by
  refine ⟨scan_dottedDisk ⟨[], []⟩, ?_, ?_⟩
  · obtain ⟨υ, hυ, -⟩ := Scanner.imports_apply ⟨[], dottedImports⟩ (Generate.quiet dottedDisk)
    have hsifted : (Scanner.sifted ⟨[], dottedImports⟩).1 = dottedImports := by decide +kernel
    have hsorted : dottedImports.mergeSort (fun a b => decide (a.exposed ≤ b.exposed)) =
        dottedImports :=
      List.mergeSort_of_pairwise (by decide +kernel)
    rw [hsifted] at hυ
    rw [importsText, Action.bind_of_ok hυ, importLines, hsorted]
    apply congrArg Except.ok
    decide +kernel
  · rintro ⟨t, e, he, e', he', ha, hb⟩
    have hts : ".ts" ∈ sourceEndings := by decide
    have hutils : Location.text ((Path.ofString "/project/utils.ts").collapse []) =
        "/project/utils" ++ ".ts" := by
      decide
    have hbelow : Location.text ((Path.ofString "/project/utils/.ts").collapse []) =
        "/project/utils/" ++ ".ts" := by
      decide
    obtain ⟨rfl, -⟩ := ending_unique hts he (hutils.symm.trans ha)
    obtain ⟨hsame, -⟩ := ending_unique hts he' (hbelow.symm.trans hb)
    exact absurd hsame (by decide)

end Declaration

end ExtTypes
