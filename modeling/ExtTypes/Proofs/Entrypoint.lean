import ExtTypes.Proofs.Declaration.Paths
import ExtTypes.Proofs.FileSystem.Same

/-! Which entrypoints a directory has. A child of the directory offers one or none, told by what
stands there; the order in which the directory is listed does not count. Main statement:
`discover_exact`. -/
namespace ExtTypes

/-! ### Suffixes -/

theorem toLower_eq_dot {c : Char} (h : c.toLower = '.') : c = '.' := by
  unfold Char.toLower at h
  split at h
  · next hupper =>
    -- a small letter comes after the dot
    have hlow : 65 ≤ c.val.toNat := UInt32.le_iff_toNat_le.mp hupper.1
    have hhigh : c.val.toNat ≤ 90 := UInt32.le_iff_toNat_le.mp hupper.2
    have hval : (c.val.toNat + 32) % 2 ^ 32 = 46 := congrArg (fun d : Char => d.val.toNat) h
    omega
  · exact h

/-- What comes after the last dot of a name is cut off, the dot included. -/
theorem cutSuffix_append_dot {stem ext : List Char} (hstem : stem ≠ []) (hext : ext ≠ [])
    (hdot : '.' ∉ ext) : cutSuffix (stem ++ '.' :: ext) = (stem, '.' :: ext) := by
  have hreverse : (stem ++ '.' :: ext).reverse = ext.reverse ++ ('.' :: stem.reverse) := by simp
  have hrest : (stem ++ '.' :: ext).reverse.dropWhile (· ≠ '.') = '.' :: stem.reverse := by
    rw [hreverse, List.dropWhile_append_of_pos]
    · simp
    · intro c hc
      have hne : c ≠ '.' := by
        rintro rfl
        exact hdot (List.mem_reverse.mp hc)
      simpa using hne
  unfold cutSuffix
  rw [hrest]
  simp [hstem, hext]

/-- Where something is cut off, something is left. -/
theorem cutSuffix_fst_ne_nil {s : List Char} (h : (cutSuffix s).2 ≠ []) : (cutSuffix s).1 ≠ [] := by
  unfold cutSuffix at h ⊢
  dsimp only at h ⊢
  split at h
  · exact absurd rfl h
  · next hcut =>
    rw [if_neg hcut]
    exact fun hstem => hcut (.inr (.inl hstem))

namespace Entrypoint

/-- The suffix of an input file has one dot, with which it starts. -/
theorem exists_ext {suffix : String} (h : Text.mapText Char.toLower suffix ∈ entrypointSuffixes) :
    ∃ ext, suffix.toList = '.' :: ext ∧ ext ≠ [] ∧ '.' ∉ ext := by
  have hshape : ∀ s ∈ entrypointSuffixes, ∃ ext, s.toList = '.' :: ext ∧ ext ≠ [] ∧ '.' ∉ ext := by
    intro s hs
    simp only [entrypointSuffixes, List.mem_cons, List.not_mem_nil, or_false] at hs
    rcases hs with rfl | rfl | rfl | rfl | rfl <;> exact ⟨_, rfl, by decide, by decide⟩
  obtain ⟨small, hsmall, hne, hdot⟩ := hshape _ h
  rw [Text.mapText, String.toList_ofList] at hsmall
  obtain ⟨c, ext, hsuffix, hc, rfl⟩ := List.map_eq_cons_iff.mp hsmall
  refine ⟨ext, ?_, ?_, ?_⟩
  · rw [hsuffix, toLower_eq_dot hc]
  · rintro rfl
    exact hne rfl
  · exact fun hm => hdot (List.mem_map_of_mem (f := Char.toLower) hm)

/-- A name is cut into a stem and the suffix of an input file if it is made of them. -/
theorem plainSuffix_mem_iff {l : Location} {n : Name} {stem : String} :
    plainSuffix (Location.path (l ++ [n])) ∈ entrypointSuffixes ∧
        (Location.path (l ++ [n])).stem = stem ↔
      ∃ suffix, n.val = stem ++ suffix ∧ stem ≠ "" ∧
        Text.mapText Char.toLower suffix ∈ entrypointSuffixes := by
  have hlast : (Location.path (l ++ [n])).lastName = n.val := by
    simp [Path.lastName, Location.path, Part.text]
  unfold plainSuffix Path.stem Path.suffix
  rw [hlast]
  constructor
  · rintro ⟨hsuffix, rfl⟩
    refine ⟨String.ofList (cutSuffix n.val.toList).2, ?_, ?_, hsuffix⟩
    · rw [← String.ofList_append, cutSuffix_append, String.ofList_toList]
    · obtain ⟨ext, hext, -, -⟩ := exists_ext hsuffix
      rw [String.toList_ofList] at hext
      have hcut : (cutSuffix n.val.toList).2 ≠ [] := by
        rw [hext]
        exact List.cons_ne_nil _ _
      simpa using cutSuffix_fst_ne_nil hcut
  · rintro ⟨suffix, hname, hstem, hsuffix⟩
    obtain ⟨ext, hext, hne, hdot⟩ := exists_ext hsuffix
    have hcut : cutSuffix n.val.toList = (stem.toList, '.' :: ext) := by
      rw [hname, String.toList_append, hext]
      exact cutSuffix_append_dot (by simpa using hstem) hne hdot
    rw [hcut]
    constructor
    · rw [← hext, String.ofList_toList]
      exact hsuffix
    · exact String.ofList_toList

/-! ### What a child offers -/

/-- The names of index files, the one that counts most first. -/
def indexNames : List Name := [⟨"index.html", by decide⟩, ⟨"index.ts", by decide⟩,
  ⟨"index.tsx", by decide⟩, ⟨"index.js", by decide⟩, ⟨"index.jsx", by decide⟩]

/-- A search for a file of the directory `l`, under one name after the other, gets to a name if
there is no file under those before it. -/
inductive GetsTo (files : FileSystem) (l : Location) : List Name → Name → Prop
  | here (m : Name) (names : List Name) : GetsTo files l (m :: names) m
  | later {k m : Name} {names : List Name} (hnone : ¬ files.HasFile (l ++ [k]))
      (h : GetsTo files l names m) : GetsTo files l (k :: names) m

/-- The name and the input file of the entrypoint that a child of the directory `l` offers: a
directory the first of its index files, and a file itself, which is called without its suffix. -/
inductive Offers (files : FileSystem) (l : Location) (n : Name) : String → Location → Prop
  | directory {m : Name} (hdir : files.node? (l ++ [n]) = some .dir)
      (hfirst : GetsTo files (l ++ [n]) indexNames m)
      (hfile : files.HasFile (l ++ [n] ++ [m])) : Offers files l n n.val (l ++ [n] ++ [m])
  | file {stem suffix : String} (hfile : files.HasFile (l ++ [n]))
      (hname : n.val = stem ++ suffix) (hstem : stem ≠ "")
      (hsuffix : Text.mapText Char.toLower suffix ∈ [".html", ".ts", ".tsx", ".js", ".jsx"]) :
      Offers files l n stem (l ++ [n])

/-- What an entrypoint says of its name, its input file and the directory of the build. -/
structure Describes (name : String) (input : Location) (out : Path) (e : Entrypoint) : Prop where
  inputPath : e.inputPath = input.path
  kind : e.kind = .contentScript ↔ name = "content" ∨ ∃ own, name = own ++ ".content"
  name : name = e.name ++ ".content" ∨ (¬ ∃ own, name = own ++ ".content") ∧ e.name = name
  outputDir : e.outputDir = if e.kind = .contentScript then out.below [contentScripts] else out

/-- The places that are looked at for a child of the directory `l`: its own and, in a directory,
those of the index files up to the first one that is there. -/
inductive Consults (files : FileSystem) (l : Location) (n : Name) : Location → Prop
  | child : Consults files l n (l ++ [n])
  | index {m : Name} (hdir : files.node? (l ++ [n]) = some .dir)
      (hfirst : GetsTo files (l ++ [n]) indexNames m) : Consults files l n (l ++ [n] ++ [m])

/-- The places that are looked at for the entrypoints in the directory `l`. -/
inductive LooksAt (files : FileSystem) (l : Location) : Location → Prop
  | root (hnul : FileSystem.hasNul l.path = false) : LooksAt files l l
  | child {n : Name} {l' : Location} (hn : files.node? (l ++ [n]) ≠ none)
      (h : Consults files l n l') : LooksAt files l l'

/-- One entrypoint for each child of the directory `l` that offers one, by name, and by the names of
the children where these are equal. -/
structure Inventory (files : FileSystem) (l : Location) (out : Path)
    (ps : List (Name × Entrypoint)) : Prop where
  nodup : (ps.map Prod.fst).Nodup
  mem : ∀ n, n ∈ ps.map Prod.fst ↔ ∃ name input, Offers files l n name input
  describes : ∀ p ∈ ps, ∃ name input, Offers files l p.1 name input ∧ Describes name input out p.2
  ordered : ps.Pairwise fun p q => p.2.name < q.2.name ∨ p.2.name = q.2.name ∧ p.1.val < q.1.val

variable {files files' : FileSystem} {l : Location} {n : Name} {out : Path}

/-! ### The entrypoint of a name -/

theorem endsWith_content {name : String} :
    ".content".toList.isSuffixOf name.toList = true ↔ ∃ own, name = own ++ ".content" := by
  rw [List.isSuffixOf_iff_suffix]
  constructor
  · rintro ⟨own, hown⟩
    refine ⟨String.ofList own, ?_⟩
    rw [← String.ofList_toList (s := name), ← hown, String.ofList_append, String.ofList_toList]
  · rintro ⟨own, rfl⟩
    exact ⟨own.toList, (String.toList_append).symm⟩

theorem isContentName_iff {name : String} :
    isContentName name = true ↔ name = "content" ∨ ∃ own, name = own ++ ".content" := by
  rw [isContentName, Bool.or_eq_true, decide_eq_true_eq, endsWith_content]

theorem contentName_append (own : String) : contentName (own ++ ".content") = own := by
  have hlength : (own ++ ".content").toList.length - ".content".toList.length =
      own.toList.length := by
    rw [String.toList_append, List.length_append, Nat.add_sub_cancel]
  rw [contentName, if_pos (endsWith_content.mpr ⟨own, rfl⟩), hlength, String.toList_append,
    List.take_left', String.ofList_toList]
  rfl

theorem contentName_of_not {name : String} (h : ¬ ∃ own, name = own ++ ".content") :
    contentName name = name := by
  rw [contentName, if_neg]
  exact fun hend => h (endsWith_content.mp hend)

/-- The entrypoint made for a name and an input file is described by them. -/
theorem describes_ofName {name : String} (h : '/' ∉ name.toList) (input : Location) (out : Path) :
    Describes name input out (ofName name input.path out) := by
  have hdir := (isBuiltIn_ofName h input.path out).outputDir
  by_cases hcontent : isContentName name = true
  · have hname : name = contentName name ++ ".content" ∨
        (¬ ∃ own, name = own ++ ".content") ∧ contentName name = name := by
      by_cases hown : ∃ own, name = own ++ ".content"
      · obtain ⟨own, rfl⟩ := hown
        rw [contentName_append]
        exact .inl rfl
      · exact .inr ⟨hown, contentName_of_not hown⟩
    have he : ofName name input.path out =
        ⟨contentName name, input.path, out.child "content-scripts", .contentScript⟩ :=
      if_pos hcontent
    rw [he] at hdir ⊢
    exact ⟨rfl, iff_of_true rfl (isContentName_iff.mp hcontent), hname, hdir⟩
  · have hplain := mt isContentName_iff.mpr hcontent
    let other : EntrypointKind :=
      if plainSuffix input.path = ".html" then .unlistedPage else .unlistedScript
    have hother : other ≠ .contentScript := by
      unfold other
      split <;> decide
    have he : ofName name input.path out =
        ⟨name, input.path, out, (EntrypointKind.ofName? name).getD other⟩ := if_neg hcontent
    rw [he] at hdir ⊢
    refine ⟨rfl, iff_of_false (kind_ne_contentScript name hother) hplain, ?_, hdir⟩
    exact .inr ⟨fun hown => hplain (.inr hown), rfl⟩

/-! ### One child -/

/-- A search gets to its first name, and to what the rest gets to if there is no file under that
one. -/
theorem forall_getsTo_cons {P : Name → Prop} {k : Name} {names : List Name} (hk : P k)
    (h : ¬ files.HasFile (l ++ [k]) → ∀ m, GetsTo files l names m → P m) :
    ∀ m, GetsTo files l (k :: names) m → P m := by
  intro m hm
  cases hm with
  | here => exact hk
  | later hnone hm => exact h hnone m hm

/-- How a search for a file of the directory `l` ends: it is refused to look under a name it gets
to, or a file is found, or there is none. -/
inductive SearchEnd (files : FileSystem) (l : Location) (names : List Name) :
    Except Failure (Option Path) → Prop
  | refused {m : Name} (hm : GetsTo files l names m) (h : files.Refused (l ++ [m])) :
      SearchEnd files l names (.error (.disk .nameTooLong (Location.text (l ++ [m]))))
  | file {m : Name} (hall : ∀ k, GetsTo files l names k → ¬ files.Refused (l ++ [k]))
      (hm : GetsTo files l names m) (h : files.HasFile (l ++ [m])) :
      SearchEnd files l names (.ok (some (Location.path (l ++ [m]))))
  | nothing (hall : ∀ k, GetsTo files l names k → ¬ files.Refused (l ++ [k]))
      (h : ∀ k, GetsTo files l names k → ¬ files.HasFile (l ++ [k])) :
      SearchEnd files l names (.ok none)

theorem findFile_ends (files : FileSystem) (names : List Name)
    (hnul : ∀ m ∈ names, FileSystem.hasNul (Location.path (l ++ [m])) = false) :
    SearchEnd files l names
      ((names.map fun m => Location.path (l ++ [m])).findM? (files.pathIsFile [])) := by
  induction names with
  | nil => exact .nothing nofun nofun
  | cons k names ih =>
    obtain ⟨hk, hnames⟩ := List.forall_mem_cons.mp hnul
    rw [List.map_cons, List.findM?]
    rcases FileSystem.pathIsFile_cases files hk with
      ⟨hrefused, hlook⟩ | ⟨hopen, hfile, hlook⟩ | ⟨hopen, hnone, hlook⟩
    · rw [hlook]
      exact .refused (.here k names) hrefused
    · rw [hlook]
      refine .file ?_ (.here k names) hfile
      exact forall_getsTo_cons hopen fun hnone => absurd hfile hnone
    · rw [hlook]
      change SearchEnd files l (k :: names)
        ((names.map fun m => Location.path (l ++ [m])).findM? (files.pathIsFile []))
      -- there is no file under the first name, so the search goes on with the others
      have hrest := ih hnames
      generalize (names.map fun m => Location.path (l ++ [m])).findM? (files.pathIsFile []) = found
        at hrest ⊢
      cases hrest with
      | refused hm h => exact .refused (.later hnone hm) h
      | file hall hm h => exact .file (forall_getsTo_cons hopen fun _ => hall) (.later hnone hm) h
      | nothing hall h =>
        refine .nothing (forall_getsTo_cons hopen fun _ => hall) ?_
        exact forall_getsTo_cons hnone fun _ => h

theorem indexFile?_eq (files : FileSystem) (l : Location) : indexFile? files l =
    (indexNames.map fun m => Location.path (l ++ [m])).findM? (files.pathIsFile []) := by
  have hnames : entrypointSuffixes.map ("index" ++ ·) = indexNames.map Subtype.val := rfl
  have hpath (m : Name) : l.path.child m.val = Location.path (l ++ [m]) := by
    rw [Path.child_val, FileSystem.below_path]
  have hpaths : (entrypointSuffixes.map fun ext => l.path.child ("index" ++ ext)) =
      indexNames.map fun m => Location.path (l ++ [m]) := by
    have h := congrArg (List.map l.path.child) hnames
    rw [List.map_map, List.map_map] at h
    exact h.trans (List.map_congr_left fun m _ => hpath m)
  rw [indexFile?, hpaths]

theorem Offers.node?_ne_none {name : String} {input : Location} (h : Offers files l n name input) :
    files.node? (l ++ [n]) ≠ none := by
  cases h with
  | directory hdir => simp [hdir]
  | file hfile =>
    obtain ⟨b, hb⟩ := hfile
    simp [hb]

/-- How the look at a child of the directory `l` ends: it is refused, or there is an entrypoint as
the child offers it, or there is none since the child offers none. -/
inductive ChildEnd (files : FileSystem) (l : Location) (n : Name) (out : Path) :
    Except Failure (Option Entrypoint) → Prop
  | refused {l' : Location} (hl' : Consults files l n l') (h : files.Refused l') :
      ChildEnd files l n out (.error (.disk .nameTooLong l'.text))
  | entrypoint {name : String} {input : Location} {e : Entrypoint}
      (hall : ∀ l', Consults files l n l' → ¬ files.Refused l')
      (hoffers : Offers files l n name input) (h : Describes name input out e) :
      ChildEnd files l n out (.ok (some e))
  | nothing (hall : ∀ l', Consults files l n l' → ¬ files.Refused l')
      (h : ∀ name input, ¬ Offers files l n name input) : ChildEnd files l n out (.ok none)

theorem childEnd_of_dir (hnul : FileSystem.hasNul (Location.path (l ++ [n])) = false)
    (hopen : ¬ files.Refused (l ++ [n])) (hdir : files.node? (l ++ [n]) = some .dir) (out : Path) :
    ChildEnd files l n out ((indexFile? files (l ++ [n])).map
      (Option.map fun input => ofName n.val input out)) := by
  have hindex : ∀ m ∈ indexNames, FileSystem.hasNul (Location.path (l ++ [n] ++ [m])) = false := by
    intro m hm
    have hplain : ∀ k ∈ indexNames, '\x00' ∉ k.val.toList := by decide
    refine FileSystem.hasNul_append_names.mpr ⟨hnul, fun k hk => ?_⟩
    rw [List.mem_singleton.mp hk]
    exact hplain m hm
  -- the directory itself has been looked at by now
  have hconsults (h : ∀ m, GetsTo files (l ++ [n]) indexNames m →
      ¬ files.Refused (l ++ [n] ++ [m])) : ∀ l', Consults files l n l' → ¬ files.Refused l' := by
    intro l' hl'
    cases hl' with
    | child => exact hopen
    | index _ hm => exact h _ hm
  have hsearch := findFile_ends files indexNames hindex
  rw [← indexFile?_eq] at hsearch
  generalize indexFile? files (l ++ [n]) = found at hsearch ⊢
  cases hsearch with
  | refused hm h => exact .refused (.index hdir hm) h
  | file hall hm h =>
    refine .entrypoint (hconsults hall) (.directory hdir hm h) ?_
    exact describes_ofName n.property.2.2.2 _ out
  | nothing hall h =>
    refine .nothing (hconsults hall) fun name input hoffers => ?_
    cases hoffers with
    | directory _ hm hfile => exact h _ hm hfile
    | file hfile =>
      obtain ⟨b, hb⟩ := hfile
      rw [hdir] at hb
      cases hb

theorem childEnd_of_file (hopen : ¬ files.Refused (l ++ [n])) (hfile : files.HasFile (l ++ [n]))
    (out : Path) :
    ChildEnd files l n out (.ok (if plainSuffix (Location.path (l ++ [n])) ∈ entrypointSuffixes then
      some (ofName (Location.path (l ++ [n])).stem (Location.path (l ++ [n])) out) else none)) := by
  have hnot : files.node? (l ++ [n]) ≠ some .dir := by
    obtain ⟨b, hb⟩ := hfile
    simp [hb]
  have hconsults : ∀ l', Consults files l n l' → ¬ files.Refused l' := by
    intro l' hl'
    cases hl' with
    | child => exact hopen
    | index hdir _ => exact absurd hdir hnot
  by_cases hsuffix : plainSuffix (Location.path (l ++ [n])) ∈ entrypointSuffixes
  · rw [if_pos hsuffix]
    obtain ⟨suffix, hname, hstem, hsmall⟩ := plainSuffix_mem_iff.mp ⟨hsuffix, rfl⟩
    refine .entrypoint hconsults (.file hfile hname hstem hsmall) ?_
    exact describes_ofName (slash_notMem_stem l n) _ out
  · rw [if_neg hsuffix]
    refine .nothing hconsults fun name input hoffers => ?_
    cases hoffers with
    | directory hdir => exact hnot hdir
    | file _ hname hstem hsmall =>
      exact hsuffix (plainSuffix_mem_iff.mpr ⟨_, hname, hstem, hsmall⟩).1

theorem ofChild?_ends (hnul : FileSystem.hasNul (Location.path (l ++ [n])) = false)
    (hn : files.node? (l ++ [n]) ≠ none) (out : Path) :
    ChildEnd files l n out (ofChild? files l out n) := by
  rcases FileSystem.pathIsDir_cases files hnul with
    ⟨hrefused, hlook⟩ | ⟨hopen, hdir, hlook⟩ | ⟨hopen, hnot, hlook⟩
  · rw [ofChild?, hlook]
    exact .refused .child hrefused
  · rw [ofChild?_of_dir out hlook]
    exact childEnd_of_dir hnul hopen hdir out
  · have hfile : files.HasFile (l ++ [n]) := by
      unfold FileSystem.HasFile
      match hnode : files.node? (l ++ [n]) with
      | some (.file b) => exact ⟨b, rfl⟩
      | some .dir => exact absurd hnode hnot
      | none => exact absurd hnode hn
    rw [ofChild?_of_not_dir out hlook]
    exact childEnd_of_file hopen hfile out

/-! ### A directory -/

/-- The names in a directory in the order in which they are looked at. -/
def childNames (files : FileSystem) (l : Location) : List Name :=
  (files.children l).mergeSort fun a b => decide (a.val ≤ b.val)

theorem mem_childNames : n ∈ childNames files l ↔ files.node? (l ++ [n]) ≠ none := by
  rw [childNames, List.mem_mergeSort, FileSystem.mem_children]

theorem val_le_trans (a b c : Name) (hab : decide (a.val ≤ b.val) = true)
    (hbc : decide (b.val ≤ c.val) = true) : decide (a.val ≤ c.val) = true :=
  decide_eq_true (String.le_trans (of_decide_eq_true hab) (of_decide_eq_true hbc))

theorem val_le_total (a b : Name) : (decide (a.val ≤ b.val) || decide (b.val ≤ a.val)) = true := by
  simpa using String.le_total a.val b.val

theorem pairwise_childNames (files : FileSystem) (l : Location) :
    (childNames files l).Pairwise fun a b => a.val < b.val := by
  have hle : (childNames files l).Pairwise fun a b => decide (a.val ≤ b.val) = true :=
    List.pairwise_mergeSort val_le_trans val_le_total _
  have hne : (childNames files l).Nodup :=
    List.nodup_mergeSort.mpr (FileSystem.nodup_children files l)
  apply (hle.and hne).imp
  rintro a b ⟨hab, hne⟩
  exact val_lt_of_le (of_decide_eq_true hab) hne

theorem inDir_eq (files : FileSystem) (l : Location) (out : Path) :
    inDir files l out = ((childNames files l).mapM (ofChild? files l out)).map fun found =>
      (found.filterMap id).mergeSort fun a b => decide (a.name ≤ b.name) := by
  change ((childNames files l).mapM (ofChild? files l out) >>= _) = _
  cases (childNames files l).mapM (ofChild? files l out) <;> rfl

/-- The entrypoints read off the children are in order once they are sorted by name. -/
theorem inventory_mergeSort {ps : List (Name × Entrypoint)} {names : List Name}
    (hnames : names.Pairwise fun a b => a.val < b.val) (hfst : (ps.map Prod.fst).Sublist names)
    (hmem : ∀ n, n ∈ ps.map Prod.fst ↔ ∃ name input, Offers files l n name input)
    (hdescribes : ∀ p ∈ ps, ∃ name input, Offers files l p.1 name input ∧
      Describes name input out p.2) :
    Inventory files l out (ps.mergeSort fun p q => decide (p.2.name ≤ q.2.name)) := by
  have hperm := List.mergeSort_perm ps fun p q => decide (p.2.name ≤ q.2.name)
  have hps : (ps.map Prod.fst).Pairwise fun a b => a.val < b.val := hnames.sublist hfst
  have hsorted : (ps.mergeSort fun p q => decide (p.2.name ≤ q.2.name)).Pairwise fun p q =>
      decide (p.2.name ≤ q.2.name) = true ∧
        (decide (q.2.name ≤ p.2.name) = true → p.1.val < q.1.val) := by
    apply pairwise_mergeSort_stable
    · intro p q r hpq hqr
      exact decide_eq_true (String.le_trans (of_decide_eq_true hpq) (of_decide_eq_true hqr))
    · intro p q
      simpa using String.le_total p.2.name q.2.name
    · exact (List.pairwise_map (R := fun a b : Name => a.val < b.val)).mp hps
  constructor
  · have hdistinct : (ps.map Prod.fst).Nodup := by
      apply hps.imp
      rintro a b hab rfl
      exact String.lt_irrefl _ hab
    exact (hperm.map Prod.fst).nodup_iff.mpr hdistinct
  · intro n
    rw [(hperm.map Prod.fst).mem_iff, hmem]
  · intro p hp
    exact hdescribes p (List.mem_mergeSort.mp hp)
  · apply hsorted.imp
    rintro p q ⟨hle, hstable⟩
    -- the sort is stable, so equal names leave the children in their order
    by_cases hname : p.2.name = q.2.name
    · exact .inr ⟨hname, hstable (decide_eq_true (hname ▸ String.le_refl _))⟩
    · exact .inl (Std.lt_of_le_of_ne (of_decide_eq_true hle) hname)

/-- No place has been refused where all children could be looked at. -/
theorem not_refused_of_found {found : List (Option Entrypoint)}
    (hnul : ∀ n, files.node? (l ++ [n]) ≠ none →
      FileSystem.hasNul (Location.path (l ++ [n])) = false)
    (hfound : (childNames files l).mapM (ofChild? files l out) = .ok found) (n : Name)
    (hn : files.node? (l ++ [n]) ≠ none) :
    (∀ l', Consults files l n l' → ¬ files.Refused l') ∧
      ((∃ e, ofChild? files l out n = .ok (some e)) ↔ ∃ name input, Offers files l n name input) := by
  obtain ⟨e?, he⟩ := exists_of_mapM_eq_ok hfound (mem_childNames.mpr hn)
  have hend := ofChild?_ends (hnul n hn) hn out
  rw [he] at hend ⊢
  cases hend with
  | entrypoint hall hoffers _ => exact ⟨hall, iff_of_true ⟨_, rfl⟩ ⟨_, _, hoffers⟩⟩
  | nothing hall h =>
    refine ⟨hall, iff_of_false nofun ?_⟩
    rintro ⟨name, input, hoffers⟩
    exact h name input hoffers

/-- What the children have been read to is what they offer. -/
theorem exists_inventory {found : List (Option Entrypoint)}
    (hnul : ∀ n, files.node? (l ++ [n]) ≠ none →
      FileSystem.hasNul (Location.path (l ++ [n])) = false)
    (hfound : (childNames files l).mapM (ofChild? files l out) = .ok found) :
    ∃ ps : List (Name × Entrypoint), ps.map Prod.snd =
        (found.filterMap id).mergeSort (fun a b => decide (a.name ≤ b.name)) ∧
      Inventory files l out ps := by
  obtain ⟨ps, hsnd, hfst, hmem⟩ := exists_pairs_of_mapM hfound
  simp only [mem_childNames] at hmem
  refine ⟨ps.mergeSort fun p q => decide (p.2.name ≤ q.2.name), ?_, ?_⟩
  · rw [← hsnd]
    exact List.map_mergeSort fun p _ q _ => rfl
  -- the children are still in order of their names before the sort by the names of entrypoints
  · apply inventory_mergeSort (pairwise_childNames files l) hfst
    · intro n
      constructor
      · intro hn
        obtain ⟨p, hp, rfl⟩ := List.mem_map.mp hn
        obtain ⟨hn, he⟩ := (hmem p).mp hp
        exact (not_refused_of_found hnul hfound p.1 hn).2.mp ⟨p.2, he⟩
      · rintro ⟨name, input, hoffers⟩
        have hn := hoffers.node?_ne_none
        obtain ⟨e, he⟩ := (not_refused_of_found hnul hfound n hn).2.mpr ⟨name, input, hoffers⟩
        exact List.mem_map.mpr ⟨(n, e), (hmem (n, e)).mpr ⟨hn, he⟩, rfl⟩
    · intro p hp
      obtain ⟨hn, he⟩ := (hmem p).mp hp
      have hend := ofChild?_ends (hnul p.1 hn) hn out
      rw [he] at hend
      cases hend with
      | entrypoint _ hoffers h => exact ⟨_, _, hoffers, h⟩

/-- The children are looked at without being refused, and the result is what they offer; or the
result is a refusal. -/
theorem inDir_cases (hnul : ∀ n, files.node? (l ++ [n]) ≠ none →
      FileSystem.hasNul (Location.path (l ++ [n])) = false) (out : Path) :
    (∃ n l', files.node? (l ++ [n]) ≠ none ∧ Consults files l n l' ∧ files.Refused l' ∧
        inDir files l out = .error (.disk .nameTooLong l'.text)) ∨
      (∀ n l', files.node? (l ++ [n]) ≠ none → Consults files l n l' → ¬ files.Refused l') ∧
        ∃ ps, inDir files l out = .ok (ps.map Prod.snd) ∧ Inventory files l out ps := by
  rw [inDir_eq]
  cases hfound : (childNames files l).mapM (ofChild? files l out) with
  | error e =>
    obtain ⟨before, n, after, hsplit, -, hr⟩ := exists_of_mapM_eq_error hfound
    have hn : files.node? (l ++ [n]) ≠ none := by
      rw [← mem_childNames, hsplit]
      simp
    have hend := ofChild?_ends (hnul n hn) hn out
    rw [hr] at hend
    cases hend with
    | refused hl' h => exact .inl ⟨n, _, hn, hl', h, rfl⟩
  | ok found =>
    obtain ⟨ps, hsort, hinventory⟩ := exists_inventory hnul hfound
    refine .inr ⟨?_, ps, congrArg Except.ok hsort.symm, hinventory⟩
    intro n l' hn hl'
    exact (not_refused_of_found hnul hfound n hn).1 l' hl'

/-! ### A project -/

/-- Where no name on the disk has a NUL, no place where something stands has one on the way. -/
theorem hasNul_of_node? (hnul : ∀ l n, files.node? (l ++ [n]) ≠ none → '\x00' ∉ n.val.toList)
    (hl : files.node? l ≠ none) : FileSystem.hasNul l.path = false := by
  rw [← Bool.not_eq_true, FileSystem.hasNul_path]
  rintro ⟨n, hn, hmem⟩
  obtain ⟨q, t, rfl⟩ := List.append_of_mem hn
  refine hnul q n (fun hnone => ?_) hmem
  -- nothing is below a place where nothing stands
  cases t with
  | nil => exact hl hnone
  | cons m t =>
    have hdir : files.node? (q ++ [n]) = some .dir := by
      apply FileSystem.node?_of_append (List.cons_ne_nil m t)
      rwa [List.append_assoc, List.singleton_append]
    rw [hnone] at hdir
    cases hdir

theorem inventory_nil (h : ∀ n, files.node? (l ++ [n]) = none) : Inventory files l out [] where
  nodup := .nil
  mem n := by
    refine iff_of_false List.not_mem_nil ?_
    rintro ⟨name, input, hoffers⟩
    exact hoffers.node?_ne_none (h n)
  describes := by simp
  ordered := .nil

theorem discover_of_dir {s : Settings} (h : files.pathIsDir [] s.entrypointsDir.path = .ok true) :
    discover files s = inDir files s.entrypointsDir s.outDir := by
  rw [discover, h]
  rfl

/-- No place that is looked at is refused and all children's entrypoints are found, or the result is
a refusal. -/
theorem discover_cases (hnul : ∀ l n, files.node? (l ++ [n]) ≠ none → '\x00' ∉ n.val.toList)
    (s : Settings) :
    (∃ l, LooksAt files s.entrypointsDir l ∧ files.Refused l ∧
        discover files s = .error (.disk .nameTooLong l.text)) ∨
      (∀ l, LooksAt files s.entrypointsDir l → ¬ files.Refused l) ∧
        ∃ ps, discover files s = .ok (ps.map Prod.snd) ∧
          Inventory files s.entrypointsDir s.outDir ps := by
  have hchild (n : Name) (hn : files.node? (s.entrypointsDir ++ [n]) ≠ none) :=
    hasNul_of_node? hnul hn
  have hempty (hlook : files.pathIsDir [] s.entrypointsDir.path = .ok false)
      (hno : ∀ n, files.node? (s.entrypointsDir ++ [n]) = none)
      (hroot : FileSystem.hasNul s.entrypointsDir.path = false → ¬ files.Refused s.entrypointsDir) :
      (∀ l, LooksAt files s.entrypointsDir l → ¬ files.Refused l) ∧
        ∃ ps, discover files s = .ok (ps.map Prod.snd) ∧
          Inventory files s.entrypointsDir s.outDir ps := by
    refine ⟨fun l hl => ?_, [], ?_, inventory_nil hno⟩
    · cases hl with
      | root h => exact hroot h
      | child hn => exact absurd (hno _) hn
    · rw [discover, hlook]
      rfl
  by_cases hroot : FileSystem.hasNul s.entrypointsDir.path = true
  -- a path with a NUL leads nowhere, and there is nothing below it either
  · refine .inr (hempty ?_ (fun n => ?_) fun h => ?_)
    · rw [FileSystem.pathIsDir, FileSystem.find, if_pos hroot]
      rfl
    · by_contra hn
      have hplain := (FileSystem.hasNul_append_names.mp (hchild n hn)).1
      rw [hroot] at hplain
      cases hplain
    · rw [hroot] at h
      cases h
  · rw [Bool.not_eq_true] at hroot
    rcases FileSystem.pathIsDir_cases files hroot with
      ⟨hrefused, hlook⟩ | ⟨hopen, hdir, hlook⟩ | ⟨hopen, hnot, hlook⟩
    · refine .inl ⟨_, .root hroot, hrefused, ?_⟩
      rw [discover, hlook]
      rfl
    · rw [discover_of_dir hlook]
      rcases inDir_cases hchild s.outDir with ⟨n, l', hn, hl', h, herror⟩ | ⟨hall, hps⟩
      · exact .inl ⟨l', .child hn hl', h, herror⟩
      · refine .inr ⟨fun l hl => ?_, hps⟩
        cases hl with
        | root => exact hopen
        | child hn hl' => exact hall _ _ hn hl'
    · refine .inr (hempty hlook (fun n => ?_) fun _ => hopen)
      by_contra hn
      exact hnot (FileSystem.node?_of_append (List.cons_ne_nil n []) hn)

/-! ### Another order of listing -/

theorem ofChild?_same (h : FileSystem.Same files files') (l : Location) (out : Path) :
    ofChild? files' l out = ofChild? files l out := by
  have hdir : files'.pathIsDir [] = files.pathIsDir [] := by
    funext p
    rw [FileSystem.pathIsDir, FileSystem.pathIsDir, h.find]
  have hfile : files'.pathIsFile [] = files.pathIsFile [] := by
    funext p
    rw [FileSystem.pathIsFile, FileSystem.pathIsFile, h.find]
  funext n
  unfold ofChild? indexFile?
  rw [hdir, hfile]

theorem discover_same (h : FileSystem.Same files files') (s : Settings) :
    discover files' s = discover files s := by
  have hnames : childNames files' s.entrypointsDir = childNames files s.entrypointsDir := by
    apply mergeSort_eq_of_perm val_le_trans val_le_total
    · intro a b hab hba
      exact val_le_antisymm (of_decide_eq_true hab) (of_decide_eq_true hba)
    · exact h.children_perm s.entrypointsDir
  have hroot : files'.pathIsDir [] s.entrypointsDir.path =
      files.pathIsDir [] s.entrypointsDir.path := by
    rw [FileSystem.pathIsDir, FileSystem.pathIsDir, h.find]
  unfold discover
  rw [hroot, inDir_eq, inDir_eq, hnames, ofChild?_same h]

/-- Unless the system refuses to look at a place, the result is what the children of the directory
offer; in either case the order of the listing does not count. -/
theorem discover_exact (hnul : ∀ l n, files.node? (l ++ [n]) ≠ none → '\x00' ∉ n.val.toList)
    (s : Settings) :
    ((∃ l, LooksAt files s.entrypointsDir l ∧ files.Refused l ∧
        discover files s = .error (.disk .nameTooLong l.text)) ∨
      (∀ l, LooksAt files s.entrypointsDir l → ¬ files.Refused l) ∧
        ∃ ps, discover files s = .ok (ps.map Prod.snd) ∧
          Inventory files s.entrypointsDir s.outDir ps) ∧
      ∀ files', FileSystem.Same files files' → discover files' s = discover files s :=
  ⟨discover_cases hnul s, fun _ h => discover_same h s⟩

/-- What is listed on a disk tells whether there is a NUL in a name. -/
theorem plain_of_below (h : ∀ e ∈ files.below [], ∀ n ∈ e.1, '\x00' ∉ n.val.toList) (l : Location)
    (n : Name) (hn : files.node? (l ++ [n]) ≠ none) : '\x00' ∉ n.val.toList := by
  obtain ⟨k, hk⟩ := Option.ne_none_iff_exists'.mp hn
  exact h (l ++ [n], k) (FileSystem.mem_below.mpr ⟨by simp, hk⟩) n (by simp)

def popupDir : Name := ⟨"popup", by decide⟩

def contentFile : Name := ⟨"popup.content.TS", by decide⟩

/-- A directory with two index files, and a content script that is called like it. -/
def popupDisk : FileSystem :=
  let dirs := (FileSystem.empty.makeDirs [] (Path.ofString "/project/entrypoints/popup")).2
  let script := dirs.writeFile (Generate.sample.entrypointsDir ++
    [popupDir, ⟨"index.ts", by decide⟩]) .empty
  let page := script.writeFile (Generate.sample.entrypointsDir ++
    [popupDir, ⟨"index.html", by decide⟩]) .empty
  page.writeFile (Generate.sample.entrypointsDir ++ [contentFile]) .empty

theorem discover_exact_popup : ∃ ps,
    (∀ l n, popupDisk.node? (l ++ [n]) ≠ none → '\x00' ∉ n.val.toList) ∧
      discover popupDisk Generate.sample = .ok (ps.map Prod.snd) ∧
      Inventory popupDisk Generate.sample.entrypointsDir Generate.sample.outDir ps ∧
      ∀ n ∈ [popupDir, contentFile], n ∈ ps.map Prod.fst := by
  have hnul : ∀ l n, popupDisk.node? (l ++ [n]) ≠ none → '\x00' ∉ n.val.toList :=
    plain_of_below (by decide +kernel)
  have hchildren : popupDisk.children Generate.sample.entrypointsDir = [popupDir, contentFile] := by
    decide +kernel
  have hroot : popupDisk.pathIsDir [] Generate.sample.entrypointsDir.path = .ok true := by
    decide +kernel
  have hread : ∀ n ∈ [popupDir, contentFile], ∃ e, ofChild? popupDisk
      Generate.sample.entrypointsDir Generate.sample.outDir n = .ok (some e) := by
    have hname : ∀ n ∈ [popupDir, contentFile], (ofChild? popupDisk Generate.sample.entrypointsDir
        Generate.sample.outDir n).map (Option.map Entrypoint.name) = .ok (some "popup") := by
      decide +kernel
    intro n hn
    obtain ⟨e?, he, hsome⟩ := map_eq_ok_iff.mp (hname n hn)
    obtain ⟨e, rfl, -⟩ := Option.map_eq_some_iff.mp hsome
    exact ⟨e, he⟩
  obtain ⟨es, hin⟩ : ∃ es, inDir popupDisk Generate.sample.entrypointsDir Generate.sample.outDir =
      .ok es := by
    refine exists_inDir _ fun n hn => ?_
    rw [hchildren] at hn
    obtain ⟨e, he⟩ := hread n hn
    exact ⟨some e, he⟩
  have hes : discover popupDisk Generate.sample = .ok es := (discover_of_dir hroot).trans hin
  rcases (discover_exact hnul Generate.sample).1 with ⟨l, -, -, herror⟩ | ⟨-, ps, hps, hinventory⟩
  · rw [hes] at herror
    cases herror
  · refine ⟨ps, hnul, hps, hinventory, fun n hn => ?_⟩
    rw [hinventory.mem]
    simp only [List.mem_cons, List.not_mem_nil, or_false] at hn
    rcases hn with rfl | rfl
    · exact ⟨_, _, .directory (by decide +kernel) (.here _ _) ⟨.empty, by decide +kernel⟩⟩
    · have hname : contentFile.val = "popup.content" ++ ".TS" := by decide
      exact ⟨_, _, .file ⟨.empty, by decide +kernel⟩ hname (by decide) (by decide)⟩

/-! ### Refusals -/

/-- The sample with another directory for entrypoints, at these names from the root of the project.
-/
def withEntrypoints (names : List Name) : Settings :=
  { Generate.sample with entrypointsDir := Generate.sample.root ++ names }

theorem resolve_withEntrypoints {names : List Name} (hne : names ≠ [])
    (hnul : ∀ n ∈ names, '\x00' ∉ n.val.toList) :
    Settings.resolve [] (.ofString "/project") (.json (.obj [("imports", .bool false),
      ("entrypoints_dir", .str (Path.text ⟨.relative, names.map .name⟩))])) =
        .ok (withEntrypoints names) := by
  have hplain : FileSystem.hasNul (Location.path (Generate.sample.root ++ names)) = false :=
    FileSystem.hasNul_append_names.mpr ⟨by decide, hnul⟩
  have hdir := Declaration.resolveDir_names hne hplain "entrypoints"
  exact bind_eq_ok_iff.mpr ⟨Generate.sample.root, rfl, bind_eq_ok_iff.mpr
    ⟨Generate.sample.root, rfl, bind_eq_ok_iff.mpr ⟨Generate.sample.publicDir, rfl,
      bind_eq_ok_iff.mpr ⟨_, hdir, rfl⟩⟩⟩⟩

theorem discover_ne_ok {s : Settings} (hl : LooksAt files s.entrypointsDir l)
    (hnul : ∀ l n, files.node? (l ++ [n]) ≠ none → '\x00' ∉ n.val.toList) (h : files.Refused l)
    (es : List Entrypoint) : discover files s ≠ .ok es := by
  intro hes
  rcases discover_cases hnul s with ⟨l', -, -, herror⟩ | ⟨hall, -⟩
  · rw [hes] at herror
    cases herror
  · exact hall l hl h

/-- A disk with nothing but an image in the root of the project. -/
def iconDisk : FileSystem := Declaration.nested (Generate.sample.root ++ [Declaration.iconFile])

theorem node?_iconDisk {t : Location} (hn : iconDisk.node? (t ++ [n]) ≠ none) :
    n ∈ Generate.sample.root ++ [Declaration.iconFile] :=
  Declaration.mem_of_node?_nested (List.cons_ne_nil _ _) hn

/-- A directory that is missing makes the search fail if its name is too long. -/
theorem discover_missing : ∃ files s,
    Settings.resolve [] (.ofString "/project") (.json (.obj [("imports", .bool false),
        ("entrypoints_dir", .str Generate.longName.val)])) = .ok s ∧
      (∀ n name input, ¬ Offers files s.entrypointsDir n name input) ∧
      ∀ es, discover files s ≠ .ok es := by
  have hnul : ∀ n ∈ [Generate.longName], '\x00' ∉ n.val.toList :=
    List.forall_mem_singleton.mpr (Declaration.plain_replicate 64)
  have hs := resolve_withEntrypoints (List.cons_ne_nil Generate.longName []) hnul
  rw [List.map_singleton, Path.text_name] at hs
  have hnone : iconDisk.node? (Generate.sample.root ++ [Generate.longName]) = none := by
    by_contra hn
    have hshort : ∀ m ∈ Generate.sample.root ++ [Declaration.iconFile],
        m.val.utf8ByteSize ≤ FileSystem.nameLimit := by
      decide +kernel
    exact absurd (hshort _ (node?_iconDisk hn)) (by decide +kernel)
  refine ⟨iconDisk, _, hs, fun n name input hoffers => ?_, ?_⟩
  · have hdir := FileSystem.node?_of_append (List.cons_ne_nil n []) hoffers.node?_ne_none
    cases hnone.symm.trans hdir
  · apply discover_ne_ok (.root ?_) (fun l n hn => ?_)
    · exact .inr ⟨Generate.sample.root, Generate.longName, [], rfl, by decide +kernel,
        by decide +kernel⟩
    · exact FileSystem.hasNul_append_names.mpr ⟨by decide, hnul⟩
    · have hplain : ∀ m ∈ Generate.sample.root ++ [Declaration.iconFile],
          '\x00' ∉ m.val.toList := by
        decide
      exact hplain n (node?_iconDisk hn)

/-- Sixteen directories in one another. -/
def deepNames : List Name := List.replicate 16 Declaration.wideName

/-- A name of 28 bytes. -/
def pageDir : Name :=
  ⟨String.ofList (List.replicate 7 '😀'), isName_ofList (by decide) (by decide)⟩

/-- A disk with nothing but a script in a directory below all of them. -/
def deepDisk : FileSystem :=
  Declaration.nested ((withEntrypoints deepNames).entrypointsDir ++
    [pageDir, ⟨"index.ts", by decide⟩])

/-- The path of what is in the directory is 4085 bytes longer than its name and a slash. -/
theorem utf8ByteSize_deep (m : Name) :
    (Location.path ((withEntrypoints deepNames).entrypointsDir ++
      [pageDir] ++ [m])).text.utf8ByteSize = 4085 + (m.val.utf8ByteSize + 1) := by
  have hwide : Declaration.wideName.val.utf8ByteSize = 252 := by decide +kernel
  have hpage : pageDir.val.utf8ByteSize = 28 := by decide +kernel
  have hroot : "project".utf8ByteSize = 7 := by decide +kernel
  rw [Path.utf8ByteSize_path (by simp)]
  simp only [withEntrypoints, deepNames, Generate.sample, List.map_append, List.sum_append,
    List.map_replicate, List.sum_replicate_nat, List.map_cons, List.map_nil, List.sum_cons,
    List.sum_nil, hwide, hpage, hroot]
  omega

theorem forall_mem_deep (P : Name → Prop) {t : List Name} (hroot : P ⟨"project", by decide⟩)
    (hwide : P Declaration.wideName) (ht : ∀ m ∈ t, P m) :
    ∀ m ∈ (withEntrypoints deepNames).entrypointsDir ++ t, P m := by
  intro m hm
  rw [List.mem_append, withEntrypoints, List.mem_append] at hm
  rcases hm with (hm | hm) | hm
  · rw [List.mem_singleton.mp hm]
    exact hroot
  · rw [(List.mem_replicate.mp hm).2]
    exact hwide
  · exact ht m hm

theorem plain_deepDisk (l : Location) (n : Name) (hn : deepDisk.node? (l ++ [n]) ≠ none) :
    '\x00' ∉ n.val.toList := by
  have hmem := Declaration.mem_of_node?_nested (by simp) hn
  refine forall_mem_deep (fun m => '\x00' ∉ m.val.toList) (by decide)
    (Declaration.plain_replicate 63) ?_ n hmem
  exact List.forall_mem_cons.mpr ⟨Declaration.plain_replicate 7, by decide⟩

theorem hasFile_deepDisk {t : List Name} :
    deepDisk.HasFile ((withEntrypoints deepNames).entrypointsDir ++ t) ↔
      t = [pageDir, ⟨"index.ts", by decide⟩] := by
  have hne : (withEntrypoints deepNames).entrypointsDir ++
      [pageDir, ⟨"index.ts", by decide⟩] ≠ [] :=
    List.append_ne_nil_of_right_ne_nil _ (List.cons_ne_nil _ _)
  exact (Declaration.hasFile_nested hne).trans (List.append_right_inj _)

/-- The script can be looked for, but a page at its side could not. -/
theorem refused_deepDisk :
    ¬ deepDisk.Refused ((withEntrypoints deepNames).entrypointsDir ++ [pageDir] ++
        [⟨"index.ts", by decide⟩]) ∧
      deepDisk.Refused ((withEntrypoints deepNames).entrypointsDir ++ [pageDir] ++
        [⟨"index.html", by decide⟩]) := by
  constructor
  · rintro (hfits | ⟨q, n, t, hsplit, -, hlong⟩)
    · rw [FileSystem.fits, utf8ByteSize_deep] at hfits
      exact absurd hfits (by decide +kernel)
    · have hn : n ∈ (withEntrypoints deepNames).entrypointsDir ++
          [pageDir, ⟨"index.ts", by decide⟩] := by
        rw [← List.singleton_append, ← List.append_assoc, hsplit]
        exact List.mem_append_right q List.mem_cons_self
      have hshort : n.val.utf8ByteSize ≤ FileSystem.nameLimit :=
        forall_mem_deep (fun m => m.val.utf8ByteSize ≤ FileSystem.nameLimit) (by decide +kernel)
          (by decide +kernel) (by decide +kernel) n hn
      exact absurd hshort (Nat.not_le.mpr hlong)
  · refine .inl ?_
    rw [FileSystem.fits, utf8ByteSize_deep]
    decide +kernel

/-- A directory with a script as its index file makes the search fail if the path of a page at the
side of the script would be too long. -/
theorem discover_deep : ∃ files config s n input,
    Settings.resolve [] (.ofString "/project") config = .ok s ∧
      files.node? s.entrypointsDir = some .dir ∧ Offers files s.entrypointsDir n n.val input ∧
      ¬ files.Refused input ∧ ∀ es, discover files s ≠ .ok es := by
  have hs := resolve_withEntrypoints (List.cons_ne_nil _ _) fun n (hn : n ∈ deepNames) =>
    (List.mem_replicate.mp hn).2 ▸ Declaration.plain_replicate 63
  obtain ⟨b, hb⟩ : deepDisk.HasFile ((withEntrypoints deepNames).entrypointsDir ++
      [pageDir, ⟨"index.ts", by decide⟩]) := hasFile_deepDisk.mpr rfl
  have hdir : deepDisk.node? (withEntrypoints deepNames).entrypointsDir = some .dir := by
    apply FileSystem.node?_of_append (List.cons_ne_nil pageDir [⟨"index.ts", by decide⟩])
    rw [hb]
    exact Option.some_ne_none _
  have hpage : deepDisk.node? ((withEntrypoints deepNames).entrypointsDir ++ [pageDir]) =
      some .dir := by
    apply FileSystem.node?_of_append (List.cons_ne_nil ⟨"index.ts", by decide⟩ [])
    rw [List.append_assoc, List.singleton_append, hb]
    exact Option.some_ne_none _
  refine ⟨deepDisk, _, withEntrypoints deepNames, pageDir, _, hs, hdir,
    .directory hpage (.later ?_ (.here _ _)) ?_, refused_deepDisk.1, ?_⟩
  · rw [List.append_assoc, hasFile_deepDisk]
    decide
  · rw [List.append_assoc, hasFile_deepDisk]
    rfl
  · apply discover_ne_ok (.child ?_ (.index hpage (.here _ _))) plain_deepDisk refused_deepDisk.2
    rw [hpage]
    exact Option.some_ne_none _

/-- Neither a missing directory without entrypoints nor one with an entrypoint is searched to the
end if the system refuses to look at a place. -/
theorem discover_refuses :
    (∃ files s, Settings.resolve [] (.ofString "/project") (.json (.obj [("imports", .bool false),
        ("entrypoints_dir", .str Generate.longName.val)])) = .ok s ∧
      (∀ n name input, ¬ Offers files s.entrypointsDir n name input) ∧
      ∀ es, discover files s ≠ .ok es) ∧
    ∃ files config s n input, Settings.resolve [] (.ofString "/project") config = .ok s ∧
      files.node? s.entrypointsDir = some .dir ∧ Offers files s.entrypointsDir n n.val input ∧
      ¬ files.Refused input ∧ ∀ es, discover files s ≠ .ok es :=
  ⟨discover_missing, discover_deep⟩

end Entrypoint

end ExtTypes
