import ExtTypes.Proofs.FileSystem.Listing

/-! Which files a walk through sources comes to, and in which order. Main statements:
`mem_sourceFiles_iff` and `pairwise_sourceFiles`. -/
namespace ExtTypes

/-- Whether a walk comes to one file before it comes to another one: to the files of a directory
before those in its directories, and to files and directories by name. -/
inductive Precedes : List Name → List Name → Prop
  | files {x y : Name} (h : x.val < y.val) : Precedes [x] [y]
  | deeper (x y : Name) {t : List Name} (ht : t ≠ []) : Precedes [x] (y :: t)
  | dirs {x y : Name} (h : x.val < y.val) {s t : List Name} (hs : s ≠ []) (ht : t ≠ []) :
      Precedes (x :: s) (y :: t)
  | inside (x : Name) {s t : List Name} (h : Precedes s t) : Precedes (x :: s) (x :: t)

theorem Precedes.irrefl (s : List Name) : ¬ Precedes s s := by
  induction s with
  | nil =>
    intro h
    cases h
  | cons x s ih =>
    intro h
    cases h with
    | files h => exact String.lt_irrefl _ h
    | deeper _ _ ht => exact ht rfl
    | dirs h _ _ => exact String.lt_irrefl _ h
    | inside _ h => exact ih h

/-- Files in the order of a walk are different. -/
theorem Precedes.nodup {found : List (List Name)} (h : found.Pairwise Precedes) : found.Nodup := by
  apply h.imp
  rintro s _ hst rfl
  exact irrefl s hst

theorem Precedes.ne_nil {s t : List Name} (h : Precedes s t) : s ≠ [] ∧ t ≠ [] := by
  cases h <;> exact ⟨List.cons_ne_nil _ _, List.cons_ne_nil _ _⟩

/-- Of two different files the one comes first that is not after the other one. -/
theorem precedes_of_walkLe {s t : List Name} (hs : s ≠ []) (ht : t ≠ []) (hne : s ≠ t)
    (hle : walkLe s t = true) : Precedes s t := by
  induction s generalizing t with
  | nil => exact absurd rfl hs
  | cons x s ih =>
    obtain ⟨y, t, rfl⟩ := List.exists_cons_of_ne_nil ht
    rw [walkLe_cons_cons] at hle
    by_cases hs' : s = []
    · subst hs'
      rw [if_pos rfl] at hle
      by_cases ht' : t = []
      · subst ht'
        have hxy : x ≠ y := fun h => hne (by rw [h])
        exact .files (val_lt_of_le (hle.resolve_left fun h => h rfl) hxy)
      · exact .deeper x y ht'
    · rw [if_neg hs'] at hle
      obtain ⟨ht', hle⟩ := hle
      by_cases hxy : x = y
      · subst hxy
        rw [if_pos rfl] at hle
        have hst : s ≠ t := fun h => hne (by rw [h])
        exact .inside x (ih hs' ht' hst hle)
      · rw [if_neg hxy] at hle
        exact .dirs (val_lt_of_le hle hxy) hs' ht'

/-! ### Names of sources -/

theorem endsInOneOf_iff {endings : List String} {s : String} :
    endsInOneOf endings s = true ↔ ∃ e ∈ endings, e.toList <:+ s.toList := by
  simp only [endsInOneOf, List.any_eq_true, List.isSuffixOf_iff_suffix]

/-- The names are those of directories without foreign modules, and of a source file that is no
declaration file. -/
def IsSourceName (names : List Name) : Prop := ∃ dirs n, names = dirs ++ [n] ∧
  (∃ e ∈ [".ts", ".tsx", ".mts", ".js", ".jsx", ".mjs"], e.toList <:+ n.val.toList) ∧
  ¬ ".d.ts".toList <:+ n.val.toList ∧ ∀ d ∈ dirs, d.val ≠ "node_modules"

theorem isOwnSource_concat (dirs : List Name) (n : Name) : isOwnSource (dirs ++ [n]) = true ↔
    (∃ e ∈ sourceEndings, e.toList <:+ n.val.toList) ∧ ¬ ".d.ts".toList <:+ n.val.toList ∧
      ∀ d ∈ dirs, d.val ≠ "node_modules" := by
  have hdeclaration : endsInOneOf [".d.ts"] n.val = true ↔ ".d.ts".toList <:+ n.val.toList := by
    rw [endsInOneOf_iff]
    simp only [List.mem_singleton, exists_eq_left]
  have hforeign : isForeign dirs = true ↔ ¬ ∀ d ∈ dirs, d.val ≠ "node_modules" := by
    simp [isForeign]
  rw [isOwnSource, List.getLast?_concat, List.dropLast_concat]
  dsimp only
  rw [isSourceFile, Bool.and_eq_true, Bool.and_eq_true, Bool.not_eq_true', Bool.not_eq_true',
    ← Bool.not_eq_true, ← Bool.not_eq_true, hdeclaration, hforeign, Classical.not_not,
    endsInOneOf_iff, and_assoc]

/-- A name before others must be none of foreign modules. -/
theorem isOwnSource_cons (n : Name) {names : List Name} (h : names ≠ []) :
    isOwnSource (n :: names) = (n.val ≠ "node_modules" && isOwnSource names) := by
  obtain ⟨m, names, rfl⟩ := List.exists_cons_of_ne_nil h
  simp only [isOwnSource, List.getLast?_cons_cons, List.dropLast_cons_cons, isForeign, List.any_cons]
  by_cases hn : n.val = "node_modules"
  · simp only [hn, decide_true, Bool.true_or, Bool.not_true, Bool.and_false, ne_eq, not_true,
      decide_false, Bool.false_and]
    split <;> rfl
  · simp only [hn, decide_false, Bool.false_or, ne_eq, not_false_iff, decide_true, Bool.true_and]

theorem isOwnSource_iff {names : List Name} : isOwnSource names = true ↔ IsSourceName names := by
  constructor
  · intro h
    rcases List.eq_nil_or_concat names with rfl | ⟨dirs, n, rfl⟩
    · cases h
    · rw [List.concat_eq_append] at h ⊢
      exact ⟨dirs, n, rfl, (isOwnSource_concat dirs n).mp h⟩
  · rintro ⟨dirs, n, rfl, h⟩
    exact (isOwnSource_concat dirs n).mpr h

namespace FileSystem

variable {fs : FileSystem} {l : Location}

/-- A walk comes to all source files that are there, and to nothing else. -/
theorem mem_sourceFiles_iff {names : List Name} :
    names ∈ fs.sourceFiles l ↔ IsSourceName names ∧ fs.HasFile (l ++ names) := by
  rw [mem_sourceFiles, isOwnSource_iff]

/-- It comes to them in order, and to none of them twice. -/
theorem pairwise_sourceFiles (fs : FileSystem) (l : Location) :
    (fs.sourceFiles l).Pairwise Precedes := by
  have hle : (fs.sourceFiles l).Pairwise fun s t => walkLe s t = true :=
    List.pairwise_mergeSort walkLe_trans walkLe_total _
  have hne : (fs.sourceFiles l).Nodup := by
    rw [sourceFiles, List.nodup_mergeSort]
    exact (nodup_filesBelow fs l).filter _
  have hnil : ∀ s ∈ fs.sourceFiles l, s ≠ [] := by
    rintro s hs rfl
    have hown := (mem_sourceFiles.mp hs).1
    cases hown
  refine (hle.and hne).imp_of_mem fun hs ht hst => ?_
  exact precedes_of_walkLe (hnil _ hs) (hnil _ ht) hst.2 hst.1

end FileSystem

end ExtTypes
