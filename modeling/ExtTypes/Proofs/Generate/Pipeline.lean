import ExtTypes.Proofs.FileSystem.Lookup
import ExtTypes.Proofs.Generate.Stages
import ExtTypes.Proofs.Path.Below
import ExtTypes.Proofs.Settings.Obstacle
import ExtTypes.Proofs.Writer.Order

/-! What a run that ends well returns, and what is on disk then. Main statement: `run_contract`. -/
namespace ExtTypes

open FileSystem (Rewrites)
open Log (State)

namespace Scanner

/-- Asking for the imports does no more than log. -/
theorem imports_apply (sc : Scanner) (σ : State) :
    ∃ τ, sc.imports σ = (.ok sc.sifted.1, τ) ∧ State.Logged σ τ := by
  obtain ⟨τ, hτ, hlogged⟩ := Action.forM_log id sc.warnings σ
  exact ⟨τ, Action.bind_of_ok hτ, hlogged⟩

/-- A scan replaces what was found before, and leaves the configured imports alone. -/
theorem scan_presets {sc sc' : Scanner} {source : Path} {ds : List String} {σ τ : State}
    (h : sc.scan source ds σ = (.ok sc', τ)) : sc' = { sc with scanned := sc'.scanned } := by
  obtain ⟨isDir, σ₁, -, h⟩ := Action.bind_eq_ok.mp h
  cases isDir with
  | false => cases h
  | true =>
    obtain ⟨found, σ₂, -, h⟩ := Action.bind_eq_ok.mp h
    obtain ⟨-, σ₃, -, h⟩ := Action.bind_eq_ok.mp h
    cases h
    rfl

end Scanner

namespace Declaration

/-- The file that declares the imports. -/
def importsFile (s : Settings) (is : List Import) : FileEntry :=
  ⟨"types/imports.d.ts",
   unlines [header, Text.joinText "\n" (["export \x7b\x7d", "declare global \x7b"] ++
     importLines [] (some s.typesDir.path) is ++ ["\x7d"])],
   true⟩

theorem importsEntry_eq_ok {s : Settings} {sc sc' : Scanner} {ds : List String} {f : FileEntry}
    {σ τ : State} (h : importsEntry s sc ds σ = (.ok (f, sc'), τ)) :
    (sc.scan s.sourceDir.path ds σ).1 = .ok sc' ∧ f = importsFile s sc'.sifted.1 := by
  obtain ⟨sc₁, σ₁, hscan, h⟩ := Action.bind_eq_ok.mp h
  obtain ⟨text, σ₂, htext, h⟩ := Action.bind_eq_ok.mp h
  obtain ⟨is, σ₃, his, htext⟩ := Action.bind_eq_ok.mp htext
  obtain ⟨σ₄, hsifted, -⟩ := sc₁.imports_apply σ₁
  cases h
  rw [hsifted] at his
  cases his
  cases htext
  exact ⟨by rw [hscan], rfl⟩

end Declaration

namespace Generate

variable {s : Settings} {entrypoints : List Entrypoint} {source : HookSource} {σ τ : State}
  {entries : List Entry}

/-- The entries for imports, if the last scan found these. -/
def importFiles (s : Settings) (found : List Import) : List Entry :=
  match s.imports? with
  | none => []
  | some o =>
    let is := (Scanner.mk o.presets found).sifted.1
    .file (Declaration.importsFile s is) ::
      if o.lint.enabled then [.file (Declaration.lintFile is o.lint)] else []

/-- The entry for messages, if there are locales. -/
def messageFiles (hasLocales : Bool) (ms : List Message) : List Entry :=
  if hasLocales then [.file ⟨"types/i18n.d.ts", Declaration.messagesText ms, true⟩] else []

theorem importEntries_eq_ok {es : List Entry} (h : importEntries s σ = (.ok es, τ)) :
    ∃ found, es = importFiles s found ∧ ∀ o, s.imports? = some o →
      (Scanner.scan ⟨o.presets, []⟩ s.sourceDir.path o.dirs σ).1 = .ok ⟨o.presets, found⟩ := by
  unfold importEntries at h
  unfold importFiles
  cases ho : s.imports? with
  | none =>
    rw [ho] at h
    obtain ⟨-, σ₁, -, h⟩ := Action.bind_eq_ok.mp h
    cases h
    exact ⟨[], rfl, by simp⟩
  | some o =>
    rw [ho] at h
    obtain ⟨⟨f, sc⟩, σ₁, hdecl, h⟩ := Action.bind_eq_ok.mp h
    obtain ⟨hscan, rfl⟩ := Declaration.importsEntry_eq_ok hdecl
    -- the scan keeps the presets, so all that is new is what it found
    have hsc : sc = ⟨o.presets, sc.scanned⟩ := Scanner.scan_presets (Prod.ext hscan rfl)
    refine ⟨sc.scanned, ?_, ?_⟩
    · dsimp only at h ⊢
      rw [← hsc]
      split at h
      · next hlint =>
        obtain ⟨lint, σ₂, hl, h⟩ := Action.bind_eq_ok.mp h
        obtain ⟨is, σ₃, his, hl⟩ := Action.bind_eq_ok.mp hl
        obtain ⟨σ₄, hsifted, -⟩ := sc.imports_apply σ₁
        rw [hsifted] at his
        cases his
        cases hl
        cases h
        rw [if_pos hlint]
      · next hlint =>
        cases h
        rw [if_neg hlint]
    · rintro o' ho'
      obtain rfl : o = o' := Option.some.inj ho'
      rwa [← hsc]

theorem messageEntries_eq_ok {files : FileSystem} {es : List Entry} :
    messageEntries files s = .ok es ↔ ∃ b ms, hasLocales files s = .ok b ∧
      es = messageFiles b ms ∧ (b = true → Declaration.defaultMessages files s = .ok ms) := by
  unfold messageEntries
  rcases hasLocales files s with e | _ | _
  · simp [bind, Except.bind]
  · simp only [bind, Except.bind, pure, Except.pure, Bool.false_eq_true, if_false]
    constructor
    · intro h
      exact ⟨false, [], rfl, (Except.ok.inj h).symm, by simp⟩
    · rintro ⟨b, ms, hb, rfl, -⟩
      cases hb
      rfl
  · cases hm : Declaration.defaultMessages files s with
    | error e =>
      simp only [Declaration.messagesEntry, hm, Except.map, bind, Except.bind, if_true]
      constructor
      · intro h
        cases h
      · rintro ⟨b, ms, hb, -, hms⟩
        cases hb
        cases hms rfl
    | ok ms =>
      simp only [Declaration.messagesEntry, hm, Except.map, bind, Except.bind, pure, Except.pure,
        if_true]
      constructor
      · intro h
        exact ⟨true, ms, rfl, (Except.ok.inj h).symm, fun _ => rfl⟩
      · rintro ⟨b, ms', hb, rfl, hms⟩
        cases hb
        cases hms rfl
        rfl

theorem hookEntries_eq_ok {seen added : List Entry}
    (h : hookEntries s source seen σ = (.ok added, τ)) :
    ∃ hooks, source.hooks s = .ok hooks ∧ Hook.runAll s hooks seen = .ok added := by
  obtain ⟨hooks, σ₁, hhooks, h⟩ := Action.bind_eq_ok.mp h
  obtain ⟨es, σ₂, hes, h⟩ := Action.bind_eq_ok.mp h
  -- the branches differ in what they log only
  have hsame : es = added := by
    dsimp only at h
    split at h
    · cases h
      rfl
    · obtain ⟨-, σ₃, -, h⟩ := Action.bind_eq_ok.mp h
      cases h
      rfl
  subst hsame
  exact ⟨hooks, congrArg Prod.fst hhooks, congrArg Prod.fst hes⟩

/-- What the stages of a run give that starts to collect in the state `σ`. While it collects, only
the log file can change. -/
structure Stages (s : Settings) (entrypoints : List Entrypoint) (source : HookSource)
    (σ : State) where
  files : FileSystem
  found : List Import
  paths : FileEntry
  localized : Bool
  messages : List Message
  hooks : List Hook
  added : List Entry
  files_rewrites : Rewrites σ.logFiles σ.files files
  scan_eq : ∀ o, s.imports? = some o →
    (Scanner.scan ⟨o.presets, []⟩ s.sourceDir.path o.dirs σ).1 = .ok ⟨o.presets, found⟩
  paths_eq : Declaration.pathsEntry files s entrypoints = .ok paths
  localized_eq : hasLocales files s = .ok localized
  messages_eq : localized = true → Declaration.defaultMessages files s = .ok messages
  hooks_eq : source.hooks s = .ok hooks
  added_eq : Hook.runAll s hooks
    (moduleEntries s ++ importFiles s found ++ [.file paths] ++ messageFiles localized messages ++
      [.file (Declaration.globalsEntry s), .file (Declaration.tsconfigEntry s)]) = .ok added

/-- All entries but the last one, in their order. -/
def Stages.before (st : Stages s entrypoints source σ) : List Entry :=
  moduleEntries s ++ importFiles s st.found ++ [.file st.paths] ++
    messageFiles st.localized st.messages ++
    [.file (Declaration.globalsEntry s), .file (Declaration.tsconfigEntry s)] ++ st.added

theorem collect_eq_ok (h : collect s entrypoints source σ = (.ok entries, τ)) :
    ∃ st : Stages s entrypoints source σ,
      entries = st.before ++ [.file (Declaration.referenceEntry s st.before)] := by
  obtain ⟨imports, σ₁, himports, h⟩ := Action.bind_eq_ok.mp h
  obtain ⟨paths, σ₂, hpaths, h⟩ := Action.bind_eq_ok.mp h
  obtain ⟨messages, σ₃, hmessages, h⟩ := Action.bind_eq_ok.mp h
  obtain ⟨added, σ₄, hadded, hend⟩ := Action.bind_eq_ok.mp h
  -- all that reads the files comes after the scan, which logs
  have hlogged := importEntries_logs s σ
  rw [himports] at hlogged
  obtain ⟨found, rfl, hfound⟩ := importEntries_eq_ok himports
  obtain ⟨hp, rfl⟩ := Action.look_eq_ok.mp hpaths
  obtain ⟨hm, rfl⟩ := Action.look_eq_ok.mp hmessages
  obtain ⟨b, ms, hb, rfl, hms⟩ := messageEntries_eq_ok.mp hm
  obtain ⟨hooks, hhooks, hrun⟩ := hookEntries_eq_ok hadded
  cases hend
  exact ⟨⟨σ₁.files, found, paths, b, ms, hooks, added, hlogged.files, hfound, hp, hb, hms, hhooks,
    hrun⟩, rfl⟩

/-- The name of the directory for locales. -/
def localesName : Name := ⟨"_locales", by decide⟩

theorem localesPath (s : Settings) :
    s.publicDir.path.child "_locales" = Location.path (s.publicDir ++ [localesName]) :=
  (Path.child_val _ localesName).trans (FileSystem.below_path _ _)

theorem forall_ok_of_map_ok {α : Type} {xs : List (Except Failure α)} {as : List α}
    (h : xs = as.map .ok) : ∀ x ∈ xs, ∃ a, x = .ok a := by
  rw [h]
  exact fun x hx => (List.mem_map.mp hx).imp fun _ ha => ha.2.symm

/-- A run that ends well writes its files in a state that it has come to by logging. If they go to
different places and never up, they can be written in any order from there. -/
theorem writes_of_run {r : Result} (h : run s entrypoints source σ = (.ok r, τ)) :
    ∃ φ, State.Logged (begun s σ) φ ∧ φ.logFiles = σ.logFiles ∧
      (Writer.writeAll (targets s r.entries) φ).1 = .ok r.writes ∧
      State.Logged (Writer.writeAll (targets s r.entries) φ).2 τ ∧
      ((∀ f ∈ targets s r.entries, f.IsPlain) →
        ((targets s r.entries).map FileEntry.location).Nodup →
        (∀ f ∈ targets s r.entries, f.location ∉ σ.logFiles) →
          ∀ order, order.Perm (targets s r.entries) →
            ∀ w ∈ (Writer.writeEach φ order).1, ∃ x, w = .ok x) := by
  obtain ⟨υ, φ, hgather, hφ, hwrites, hend⟩ := run_eq_ok h
  have hall := Writer.writeAll_of_isAbsolute (isAbsolute_targets s r.entries) φ
  have hlogs : φ.logFiles = σ.logFiles := hφ.logFiles.trans (gather_logFiles hgather)
  have hok := forall_ok_of_map_ok hwrites
  refine ⟨φ, (gather_logged hgather).trans hφ, hlogs, ?_, ?_,
    fun hplain hnodup hlog order hperm => ?_⟩
  · rw [hall, hwrites]
    exact Writer.collect_eq_ok.mpr rfl
  · rw [hall]
    exact hend
  · rw [← hlogs] at hlog
    exact Writer.writeEach_perm_ok (Writer.independent_of_ok hplain hnodup hlog hok) hperm hok

/-- A project with a directory for locales. -/
def localized : State :=
  quiet (FileSystem.empty.makeDirs [] (Location.path (sample.publicDir ++ [localesName]))).2

end Generate

end ExtTypes
