import ExtTypes.Proofs.Outcome
import ExtTypes.Settings.Resolve

/-! What settings are made of. Main statement: `Settings.resolved_of_resolve`, each setting as the
value that it was read from says. -/
namespace ExtTypes

namespace View

/-- The text that a value stands for: that of a text or a number. -/
def text? : View → Option String
  | .scalar (.str s) => some s
  | .scalar (.int n) => some (Scalar.text (.int n))
  | .scalar (.real x) => some (Scalar.text (.real x))
  | _ => none

theorem textOf?_eq_ok {v? : Option View} {t? : Option String} (h : textOf? v? = .ok t?) :
    t? = v?.bind text? := by
  rcases v? with _ | v
  · exact (Except.ok.inj h).symm
  · cases v with
    | scalar s =>
      cases s with
      | int n =>
        simp only [textOf?, asText?, Scalar.shown] at h
        split at h
        · exact (Except.ok.inj h).symm
        · cases h
      | _ => exact (Except.ok.inj h).symm
    | _ => exact (Except.ok.inj h).symm

theorem nonemptyText?_eq_ok {v? : Option View} {t? : Option String}
    (h : nonemptyText? v? = .ok t?) : t? = (v?.bind text?).filter (· ≠ "") := by
  unfold nonemptyText? at h
  cases ht : textOf? v? with
  | error e =>
    rw [ht] at h
    cases h
  | ok t? =>
    rw [ht] at h
    rw [← textOf?_eq_ok ht]
    exact (Except.ok.inj h).symm

theorem ne_empty_of_nonemptyText? {v? : Option View} {t : String}
    (h : nonemptyText? v? = .ok (some t)) : t ≠ "" := by
  have hfilter := (nonemptyText?_eq_ok h).symm
  simpa using (Option.filter_eq_some_iff.mp hfilter).2

end View

namespace Settings

open View (lookup? entries asTexts textOf? nonemptyText?)

variable {links : Links} {base l : Location}

/-! ### Presets -/

/-- What is asked of a preset. -/
structure IsPreset (i : Import) : Prop where
  name : i.name ≠ ""
  source : i.source ≠ ""
  exposedAs : i.alias? ≠ some ""

theorem isPreset_of_readPreset {v : View} {i : Import} (h : readPreset v = .ok i) : IsPreset i := by
  unfold readPreset at h
  split at h
  · obtain ⟨n?, hname, h⟩ := bind_eq_ok_iff.mp h
    cases n? with
    | none => cases h
    | some n =>
      obtain ⟨s?, hsource, h⟩ := bind_eq_ok_iff.mp h
      cases s? with
      | none => cases h
      | some s =>
        obtain ⟨alias?, halias, h⟩ := bind_eq_ok_iff.mp h
        obtain rfl := Except.ok.inj h
        refine ⟨View.ne_empty_of_nonemptyText? hname, View.ne_empty_of_nonemptyText? hsource, ?_⟩
        rintro (he : alias? = some "")
        rw [he] at halias
        exact View.ne_empty_of_nonemptyText? halias rfl
  · cases h

theorem isPreset_of_readPresets {v? : Option View} {is : List Import}
    (h : readPresets v? = .ok is) : ∀ i ∈ is, IsPreset i := by
  unfold readPresets at h
  split at h
  · obtain rfl := Except.ok.inj h
    simp
  · split at h
    · split at h
      · exact forall_of_mapM_eq_ok (fun _ _ => isPreset_of_readPreset) h
      · cases h
    · obtain rfl := Except.ok.inj h
      simp

/-- What imports are made of besides their directories. A value that is no mapping has nothing under
any key. -/
theorem of_readImports {v? : Option View} {o : ImportOptions}
    (h : readImports v? = .ok (some o)) :
    readPresets (lookup? (entries v?) "imports") = .ok o.presets ∧
      readLint (lookup? (entries v?) "eslintrc") = .ok o.lint := by
  unfold readImports at h
  split at h
  · cases h
  · cases h
    exact ⟨rfl, rfl⟩
  · cases h
    exact ⟨rfl, rfl⟩
  · cases h
    exact ⟨rfl, rfl⟩
  · next es =>
    have hrest {dirs : List String} (h : (do
        let presets ← readPresets (lookup? es "imports")
        let lint ← readLint (lookup? es "eslintrc")
        return some ⟨dirs, presets, lint⟩) = Except.ok (some o)) :
        readPresets (lookup? es "imports") = .ok o.presets ∧
          readLint (lookup? es "eslintrc") = .ok o.lint := by
      obtain ⟨presets, hpresets, h⟩ := bind_eq_ok_iff.mp h
      obtain ⟨lint, hlint, h⟩ := bind_eq_ok_iff.mp h
      cases h
      exact ⟨hpresets, hlint⟩
    dsimp only at h
    split at h
    · obtain ⟨dirs, -, h⟩ := bind_eq_ok_iff.mp h
      exact hrest h
    · exact hrest h
  · cases h

theorem isPreset_of_readImports {v? : Option View} {o : ImportOptions}
    (h : readImports v? = .ok (some o)) : ∀ i ∈ o.presets, IsPreset i :=
  isPreset_of_readPresets (of_readImports h).1

/-! ### Settings -/

/-- A directory stands where its text leads, if that is not empty. -/
theorem resolveDir_eq_ok {v? : Option View} {default : String}
    (h : resolveDir links base v? default = .ok l) :
    FileSystem.resolve links []
      (base.path.child (((v?.bind View.text?).filter (· ≠ "")).getD default)) = .ok l := by
  obtain ⟨t?, ht, hl⟩ := bind_eq_ok_iff.mp h
  rwa [View.nonemptyText?_eq_ok ht] at hl

/-- The settings of a project at `root` whose configuration has the entries `es`, each as it is read.
The browser decides on the version, the command on the mode, and the source directory on what is
below it. -/
structure Resolved (links : Links) (root : Path) (es : List (Scalar × Value)) (s : Settings) :
    Prop where
  root : FileSystem.resolve links [] root = .ok s.root
  sourceDir : resolveDir links s.root (lookup? es "src_dir") "." = .ok s.sourceDir
  publicDir : resolveDir links s.sourceDir (lookup? es "public_dir") "public" = .ok s.publicDir
  entrypointsDir :
    resolveDir links s.sourceDir (lookup? es "entrypoints_dir") "entrypoints" = .ok s.entrypointsDir
  outputDir : resolveDir links s.root (lookup? es "output_dir") ".wxt" = .ok s.outputDir
  outBaseDir : resolveDir links s.root (lookup? es "out_base_dir") ".output" = .ok s.outBaseDir
  browser : ∃ t?, nonemptyText? (lookup? es "browser") = .ok t? ∧ s.browser = t?.getD "chrome"
  manifestVersion :
    readManifestVersion s.browser (lookup? es "manifest_version") = .ok s.manifestVersion
  command : readCommand (lookup? es "command") = .ok s.command
  mode : ∃ t?, nonemptyText? (lookup? es "mode") = .ok t? ∧ s.mode = t?.getD s.command.defaultMode
  aliases : readAliases links s.root s.sourceDir (lookup? es "alias") = .ok s.aliases
  defaultLocale :
    textOf? (lookup? (entries (lookup? es "manifest")) "default_locale") = .ok s.defaultLocale?
  imports : readImports (lookup? es "imports") = .ok s.imports?
  modules : readModules (lookup? es "modules") = .ok s.modules
  hooks : ((lookup? es "hooks").map asTexts).getD (.ok []) = .ok s.hooks

theorem bind_texts {α : Type} (v? : Option View) (k : List String → Except Failure α) :
    (match v? with
      | some v => v.asTexts >>= k
      | none => pure [] >>= k) = ((v?.map asTexts).getD (.ok []) >>= k) := by
  cases v? <;> rfl

theorem resolved_of_resolve {root : Path} {config : Value} {s : Settings}
    (h : resolve links root config = .ok s) :
    ∃ es, config.view = .map es ∧ Resolved links root es s := by
  unfold resolve at h
  split at h
  · next es hes =>
    refine ⟨es, hes, ?_⟩
    obtain ⟨root', hroot, h⟩ := bind_eq_ok_iff.mp h
    obtain ⟨sourceDir, hsource, h⟩ := bind_eq_ok_iff.mp h
    obtain ⟨publicDir, hpublic, h⟩ := bind_eq_ok_iff.mp h
    obtain ⟨entrypointsDir, hentrypoints, h⟩ := bind_eq_ok_iff.mp h
    obtain ⟨outputDir, houtput, h⟩ := bind_eq_ok_iff.mp h
    obtain ⟨outBaseDir, hbase, h⟩ := bind_eq_ok_iff.mp h
    obtain ⟨browser?, hbrowser, h⟩ := bind_eq_ok_iff.mp h
    obtain ⟨version, hversion, h⟩ := bind_eq_ok_iff.mp h
    obtain ⟨command, hcommand, h⟩ := bind_eq_ok_iff.mp h
    obtain ⟨mode?, hmode, h⟩ := bind_eq_ok_iff.mp h
    obtain ⟨aliases, haliases, h⟩ := bind_eq_ok_iff.mp h
    obtain ⟨locale?, hlocale, h⟩ := bind_eq_ok_iff.mp h
    obtain ⟨imports?, himports, h⟩ := bind_eq_ok_iff.mp h
    obtain ⟨modules, hmodules, h⟩ := bind_eq_ok_iff.mp h
    obtain ⟨hooks, hhooks, h⟩ := bind_eq_ok_iff.mp ((bind_texts _ _).symm.trans h)
    obtain rfl := Except.ok.inj h
    exact ⟨hroot, hsource, hpublic, hentrypoints, houtput, hbase, ⟨_, hbrowser, rfl⟩, hversion,
      hcommand, ⟨_, hmode, rfl⟩, haliases, hlocale, himports, hmodules, hhooks⟩
  · cases h

end Settings

end ExtTypes
