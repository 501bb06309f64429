import ExtTypes.Proofs.Json.Fields
import ExtTypes.Proofs.Path.RoundTrip
import ExtTypes.Proofs.Settings.Configured

/-! What can be relied on in settings that were read from a configuration, whatever it holds. Main
statement: `Settings.wellFormed_of_resolve`. -/
namespace ExtTypes

/-- Whether a text names a place from the root on, with nothing in it that is still to be resolved. -/
def IsNormal (t : String) : Prop :=
  ∃ names : List String, (∀ n ∈ names, IsName n) ∧ t = "/" ++ Text.joinText "/" names

theorem Location.isNormal_text (l : Location) : IsNormal l.text := by
  refine ⟨l.map Subtype.val, ?_, ?_⟩
  · intro n hn
    obtain ⟨m, -, rfl⟩ := List.mem_map.mp hn
    exact m.property
  · rw [text, path, Path.text, if_neg (by simp), Part.map_text_name]
    rfl

theorem Scalar.shown_eq_ok {s : Scalar} {t : String} (h : s.shown = .ok t) : t = s.text := by
  cases s with
  | int n =>
    rw [shown] at h
    split at h
    · exact (Except.ok.inj h).symm
    · cases h
  | _ => exact (Except.ok.inj h).symm

namespace Settings

open View (lookup? entries text? nonemptyText?)

variable {links : Links} {root source : Location} {s : Settings}

/-! ### Aliases -/

/-- The names of the aliases that every project has. -/
def defaultAliasNames : List String := ["~~", "@@", "~", "@"]

/-- The alias that an entry of a configuration stands for: its name as a text, and where its target
leads from the root. -/
structure IsAliasOf (links : Links) (root : Location) (e : Scalar × Value)
    (a : String × Location) : Prop where
  name : a.1 = e.1.text
  target : ∃ t, e.2.view.text? = some t ∧ t ≠ "" ∧ Key.dirAt? links root t = some a.2

theorem addAliases_eq_ok {es : List (Scalar × Value)} {acc as : List (String × Location)}
    (h : addAliases links root acc es = .ok as) :
    ∃ named, List.Forall₂ (IsAliasOf links root) es named ∧
      as = named.foldl (fun acc a => putField a.1 a.2 acc) acc := by
  -- the aliases so far change with each entry, what is put to them does not depend on them
  induction es generalizing acc with
  | nil => exact ⟨[], .nil, (Except.ok.inj h).symm⟩
  | cons e es ih =>
    obtain ⟨name, target⟩ := e
    obtain ⟨t?, ht, h⟩ := bind_eq_ok_iff.mp h
    cases t? with
    | none =>
      obtain ⟨n, -, h⟩ := bind_eq_ok_iff.mp h
      cases h
    | some t =>
      obtain ⟨l, hl, h⟩ := bind_eq_ok_iff.mp h
      obtain ⟨n, hn, h⟩ := bind_eq_ok_iff.mp h
      obtain ⟨named, hnamed, rfl⟩ := ih h
      have htext : target.view.text? = some t := by
        have hfilter := (View.nonemptyText?_eq_ok ht).symm
        simpa using (Option.filter_eq_some_iff.mp hfilter).1
      have hone : IsAliasOf links root (name, target) (n, l) :=
        ⟨Scalar.shown_eq_ok hn, t, htext, View.ne_empty_of_nonemptyText? ht, by
          rw [Key.dirAt?, hl]
          rfl⟩
      exact ⟨(n, l) :: named, .cons hone hnamed, rfl⟩

theorem nodup_defaultAliases (root source : Location) :
    ((defaultAliases root source).map Prod.fst).Nodup := by
  show defaultAliasNames.Nodup
  decide

/-- The aliases are those that every project has and then the configured ones, put together. -/
theorem readAliases_eq_ok {v? : Option View} {as : List (String × Location)}
    (h : readAliases links root source v? = .ok as) :
    ∃ named, List.Forall₂ (IsAliasOf links root) (entries v?) named ∧
      as = dedupFields (defaultAliases root source ++ named) := by
  have hdefault := dedupFields_of_nodup (nodup_defaultAliases root source)
  unfold readAliases at h
  split at h
  · exact ⟨[], .nil, by rw [List.append_nil, hdefault, ← Except.ok.inj h]⟩
  · exact ⟨[], .nil, by rw [List.append_nil, hdefault, ← Except.ok.inj h]⟩
  · obtain ⟨named, hnamed, rfl⟩ := addAliases_eq_ok h
    exact ⟨named, hnamed, by rw [dedupFields_append, hdefault]⟩
  · cases h

/-! ### Modules -/

/-- The items of a list of modules. -/
def moduleItems : Option View → List Value
  | some (.list items) => items
  | _ => []

/-- The module that an item of a list stands for: a text is the name of a package, a mapping says
what the module is. -/
inductive IsModuleOf (item : Value) : BuildModule → Prop
  | name {t : String} (h : item.view = .scalar (.str t)) : IsModuleOf item ⟨t, .package, none⟩
  | fields {es : List (Scalar × Value)} {m : BuildModule} (h : item.view = .map es)
      (id_ne : m.id ≠ "") (id : (lookup? es "id").bind text? = some m.id)
      (kind : m.kind.text = (((lookup? es "type").bind text?).filter (· ≠ "")).getD "node_module")
      (key : m.configKey? = (lookup? es "config_key").bind text?) : IsModuleOf item m

theorem ModuleKind.text_of_ofText? {t : String} {k : ModuleKind}
    (h : ModuleKind.ofText? t = some k) : k.text = t := by
  unfold ModuleKind.ofText? at h
  split at h
  · next ht => exact (Option.some.inj h) ▸ ht.symm
  · split at h
    · next ht => exact (Option.some.inj h) ▸ ht.symm
    · cases h

theorem isModuleOf_of_readModule {item : Value} {m : BuildModule}
    (h : readModule item.view = .ok m) : IsModuleOf item m := by
  unfold readModule at h
  split at h
  · next t ht =>
    obtain rfl := Except.ok.inj h
    exact .name ht
  · next es hes =>
    obtain ⟨id?, hid, h⟩ := bind_eq_ok_iff.mp h
    cases id? with
    | none => cases h
    | some id =>
      obtain ⟨kind?, hkind, h⟩ := bind_eq_ok_iff.mp h
      dsimp only at h
      split at h
      · cases h
      · next k hk =>
        obtain ⟨key?, hkey, h⟩ := bind_eq_ok_iff.mp h
        obtain rfl := Except.ok.inj h
        have hfilter := (View.nonemptyText?_eq_ok hid).symm
        refine .fields hes (View.ne_empty_of_nonemptyText? hid) ?_ ?_ ?_
        · exact (Option.filter_eq_some_iff.mp hfilter).1
        · rw [← View.nonemptyText?_eq_ok hkind]
          exact ModuleKind.text_of_ofText? hk
        · exact View.textOf?_eq_ok hkey
  · cases h

theorem readModules_eq_ok {v? : Option View} {ms : List BuildModule}
    (h : readModules v? = .ok ms) : List.Forall₂ IsModuleOf (moduleItems v?) ms := by
  unfold readModules at h
  split at h
  · obtain rfl := Except.ok.inj h
    exact .nil
  · obtain rfl := Except.ok.inj h
    exact .nil
  · exact (mapM_eq_ok_iff.mp h).imp fun _ _ => isModuleOf_of_readModule
  · cases h

/-! ### Settings -/

/-- What a linter can be told of a global. -/
def IsAccess (access : GlobalAccess) : Prop :=
  (∃ b, access = .flag b) ∨
    ∃ w ∈ ["readonly", "readable", "writable", "writeable"], access = .word w

theorem isAccess_of_readLint {v? : Option View} {o : LintOptions} (h : readLint v? = .ok o) :
    IsAccess o.access := by
  unfold readLint at h
  split at h
  · obtain rfl := Except.ok.inj h
    exact .inl ⟨true, rfl⟩
  · obtain ⟨path?, -, h⟩ := bind_eq_ok_iff.mp h
    dsimp only at h
    split at h
    · obtain rfl := Except.ok.inj h
      exact .inl ⟨true, rfl⟩
    · next v hv =>
      cases hread : readAccess v with
      | error e =>
        rw [hread] at h
        cases h
      | ok access =>
        rw [hread] at h
        obtain rfl := Except.ok.inj h
        unfold readAccess at hread
        split at hread
        · exact .inl ⟨_, (Except.ok.inj hread).symm⟩
        · split at hread
          · next w hw => exact .inr ⟨_, hw, (Except.ok.inj hread).symm⟩
          · cases hread
        · cases hread

/-- All places that settings name. -/
def places (s : Settings) : List Location :=
  [s.root, s.sourceDir, s.publicDir, s.entrypointsDir, s.outputDir, s.outBaseDir] ++
    s.aliases.map Prod.snd

/-- What holds of settings for a configuration. -/
structure WellFormed (links : Links) (config : View) (s : Settings) : Prop where
  places : ∀ l ∈ s.places, IsNormal l.text
  typesDir : s.typesDir.path = s.outputDir.path.child "types"
  outDir : s.outDir =
    s.outBaseDir.path.child (s.browser ++ "-mv" ++ toString s.manifestVersion.number)
  manifestVersion : s.manifestVersion.number = 2 ∨ s.manifestVersion.number = 3
  command : s.command.text = "build" ∨ s.command.text = "serve"
  browser : s.browser ≠ ""
  mode : s.mode ≠ ""
  aliases : ∃ named,
    List.Forall₂ (IsAliasOf links s.root) (entries (lookup? (entries (some config)) "alias")) named ∧
      s.aliases.map Prod.fst = defaultAliasNames ++
        ((named.map Prod.fst).removeAll defaultAliasNames).eraseDups ∧
      ∀ name, s.aliases.lookup name =
        (named.reverse.lookup name).or ([("~~", s.root), ("@@", s.root), ("~", s.sourceDir),
          ("@", s.sourceDir)].lookup name)
  modules : List.Forall₂ IsModuleOf (moduleItems (lookup? (entries (some config)) "modules")) s.modules
  presets : ∀ o, s.imports? = some o → ∀ i ∈ o.presets, IsPreset i
  access : ∀ o, s.imports? = some o → IsAccess o.lint.access

theorem typesDir_path (s : Settings) : s.typesDir.path = s.outputDir.path.child "types" := by
  have htypes : Path.ofString "types" = ⟨.relative, [.name typesName]⟩ := by decide
  rw [Path.child, htypes, typesDir, Location.path, List.map_append]
  rfl

/-- A text that is used in place of an empty one is not empty. -/
theorem getD_ne_empty {v? : Option View} {t? : Option String} {default : String}
    (h : nonemptyText? v? = .ok t?) (hd : default ≠ "") : t?.getD default ≠ "" := by
  cases t? with
  | none => exact hd
  | some t => exact View.ne_empty_of_nonemptyText? h

/-- Settings that were read from a configuration are well formed. -/
theorem wellFormed_of_resolve {root : Path} {config : Value}
    (h : resolve links root config = .ok s) : WellFormed links config.view s := by
  obtain ⟨es, hes, hs⟩ := resolved_of_resolve h
  rw [hes]
  refine {
    places := fun l _ => l.isNormal_text
    typesDir := s.typesDir_path
    outDir := rfl
    manifestVersion := by cases s.manifestVersion <;> simp [ManifestVersion.number]
    command := by cases s.command <;> simp [Command.text]
    browser := ?_
    mode := ?_
    aliases := ?_
    modules := readModules_eq_ok hs.modules
    presets := ?_
    access := ?_ }
  · obtain ⟨t?, ht, hb⟩ := hs.browser
    rw [hb]
    exact getD_ne_empty ht (by decide)
  · obtain ⟨t?, ht, hm⟩ := hs.mode
    rw [hm]
    exact getD_ne_empty ht (by cases s.command <;> decide)
  · obtain ⟨named, hnamed, has⟩ := readAliases_eq_ok hs.aliases
    have hdefault := dedupFields_of_nodup (nodup_defaultAliases s.root s.sourceDir)
    refine ⟨named, hnamed, ?_, fun name => ?_⟩
    -- no default name stands twice, so the first places are theirs
    · rw [has, keys_dedupFields, List.map_append, List.eraseDups_append]
      rfl
    · rw [has, lookup_dedupFields, List.reverse_append, List.lookup_append, ← lookup_dedupFields
        (defaultAliases _ _), hdefault]
      rfl
  · intro o ho
    exact isPreset_of_readImports (hs.imports.trans (by rw [ho]))
  · intro o ho
    exact isAccess_of_readLint (of_readImports (hs.imports.trans (by rw [ho]))).2

/-- An alias of every project that is moved, a new one, a module that is only named and one with
fields, and a preset. -/
def asksForMuch : Value := .json (.obj [
  ("browser", .str "edge"),
  ("alias", .obj [("lib", .str "a/../lib"), ("~", .str "/home"), ("@@", .str ".")]),
  ("modules", .arr [.str "", .obj [("id", .str "m"), ("type", .str "local")]]),
  ("imports", .obj [("imports", .arr [.obj [("name", .str "ref"), ("from", .str "vue")]])])])

theorem wellFormed_of_resolve_much : ∃ s,
    resolve [] (.ofString "/project") asksForMuch = .ok s ∧ WellFormed [] asksForMuch.view s ∧
      s.aliases.map (fun a => (a.1, a.2.text)) =
        [("~~", "/project"), ("@@", "/project"), ("~", "/home"), ("@", "/project"),
          ("lib", "/project/lib")] := by
  have h : ∃ s, resolve [] (.ofString "/project") asksForMuch = .ok s ∧
      s.aliases.map (fun a => (a.1, a.2.text)) =
        [("~~", "/project"), ("@@", "/project"), ("~", "/home"), ("@", "/project"),
          ("lib", "/project/lib")] := ⟨_, rfl, by decide +kernel⟩
  obtain ⟨s, hs, haliases⟩ := h
  exact ⟨s, hs, wellFormed_of_resolve hs, haliases⟩

end Settings

end ExtTypes
