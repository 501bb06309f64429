import ExtTypes.Proofs.Decimal.Numeral
import ExtTypes.Proofs.FileSystem.MakeDirs
import ExtTypes.Proofs.Path.RoundTrip
import ExtTypes.Proofs.Settings.Resolution

/-! What keeps a configuration from being read besides its faults: whole numbers with too many
digits, paths that no disk can hold, and presets that are no collection. Main statement:
`Settings.resolve_outcome`. -/
namespace ExtTypes

/-! ### Obstacles -/

inductive Obstacle
  /-- A whole number of too many digits. -/
  | tooLong
  | nul
  | noItems (typeName : String)
  deriving DecidableEq, Repr

namespace Obstacle

def failure : Obstacle → Failure
  | tooLong => .value (.digits none)
  | nul => .value .nulInPath
  | noItems t => .type (.notIterable t)

/-- None is reported as a fault of the configuration. -/
theorem kind_failure_ne (o : Obstacle) : o.failure.kind ≠ .configuration := by
  cases o <;> exact nofun

end Obstacle

namespace View

def nulObstacles (s : String) : List Obstacle :=
  if '\x00' ∈ s.toList then [.nul] else []

/-- What is in the way where a text is read: a whole number that is too long to be written. -/
def textObstacles : Option View → List Obstacle
  | some (.scalar (.int n)) => if Decimal.isWritable n then [] else [.tooLong]
  | _ => []

/-- What is in the way where a path is read: that, or a character that no path can hold. -/
def placeObstacles (v? : Option View) : List Obstacle :=
  textObstacles v? ++ nulObstacles ((v?.bind text?).getD "")

/-- What is in the way where a list of texts is read. -/
def textsObstacles : Option View → List Obstacle
  | some (.list items) => items.flatMap fun v => textObstacles (some v.view)
  | some (.pair a b) => textObstacles (some a.view) ++ textObstacles (some b.view)
  | _ => []

/-- What is in the way of the texts under some keys. -/
def fieldObstacles (keys : List String) (v? : Option View) : List Obstacle :=
  keys.flatMap fun key => textObstacles (lookup? (entries v?) key)

end View

namespace Settings

open View (lookup? entries textObstacles placeObstacles textsObstacles fieldObstacles)

def aliasObstacles (v? : Option View) : List Obstacle :=
  (entries v?).flatMap fun (name, target) =>
    placeObstacles (some target.view) ++ textObstacles (some (.scalar name))

/-- What is in the way of the presets. Nothing is iterated that counts as false. -/
def presetsObstacles : Option View → List Obstacle
  | none => []
  | some v =>
    if v.isTruthy then
      match v.items? with
      | some items => items.flatMap fun v => fieldObstacles ["name", "from", "as"] (some v)
      | none => [.noItems v.typeName]
    else []

def importsObstacles (v? : Option View) : List Obstacle :=
  textsObstacles (lookup? (entries v?) "dirs") ++
    presetsObstacles (lookup? (entries v?) "imports") ++
    fieldObstacles ["file_path"] (lookup? (entries v?) "eslintrc")

def modulesObstacles : Option View → List Obstacle
  | some (.list items) =>
    items.flatMap fun v => fieldObstacles ["id", "type", "config_key"] (some v.view)
  | _ => []

def dirKeys : List String :=
  ["src_dir", "public_dir", "entrypoints_dir", "output_dir", "out_base_dir"]

def wordKeys : List String := ["browser", "manifest_version", "command", "mode"]

/-- What is in the way of the settings for a project at `root`, apart from the faults of the
configuration. -/
def obstacles (root : Path) (config : View) : List Obstacle :=
  let es := entries (some config)
  (if FileSystem.hasNul root then [.nul] else []) ++
    dirKeys.flatMap (fun key => placeObstacles (lookup? es key)) ++
    fieldObstacles wordKeys (some config) ++
    aliasObstacles (lookup? es "alias") ++
    fieldObstacles ["default_locale"] (lookup? es "manifest") ++
    importsObstacles (lookup? es "imports") ++
    modulesObstacles (lookup? es "modules") ++
    textsObstacles (lookup? es "hooks")

end Settings

/-! ### How a reader ends -/

/-- How a reader ends with these obstacles in its way, the first one that it meets in front: well, if
there are none, and else with the first one, unless it meets a fault of the configuration before. -/
structure Settles {α : Type} (os : List Obstacle) (x : Except Failure α) : Prop where
  clear : ∀ a, x = .ok a → os = []
  blocked : ∀ e, x = .error e → (∃ f, e = .config f) ∨ ∃ o ∈ os.head?, e = o.failure

namespace Settles

variable {α β : Type} {os os' : List Obstacle} {x : Except Failure α}

theorem ok (a : α) : Settles [] (.ok a : Except Failure α) :=
  ⟨fun _ _ => rfl, (fun _ h => nomatch h)⟩

theorem pure (a : α) : Settles [] (Pure.pure a : Except Failure α) := ok a

theorem error (o : Obstacle) : Settles (o :: os) (.error o.failure : Except Failure α) :=
  ⟨(fun _ h => nomatch h), fun _ h => .inr ⟨o, rfl, (Except.error.inj h).symm⟩⟩

theorem fault (f : ConfigFault) : Settles os (Settings.fault f : Except Failure α) :=
  ⟨(fun _ h => nomatch h), fun _ h => .inl ⟨f, (Except.error.inj h).symm⟩⟩

theorem bind {f : α → Except Failure β} (hx : Settles os x)
    (hf : ∀ a, x = .ok a → Settles os' (f a)) : Settles (os ++ os') (x >>= f) := by
  cases x with
  | error e =>
    refine ⟨(fun _ h => nomatch h), fun e' h => ?_⟩
    obtain rfl : e = e' := Except.error.inj h
    refine (hx.blocked e rfl).imp_right fun ⟨o, ho, he⟩ => ⟨o, ?_, he⟩
    rw [List.head?_append, Option.mem_def.mp ho]
    rfl
  | ok a =>
    -- what was read without a failure had nothing in its way
    rw [hx.clear a rfl, List.nil_append]
    exact ⟨(hf a rfl).clear, (hf a rfl).blocked⟩

theorem map (hx : Settles os x) (f : α → β) : Settles os (x.map f) := by
  cases x with
  | error e =>
    refine ⟨(fun _ h => nomatch h), fun e' h => ?_⟩
    obtain rfl : e = e' := Except.error.inj h
    exact hx.blocked e rfl
  | ok a => exact ⟨fun _ _ => hx.clear a rfl, (fun _ h => nomatch h)⟩

theorem congr (hx : Settles os x) (h : os' = os) : Settles os' x := h ▸ hx

theorem mapM {f : α → Except Failure β} {g : α → List Obstacle} (h : ∀ a, Settles (g a) (f a))
    (as : List α) : Settles (as.flatMap g) (as.mapM f) := by
  induction as with
  | nil => exact pure []
  | cons a as ih =>
    rw [List.mapM_cons, List.flatMap_cons]
    refine (h a).bind fun b _ => ?_
    exact (ih.bind fun bs _ => pure (b :: bs)).congr (by simp)

end Settles

/-! ### Texts -/

namespace View

theorem textObstacles_of_isWritable {n : Int} (h : Decimal.isWritable n = true) :
    textObstacles (some (.scalar (.int n))) = [] := by
  rw [textObstacles, if_pos h]

theorem settles_shown (s : Scalar) : Settles (textObstacles (some (.scalar s))) s.shown := by
  cases s with
  | int n =>
    simp only [Scalar.shown, textObstacles]
    split
    · exact .ok _
    · exact Settles.error _
  | _ => exact .ok _

theorem settles_textOf? (v? : Option View) : Settles (textObstacles v?) (textOf? v?) := by
  match v? with
  | none => exact .ok _
  | some (.scalar (.int n)) => exact (settles_shown (.int n)).map some
  | some (.scalar .null) | some (.scalar (.bool _)) | some (.scalar (.real _))
  | some (.scalar (.str _)) | some (.scalar (.bytes _)) | some (.scalar (.date _))
  | some (.scalar (.moment _)) | some (.list _) | some (.pair _ _) | some (.set _)
  | some (.map _) => exact .ok _

theorem settles_nonemptyText? (v? : Option View) : Settles (textObstacles v?) (nonemptyText? v?) :=
  (settles_textOf? v?).map _

theorem settles_itemText? (v : View) : Settles (textObstacles (some v)) v.itemText? := by
  unfold itemText?
  split
  · exact .ok _
  · exact settles_textOf? (some v)

theorem settles_itemTexts (items : List Value) :
    Settles (items.flatMap fun v => textObstacles (some v.view)) (itemTexts items) := by
  induction items with
  | nil => exact .ok _
  | cons v vs ih =>
    rw [List.flatMap_cons, itemTexts]
    exact (settles_itemText? v.view).bind fun t? _ => (ih.bind fun ts _ => .pure _).congr (by simp)

theorem settles_asTexts (v : View) : Settles (textsObstacles (some v)) v.asTexts := by
  match v with
  | .list items => exact settles_itemTexts items
  | .pair a b => exact (settles_itemTexts [a, b]).congr (by simp [textsObstacles])
  | .scalar .null | .scalar (.bool _) | .scalar (.int _) | .scalar (.real _) | .scalar (.str _)
  | .scalar (.bytes _) | .scalar (.date _) | .scalar (.moment _) | .set _ | .map _ => exact .ok _

theorem nulObstacles_empty : nulObstacles "" = [] := if_neg (by decide)

/-- Of a text that is read as a path, what is in the way is told by the text that is used. -/
theorem nulObstacles_of_text {v? : Option View} {t? : Option String} {default : String}
    (h : nonemptyText? v? = .ok t?) (hd : nulObstacles default = []) :
    nulObstacles (t?.getD default) = nulObstacles ((v?.bind text?).getD "") := by
  rw [nonemptyText?_eq_ok h]
  cases v?.bind text? with
  | none => exact hd
  | some s =>
    rw [Option.filter_some]
    split
    · rfl
    · next hs =>
      obtain rfl : s = "" := by simpa using hs
      exact hd

end View

/-! ### Paths that no disk can hold -/

namespace Part

theorem exists_ofString?_of_nul {s : String} (h : '\x00' ∈ s.toList) (hs : '/' ∉ s.toList) :
    ∃ q, ofString? s = some q := by
  have hne (t : String) (ht : '\x00' ∉ t.toList) : s ≠ t := fun he => ht (he ▸ h)
  exact ⟨_, dif_pos ⟨hne _ (by decide), hne _ (by decide), hne _ (by decide), hs⟩⟩

end Part

namespace FileSystem

variable {links : Links} {p : Path} {l : Location}

theorem hasNul_iff : hasNul p = true ↔ ∃ q ∈ p.parts, '\x00' ∈ q.text.toList := by
  simp [hasNul]

theorem hasNul_ofString (s : String) : hasNul (.ofString s) = true ↔ '\x00' ∈ s.toList := by
  rw [hasNul_iff, Path.parts_ofString]
  constructor
  · rintro ⟨q, hq, hnul⟩
    obtain ⟨f, hf, hpart⟩ := List.mem_filterMap.mp hq
    rw [Part.text_of_ofString? hpart, String.toList_ofList] at hnul
    exact Text.mem_of_mem_fields hf hnul
  · intro hnul
    rw [← Text.joinWith_fields '/' s.toList] at hnul
    rcases Text.mem_joinWith hnul with hsep | ⟨f, hf, hnul⟩
    · exact absurd hsep (by decide)
    -- a piece with a NUL is none of those that do not count
    · rw [← String.toList_ofList (l := f)] at hnul
      obtain ⟨q, hq⟩ := Part.exists_ofString?_of_nul hnul
        (by simpa using Text.not_mem_of_mem_fields hf)
      refine ⟨q, List.mem_filterMap.mpr ⟨f, hf, hq⟩, ?_⟩
      rwa [Part.text_of_ofString? hq]

theorem hasNul_child (hp : hasNul p = false) (s : String) :
    hasNul (p.child s) = true ↔ '\x00' ∈ s.toList := by
  rw [← hasNul_ofString, Path.child, Path.join]
  split
  · rfl
  · rw [hasNul_append, hp, Bool.false_or]
    rfl

theorem hasNul_path : hasNul l.path = true ↔ ∃ n ∈ l, '\x00' ∈ n.val.toList := by
  simp [hasNul_iff, Location.path, Part.text]

theorem hasNul_append_names {t : Location} : hasNul (Location.path (l ++ t)) = false ↔
    hasNul l.path = false ∧ ∀ n ∈ t, '\x00' ∉ n.val.toList := by
  simp only [← Bool.not_eq_true, hasNul_path, List.mem_append, not_exists, not_and, or_imp, forall_and]

/-- Where no place is said to stand at a name with a NUL, no path without one leads to one. -/
theorem hasNul_resolve (hlinks : ∀ k ∈ links, hasNul k.2.path = false)
    (h : resolve links [] p = .ok l) : hasNul l.path = false := by
  -- a step goes up, or to a name of the path, or to a place that is known to stand elsewhere
  have hstep {l : Location} {q : Part} (hl : hasNul l.path = false)
      (hq : '\x00' ∉ q.text.toList) : hasNul (stepLinked links l q).path = false := by
    have hnext : hasNul (l.step q).path = false := by
      rw [← Bool.not_eq_true, hasNul_path] at hl ⊢
      rintro ⟨n, hn, hnul⟩
      cases q with
      | up => exact hl ⟨n, List.dropLast_subset _ hn, hnul⟩
      | name m =>
        rcases List.mem_append.mp hn with hn | hn
        · exact hl ⟨n, hn, hnul⟩
        · obtain rfl : n = m := List.mem_singleton.mp hn
          exact hq hnul
    unfold stepLinked
    cases hlink : links.lookup (l.step q) with
    | none => exact hnext
    | some l' =>
      obtain ⟨before, after, rfl, -⟩ := List.lookup_eq_some_iff.mp hlink
      exact hlinks (l.step q, l') (by simp)
  have hsteps (qs : List Part) (hqs : ∀ q ∈ qs, '\x00' ∉ q.text.toList) (l : Location)
      (hl : hasNul l.path = false) : hasNul (qs.foldl (stepLinked links) l).path = false := by
    induction qs generalizing l with
    | nil => exact hl
    | cons q qs ih =>
      obtain ⟨hq, hqs⟩ := List.forall_mem_cons.mp hqs
      exact ih hqs _ (hstep hl hq)
  unfold resolve at h
  split at h
  · cases h
  · next hp =>
    rw [← Except.ok.inj h, ite_self]
    exact hsteps p.parts (fun q hq hnul => hp (hasNul_iff.mpr ⟨q, hq, hnul⟩)) [] rfl

end FileSystem

/-! ### Settings -/

namespace Settings

open View (lookup? entries textObstacles placeObstacles textsObstacles fieldObstacles)

variable {links : Links} {root : Location}

theorem hasNul_publicDir {root : Path} {config : Value} {s : Settings}
    (hlinks : ∀ k ∈ links, FileSystem.hasNul k.2.path = false)
    (h : resolve links root config = .ok s) : FileSystem.hasNul s.publicDir.path = false := by
  obtain ⟨_, -, hs⟩ := resolved_of_resolve h
  exact FileSystem.hasNul_resolve hlinks (resolveDir_eq_ok hs.publicDir)

theorem settles_resolve (p : Path) :
    Settles (if FileSystem.hasNul p then [.nul] else [])
      (FileSystem.resolve links [] p) := by
  unfold FileSystem.resolve
  split
  · exact Settles.error _
  · exact .ok _

theorem settles_resolveChild (hroot : FileSystem.hasNul root.path = false) (s : String) :
    Settles (View.nulObstacles s) (FileSystem.resolve links [] (root.path.child s)) := by
  have hnul : View.nulObstacles s =
      if FileSystem.hasNul (root.path.child s) then [.nul] else [] := by
    simp only [View.nulObstacles, FileSystem.hasNul_child hroot]
  rw [hnul]
  exact settles_resolve (root.path.child s)

theorem settles_resolveDir (hroot : FileSystem.hasNul root.path = false) (v? : Option View)
    {default : String} (hd : View.nulObstacles default = []) :
    Settles (placeObstacles v?) (resolveDir links root v? default) := by
  refine (View.settles_nonemptyText? v?).bind fun t? ht => ?_
  rw [← View.nulObstacles_of_text ht hd]
  exact settles_resolveChild hroot _

theorem settles_addAliases (hroot : FileSystem.hasNul root.path = false)
    (acc : List (String × Location)) (es : List (Scalar × Value)) :
    Settles (aliasObstacles (some (.map es))) (addAliases links root acc es) := by
  -- what was added so far does not decide how the rest is read
  induction es generalizing acc with
  | nil => exact .ok _
  | cons e es ih =>
    obtain ⟨name, target⟩ := e
    unfold addAliases
    have hcons : aliasObstacles (some (.map ((name, target) :: es))) =
        placeObstacles (some target.view) ++ textObstacles (some (.scalar name)) ++
          aliasObstacles (some (.map es)) := List.flatMap_cons
    rw [hcons, placeObstacles, List.append_assoc, List.append_assoc]
    refine (View.settles_nonemptyText? _).bind fun t? ht => ?_
    rw [← View.nulObstacles_of_text ht View.nulObstacles_empty]
    have hname := View.settles_shown name
    cases t? with
    -- the name is shown where the target is missing
    | none => exact hname.bind fun n _ => .fault _
    | some t =>
      refine (settles_resolveChild hroot t).bind fun l _ => ?_
      exact hname.bind fun n _ => ih _

theorem settles_readAliases (hroot : FileSystem.hasNul root.path = false) (source : Location)
    (v? : Option View) : Settles (aliasObstacles v?) (readAliases links root source v?) := by
  rcases v? with _ | v
  · exact .ok _
  · cases v with
    | map es => exact settles_addAliases hroot _ es
    | scalar s =>
      cases s with
      | null => exact .ok _
      | _ => exact .fault _
    | _ => exact .fault _

theorem settles_readPreset (v : View) :
    Settles (fieldObstacles ["name", "from", "as"] (some v)) (readPreset v) := by
  cases v with
  | map es =>
    refine (View.settles_nonemptyText? _).bind fun name? _ => ?_
    cases name? with
    | none => exact .fault _
    | some name =>
      refine (View.settles_nonemptyText? _).bind fun source? _ => ?_
      cases source? with
      | none => exact .fault _
      | some source => exact (View.settles_nonemptyText? _).bind fun as? _ => .pure _
  | _ => exact .fault _

theorem settles_readPresets (v? : Option View) :
    Settles (presetsObstacles v?) (readPresets v?) := by
  rcases v? with _ | v
  · exact .ok _
  · unfold readPresets presetsObstacles
    dsimp only
    split
    -- a value without items is found out only when it is iterated
    · cases v.items? with
      | some items => exact .mapM settles_readPreset items
      | none => exact Settles.error _
    · exact .ok _

theorem settles_readAccess (v : View) : Settles [] (readAccess v) := by
  unfold readAccess
  split
  · exact .ok _
  · split
    · exact .ok _
    · exact .fault _
  · exact .fault _

theorem settles_readLint (v? : Option View) :
    Settles (fieldObstacles ["file_path"] v?) (readLint v?) := by
  unfold readLint fieldObstacles
  split
  · next hes =>
    rw [hes]
    exact .ok _
  · refine (View.settles_nonemptyText? _).bind fun path? _ => ?_
    split
    · exact .ok _
    · exact (settles_readAccess _).map _

theorem settles_readImports (v? : Option View) :
    Settles (importsObstacles v?) (readImports v?) := by
  rcases v? with _ | v
  · exact .ok _
  · cases v with
    | map es =>
      -- the directories do not decide how the rest is read
      have hrest (dirs : List String) : Settles
          (presetsObstacles (lookup? es "imports") ++
            fieldObstacles ["file_path"] (lookup? es "eslintrc"))
          (do
            let presets ← readPresets (lookup? es "imports")
            let lint ← readLint (lookup? es "eslintrc")
            return some (ImportOptions.mk dirs presets lint)) := by
        refine (settles_readPresets _).bind fun presets _ => ?_
        exact ((settles_readLint _).bind fun lint _ => .pure _).congr (by simp)
      unfold importsObstacles readImports
      rw [List.append_assoc]
      dsimp only [entries]
      cases lookup? es "dirs" with
      | none => exact (Settles.pure ImportOptions.default.dirs).bind fun dirs _ => hrest dirs
      | some v => exact (View.settles_asTexts v).bind fun dirs _ => hrest dirs
    | scalar s =>
      cases s with
      | null => exact .ok _
      | bool b => cases b <;> exact .ok _
      | _ => exact .fault _
    | _ => exact .fault _

theorem settles_readModule (v : View) :
    Settles (fieldObstacles ["id", "type", "config_key"] (some v)) (readModule v) := by
  cases v with
  | map es =>
    refine (View.settles_nonemptyText? _).bind fun id? _ => ?_
    cases id? with
    | none => exact .fault _
    | some id =>
      refine (View.settles_nonemptyText? _).bind fun kind? _ => ?_
      dsimp only
      split
      · exact .fault _
      · exact (View.settles_textOf? _).bind fun key? _ => .pure _
  | scalar s =>
    cases s with
    | str s => exact .ok _
    | _ => exact .fault _
  | _ => exact .fault _

theorem settles_readModules (v? : Option View) :
    Settles (modulesObstacles v?) (readModules v?) := by
  rcases v? with _ | v
  · exact .ok _
  · cases v with
    | list items => exact .mapM (fun v => settles_readModule v.view) items
    | scalar s =>
      cases s with
      | null => exact .ok _
      | _ => exact .fault _
    | _ => exact .fault _

theorem textObstacles_of_asInt? {v? : Option View} {n : Int} (h : v?.bind View.asInt? = some n) :
    textObstacles v? = textObstacles (some (.scalar (.int n))) := by
  rcases v? with _ | v
  · cases h
  · cases v with
    | scalar s =>
      cases s with
      | int m =>
        obtain rfl : m = n := Option.some.inj h
        rfl
      -- a text that says a number is short enough for it
      | str s =>
        have hread : Decimal.readInt 10 s.toList = .ok n := by
          cases hr : Decimal.readInt 10 s.toList with
          | error e => simp [View.asInt?, hr, Except.toOption] at h
          | ok m => simpa [View.asInt?, hr, Except.toOption] using h
        rw [View.textObstacles_of_isWritable (Decimal.isWritable_of_readInt hread)]
        rfl
      | _ => cases h
    | _ => cases h

theorem isWritable_of_ofInt? {n : Int} {v : ManifestVersion}
    (h : ManifestVersion.ofInt? n = some v) : Decimal.isWritable n = true := by
  unfold ManifestVersion.ofInt? at h
  split at h
  · next h2 =>
    rw [h2]
    decide +kernel
  · split at h
    · next h3 =>
      rw [h3]
      decide +kernel
    · cases h

/-- A number that is too long is no version, and cannot be shown where that is said. -/
theorem settles_readManifestVersion (browser : String) (v? : Option View) :
    Settles (textObstacles v?) (readManifestVersion browser v?) := by
  unfold readManifestVersion
  split
  · next hnone =>
    rcases v? with _ | v
    · exact .ok _
    · cases v with
      | scalar s =>
        cases s with
        | int n => cases hnone
        | _ => exact .ok _
      | _ => exact .ok _
  · next n hn =>
    rw [textObstacles_of_asInt? hn]
    split
    · next v hv =>
      rw [View.textObstacles_of_isWritable (isWritable_of_ofInt? hv)]
      exact .ok v
    · rw [← List.append_nil (textObstacles _)]
      exact (View.settles_shown (.int n)).bind fun _ _ => .fault _

theorem settles_readCommand (v? : Option View) : Settles (textObstacles v?) (readCommand v?) := by
  rw [← List.append_nil (textObstacles v?)]
  refine (View.settles_nonemptyText? v?).bind fun t? _ => ?_
  dsimp only
  split
  · exact .pure _
  · exact .fault _

theorem settles_resolveSettings (hlinks : ∀ k ∈ links, FileSystem.hasNul k.2.path = false)
    (root : Path) (config : Value) :
    Settles (obstacles root config.view) (resolve links root config) := by
  unfold resolve
  split
  · next es hes =>
    rw [hes]
    simp only [obstacles, entries, dirKeys, wordKeys, fieldObstacles, List.flatMap_cons,
      List.flatMap_nil, List.append_nil, List.append_assoc]
    -- the obstacles are in the order in which they are met
    refine (settles_resolve root).bind fun root hroot => ?_
    have hroot := FileSystem.hasNul_resolve hlinks hroot
    refine (settles_resolveDir hroot _ (if_neg (by decide))).bind fun source hsource => ?_
    have hsource := FileSystem.hasNul_resolve hlinks (resolveDir_eq_ok hsource)
    refine (settles_resolveDir hsource _ (if_neg (by decide))).bind fun publicDir _ => ?_
    refine (settles_resolveDir hsource _ (if_neg (by decide))).bind fun entrypointsDir _ => ?_
    refine (settles_resolveDir hroot _ (if_neg (by decide))).bind fun outputDir _ => ?_
    refine (settles_resolveDir hroot _ (if_neg (by decide))).bind fun outBaseDir _ => ?_
    refine (View.settles_nonemptyText? _).bind fun browser? _ => ?_
    refine (settles_readManifestVersion _ _).bind fun version _ => ?_
    refine (settles_readCommand _).bind fun command _ => ?_
    refine (View.settles_nonemptyText? _).bind fun mode? _ => ?_
    refine (settles_readAliases hroot source _).bind fun aliases _ => ?_
    refine (View.settles_textOf? _).bind fun defaultLocale? _ => ?_
    refine (settles_readImports _).bind fun imports? _ => ?_
    refine (settles_readModules _).bind fun modules _ => ?_
    cases lookup? es "hooks" with
    | none => exact (Settles.pure []).bind fun hooks _ => .pure _
    | some v => exact ((View.settles_asTexts v).bind fun hooks _ => .pure _).congr (by simp)
  · exact .fault _

/-- Without an obstacle, a configuration gives settings or is reported as faulty. With one it never gives
settings: the first obstacle is what is reported, unless a fault comes before it. -/
theorem resolve_outcome (hlinks : ∀ k ∈ links, FileSystem.hasNul k.2.path = false)
    (root : Path) (config : Value) :
    (obstacles root config.view = [] →
      (∃ s, resolve links root config = .ok s) ∨
        ∃ f, resolve links root config = .error (.config f)) ∧
    ∀ o os, obstacles root config.view = o :: os →
      o.failure.kind ≠ .configuration ∧
        (resolve links root config = .error o.failure ∨
          ∃ f, resolve links root config = .error (.config f)) := by
  have hs := settles_resolveSettings hlinks root config
  cases hr : resolve links root config with
  | ok s =>
    refine ⟨fun _ => .inl ⟨s, rfl⟩, fun o os hos => ?_⟩
    rw [hs.clear s hr] at hos
    cases hos
  | error e =>
    rcases hs.blocked e hr with ⟨f, rfl⟩ | ⟨o, ho, rfl⟩
    · exact ⟨fun _ => .inr ⟨f, rfl⟩, fun o os _ => ⟨o.kind_failure_ne, .inr ⟨f, rfl⟩⟩⟩
    · refine ⟨fun hempty => ?_, fun o' os hos => ⟨o'.kind_failure_ne, .inl ?_⟩⟩
      · rw [hempty] at ho
        cases ho
      · rw [hos] at ho
        rw [Option.some.inj ho]

/-- A system where `/bin` stands in `/usr`. -/
def usrMerged : Links := [([⟨"bin", by decide⟩], [⟨"usr", by decide⟩, ⟨"bin", by decide⟩])]

def asksForFirefox : Value := .json (.obj [("browser", .str "firefox")])

theorem resolve_outcome_merged :
    (∀ k ∈ usrMerged, FileSystem.hasNul k.2.path = false) ∧
      ((∃ s, resolve usrMerged (.ofString "/bin") asksForFirefox = .ok s) ∨
        ∃ f, resolve usrMerged (.ofString "/bin") asksForFirefox = .error (.config f)) := by
  have hlinks : ∀ k ∈ usrMerged, FileSystem.hasNul k.2.path = false := by decide
  exact ⟨hlinks, (resolve_outcome hlinks _ _).1 (by decide +kernel)⟩

/-- A number where a list of presets belongs, a text that no path can hold, and a version of too many
digits: none of them is reported as a fault of the configuration. -/
theorem resolve_not_config :
    resolve [] (.ofString "/project") (.json (.obj [("imports", .obj [("imports", .int 5)])])) =
        .error (.type (.notIterable "int")) ∧
      resolve [] (.ofString "/project") (.json (.obj [("src_dir", .str "a\x00")])) =
        .error (.value .nulInPath) ∧
      resolve [] (.ofString "/project") (.json (.obj [("manifest_version", .int (10 ^ 4300))])) =
        .error (.value (.digits none)) := by
  decide +kernel

end Settings

end ExtTypes
