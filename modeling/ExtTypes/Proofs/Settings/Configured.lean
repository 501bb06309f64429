import ExtTypes.Proofs.Settings.Resolution

/-! Which values of a configuration make a difference. A key that sees a value of a kind that it takes
is set to what the value denotes; any other value counts as if the key were missing. Main statement:
`Settings.setting_follows`. -/
namespace ExtTypes.Settings

open View (lookup? entries text? nonemptyText?)

/-- The keys that are set by a single value. -/
inductive Key
  | sourceDir
  | publicDir
  | entrypointsDir
  | outputDir
  | outBaseDir
  | browser
  | manifestVersion
  | command
  | mode
  | defaultLocale
  deriving DecidableEq, Repr

namespace Key

/-- What stands under a key. The locale is a key of the manifest. -/
def value? (config : View) : Key → Option View
  | sourceDir => lookup? (entries (some config)) "src_dir"
  | publicDir => lookup? (entries (some config)) "public_dir"
  | entrypointsDir => lookup? (entries (some config)) "entrypoints_dir"
  | outputDir => lookup? (entries (some config)) "output_dir"
  | outBaseDir => lookup? (entries (some config)) "out_base_dir"
  | browser => lookup? (entries (some config)) "browser"
  | manifestVersion => lookup? (entries (some config)) "manifest_version"
  | command => lookup? (entries (some config)) "command"
  | mode => lookup? (entries (some config)) "mode"
  | defaultLocale =>
    lookup? (entries (lookup? (entries (some config)) "manifest")) "default_locale"

/-- The kind of a setting. -/
def Meaning : Key → Type
  | sourceDir | publicDir | entrypointsDir | outputDir | outBaseDir => Location
  | browser | mode => String
  | manifestVersion => ManifestVersion
  | command => Command
  | defaultLocale => Option String

def setting (s : Settings) : (k : Key) → k.Meaning
  | sourceDir => s.sourceDir
  | publicDir => s.publicDir
  | entrypointsDir => s.entrypointsDir
  | outputDir => s.outputDir
  | outBaseDir => s.outBaseDir
  | browser => s.browser
  | manifestVersion => s.manifestVersion
  | command => s.command
  | mode => s.mode
  | defaultLocale => s.defaultLocale?

/-- Whether a key takes a value: the version one that says a whole number, the others texts and
numbers. -/
def takes (v : View) : Key → Bool
  | manifestVersion => v.asInt?.isSome
  | _ => v.text?.isSome

/-- Where a text leads from a directory. -/
def dirAt? (links : Links) (base : Location) (t : String) : Option Location :=
  (FileSystem.resolve links [] (base.path.child t)).toOption

/-- What a value denotes under a key, next to the other settings. -/
def denoted? (links : Links) (s : Settings) (v : View) : (k : Key) → Option k.Meaning
  | sourceDir | outputDir | outBaseDir => v.text?.bind (dirAt? links s.root)
  | publicDir | entrypointsDir => v.text?.bind (dirAt? links s.sourceDir)
  | browser | mode => v.text?
  | manifestVersion => v.asInt?.bind ManifestVersion.ofInt?
  | command => v.text?.bind Command.ofText?
  | defaultLocale => v.text?.map some

/-- What is set if a key is missing. -/
def default? (links : Links) (s : Settings) : (k : Key) → Option k.Meaning
  | sourceDir => dirAt? links s.root "."
  | publicDir => dirAt? links s.sourceDir "public"
  | entrypointsDir => dirAt? links s.sourceDir "entrypoints"
  | outputDir => dirAt? links s.root ".wxt"
  | outBaseDir => dirAt? links s.root ".output"
  | browser => some "chrome"
  | manifestVersion => some (ManifestVersion.default s.browser)
  | command => some .build
  | mode => some s.command.defaultMode
  | defaultLocale => some none

end Key

/-- How a setting follows from what stands under its key. The empty text is left out: it counts as
missing for some keys, and as a text for others. -/
structure Follows {α : Type} (v? : Option View) (takes : View → Bool) (denoted? : View → Option α)
    (default? : Option α) (a : α) : Prop where
  taken : ∀ v, v? = some v → v ≠ .scalar (.str "") → takes v = true → denoted? v = some a
  other : ∀ v, v? = some v → v ≠ .scalar (.str "") → takes v = false → default? = some a
  missing : v? = none → default? = some a

variable {α β : Type} {v? : Option View} {takes : View → Bool} {denoted? : View → Option α}
  {default? : Option α} {a : α}

/-- What is made of the value is made of the default too. -/
theorem Follows.bind (h : Follows v? takes denoted? default? a) {f : α → Option β} {b : β}
    (hf : f a = some b) : Follows v? takes (fun v => (denoted? v).bind f) (default?.bind f) b where
  taken v hv hne ht := by rw [h.taken v hv hne ht, Option.bind_some, hf]
  other v hv hne ht := by rw [h.other v hv hne ht, Option.bind_some, hf]
  missing hv := by rw [h.missing hv, Option.bind_some, hf]

theorem digitsText_ne_nil (d : Decimal.Digits) : Scalar.realNotation.digitsText d ≠ [] := by
  unfold Decimal.Notation.digitsText
  split
  · split
    · simp
    · split
      -- a whole number ends with a point and a zero
      · simp [Scalar.realNotation]
      · simp
  · simp [Decimal.Notation.exponentText]

theorem text_real_ne_empty (x : Decimal.Double) : Scalar.text (.real x) ≠ "" := by
  cases x with
  | nan => decide
  | infinite b => cases b <;> decide
  | zero b => cases b <;> decide
  | finite b d =>
    have hdigits := digitsText_ne_nil d.shortest
    simp [Scalar.text, Decimal.Notation.text, hdigits]

theorem text_int_ne_empty (n : Int) : Scalar.text (.int n) ≠ "" := by
  change n.repr ≠ ""
  cases n <;> simp [Int.repr]

/-- Nothing but the empty text has an empty text. -/
theorem ne_empty_of_text? {v : View} {t : String} (ht : v.text? = some t)
    (hne : v ≠ .scalar (.str "")) : t ≠ "" := by
  unfold View.text? at ht
  split at ht
  · obtain rfl := Option.some.inj ht
    rintro rfl
    exact hne rfl
  · exact Option.some.inj ht ▸ text_int_ne_empty _
  · exact Option.some.inj ht ▸ text_real_ne_empty _
  · cases ht

theorem follows_word {t? : Option String} (h : nonemptyText? v? = .ok t?) (default : String) :
    Follows v? (·.text?.isSome) text? (some default) (t?.getD default) := by
  obtain rfl := View.nonemptyText?_eq_ok h
  refine ⟨fun v hv hne ht => ?_, fun v hv _ ht => ?_, fun hv => ?_⟩
  · obtain ⟨t, ht⟩ := Option.isSome_iff_exists.mp ht
    have hword := ne_empty_of_text? ht hne
    rw [hv, Option.bind_some, ht, Option.filter_some, if_pos (decide_eq_true hword)]
    rfl
  · have ht : v.text? = none := by simpa using ht
    simp [hv, ht]
  · simp [hv]

theorem follows_text {t? : Option String} (h : View.textOf? v? = .ok t?) :
    Follows v? (·.text?.isSome) (fun v => v.text?.map some) (some none) t? := by
  obtain rfl := View.textOf?_eq_ok h
  refine ⟨fun v hv _ ht => ?_, fun v hv _ ht => ?_, fun hv => ?_⟩
  · obtain ⟨t, ht⟩ := Option.isSome_iff_exists.mp ht
    simp [hv, ht]
  · have ht : v.text? = none := by simpa using ht
    simp [hv, ht]
  · simp [hv]

variable {links : Links} {root : Path} {base l : Location} {config : Value} {s : Settings}

theorem follows_dir {default : String} (h : resolveDir links base v? default = .ok l) :
    Follows v? (·.text?.isSome) (fun v => v.text?.bind (Key.dirAt? links base))
      (Key.dirAt? links base default) l := by
  obtain ⟨t?, ht, hl⟩ := bind_eq_ok_iff.mp h
  exact (follows_word ht default).bind (by rw [Key.dirAt?, hl]; rfl)

theorem follows_version {browser : String} {m : ManifestVersion}
    (h : readManifestVersion browser v? = .ok m) :
    Follows v? (·.asInt?.isSome) (fun v => v.asInt?.bind ManifestVersion.ofInt?)
      (some (.default browser)) m := by
  unfold readManifestVersion at h
  cases hn : v?.bind View.asInt? with
  -- what says no number counts as missing
  | none =>
    rw [hn] at h
    obtain rfl := Except.ok.inj h
    refine ⟨fun v hv _ ht => ?_, fun _ _ _ _ => rfl, fun _ => rfl⟩
    rw [hv, Option.bind_some] at hn
    simp [hn] at ht
  | some n =>
    rw [hn] at h
    cases hm : ManifestVersion.ofInt? n with
    | none =>
      -- any other number is a fault, if it can be shown
      simp only [hm] at h
      obtain ⟨-, -, hfault⟩ := bind_eq_ok_iff.mp h
      cases hfault
    | some m' =>
      simp only [hm] at h
      obtain rfl := Except.ok.inj h
      refine ⟨fun v hv _ _ => ?_, fun v hv _ ht => ?_, fun hv => ?_⟩
      · rw [hv, Option.bind_some] at hn
        rw [hn, Option.bind_some, hm]
      · rw [hv, Option.bind_some] at hn
        simp [hn] at ht
      · rw [hv] at hn
        cases hn

theorem follows_command {c : Command} (h : readCommand v? = .ok c) :
    Follows v? (·.text?.isSome) (fun v => v.text?.bind Command.ofText?) (some .build) c := by
  obtain ⟨t?, ht, hc⟩ := bind_eq_ok_iff.mp h
  refine (follows_word ht Command.build.text).bind (f := Command.ofText?) ?_
  dsimp only at hc
  split at hc
  · next c' hc' => rw [hc', Except.ok.inj hc]
  · cases hc

/-- Each key is set to what its value denotes if it takes it, and to its default otherwise. -/
theorem setting_follows (h : resolve links root config = .ok s) (k : Key) :
    Follows (k.value? config.view) k.takes (k.denoted? links s) (k.default? links s)
      (k.setting s) := by
  obtain ⟨es, hes, hs⟩ := resolved_of_resolve h
  rw [hes]
  cases k with
  | sourceDir => exact follows_dir hs.sourceDir
  | publicDir => exact follows_dir hs.publicDir
  | entrypointsDir => exact follows_dir hs.entrypointsDir
  | outputDir => exact follows_dir hs.outputDir
  | outBaseDir => exact follows_dir hs.outBaseDir
  | browser =>
    obtain ⟨t?, ht, hb⟩ := hs.browser
    have hword := follows_word ht "chrome"
    rwa [← hb] at hword
  | manifestVersion => exact follows_version hs.manifestVersion
  | command => exact follows_command hs.command
  | mode =>
    obtain ⟨t?, ht, hm⟩ := hs.mode
    have hword := follows_word ht s.command.defaultMode
    rwa [← hm] at hword
  | defaultLocale => exact follows_text hs.defaultLocale

/-- The older version, as a text. -/
def asksForV2 : Value := .json (.obj [("manifest_version", .str " 2")])

theorem setting_follows_text : ∃ s, resolve [] (.ofString "/project") asksForV2 = .ok s ∧
    Key.denoted? [] s (.scalar (.str " 2")) .manifestVersion =
      some (Key.setting s .manifestVersion) := by
  refine ⟨_, rfl, ?_⟩
  have hfollows := @setting_follows [] (.ofString "/project") asksForV2 _ rfl .manifestVersion
  exact hfollows.taken _ rfl (by simp) (by decide)

/-- A version that is no whole number, a browser that is a truth and a directory that is a list change
nothing, and are no fault. -/
theorem resolve_drops_value : ∃ s,
    resolve [] (.ofString "/project") (.json (.obj [])) = .ok s ∧
      resolve [] (.ofString "/project")
        (.json (.obj [("manifest_version", .real (.ofDecimal false 2 0))])) = .ok s ∧
      resolve [] (.ofString "/project") (.json (.obj [("browser", .bool false)])) = .ok s ∧
      resolve [] (.ofString "/project") (.json (.obj [("src_dir", .arr [.str "src"])])) = .ok s :=
  ⟨_, rfl, by decide +kernel, by decide +kernel, by decide +kernel⟩

end ExtTypes.Settings
