import ExtTypes.Declaration.Tsconfig
import ExtTypes.Proofs.Generate.Targets
import ExtTypes.Proofs.Json.RoundTrip
import ExtTypes.Proofs.Path.Relative
import ExtTypes.Proofs.Settings.WellFormed

/-! What a reader of the compiler configuration finds in it. Each alias has a row for its target and
one for what is below it, unless another alias is named like the second one and takes its place. Main
statement: `tsconfigEntry_describes`. -/
namespace ExtTypes

/-- What stands under a name in an object. -/
def Json.field? (name : String) : Json → Option Json
  | .obj fields => fields.lookup name
  | _ => none

namespace Declaration

open Generate (place)

variable {s : Settings} {links : Links} {root : Path} {config : Value}

/-- The rows of an alias `name`: one for the path itself, and one for what is below it. -/
structure HasRows (paths : List (String × Json)) (name path : String) : Prop where
  own : paths.lookup name = some (.arr [.str path])
  below : paths.lookup (name ++ "/*") = some (.arr [.str (path ++ "/*")])

theorem place_fromOutput {l : Location} (h : ∀ n ∈ l, '\\' ∉ n.val.toList) :
    place s (fromOutput s l) = l := by
  refine (collapse_child_relativeText fun n hn => ?_).trans (Path.collapse_path [] l)
  rw [Path.collapse_path] at hn
  exact h n (Location.mem_of_mem_partsTo hn)

/-! ### Rows -/

/-- All rows, also those whose place another one takes. -/
def allRows (s : Settings) : List (String × Json) :=
  s.aliases.flatMap fun (name, target) =>
    let path := fromOutput s target
    [(name, .arr [.str path]), (name ++ "/*", .arr [.str (path ++ "/*")])]

theorem pathMappings_eq (s : Settings) : pathMappings s = dedupFields (allRows s) := rfl

theorem mem_allRows {f : String × Json} : f ∈ allRows s ↔ ∃ a ∈ s.aliases,
    f = (a.1, .arr [.str (fromOutput s a.2)]) ∨
      f = (a.1 ++ "/*", .arr [.str (fromOutput s a.2 ++ "/*")]) := by
  simp only [allRows, List.mem_flatMap, List.mem_cons, List.not_mem_nil, or_false]

theorem mem_keys_pathMappings {k : String} :
    k ∈ (pathMappings s).map Prod.fst ↔ ∃ a ∈ s.aliases, k = a.1 ∨ k = a.1 ++ "/*" := by
  rw [pathMappings_eq, keys_dedupFields, List.mem_eraseDups, List.mem_map]
  constructor
  · rintro ⟨f, hf, rfl⟩
    obtain ⟨a, ha, rfl | rfl⟩ := mem_allRows.mp hf
    · exact ⟨a, ha, .inl rfl⟩
    · exact ⟨a, ha, .inr rfl⟩
  · rintro ⟨a, ha, rfl | rfl⟩
    · exact ⟨_, mem_allRows.mpr ⟨a, ha, .inl rfl⟩, rfl⟩
    · exact ⟨_, mem_allRows.mpr ⟨a, ha, .inr rfl⟩, rfl⟩

/-- Two aliases share a row where one is named like what is below the other. -/
theorem hasRows_iff (hnames : (s.aliases.map Prod.fst).Nodup) :
    (∀ a ∈ s.aliases, HasRows (pathMappings s) a.1 (fromOutput s a.2)) ↔
      ∀ a ∈ s.aliases, ∀ b ∈ s.aliases, b.1 = a.1 ++ "/*" →
        fromOutput s b.2 = fromOutput s a.2 ++ "/*" := by
  have hsame {a b : String × Location} (ha : a ∈ s.aliases) (hb : b ∈ s.aliases)
      (h : a.1 = b.1) : a = b := List.inj_on_of_nodup_map hnames ha hb h
  constructor
  -- the row for what is below `a` is the row of `b` itself
  · intro h a ha b hb hab
    have hrow := (h a ha).below
    rw [← hab, (h b hb).own] at hrow
    simpa using hrow
  -- all rows of one name are the same: names differ, so two of them meet only in that way
  · intro h a ha
    constructor
    · refine lookup_dedupFields_of_forall (mem_allRows.mpr ⟨a, ha, .inl rfl⟩) fun w hw => ?_
      obtain ⟨b, hb, heq | heq⟩ := mem_allRows.mp hw
      · obtain ⟨hname, hrow⟩ := Prod.mk.inj heq
        rw [hsame ha hb hname]
        exact hrow
      · obtain ⟨hname, hrow⟩ := Prod.mk.inj heq
        rw [h b hb a ha hname]
        exact hrow
    · refine lookup_dedupFields_of_forall (mem_allRows.mpr ⟨a, ha, .inr rfl⟩) fun w hw => ?_
      obtain ⟨b, hb, heq | heq⟩ := mem_allRows.mp hw
      · obtain ⟨hname, hrow⟩ := Prod.mk.inj heq
        rw [← h a ha b hb hname.symm]
        exact hrow
      · obtain ⟨hname, hrow⟩ := Prod.mk.inj heq
        rw [hsame ha hb ((String.append_left_inj "/*").mp hname)]
        exact hrow

theorem nodup_aliases (h : Settings.resolve links root config = .ok s) :
    (s.aliases.map Prod.fst).Nodup := by
  obtain ⟨es, -, hs⟩ := Settings.resolved_of_resolve h
  obtain ⟨named, -, has⟩ := Settings.readAliases_eq_ok hs.aliases
  rw [has]
  exact nodup_dedupFields _

/-! ### The text -/

theorem legible_texts {room : Nat} (ts : List String) :
    Json.Legible (room + 1) (.arr (ts.map .str)) := by
  refine .arr fun v hv => ?_
  obtain ⟨t, -, rfl⟩ := List.mem_map.mp hv
  exact .str t

theorem legible_pathMappings {room : Nat} (s : Settings) :
    Json.Legible (room + 2) (.obj (pathMappings s)) := by
  refine .obj (nodup_dedupFields _) fun f hf => ?_
  rw [pathMappings_eq] at hf
  obtain ⟨a, -, rfl | rfl⟩ := mem_allRows.mp (mem_of_mem_dedupFields hf)
  · exact legible_texts [fromOutput s a.2]
  · exact legible_texts [fromOutput s a.2 ++ "/*"]

theorem legible_tsconfigObject (s : Settings) :
    Json.Legible Json.nestingLimit (tsconfigObject s) := by
  have hoptions : ["target", "module", "moduleResolution", "noEmit", "esModuleInterop",
    "forceConsistentCasingInFileNames", "resolveJsonModule", "strict", "skipLibCheck",
    "paths"].Nodup := by decide
  have hfields : ["compilerOptions", "include", "exclude"].Nodup := by decide
  refine .obj hfields fun f hf => ?_
  simp only [List.mem_cons, List.not_mem_nil, or_false] at hf
  rcases hf with rfl | rfl | rfl
  · refine .obj hoptions fun f hf => ?_
    simp only [List.mem_cons, List.not_mem_nil, or_false] at hf
    rcases hf with rfl | rfl | rfl | rfl | rfl | rfl | rfl | rfl | rfl | rfl
    exacts [.str _, .str _, .str _, .bool _, .bool _, .bool _, .bool _, .bool _, .bool _,
      legible_pathMappings s]
  · exact legible_texts [_, _]
  · exact legible_texts [_]

theorem parse_tsconfigEntry (s : Settings) :
    Json.parse (tsconfigEntry s).text = .ok (tsconfigObject s) :=
  Json.parse_document (legible_tsconfigObject s)

/-- The compiler configuration is read as an object in which all names are those of aliases, or of
what is below them, and all paths lead from the output directory to where they should. An alias has
both of its rows unless another alias is named like the second one and leads somewhere else. -/
theorem tsconfigEntry_describes (h : Settings.resolve links root config = .ok s)
    (hplain : ∀ l ∈ s.root :: s.outBaseDir :: s.aliases.map Prod.snd, ∀ n ∈ l,
      '\\' ∉ n.val.toList) :
    ∃ v paths, Json.parse (tsconfigEntry s).text = .ok v ∧
      (v.field? "compilerOptions").bind (Json.field? "paths") = some (.obj paths) ∧
      (paths.map Prod.fst).Nodup ∧
      (∀ k, k ∈ paths.map Prod.fst ↔ ∃ a ∈ s.aliases, k = a.1 ∨ k = a.1 ++ "/*") ∧
      (∀ a ∈ s.aliases, place s (fromOutput s a.2) = a.2) ∧
      ((∀ a ∈ s.aliases, HasRows paths a.1 (fromOutput s a.2)) ↔
        ∀ a ∈ s.aliases, ∀ b ∈ s.aliases, b.1 = a.1 ++ "/*" →
          fromOutput s b.2 = fromOutput s a.2 ++ "/*") ∧
      (∃ path more, v.field? "include" = some (.arr (.str (path ++ "/**/*") :: more)) ∧
        place s path = s.root) ∧
      ∃ path, v.field? "exclude" = some (.arr [.str path]) ∧ place s path = s.outBaseDir := by
  refine ⟨tsconfigObject s, pathMappings s, parse_tsconfigEntry s, rfl, nodup_dedupFields _,
    fun k => mem_keys_pathMappings, fun a ha => ?_, hasRows_iff (nodup_aliases h),
    ⟨fromOutput s s.root, _, rfl, ?_⟩, ⟨fromOutput s s.outBaseDir, rfl, ?_⟩⟩
  · refine place_fromOutput (hplain _ ?_)
    simp only [List.mem_cons]
    exact .inr (.inr (List.mem_map.mpr ⟨a, ha, rfl⟩))
  · exact place_fromOutput (hplain _ (by simp))
  · exact place_fromOutput (hplain _ (by simp))

/-- A configuration with an alias out of the project. -/
def withLibrary : Value := .json (.obj [("output_dir", .str "gen/types"),
  ("alias", .obj [("lib", .str "../lib")])])

theorem tsconfigEntry_describes_library : ∃ s v paths,
    Settings.resolve [] (.ofString "/project") withLibrary = .ok s ∧
      Json.parse (tsconfigEntry s).text = .ok v ∧
      (v.field? "compilerOptions").bind (Json.field? "paths") = some (.obj paths) ∧
      HasRows paths "lib" "../../../lib" := by
  have hlib : ∃ s, Settings.resolve [] (.ofString "/project") withLibrary = .ok s ∧
      (∀ l ∈ s.root :: s.outBaseDir :: s.aliases.map Prod.snd, ∀ n ∈ l,
        '\\' ∉ n.val.toList) ∧
      (∀ a ∈ s.aliases, ∀ b ∈ s.aliases, b.1 = a.1 ++ "/*" →
          fromOutput s b.2 = fromOutput s a.2 ++ "/*") ∧
      ∃ a ∈ s.aliases, a.1 = "lib" ∧ fromOutput s a.2 = "../../../lib" :=
    ⟨_, rfl, by decide +kernel⟩
  obtain ⟨s, hs, hplain, hrows, a, ha, hname, hpath⟩ := hlib
  obtain ⟨v, paths, hv, hpaths, -, -, -, hiff, -, -⟩ := tsconfigEntry_describes hs hplain
  refine ⟨s, v, paths, hs, hv, hpaths, ?_⟩
  rw [← hname, ← hpath]
  exact hiff.mpr hrows a ha

/-- The row for what is below one alias takes the place of the row of another alias. -/
theorem tsconfigEntry_loses_row : ∃ s v paths,
    Settings.resolve [] (.ofString "/project") (.json (.obj [("alias",
      .obj [("x/*", .str "b"), ("x", .str "a")])])) = .ok s ∧
      Json.parse (tsconfigEntry s).text = .ok v ∧
      (v.field? "compilerOptions").bind (Json.field? "paths") = some (.obj paths) ∧
      ∃ a ∈ s.aliases, a.1 = "x/*" ∧ paths.lookup "x/*" = some (.arr [.str "../a/*"]) ∧
        place s "../a/*" ≠ a.2 := by
  refine ⟨_, _, _, rfl, parse_tsconfigEntry _, rfl, ?_⟩
  refine ⟨("x/*", [⟨"project", by decide⟩, ⟨"b", by decide⟩]), by decide +kernel, rfl, ?_,
    by decide +kernel⟩
  rfl

end Declaration

end ExtTypes
