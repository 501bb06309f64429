import ExtTypes.Proofs.Generate.Targets
import ExtTypes.Proofs.Path.Relative

/-! The file that refers to all others says where they are. Its paths are computed from locations,
while the writer joins the path of an entry to that of the output directory; both come to the same
place. Main statement: `referenceEntry_text`. -/
namespace ExtTypes.Declaration

open Generate (place targets)

/-- Whether the entry is referred to. -/
def isReferred : Entry → Bool
  | .module _ => true
  | .file f => f.referenced

/-- The line names the module, or a path from the output directory to the file. A path leads to the
same place with a dot and a slash in front. -/
inductive RefersTo (s : Settings) : Entry → String → Prop
  | module (name : String) :
      RefersTo s (.module name) ("/// <reference types=\"" ++ name ++ "\" />")
  | file {f : FileEntry} {path : String} (leads : place s path = place s f.path)
      (leads_dot_slash : place s ("./" ++ path) = place s f.path) :
      RefersTo s (.file f) ("/// <reference types=\"" ++ ("./" ++ path) ++ "\" />")

variable {s : Settings} {entries : List Entry}

theorem refersTo_relativeText {f : FileEntry} (h : '\\' ∉ f.path.toList) :
    RefersTo s (.file f)
      (referenceLine ("./" ++ relativeText [] (s.outputDir.path.child f.path) s.outputDir.path)) := by
  have hway (n : Name) (hn : .name n ∈ s.outputDir.partsTo (place s f.path)) :
      '\\' ∉ n.val.toList := fun hc =>
    h (Path.mem_of_mem_ofString (Path.mem_of_mem_partsTo_collapse hn) hc)
  refine .file (collapse_child_relativeText hway) ?_
  rw [place, child_dot_slash_relativeText hway]
  exact collapse_child_relativeText hway

theorem forall₂_referenceLines (h : ∀ f ∈ entries.filterMap Entry.file?, '\\' ∉ f.path.toList) :
    List.Forall₂ (RefersTo s) (entries.filter isReferred) (referenceLines s entries) := by
  -- an entry is passed over in both lists, or gives one item in each of them
  induction entries with
  | nil => exact .nil
  | cons e entries ih =>
    cases e with
    | module name => exact .cons (.module name) (ih h)
    | file f =>
      obtain ⟨hf, hentries⟩ := List.forall_mem_cons.mp h
      cases hreferred : f.referenced with
      | false => simpa [isReferred, referenceLines, entryLine?, hreferred] using ih hentries
      | true =>
        simpa [isReferred, referenceLines, entryLine?, hreferred] using
          ⟨refersTo_relativeText hf, ih hentries⟩

theorem newline_notMem_referenceLine {types : String} (h : '\n' ∉ types.toList) :
    '\n' ∉ (referenceLine types).toList := by
  have hbefore : '\n' ∉ "/// <reference types=\"".toList := by decide
  have hafter : '\n' ∉ "\" />".toList := by decide
  unfold referenceLine
  simp only [String.toList_append, List.mem_append, hbefore, h, hafter, or_false,
    not_false_eq_true]

/-- A line has a line end only if the title of its entry has one. -/
theorem newline_notMem_entryLine {e : Entry} {line : String} (h : '\n' ∉ e.title.toList)
    (hline : entryLine? s e = some line) : '\n' ∉ line.toList := by
  cases e with
  | module name =>
    rw [← Option.some.inj hline]
    exact newline_notMem_referenceLine h
  | file f =>
    rw [entryLine?] at hline
    split at hline
    · rw [← Option.some.inj hline]
      apply newline_notMem_referenceLine
      rw [String.toList_append, List.mem_append]
      rintro (hc | hc)
      · exact absurd hc (by decide)
      · rcases mem_of_mem_relativeText_child hc with hc | hc | hc
        · cases hc
        · cases hc
        · exact h hc
    · cases hline

theorem splitAt_referenceEntry (h : ∀ e ∈ entries, isReferred e → '\n' ∉ e.title.toList) :
    Text.splitAt '\n' (referenceEntry s entries).text = header :: referenceLines s entries := by
  have hlines : ∀ line ∈ header :: referenceLines s entries, '\n' ∉ line.toList := by
    refine List.forall_mem_cons.mpr ⟨by decide, fun line hline => ?_⟩
    obtain ⟨e, he, heq⟩ := List.mem_filterMap.mp hline
    refine newline_notMem_entryLine (h e he ?_) heq
    cases e with
    | module => rfl
    | file f =>
      rw [entryLine?] at heq
      split at heq
      · assumption
      · cases heq
  have hsep : "\n".toList = ['\n'] := rfl
  rw [Text.splitAt, referenceEntry, Text.joinText, String.toList_ofList, hsep,
    Text.fields_joinWith, List.map_map]
  · exact List.map_id'' (fun _ => String.ofList_toList) _
  · exact List.cons_ne_nil _ _
  · intro l hl
    obtain ⟨line, hline, rfl⟩ := List.mem_map.mp hl
    exact hlines line hline

/-- After the header there is a line for each entry that is referred to, in their order. It quotes
the module, or a path to where the writer puts the file. Line ends in titles aside, these are the
lines of the text. -/
theorem referenceEntry_text (s : Settings) (entries : List Entry)
    (h : ∀ f ∈ entries.filterMap Entry.file?, '\\' ∉ f.path.toList) :
    ∃ lines, (referenceEntry s entries).text =
        "\n".intercalate ("// Generated by wxt" :: lines) ∧
      List.Forall₂ (RefersTo s) (entries.filter isReferred) lines ∧
      (targets s entries).map FileEntry.location =
        (entries.filterMap Entry.file?).map (fun f => place s f.path) ∧
      ((∀ e ∈ entries, isReferred e → '\n' ∉ e.title.toList) →
        Text.splitAt '\n' (referenceEntry s entries).text = "// Generated by wxt" :: lines) :=
  ⟨referenceLines s entries, Text.joinText_eq_intercalate _ _, forall₂_referenceLines h,
    Generate.map_location_targets s entries, splitAt_referenceEntry⟩

/-- Entries with paths from the root, out of the output directory, and with pieces that do not
count. -/
def scattered : List Entry := [.module "wxt/vite-builder-env", .file ⟨"/elsewhere/a.d.ts", "", true⟩,
  .file ⟨"../b.d.ts", "", true⟩, .file ⟨"tsconfig.json", "", false⟩,
  .file ⟨"./types//./c.d.ts/", "", true⟩]

theorem referenceEntry_text_scattered : ∃ lines,
    List.Forall₂ (RefersTo Generate.sample) (scattered.filter isReferred) lines ∧
      Text.splitAt '\n' (referenceEntry Generate.sample scattered).text =
        "// Generated by wxt" :: lines ∧
      lines = ["/// <reference types=\"wxt/vite-builder-env\" />",
        "/// <reference types=\"./../../elsewhere/a.d.ts\" />",
        "/// <reference types=\"./../b.d.ts\" />", "/// <reference types=\"./types/c.d.ts\" />"] := by
  obtain ⟨lines, -, hlines, -, hsplit⟩ :=
    referenceEntry_text Generate.sample scattered (by decide)
  have htext : Text.splitAt '\n' (referenceEntry Generate.sample scattered).text =
      ["// Generated by wxt", "/// <reference types=\"wxt/vite-builder-env\" />",
        "/// <reference types=\"./../../elsewhere/a.d.ts\" />",
        "/// <reference types=\"./../b.d.ts\" />",
        "/// <reference types=\"./types/c.d.ts\" />"] := by
    decide +kernel
  exact ⟨lines, hlines, hsplit (by decide), (List.cons.inj ((hsplit (by decide)).symm.trans htext)).2⟩

/-- A line end in the name of a module makes two lines of one entry. -/
theorem referenceEntry_breaks_line :
    Text.splitAt '\n' (referenceEntry Generate.sample [.module "a\nb"]).text =
        ["// Generated by wxt", "/// <reference types=\"a", "b\" />"] ∧
      ¬ ∃ lines, Text.splitAt '\n' (referenceEntry Generate.sample [.module "a\nb"]).text =
          "// Generated by wxt" :: lines ∧
        List.Forall₂ (RefersTo Generate.sample) ([.module "a\nb"].filter isReferred) lines := by
  have htext : Text.splitAt '\n' (referenceEntry Generate.sample [.module "a\nb"]).text =
      ["// Generated by wxt", "/// <reference types=\"a", "b\" />"] := by
    decide +kernel
  refine ⟨htext, ?_⟩
  rintro ⟨lines, hsplit, hlines⟩
  obtain rfl := (List.cons.inj (hsplit.symm.trans htext)).2
  exact absurd hlines.length_eq (by decide)

end ExtTypes.Declaration
