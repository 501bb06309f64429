import ExtTypes.Proofs.FileSystem.MakeDirs

/-! Reading a file, and writing one where its content changes. Main statements:
`writeIfDifferent_ok_iff`, when a text can be written, `node?_writeIfDifferent`, what is where then,
and `writeIfDifferent_exact`, byte for byte. -/
namespace ExtTypes

namespace FileSystem

variable {fs fs' : FileSystem} {cwd : Location} {p : Path} {b : ByteArray}

theorem read_eq_ok : fs.read cwd p = .ok b ↔
    hasNul p = false ∧ fs.locate cwd p = .ok (p.collapse cwd) ∧
      fs.node? (p.collapse cwd) = some (.file b) := by
  unfold read
  cases hn : hasNul p with
  | true => simp
  | false =>
    cases hl : fs.locate cwd p with
    | error c => simp
    | ok l =>
      obtain ⟨-, -, rfl⟩ := locate_eq_ok.mp hl
      cases hk : fs.node? (p.collapse cwd) with
      | none => simp [hk]
      | some k => cases k <;> simp [hk]

theorem Grows.read {files dirs : Set Location} (h : Grows files dirs fs fs')
    (hl : p.collapse cwd ∉ files) (hr : fs.read cwd p = .ok b) : fs'.read cwd p = .ok b := by
  obtain ⟨hn, hloc, hk⟩ := read_eq_ok.mp hr
  exact read_eq_ok.mpr ⟨hn, h.locate hloc, h.file_eq hk hl⟩

theorem Alike.read {files dirs : Set Location} (h : Alike files dirs fs fs')
    (hl : p.collapse cwd ∉ files) (hr : fs.read cwd p = .ok b) : fs'.read cwd p = .ok b := by
  obtain ⟨hn, hloc, hk⟩ := read_eq_ok.mp hr
  exact read_eq_ok.mpr ⟨hn, h.locate hloc, (h.file_iff hl).mpr hk⟩

/-- The directory of a file that can be read is there. -/
theorem isDir_parent_of_read (hp : p.isAbsolute) (h : fs.read [] p = .ok b) :
    fs.pathIsDir [] p.parent = .ok true := by
  obtain ⟨hn, hloc, hk⟩ := read_eq_ok.mp h
  obtain ⟨hfits, hpass, -⟩ := locate_eq_ok.mp hloc
  have ha : p.anchor ≠ .relative := by simpa [Path.isAbsolute] using hp
  have hpar : p.parent.isAbsolute := hp
  -- a file is not the root
  have hne : p.parts ≠ [] := by
    intro hnil
    simp [Path.collapse_of_isAbsolute hp, hnil, node?_nil] at hk
  have hsplit : p = ⟨p.anchor, p.parts.dropLast ++ [p.parts.getLast hne]⟩ := by
    rw [List.dropLast_concat_getLast]
  rw [Path.start, if_pos hp, ← List.dropLast_concat_getLast hne, passes_append] at hpass
  rw [hsplit] at hn hfits
  rw [hasNul_append, Bool.or_eq_false_iff] at hn
  refine pathIsDir_eq_true.mpr ⟨hn.1, ?_, ?_⟩
  · refine locate_eq_ok.mpr ⟨fits_above hfits, ?_, rfl⟩
    rw [Path.start, if_pos hpar]
    exact hpass.1
  · rw [Path.collapse_of_isAbsolute hpar]
    exact hpass.2.1

theorem write_eq_ok_iff : (fs.write cwd p b).1 = .ok () ↔
    hasNul p = false ∧ fs.locate cwd p = .ok (p.collapse cwd) ∧
      fs.node? (p.collapse cwd) ≠ some .dir := by
  unfold write
  cases hn : hasNul p with
  | true => simp
  | false =>
    cases hl : fs.locate cwd p with
    | error c => simp
    | ok l =>
      obtain ⟨-, -, rfl⟩ := locate_eq_ok.mp hl
      cases hk : fs.node? (p.collapse cwd) with
      | none => simp [hk]
      | some k => cases k <;> simp [hk]

theorem write_files_of_error {e : Failure} (h : (fs.write cwd p b).1 = .error e) :
    (fs.write cwd p b).2 = fs := by
  unfold write at h ⊢
  split
  · rfl
  · split
    · rfl
    · split
      · rfl
      · simp_all

theorem node?_write (hstart : fs.node? (p.start cwd) = some .dir)
    (h : (fs.write cwd p b).1 = .ok ()) (l : Location) :
    (fs.write cwd p b).2.node? l = if l = p.collapse cwd then some (.file b) else fs.node? l := by
  obtain ⟨hn, hl, hd⟩ := write_eq_ok_iff.mp h
  obtain ⟨hne, hpar⟩ := parent_of_locate hl hstart hd
  have hw : (fs.write cwd p b).2 = fs.writeFile (p.collapse cwd) b := by
    unfold write
    simp only [hn, hl]
    cases hk : fs.node? (p.collapse cwd) with
    | none => rfl
    | some k =>
      cases k with
      | dir => exact absurd hk hd
      | file c => rfl
  rw [hw, node?_writeFile b hne hpar hd]

/-- Bytes that are the encoding of a text. -/
def IsText (b : ByteArray) : Prop := ∃ s, Text.decodeUtf8 b = .ok s

theorem isText_toUTF8 (s : String) : IsText s.toUTF8 :=
  ⟨s, Text.decodeUtf8_eq_ok_iff.mpr rfl⟩

theorem readExact?_of_read {s : String} (h : fs.read cwd p = .ok s.toUTF8) :
    fs.readExact? cwd p = .ok (some s) := by
  have hs : Text.decodeUtf8 s.toUTF8 = .ok s := Text.decodeUtf8_eq_ok_iff.mpr rfl
  rw [readExact?, h]
  simp only [decode, hs, Except.map]

theorem read_of_readExact? {s : String} (h : fs.readExact? cwd p = .ok (some s)) :
    fs.read cwd p = .ok s.toUTF8 := by
  unfold readExact? at h
  split at h
  · next b hb =>
    cases hd : Text.decodeUtf8 b with
    | ok t =>
      have hts : t = s := by simpa [decode, hd, Except.map] using h
      rw [hb, ← Text.decodeUtf8_eq_ok_iff.mp hd, hts]
    | error e => simp [decode, hd, Except.map] at h
  · cases h
  · cases h

/-- Either it fails and nothing is done, or the text is there already, or it is written. -/
theorem writeIfDifferent_cases (fs : FileSystem) (cwd : Location) (p : Path) (text : String) :
    (∃ e, fs.writeIfDifferent cwd p text = (.error e, fs)) ∨
      (fs.writeIfDifferent cwd p text = (.ok false, fs) ∧ fs.read cwd p = .ok text.toUTF8) ∨
      (fs.writeIfDifferent cwd p text = (.ok true, (fs.write cwd p text.toUTF8).2) ∧
        (fs.write cwd p text.toUTF8).1 = .ok () ∧ ∃ old?, fs.readExact? cwd p = .ok old?) := by
  unfold writeIfDifferent
  split
  · next e h => exact .inl ⟨e, rfl⟩
  · next old? h =>
    split
    · next he => exact .inr (.inl ⟨rfl, read_of_readExact? (he ▸ h)⟩)
    · split
      · next e fs' hw =>
        have hsame : (fs.write cwd p text.toUTF8).2 = fs := write_files_of_error (by rw [hw])
        rw [hw] at hsame
        exact .inl ⟨e, Prod.ext rfl hsame⟩
      · next fs' hw => exact .inr (.inr ⟨by rw [hw], by rw [hw], old?, h⟩)

/-- A text that is there is not written again. -/
theorem writeIfDifferent_of_read {text : String} (h : fs.read cwd p = .ok text.toUTF8) :
    fs.writeIfDifferent cwd p text = (.ok false, fs) := by
  rw [writeIfDifferent, readExact?_of_read h]
  exact if_pos rfl

/-- What is where after a text was written, or was there already. -/
theorem node?_writeIfDifferent {text : String} {w : Bool}
    (hstart : fs.node? (p.start cwd) = some .dir) (h : (fs.writeIfDifferent cwd p text).1 = .ok w)
    (l : Location) : (fs.writeIfDifferent cwd p text).2.node? l =
      if l = p.collapse cwd then some (.file text.toUTF8) else fs.node? l := by
  rcases writeIfDifferent_cases fs cwd p text with ⟨e, he⟩ | ⟨he, hr⟩ | ⟨he, hw, -⟩
  · simp [he] at h
  · rw [he]
    split
    · next hl => rw [hl, (read_eq_ok.mp hr).2.2]
    · rfl
  · rw [he, node?_write hstart hw]

/-- Nothing but the file is touched. -/
theorem writeIfDifferent_grows (text : String) (hstart : fs.node? (p.start cwd) = some .dir) :
    Grows {p.collapse cwd} ∅ fs (fs.writeIfDifferent cwd p text).2 := by
  rcases writeIfDifferent_cases fs cwd p text with ⟨e, he⟩ | ⟨he, -⟩ | ⟨he, hw, -⟩
  · rw [he]
    exact .refl
  · rw [he]
    exact .refl
  · obtain ⟨-, -, hd⟩ := write_eq_ok_iff.mp hw
    intro l
    rw [he, node?_write hstart hw]
    split
    · next hl => exact .inr (.inr ⟨hl, hl ▸ hd, _, rfl⟩)
    · exact .inl rfl

theorem read_writeIfDifferent {text : String} {w : Bool}
    (hstart : fs.node? (p.start cwd) = some .dir) (h : (fs.writeIfDifferent cwd p text).1 = .ok w) :
    (fs.writeIfDifferent cwd p text).2.read cwd p = .ok text.toUTF8 := by
  have hnode := node?_writeIfDifferent hstart h (p.collapse cwd)
  rw [if_pos rfl] at hnode
  rcases writeIfDifferent_cases fs cwd p text with ⟨e, he⟩ | ⟨he, hr⟩ | ⟨he, hw, -⟩
  · simp [he] at h
  · rwa [he]
  · obtain ⟨hn, hl, -⟩ := write_eq_ok_iff.mp hw
    exact read_eq_ok.mpr ⟨hn, (writeIfDifferent_grows text hstart).locate hl, hnode⟩

/-- A text can be written where a file can be, unless a file is there that holds no text. -/
theorem writeIfDifferent_ok_iff {text : String} :
    (∃ w, (fs.writeIfDifferent cwd p text).1 = .ok w) ↔
    hasNul p = false ∧ fs.locate cwd p = .ok (p.collapse cwd) ∧
      fs.node? (p.collapse cwd) ≠ some .dir ∧
      ∀ b, fs.node? (p.collapse cwd) = some (.file b) → IsText b := by
  constructor
  · rintro ⟨w, h⟩
    rcases writeIfDifferent_cases fs cwd p text with ⟨e, he⟩ | ⟨-, hr⟩ | ⟨-, hw, old?, hold⟩
    · simp [he] at h
    · obtain ⟨hn, hl, hk⟩ := read_eq_ok.mp hr
      refine ⟨hn, hl, by simp [hk], fun b hb => ?_⟩
      have hbt : text.toUTF8 = b := by simpa using hk.symm.trans hb
      exact hbt ▸ isText_toUTF8 text
    · obtain ⟨hn, hl, hd⟩ := write_eq_ok_iff.mp hw
      refine ⟨hn, hl, hd, fun b hb => ?_⟩
      rw [readExact?, read_eq_ok.mpr ⟨hn, hl, hb⟩] at hold
      cases hd : Text.decodeUtf8 b with
      | ok s => exact ⟨s, hd⟩
      | error e => simp [decode, hd, Except.map] at hold
  · rintro ⟨hn, hl, hd, htext⟩
    -- what is there is read before it is compared
    obtain ⟨old?, hold⟩ : ∃ old?, fs.readExact? cwd p = .ok old? := by
      cases hk : fs.node? (p.collapse cwd) with
      | none => exact ⟨none, by simp [readExact?, read, hn, hl, hk]⟩
      | some k =>
        cases k with
        | dir => exact absurd hk hd
        | file b =>
          obtain ⟨s, hs⟩ := htext b hk
          refine ⟨some s, ?_⟩
          rw [readExact?, read_eq_ok.mpr ⟨hn, hl, hk⟩]
          simp only [decode, hs, Except.map]
    obtain ⟨fs', hw⟩ : ∃ fs', fs.write cwd p text.toUTF8 = (.ok (), fs') :=
      ⟨_, Prod.ext (write_eq_ok_iff.mpr ⟨hn, hl, hd⟩) rfl⟩
    unfold writeIfDifferent
    simp only [hold, hw]
    split <;> exact ⟨_, rfl⟩

/-- What comes of writing a text depends on where the path leads and on what is there. -/
theorem writeIfDifferent_congr {fs fs' : FileSystem} {p : Path} (text : String)
    (hl : fs'.locate [] p = fs.locate [] p)
    (hn : fs'.node? (p.collapse []) = fs.node? (p.collapse [])) :
    (fs'.writeIfDifferent [] p text).1 = (fs.writeIfDifferent [] p text).1 := by
  have hread : fs'.read [] p = fs.read [] p := by
    unfold read
    rw [hl]
    cases hp : fs.locate [] p with
    | error c => rfl
    | ok l =>
      obtain ⟨-, -, rfl⟩ := locate_eq_ok.mp hp
      dsimp only
      rw [hn]
  have hwrite : (fs'.write [] p text.toUTF8).1 = (fs.write [] p text.toUTF8).1 := by
    unfold write
    rw [hl]
    cases hp : fs.locate [] p with
    | error c =>
      dsimp only
      split <;> rfl
    | ok l =>
      obtain ⟨-, -, rfl⟩ := locate_eq_ok.mp hp
      dsimp only
      rw [hn]
      split
      · rfl
      · split <;> rfl
  unfold writeIfDifferent readExact?
  rw [hread]
  split
  · rfl
  · split
    · rfl
    · rcases hw : fs.write [] p text.toUTF8 with ⟨x, fs₁⟩
      rcases hw' : fs'.write [] p text.toUTF8 with ⟨x', fs₁'⟩
      rw [hw, hw'] at hwrite
      obtain rfl : x' = x := hwrite
      cases x' <;> rfl

/-- A text that is written is there then, byte for byte, and all else is as before; it counts as
written unless the same bytes were there already. A text that cannot be written changes nothing: it
cannot where the path gets lost or leads to a directory, or to a file that holds no text. -/
theorem writeIfDifferent_exact {x : Except Failure Bool} {text : String}
    (hcwd : fs.node? cwd = some .dir) (h : fs.writeIfDifferent cwd p text = (x, fs')) :
    (∀ w, x = .ok w → fs'.read cwd p = .ok text.toUTF8 ∧
      (∀ l, l ≠ p.collapse cwd → fs'.node? l = fs.node? l) ∧
      (w = false ↔ fs.read cwd p = .ok text.toUTF8)) ∧
    (∀ e, x = .error e → fs' = fs) ∧
    ((∃ w, x = .ok w) ↔ hasNul p = false ∧ fs.locate cwd p = .ok (p.collapse cwd) ∧
      fs.node? (p.collapse cwd) ≠ some .dir ∧
      ∀ b, fs.node? (p.collapse cwd) = some (.file b) → IsText b) := by
  have hstart := node?_start hcwd p
  have hfst : (fs.writeIfDifferent cwd p text).1 = x := congrArg Prod.fst h
  have hsnd : (fs.writeIfDifferent cwd p text).2 = fs' := congrArg Prod.snd h
  refine ⟨fun w hw => ?_, fun e he => ?_, ?_⟩
  · subst hw
    have hread := read_writeIfDifferent hstart hfst
    have hnode := node?_writeIfDifferent hstart hfst
    rw [hsnd] at hread hnode
    refine ⟨hread, fun l hl => by rw [hnode l, if_neg hl], fun hfalse => ?_, fun hsame => ?_⟩
    · rcases writeIfDifferent_cases fs cwd p text with ⟨e, he⟩ | ⟨-, hr⟩ | ⟨hw, -⟩
      · simp [he] at hfst
      · exact hr
      · simp [hw, hfalse] at hfst
    · rw [writeIfDifferent_of_read hsame] at hfst
      exact (Except.ok.inj hfst).symm
  · rcases writeIfDifferent_cases fs cwd p text with ⟨e, he'⟩ | ⟨hok, -⟩ | ⟨hok, -⟩
    · rw [← hsnd, he']
    · simp [hok, he] at hfst
    · simp [hok, he] at hfst
  · rw [← hfst]
    exact writeIfDifferent_ok_iff

/-- A directory with a file whose one line ends in two characters. -/
def linesDisk : FileSystem :=
  (FileSystem.empty.makeDir [⟨"notes", by decide⟩]).writeFile
    [⟨"notes", by decide⟩, ⟨"day", by decide⟩] "a\r\n".toUTF8

/-- Another end of the line is another text. -/
theorem writeIfDifferent_exact_lines : ∃ (cwd : Location) (p : Path),
    linesDisk.node? cwd = some .dir ∧ linesDisk.read cwd p = .ok "a\r\n".toUTF8 ∧
      linesDisk.writeIfDifferent cwd p "a\r\n" = (.ok false, linesDisk) ∧
      (linesDisk.writeIfDifferent cwd p "a\n").1 = .ok true ∧
      (linesDisk.writeIfDifferent cwd p "a\n").2.read cwd p = .ok "a\n".toUTF8 := by
  let cwd : Location := [⟨"notes", by decide⟩]
  let p := Path.ofString "../notes/day"
  have hcwd : linesDisk.node? cwd = some .dir := by decide +kernel
  have hread : linesDisk.read cwd p = .ok "a\r\n".toUTF8 := by decide +kernel
  have hok : (linesDisk.writeIfDifferent cwd p "a\n").1 = .ok true := by decide +kernel
  have hwrite : linesDisk.writeIfDifferent cwd p "a\n" =
      (.ok true, (linesDisk.writeIfDifferent cwd p "a\n").2) := Prod.ext hok rfl
  obtain ⟨hwritten, -, -⟩ := writeIfDifferent_exact hcwd hwrite
  exact ⟨cwd, p, hcwd, hread, writeIfDifferent_of_read hread, hok, (hwritten true rfl).1⟩

end FileSystem

end ExtTypes
