import ExtTypes.Path.Location

/-! Reading the text of a path gives the path back. Main statement: `ofString_text`. -/
namespace ExtTypes

namespace Text

theorem fields_of_notMem {sep : Char} {s : List Char} (h : sep ∉ s) : fields sep s = [s] := by
  induction s with
  | nil => rfl
  | cons c s ih =>
    simp only [List.mem_cons, not_or] at h
    simp [fields, Ne.symm h.1, ih h.2]

theorem fields_append {sep : Char} {p : List Char} (h : sep ∉ p) (s : List Char) :
    fields sep (p ++ sep :: s) = p :: fields sep s := by
  induction p with
  | nil => simp [fields]
  | cons c p ih =>
    simp only [List.mem_cons, not_or] at h
    simp [fields, Ne.symm h.1, ih h.2]

/-- Pieces without the separator come apart again as they were. -/
theorem fields_joinWith {sep : Char} {ps : List (List Char)} (hne : ps ≠ [])
    (h : ∀ p ∈ ps, sep ∉ p) : fields sep (joinWith [sep] ps) = ps := by
  induction ps with
  | nil => exact absurd rfl hne
  | cons p ps ih =>
    have hp : sep ∉ p := h p List.mem_cons_self
    cases ps with
    | nil => simpa [joinWith] using fields_of_notMem hp
    | cons q qs =>
      have hqs : fields sep (joinWith [sep] (q :: qs)) = q :: qs :=
        ih (List.cons_ne_nil q qs) fun r hr => h r (List.mem_cons_of_mem p hr)
      simp only [joinWith, List.append_assoc, List.singleton_append]
      rw [fields_append hp, hqs]

end Text

theorem isName_ofList {s : List Char} (hlen : 2 < s.length) (hs : '/' ∉ s) :
    IsName (String.ofList s) := by
  have hne (t : String) (ht : t.toList.length ≤ 2) : String.ofList s ≠ t := by
    rintro rfl
    rw [String.toList_ofList] at ht
    omega
  exact ⟨hne _ (by decide), hne _ (by decide), hne _ (by decide), by rwa [String.toList_ofList]⟩

namespace Part

theorem slash_notMem_text (p : Part) : '/' ∉ p.text.toList := by
  cases p with
  | up => simp [text]
  | name n => exact n.property.2.2.2

theorem text_ne_empty (p : Part) : p.text ≠ "" := by
  cases p with
  | up => simp [text]
  | name n => exact n.property.1

theorem toList_text_ne_nil (p : Part) : p.text.toList ≠ [] := by
  intro h
  exact p.text_ne_empty (by simpa using h)

theorem map_text_name (names : List Name) :
    (names.map Part.name).map text = names.map Subtype.val := by
  rw [List.map_map]
  rfl

theorem text_of_ofString? {s : String} {q : Part} (h : ofString? s = some q) : q.text = s := by
  unfold ofString? at h
  split at h
  · exact (Option.some.inj h) ▸ rfl
  · split at h
    · next hup => exact (Option.some.inj h) ▸ hup.symm
    · cases h

end Part

namespace Path

/-- The parts with slashes between them. -/
def body (ps : List Part) : List Char := Text.joinWith ['/'] (ps.map fun p => p.text.toList)

theorem head_body_ne_slash (ps : List Part) : (body ps).head? ≠ some '/' := by
  cases ps with
  | nil => simp [body, Text.joinWith]
  | cons p ps =>
    have hs := p.slash_notMem_text
    obtain ⟨c, cs, hc⟩ := List.exists_cons_of_ne_nil p.toList_text_ne_nil
    have hne : c ≠ '/' := by
      rintro rfl
      exact hs (hc ▸ List.mem_cons_self)
    cases ps <;> simp [body, Text.joinWith, hc, hne]

theorem fields_body (ps : List Part) (h : ps ≠ []) :
    Text.fields '/' (body ps) = ps.map fun p => p.text.toList := by
  apply Text.fields_joinWith
  · simpa using h
  · intro s hs
    obtain ⟨p, -, rfl⟩ := List.mem_map.mp hs
    exact p.slash_notMem_text

theorem toList_text (p : Path) : p.text.toList =
    if p.anchor = .relative ∧ p.parts = [] then ['.']
    else p.anchor.text.toList ++ body p.parts := by
  unfold text
  split
  · rfl
  · simp [Text.joinText, body, Function.comp_def]

theorem ofChars_text (p : Path) : Anchor.ofChars p.text.toList = p.anchor := by
  have hb := head_body_ne_slash p.parts
  rw [toList_text]
  cases ha : p.anchor with
  -- what follows the anchor does not start with a slash
  | relative =>
    cases hps : body p.parts with
    | nil => split <;> simp [Anchor.ofChars, Anchor.text]
    | cons c cs =>
      have hc : c ≠ '/' := by simpa [hps] using hb
      split <;> simp [Anchor.ofChars, Anchor.text, hc]
  | root | doubleRoot =>
    cases hps : body p.parts with
    | nil => simp [Anchor.ofChars, Anchor.text]
    | cons c cs =>
      have hc : c ≠ '/' := by simpa [hps] using hb
      simp [Anchor.ofChars, Anchor.text, hc]

theorem filterMap_ofString?_texts (ps : List Part) :
    (ps.map fun p => p.text.toList).filterMap (fun s => Part.ofString? (String.ofList s)) = ps := by
  induction ps with
  | nil => rfl
  | cons p ps ih => simp [Part.ofString?_text, ih]

theorem parts_ofString (s : String) : (ofString s).parts =
    (Text.fields '/' s.toList).filterMap fun s => Part.ofString? (String.ofList s) := by
  rw [ofString, Text.splitAt, List.filterMap_map]
  rfl

/-- Slashes in front add pieces that do not count. -/
theorem filterMap_fields_slash (s : List Char) :
    (Text.fields '/' ('/' :: s)).filterMap (fun s => Part.ofString? (String.ofList s)) =
      (Text.fields '/' s).filterMap fun s => Part.ofString? (String.ofList s) := by
  have h : Part.ofString? "" = none := by decide
  simp [Text.fields, h]

theorem filterMap_fields_body (ps : List Part) :
    (Text.fields '/' (body ps)).filterMap (fun s => Part.ofString? (String.ofList s)) = ps := by
  cases ps with
  | nil =>
    have h : Part.ofString? "" = none := by decide
    simp [body, Text.joinWith, Text.fields, h]
  | cons p ps => rw [fields_body _ (List.cons_ne_nil p ps), filterMap_ofString?_texts]

/-- The text of a path says the path. -/
@[simp] theorem ofString_text (p : Path) : ofString p.text = p := by
  have hparts : (ofString p.text).parts = p.parts := by
    rw [parts_ofString, toList_text]
    split
    -- a path without anchor and parts is written as a dot
    · next h =>
      have hdot : Part.ofString? "." = none := by decide
      simp [Text.fields, h.2, hdot]
    · cases p.anchor with
      | relative => simpa [Anchor.text] using filterMap_fields_body p.parts
      | root => simpa [Anchor.text, filterMap_fields_slash] using filterMap_fields_body p.parts
      | doubleRoot =>
        simpa [Anchor.text, filterMap_fields_slash] using filterMap_fields_body p.parts
  have hanchor : (ofString p.text).anchor = p.anchor := ofChars_text p
  cases p
  simp_all [ofString]

@[simp] theorem isAbsolute_path (l : Location) : l.path.isAbsolute = true := rfl

/-- What is seen from an absolute path is absolute. -/
theorem isAbsolute_child {p : Path} (h : p.isAbsolute) (s : String) :
    (p.child s).isAbsolute := by
  unfold child join
  split
  · assumption
  · exact h

end Path

end ExtTypes
