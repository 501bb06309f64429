import ExtTypes.FileSystem.Disk
import ExtTypes.Proofs.Path.RoundTrip
import Mathlib.Algebra.GroupWithZero.Nat
import Mathlib.Data.String.Basic

/-! How long the text of a path is. Main statements: `fits_above`, a path fits if one below it does,
and `fits_anchor`, it then fits with any anchor. -/
namespace ExtTypes

namespace Path

open String (utf8Len)

theorem utf8Len_text_pos (p : Part) : 0 < utf8Len p.text.toList := by
  obtain ⟨c, cs, hc⟩ := List.exists_cons_of_ne_nil p.toList_text_ne_nil
  have hpos := c.utf8Size_pos
  rw [hc, String.utf8Len_cons]
  omega

theorem utf8Len_body_cons (p : Part) {ps : List Part} (h : ps ≠ []) :
    utf8Len (body (p :: ps)) = utf8Len p.text.toList + 1 + utf8Len (body ps) := by
  obtain ⟨q, qs, rfl⟩ := List.exists_cons_of_ne_nil h
  have hslash : ('/' : Char).utf8Size = 1 := by decide
  simp [body, Text.joinWith, hslash]
  omega

/-- More parts make a longer text. -/
theorem utf8Len_body_append (ps : List Part) {qs : List Part} (h : qs ≠ []) :
    utf8Len (body ps) < utf8Len (body (ps ++ qs)) := by
  induction ps with
  | nil =>
    obtain ⟨q, qs, rfl⟩ := List.exists_cons_of_ne_nil h
    have hq := utf8Len_text_pos q
    cases qs with
    | nil => simpa [body, Text.joinWith] using hq
    | cons r rs =>
      rw [List.nil_append, utf8Len_body_cons q (List.cons_ne_nil r rs)]
      have h0 : utf8Len (body []) = 0 := rfl
      omega
  | cons p ps ih =>
    have hne : ps ++ qs ≠ [] := by simp [h]
    rw [List.cons_append, utf8Len_body_cons p hne]
    -- a last part has no slash after it; it gets one when more parts follow
    by_cases hps : ps = []
    · subst hps
      have hp : utf8Len (body [p]) = utf8Len p.text.toList := rfl
      omega
    · rw [utf8Len_body_cons p hps]
      omega

theorem utf8ByteSize_text_of_ne {p : Path} (hp : ¬ (p.anchor = .relative ∧ p.parts = [])) :
    p.text.utf8ByteSize = utf8Len p.anchor.text.toList + utf8Len (body p.parts) := by
  have ht := toList_text p
  rw [if_neg hp] at ht
  calc p.text.utf8ByteSize
      = (String.ofList p.text.toList).utf8ByteSize := by rw [String.ofList_toList]
    _ = utf8Len p.text.toList := String.utf8ByteSize_ofList _
    _ = utf8Len p.anchor.text.toList + utf8Len (body p.parts) := by rw [ht, String.utf8Len_append]

theorem utf8ByteSize_text {p : Path} (hp : p.isAbsolute) :
    p.text.utf8ByteSize = utf8Len p.anchor.text.toList + utf8Len (body p.parts) := by
  have ha : p.anchor ≠ .relative := by simpa [isAbsolute] using hp
  exact utf8ByteSize_text_of_ne fun h => ha h.1

/-- The text of a location is as long as its names and a slash before each. -/
theorem utf8ByteSize_path {l : Location} (h : l ≠ []) :
    l.path.text.utf8ByteSize = (l.map fun n => n.val.utf8ByteSize + 1).sum := by
  have hslash : utf8Len Anchor.root.text.toList = 1 := by decide
  have hsize (n : Name) : utf8Len (Part.name n).text.toList = n.val.utf8ByteSize := by
    rw [← String.utf8ByteSize_ofList, String.ofList_toList]
    rfl
  rw [utf8ByteSize_text rfl]
  show utf8Len Anchor.root.text.toList + utf8Len (body (l.map .name)) = _
  rw [hslash]
  induction l with
  | nil => exact absurd rfl h
  | cons n l ih =>
    rw [List.map_cons, List.map_cons, List.sum_cons]
    by_cases hl : l = []
    · subst hl
      have hbody : utf8Len (body [.name n]) = utf8Len (Part.name n).text.toList := rfl
      rw [List.map_nil, hbody, hsize]
      simp only [List.map_nil, List.sum_nil]
      omega
    · rw [utf8Len_body_cons _ (by simpa using hl), hsize]
      have := ih hl
      omega

end Path

namespace FileSystem

theorem utf8Len_anchor {a : Anchor} (ha : a ≠ .relative) :
    1 ≤ String.utf8Len a.text.toList ∧ String.utf8Len a.text.toList ≤ 2 := by
  cases a with
  | relative => exact absurd rfl ha
  | root => decide
  | doubleRoot => decide

theorem fits_above {a : Anchor} {ps qs : List Part} (h : fits ⟨a, ps ++ qs⟩ = true) :
    fits ⟨a, ps⟩ = true := by
  by_cases hps : a = .relative ∧ ps = []
  -- the text of no parts is a dot
  · obtain ⟨rfl, rfl⟩ := hps
    decide
  by_cases hqs : qs = []
  · simpa [hqs] using h
  have hall : ¬ (a = .relative ∧ ps ++ qs = []) := fun hnil =>
    hqs (List.append_eq_nil_iff.mp hnil.2).2
  have hlt := Path.utf8Len_body_append ps hqs
  simp only [fits, decide_eq_true_eq] at h ⊢
  rw [Path.utf8ByteSize_text_of_ne hall] at h
  rw [Path.utf8ByteSize_text_of_ne hps]
  dsimp only at h ⊢
  omega

/-- What is above a path that fits does so with any anchor. -/
theorem fits_anchor {a b : Anchor} (ha : a ≠ .relative) (hb : b ≠ .relative) {ps qs : List Part}
    (hqs : qs ≠ []) (h : fits ⟨a, ps ++ qs⟩ = true) : fits ⟨b, ps⟩ = true := by
  have hla := utf8Len_anchor ha
  have hlb := utf8Len_anchor hb
  -- the part that is left out makes up for a longer anchor
  have hlt := Path.utf8Len_body_append ps hqs
  have habs : (⟨a, ps ++ qs⟩ : Path).isAbsolute := by simpa [Path.isAbsolute] using ha
  have hbbs : (⟨b, ps⟩ : Path).isAbsolute := by simpa [Path.isAbsolute] using hb
  simp only [fits, decide_eq_true_eq] at h ⊢
  rw [Path.utf8ByteSize_text habs] at h
  rw [Path.utf8ByteSize_text hbbs]
  dsimp only at h ⊢
  omega

end FileSystem

end ExtTypes
