import ExtTypes.Proofs.Json.RoundTrip

/-! What is written for a value without numbers is in ASCII, whatever the texts in it hold. Main
statements: `isAscii_print` and `isAscii_document`. -/
namespace ExtTypes

namespace Text

/-- A text in ASCII. -/
def IsAscii (s : List Char) : Prop := ∀ c ∈ s, c.toNat < 128

instance (s : List Char) : Decidable (IsAscii s) :=
  List.decidableBAll (fun c : Char => c.toNat < 128) s

variable {c : Char} {s t : List Char}

theorem IsAscii.append (hs : IsAscii s) (ht : IsAscii t) : IsAscii (s ++ t) :=
  List.forall_mem_append.mpr ⟨hs, ht⟩

theorem IsAscii.cons (hc : c.toNat < 128) (hs : IsAscii s) : IsAscii (c :: s) :=
  List.forall_mem_cons.mpr ⟨hc, hs⟩

theorem isAscii_joinWith {sep : List Char} {ps : List (List Char)} (hsep : IsAscii sep)
    (hps : ∀ p ∈ ps, IsAscii p) : IsAscii (joinWith sep ps) := by
  intro c hc
  rcases mem_joinWith hc with hc | ⟨p, hp, hc⟩
  · exact hsep c hc
  · exact hps p hp c hc

theorem toNat_hexDigit_lt : ∀ n < 16, (hexDigit n).toNat < 128 := by decide

theorem isAscii_hexText (width n : Nat) : IsAscii (hexText width n) := by
  induction width generalizing n with
  | zero => exact fun c hc => absurd hc List.not_mem_nil
  | succ width ih =>
    have hdigit : IsAscii [hexDigit (n % 16)] :=
      List.forall_mem_singleton.mpr (toNat_hexDigit_lt _ (Nat.mod_lt n (by decide)))
    exact (ih (n / 16)).append hdigit

end Text

namespace Json

open Text (IsAscii)

theorem isAscii_unitText (n : Nat) : IsAscii (unitText n) := by
  have hstart : IsAscii ['\\', 'u'] := by decide
  exact hstart.append (Text.isAscii_hexText 4 n)

/-- A character beyond ASCII is written as units. -/
theorem isAscii_escapeChar (c : Char) : IsAscii (escapeChar c) := by
  unfold escapeChar
  split_ifs with hquote hmark hfeed hreturn htab hform hback hplain hunit
  iterate 7 decide
  · exact List.forall_mem_singleton.mpr (by omega)
  · exact isAscii_unitText _
  · exact (isAscii_unitText _).append (isAscii_unitText _)

theorem isAscii_stringText (s : String) : IsAscii (stringText s) := by
  have hquote : IsAscii ['"'] := by decide
  have hbody : IsAscii (s.toList.flatMap escapeChar) := by
    intro c hc
    obtain ⟨d, -, hc⟩ := List.mem_flatMap.mp hc
    exact isAscii_escapeChar d c hc
  exact (hquote.append hbody).append hquote

theorem isAscii_newLine (depth : Nat) : IsAscii (newLine depth) := by
  have hblanks : IsAscii (List.replicate (2 * depth) ' ') := by
    intro c hc
    rw [List.eq_of_mem_replicate hc]
    decide
  exact .cons (by decide) hblanks

theorem isAscii_bracketed {opening closing : Char} {depth : Nat} {items : List (List Char)}
    (ho : opening.toNat < 128) (hc : closing.toNat < 128) (h : ∀ t ∈ items, IsAscii t) :
    IsAscii (bracketed opening closing depth items) := by
  have hclosing : IsAscii [closing] := List.forall_mem_singleton.mpr hc
  have hsep : IsAscii (',' :: newLine (depth + 1)) := .cons (by decide) (isAscii_newLine _)
  unfold bracketed
  split
  · exact .cons ho hclosing
  · exact ((IsAscii.cons ho (isAscii_newLine _)).append (Text.isAscii_joinWith hsep h)).append
      (isAscii_newLine depth) |>.append hclosing

theorem printItems_eq_map (depth : Nat) (items : List Json) :
    printItems depth items = items.map (print depth) := by
  induction items with
  | nil => rfl
  | cons v vs ih => rw [printItems, ih, List.map_cons]

theorem printFields_eq_map (depth : Nat) (fields : List (String × Json)) :
    printFields depth fields =
      fields.map fun f => stringText f.1 ++ ':' :: ' ' :: f.2.print depth := by
  induction fields with
  | nil => rfl
  | cons f fs ih => rw [printFields, ih, List.map_cons]

theorem isAscii_print {room : Nat} {v : Json} (h : Legible room v) (depth : Nat) :
    IsAscii (v.print depth) := by
  have hwords : IsAscii "null".toList ∧ IsAscii "true".toList ∧ IsAscii "false".toList := by decide
  induction h generalizing depth with
  | null => exact hwords.1
  | bool b => cases b with
    | true => exact hwords.2.1
    | false => exact hwords.2.2
  | str s => exact isAscii_stringText s
  | arr h ih =>
    rw [print, printItems_eq_map]
    apply isAscii_bracketed (by decide) (by decide)
    intro t ht
    obtain ⟨v, hv, rfl⟩ := List.mem_map.mp ht
    exact ih v hv (depth + 1)
  | obj names h ih =>
    rw [print, printFields_eq_map]
    apply isAscii_bracketed (by decide) (by decide)
    intro t ht
    obtain ⟨f, hf, rfl⟩ := List.mem_map.mp ht
    exact (isAscii_stringText f.1).append (.cons (by decide) (.cons (by decide) (ih f hf (depth + 1))))

theorem isAscii_document {room : Nat} {v : Json} (h : Legible room v) :
    IsAscii v.document.toList := by
  rw [document, String.toList_ofList]
  exact (isAscii_print h 0).append (by decide)

/-- The text of an object ends in a bracket and one line feed. -/
theorem document_obj_eq (fields : List (String × Json)) :
    ∃ s, (Json.obj fields).document.toList = s ++ ['}', '\n'] := by
  have hlast : ∃ s, (Json.obj fields).print 0 = s ++ ['}'] := by
    rw [print]
    unfold bracketed
    split
    · exact ⟨['{'], rfl⟩
    · exact ⟨_, rfl⟩
  obtain ⟨s, hs⟩ := hlast
  refine ⟨s, ?_⟩
  rw [document, String.toList_ofList, hs, List.append_assoc]
  rfl

end Json

end ExtTypes
