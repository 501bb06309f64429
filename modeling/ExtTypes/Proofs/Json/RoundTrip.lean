import ExtTypes.Json.Printer
import ExtTypes.Json.Reader
import Mathlib.Tactic.SplitIfs

/-! Reading what was written. A text as it is written for a value without numbers has that value
again, and nothing is left of it. Main statement: `parse_document`. -/
namespace ExtTypes.Json

/-! ### Characters -/

theorem hexValue?_hexDigit : ∀ n < 16, hexValue? (Text.hexDigit n) = some n := by decide

theorem hexText_four (n : Nat) : Text.hexText 4 n =
    [Text.hexDigit (n / 16 / 16 / 16 % 16), Text.hexDigit (n / 16 / 16 % 16),
      Text.hexDigit (n / 16 % 16), Text.hexDigit (n % 16)] := rfl

/-- The digits of a unit are read if text follows them. -/
theorem readUnit?_hexText {n : Nat} (h : n < 0x10000) {t : List Char} (ht : t ≠ []) :
    readUnit? (Text.hexText 4 n ++ t) = some (n, t) := by
  -- the reader looks for a fifth character after the four digits
  obtain ⟨c, t, rfl⟩ := List.exists_cons_of_ne_nil ht
  rw [hexText_four]
  show readUnit? (_ :: _ :: _ :: _ :: c :: t) = _
  simp only [readUnit?, hexValue?_hexDigit _ (Nat.mod_lt _ (by decide)), Option.bind_eq_bind,
    Option.bind_some]
  congr 2
  omega

theorem toNat_lt_or (c : Char) : c.toNat < 0xD800 ∨ 0xE000 ≤ c.toNat ∧ c.toNat < 0x110000 := by
  have h := c.valid
  simp only [UInt32.isValidChar, Nat.isValidChar] at h
  have : c.toNat = c.val.toNat := rfl
  omega

/-- A character of one unit. -/
theorem readUnicode_unit {c : Char} (hc : c.toNat < 0x10000) {t : List Char} (ht : t ≠ []) :
    readUnicode ('u' :: (Text.hexText 4 c.toNat ++ t)) = .ok (c, t) := by
  -- no character lies among the units that come in pairs
  have hplain : isHighUnit c.toNat = false ∧ isLowUnit c.toNat = false := by
    have := toNat_lt_or c
    simp only [isHighUnit, isLowUnit]
    constructor <;> simp <;> omega
  rw [readUnicode, List.drop_one, List.tail_cons, readUnit?_hexText hc ht]
  simp [hplain, unitChar]

/-- A character of two units. -/
theorem readUnicode_pair {c : Char} (hc : 0x10000 ≤ c.toNat) {t : List Char} (ht : t ≠ []) :
    readUnicode ('u' :: (Text.hexText 4 (0xD800 + (c.toNat - 0x10000) / 0x400) ++
      (unitText (0xDC00 + (c.toNat - 0x10000) % 0x400) ++ t))) = .ok (c, t) := by
  have hlt := toNat_lt_or c
  have hhigh : isHighUnit (0xD800 + (c.toNat - 0x10000) / 0x400) = true := by
    simp [isHighUnit]
    omega
  have hlow : isLowUnit (0xDC00 + (c.toNat - 0x10000) % 0x400) = true := by
    simp [isLowUnit]
    omega
  have hmore : ((Text.hexText 4 (0xDC00 + (c.toNat - 0x10000) % 0x400) ++ t).drop 4).isEmpty =
      false := by
    rw [hexText_four]
    simpa using ht
  rw [readUnicode, List.drop_one, List.tail_cons,
    readUnit?_hexText (by omega) (by simp [unitText])]
  simp only [hhigh, if_true, unitText, List.cons_append]
  rw [if_neg (by simp [hmore]), readUnit?_hexText (by omega) ht]
  -- together the two units hold the whole code point
  have hchar : pairChar (0xD800 + (c.toNat - 0x10000) / 0x400)
      (0xDC00 + (c.toNat - 0x10000) % 0x400) = c := by
    have hsum : 0x10000 + (0xD800 + (c.toNat - 0x10000) / 0x400 - 0xD800) * 0x400 +
        (0xDC00 + (c.toNat - 0x10000) % 0x400 - 0xDC00) = c.toNat := by omega
    rw [pairChar, hsum, Char.ofNat_toNat]
  simp only [hlow, if_true, hchar]

/-- How a character is written between quotes. -/
inductive Escaped (c : Char) : List Char → Prop
  | simple {e : Char} (he : e ≠ 'u') (h : simpleEscape? e = some c) : Escaped c ['\\', e]
  | plain (hquote : c ≠ '"') (hmark : c ≠ '\\') (hlow : 0x20 ≤ c.toNat) : Escaped c [c]
  | unit (h : c.toNat < 0x10000) : Escaped c (unitText c.toNat)
  | pair (h : 0x10000 ≤ c.toNat) : Escaped c
      (unitText (0xD800 + (c.toNat - 0x10000) / 0x400) ++
        unitText (0xDC00 + (c.toNat - 0x10000) % 0x400))

theorem escaped_escapeChar (c : Char) : Escaped c (escapeChar c) := by
  have simple {e c' : Char} (hc : c = c') (he : e ≠ 'u') (h : simpleEscape? e = some c') :
      Escaped c ['\\', e] := .simple he (hc ▸ h)
  unfold escapeChar
  split_ifs with hquote hmark h h h h h hplain hunit
  · exact simple hquote (by decide) rfl
  · exact simple hmark (by decide) rfl
  · exact simple h (by decide) rfl
  · exact simple h (by decide) rfl
  · exact simple h (by decide) rfl
  · exact simple h (by decide) rfl
  · exact simple h (by decide) rfl
  · exact .plain hquote hmark hplain.1
  · exact .unit hunit
  · exact .pair (Nat.le_of_not_lt hunit)

theorem readString_unicode (start : List Char) (fuel : Nat) (u : List Char) :
    readString start (fuel + 1) ('\\' :: 'u' :: u) =
      match readUnicode ('u' :: u) with
      | .error e => .error e
      | .ok (c, t) => (readString start fuel t).map fun (cs, r) => (c :: cs, r) := rfl

/-- What is written for a character is read as that character, in one step, if text follows. -/
theorem Escaped.readString {c : Char} {w : List Char} (h : Escaped c w) (start : List Char)
    (fuel : Nat) {t : List Char} (ht : t ≠ []) : readString start (fuel + 1) (w ++ t) =
      (readString start fuel t).map fun (cs, r) => (c :: cs, r) := by
  cases h with
  -- after the backslash only `u` is followed by more than one character
  | @simple e he h =>
    show Json.readString start (fuel + 1) ('\\' :: e :: t) = _
    rw [Json.readString.eq_def]
    dsimp only
    rw [if_neg (by decide), if_pos rfl]
    split
    · next heq => cases heq
    · next heq => exact absurd (List.cons.inj heq).1 he
    · next heq =>
      cases heq
      rw [h]
  | plain hquote hmark hlow =>
    show (if c = '"' then _ else if c = '\\' then _ else if c.toNat < 0x20 then _ else _) = _
    rw [if_neg hquote, if_neg hmark, if_neg (Nat.not_lt.mpr hlow)]
    rfl
  | unit h =>
    show Json.readString start (fuel + 1) ('\\' :: 'u' :: (Text.hexText 4 c.toNat ++ t)) = _
    rw [readString_unicode, readUnicode_unit h ht]
  | pair h =>
    rw [List.append_assoc]
    show Json.readString start (fuel + 1)
      ('\\' :: 'u' :: (Text.hexText 4 _ ++ (unitText _ ++ t))) = _
    rw [readString_unicode, readUnicode_pair h ht]

theorem Escaped.length_pos {c : Char} {w : List Char} (h : Escaped c w) : 0 < w.length := by
  cases h <;> exact Nat.zero_lt_succ _

theorem readString_escaped (start rest : List Char) {s : List Char} {fuel : Nat}
    (h : s.length < fuel) :
    readString start fuel (s.flatMap escapeChar ++ '"' :: rest) = .ok (s, rest) := by
  -- one step for each character, and one for the quote that ends the string
  induction s generalizing fuel with
  | nil =>
    obtain ⟨fuel, rfl⟩ := Nat.exists_eq_add_one.mpr h
    rfl
  | cons c s ih =>
    obtain ⟨fuel, rfl⟩ := Nat.exists_eq_add_one.mpr (Nat.zero_lt_of_lt h)
    rw [List.flatMap_cons, List.append_assoc, (escaped_escapeChar c).readString _ _ (by simp),
      ih (Nat.lt_of_succ_lt_succ h)]
    rfl

theorem length_le_length_escaped (s : List Char) : s.length ≤ (s.flatMap escapeChar).length := by
  induction s with
  | nil => exact Nat.le_refl 0
  | cons c s ih =>
    have hc := (escaped_escapeChar c).length_pos
    rw [List.flatMap_cons, List.length_append, List.length_cons]
    omega

/-- A string is read up to its end, past the opening quote. -/
theorem readString_stringText (start rest : List Char) {s : String} {fuel : Nat}
    (h : (stringText s).length ≤ fuel + 1) :
    readString start fuel ((stringText s).tail ++ rest) = .ok (s.toList, rest) := by
  show readString start fuel ((s.toList.flatMap escapeChar ++ ['"']) ++ rest) = _
  rw [List.append_assoc, List.singleton_append]
  apply readString_escaped
  have hlen := length_le_length_escaped s.toList
  simp only [stringText, List.cons_append, List.length_cons, List.length_append,
    List.length_nil] at h
  omega

/-! ### Values -/

/-- A value that its text tells in full, with at most `room` values inside one another: there are no
numbers in it, and each object has different names. -/
inductive Legible : Nat → Json → Prop
  | null {room : Nat} : Legible room .null
  | bool {room : Nat} (b : Bool) : Legible room (.bool b)
  | str {room : Nat} (s : String) : Legible room (.str s)
  | arr {room : Nat} {items : List Json} (h : ∀ v ∈ items, Legible room v) :
      Legible (room + 1) (.arr items)
  | obj {room : Nat} {fields : List (String × Json)} (names : (fields.map Prod.fst).Nodup)
      (h : ∀ f ∈ fields, Legible room f.2) : Legible (room + 1) (.obj fields)

/-- What values without numbers start with: no blank, and nothing that ends something. -/
def starts : List Char := ['n', 't', 'f', '"', '[', '{']

theorem Legible.print_eq_cons {room : Nat} {v : Json} (h : Legible room v) (depth : Nat) :
    ∃ c s, v.print depth = c :: s ∧ c ∈ starts := by
  cases h with
  | null => exact ⟨_, _, rfl, by decide⟩
  | bool b => cases b <;> exact ⟨_, _, rfl, by decide⟩
  | str s => exact ⟨_, _, rfl, by decide⟩
  | arr =>
    rw [print]
    unfold bracketed
    split <;> exact ⟨_, _, rfl, by decide⟩
  | obj =>
    rw [print]
    unfold bracketed
    split <;> exact ⟨_, _, rfl, by decide⟩

theorem skipSpace_newLine (depth : Nat) (t : List Char) :
    skipSpace (newLine depth ++ t) = skipSpace t := by
  show ((' ' :: List.replicate (2 * depth) ' ').drop 1 ++ t).dropWhile isSpace = t.dropWhile isSpace
  rw [List.drop_one, List.tail_cons]
  induction 2 * depth with
  | zero => rfl
  | succ k ih => exact ih

theorem skipSpace_of_mem {c : Char} {s : List Char} (h : c ∈ starts) :
    skipSpace (c :: s) = c :: s := by
  have hstarts : starts.all (fun c => !isSpace c) = true := by decide
  have hspace : (!isSpace c) = true := List.all_eq_true.mp hstarts c h
  exact List.dropWhile_cons_of_neg (by simpa using hspace)

/-- Whatever follows, the text of `v` is read as `v`. -/
def ReadsBack (room : Nat) (v : Json) : Prop :=
  ∀ depth fuel rest, (v.print depth).length ≤ fuel + 1 →
    readValue (fuel + 1) room (v.print depth ++ rest) = .ok (v, rest)

theorem ReadsBack.readValue_print {room : Nat} {v : Json} (h : ReadsBack room v)
    (hv : Legible room v) (depth fuel : Nat) (rest : List Char)
    (hfuel : (v.print depth).length ≤ fuel) :
    readValue fuel room (v.print depth ++ rest) = .ok (v, rest) := by
  obtain ⟨c, s, hprint, -⟩ := hv.print_eq_cons depth
  have hpos : 0 < (v.print depth).length := hprint ▸ Nat.zero_lt_succ s.length
  obtain ⟨fuel, rfl⟩ := Nat.exists_eq_add_one.mpr (Nat.lt_of_lt_of_le hpos hfuel)
  exact h depth fuel rest hfuel

theorem readValue_arr {fuel room : Nat} {t u : List Char} (ht : skipSpace t = u)
    (hu : u.head? ≠ some ']') : readValue (fuel + 1) (room + 1) ('[' :: t) =
      (readItems fuel room u).map fun (vs, r) => (.arr vs, r) := by
  rw [readValue, ht]
  split
  · exact absurd rfl hu
  · rfl

theorem readValue_obj {fuel room : Nat} {t u : List Char} (ht : skipSpace t = u)
    (hu : u.head? ≠ some '}') : readValue (fuel + 1) (room + 1) ('{' :: t) =
      (readFields fuel room u).map fun (fs, r) => (.obj (dedupFields fs), r) := by
  rw [readValue, ht]
  split
  · exact absurd rfl hu
  · rfl

theorem joinWith_cons_eq_append (sep p : List Char) (ps : List (List Char)) :
    ∃ t, Text.joinWith sep (p :: ps) = p ++ t := by
  cases ps with
  | nil => exact ⟨[], (List.append_nil p).symm⟩
  | cons q qs => exact ⟨sep ++ Text.joinWith sep (q :: qs), List.append_assoc p sep _⟩

/-- The text of items, with what stands between them. -/
def itemsText (depth : Nat) (items : List Json) : List Char :=
  Text.joinWith (',' :: newLine depth) (printItems depth items)

/-- The text of fields, with what stands between them. -/
def fieldsText (depth : Nat) (fields : List (String × Json)) : List Char :=
  Text.joinWith (',' :: newLine depth) (printFields depth fields)

theorem itemsText_cons_cons (depth : Nat) (v w : Json) (vs : List Json) :
    itemsText depth (v :: w :: vs) =
      v.print depth ++ ',' :: (newLine depth ++ itemsText depth (w :: vs)) := by
  simp [itemsText, printItems, Text.joinWith]

theorem fieldsText_cons_cons (depth : Nat) (f g : String × Json) (fs : List (String × Json)) :
    fieldsText depth (f :: g :: fs) =
      stringText f.1 ++ ':' :: ' ' :: (f.2.print depth ++
        ',' :: (newLine depth ++ fieldsText depth (g :: fs))) := by
  simp [fieldsText, printFields, Text.joinWith]

theorem print_arr_cons (depth : Nat) (v : Json) (vs : List Json) :
    (Json.arr (v :: vs)).print depth = '[' :: (newLine (depth + 1) ++
      (itemsText (depth + 1) (v :: vs) ++ (newLine depth ++ [']']))) := by
  simp [print, printItems, bracketed, itemsText]

theorem print_obj_cons (depth : Nat) (f : String × Json) (fs : List (String × Json)) :
    (Json.obj (f :: fs)).print depth = '{' :: (newLine (depth + 1) ++
      (fieldsText (depth + 1) (f :: fs) ++ (newLine depth ++ ['}']))) := by
  simp [print, printFields, bracketed, fieldsText]

/-- On a new line, items start at once and not with a closing bracket. -/
theorem skipSpace_itemsText {room : Nat} {v : Json} (hv : Legible room v) (depth : Nat)
    (vs : List Json) (t : List Char) :
    skipSpace (newLine depth ++ (itemsText depth (v :: vs) ++ t)) = itemsText depth (v :: vs) ++ t ∧
      (itemsText depth (v :: vs) ++ t).head? ≠ some ']' := by
  obtain ⟨c, s, hprint, hc⟩ := hv.print_eq_cons depth
  obtain ⟨u, hu⟩ := joinWith_cons_eq_append (',' :: newLine depth) (v.print depth)
    (printItems depth vs)
  have hitems : itemsText depth (v :: vs) ++ t = c :: (s ++ u ++ t) := by
    rw [itemsText, printItems, hu, hprint, List.cons_append, List.cons_append]
  rw [skipSpace_newLine, hitems, skipSpace_of_mem hc]
  refine ⟨rfl, fun heq => ?_⟩
  cases heq
  exact absurd hc (by decide)

/-- On a new line, fields start at once and not with a closing bracket. -/
theorem skipSpace_fieldsText (depth : Nat) (f : String × Json) (fs : List (String × Json))
    (t : List Char) :
    skipSpace (newLine depth ++ (fieldsText depth (f :: fs) ++ t)) =
        fieldsText depth (f :: fs) ++ t ∧
      (fieldsText depth (f :: fs) ++ t).head? ≠ some '}' := by
  obtain ⟨u, hu⟩ := joinWith_cons_eq_append (',' :: newLine depth)
    (stringText f.1 ++ ':' :: ' ' :: f.2.print depth) (printFields depth fs)
  have hfields : ∃ s, fieldsText depth (f :: fs) ++ t = '"' :: s := by
    rw [fieldsText, printFields, hu]
    exact ⟨_, rfl⟩
  obtain ⟨s, hs⟩ := hfields
  rw [skipSpace_newLine, hs, skipSpace_of_mem (by decide)]
  exact ⟨rfl, fun heq => absurd (Option.some.inj heq) (by decide)⟩

theorem readItems_itemsText {room : Nat} (depth outer : Nat) (rest : List Char) {v : Json}
    {vs : List Json} (h : ∀ w ∈ v :: vs, Legible room w ∧ ReadsBack room w) {fuel : Nat}
    (hfuel : (itemsText depth (v :: vs)).length < fuel) :
    readItems fuel room (itemsText depth (v :: vs) ++ (newLine outer ++ ']' :: rest)) =
      .ok (v :: vs, rest) := by
  obtain ⟨fuel, rfl⟩ := Nat.exists_eq_add_one.mpr (Nat.zero_lt_of_lt hfuel)
  -- each item takes one step and at least a character, so the length of the text bounds the steps
  induction vs generalizing v fuel with
  | nil =>
    obtain ⟨hv, hread⟩ := h v List.mem_cons_self
    have hvalue := hread.readValue_print hv depth fuel (newLine outer ++ ']' :: rest)
      (Nat.le_of_lt_succ hfuel)
    show readItems (fuel + 1) room (v.print depth ++ (newLine outer ++ ']' :: rest)) = _
    rw [readItems, hvalue]
    simp only [skipSpace_newLine]
    rfl
  | cons w vs ih =>
    obtain ⟨⟨hv, hread⟩, hvs⟩ := List.forall_mem_cons.mp h
    rw [itemsText_cons_cons] at hfuel ⊢
    simp only [List.length_append, List.length_cons] at hfuel
    obtain ⟨fuel, rfl⟩ := Nat.exists_eq_add_one.mpr (show 0 < fuel by omega)
    have hrest := ih hvs fuel (by omega)
    rw [List.append_assoc, readItems, hread.readValue_print hv depth (fuel + 1) _ (by omega)]
    show (readItems (fuel + 1) room (skipSpace (newLine depth ++ _ ++ _))).map _ = _
    rw [List.append_assoc, (skipSpace_itemsText (hvs w List.mem_cons_self).1 depth vs _).1, hrest]
    rfl

/-- What is read of an object whose first field was just read: what follows the field tells whether
there is another one. -/
def readMore (fuel room : Nat) (f : String × Json) (t : List Char) : Read (List (String × Json)) :=
  match skipSpace t with
  | '}' :: r => .ok ([f], r)
  | ',' :: t => (readFields fuel room (skipSpace t)).map fun (fs, r) => (f :: fs, r)
  | t => stop .comma t

theorem readFields_field {room : Nat} {v : Json} (hv : Legible room v) (hread : ReadsBack room v)
    (k : String) (depth : Nat) (t : List Char) {fuel : Nat}
    (hname : (stringText k).length ≤ fuel + 1) (hvalue : (v.print depth).length ≤ fuel) :
    readFields (fuel + 1) room (stringText k ++ ':' :: ' ' :: (v.print depth ++ t)) =
      readMore fuel room (k, v) t := by
  obtain ⟨c, s, hprint, hc⟩ := hv.print_eq_cons depth
  have hskip : skipSpace (' ' :: (v.print depth ++ t)) = v.print depth ++ t := by
    rw [hprint]
    exact skipSpace_of_mem hc
  have hcolon (u : List Char) : skipSpace (':' :: u) = ':' :: u := rfl
  show readFields (fuel + 1) room ('"' :: ((stringText k).tail ++ _)) = _
  rw [readFields, readString_stringText _ _ hname]
  simp only [hcolon, hskip, hread.readValue_print hv depth fuel t hvalue, String.ofList_toList]
  rfl

theorem readFields_fieldsText {room : Nat} (depth outer : Nat) (rest : List Char)
    {f : String × Json} {fs : List (String × Json)}
    (h : ∀ g ∈ f :: fs, Legible room g.2 ∧ ReadsBack room g.2) {fuel : Nat}
    (hfuel : (fieldsText depth (f :: fs)).length < fuel) :
    readFields fuel room (fieldsText depth (f :: fs) ++ (newLine outer ++ '}' :: rest)) =
      .ok (f :: fs, rest) := by
  obtain ⟨fuel, rfl⟩ := Nat.exists_eq_add_one.mpr (Nat.zero_lt_of_lt hfuel)
  induction fs generalizing f fuel with
  | nil =>
    obtain ⟨hf, hread⟩ := h f List.mem_cons_self
    have htext : fieldsText depth [f] = stringText f.1 ++ ':' :: ' ' :: f.2.print depth := rfl
    rw [htext, List.length_append, List.length_cons, List.length_cons] at hfuel
    rw [htext, List.append_assoc, List.cons_append, List.cons_append,
      readFields_field hf hread f.1 depth _ (by omega) (by omega), readMore, skipSpace_newLine]
    rfl
  | cons g fs ih =>
    obtain ⟨⟨hf, hread⟩, hfs⟩ := List.forall_mem_cons.mp h
    rw [fieldsText_cons_cons] at hfuel ⊢
    simp only [List.length_append, List.length_cons] at hfuel
    obtain ⟨fuel, rfl⟩ := Nat.exists_eq_add_one.mpr (show 0 < fuel by omega)
    have hrest := ih hfs fuel (by omega)
    rw [List.append_assoc, List.cons_append, List.cons_append, List.append_assoc,
      readFields_field hf hread f.1 depth _ (by omega) (by omega)]
    show (readFields (fuel + 1) room (skipSpace (newLine depth ++ _ ++ _))).map _ = _
    rw [List.append_assoc, (skipSpace_fieldsText depth g fs _).1, hrest]
    rfl

theorem Legible.readsBack {room : Nat} {v : Json} (h : Legible room v) : ReadsBack room v := by
  -- an array or an object is read item by item, and each of these reads back by induction
  induction h with
  | null => exact fun depth fuel rest _ => rfl
  | bool b => cases b <;> exact fun depth fuel rest _ => rfl
  | str s =>
    intro depth fuel rest hfuel
    show readValue (fuel + 1) _ ('"' :: ((stringText s).tail ++ rest)) = _
    rw [readValue, readString_stringText _ _ hfuel]
    show Except.ok (Json.str (String.ofList s.toList), rest) = _
    rw [String.ofList_toList]
  | @arr room items h ih =>
    intro depth fuel rest hfuel
    cases items with
    | nil => rfl
    | cons v vs =>
      have hitems (w : Json) (hw : w ∈ v :: vs) : Legible room w ∧ ReadsBack room w :=
        ⟨h w hw, ih w hw⟩
      rw [print_arr_cons] at hfuel ⊢
      simp only [List.length_cons, List.length_append] at hfuel
      rw [List.cons_append, List.append_assoc, List.append_assoc, List.append_assoc]
      obtain ⟨hskip, hhead⟩ := skipSpace_itemsText (h v List.mem_cons_self) (depth + 1) vs
        (newLine depth ++ ([']'] ++ rest))
      rw [readValue_arr hskip hhead, List.singleton_append,
        readItems_itemsText (depth + 1) depth rest hitems (by omega)]
      rfl
  | @obj room fields names h ih =>
    intro depth fuel rest hfuel
    cases fields with
    | nil => rfl
    | cons f fs =>
      have hfields (g : String × Json) (hg : g ∈ f :: fs) : Legible room g.2 ∧ ReadsBack room g.2 :=
        ⟨h g hg, ih g hg⟩
      rw [print_obj_cons] at hfuel ⊢
      simp only [List.length_cons, List.length_append] at hfuel
      rw [List.cons_append, List.append_assoc, List.append_assoc, List.append_assoc]
      obtain ⟨hskip, hhead⟩ := skipSpace_fieldsText (depth + 1) f fs
        (newLine depth ++ (['}'] ++ rest))
      rw [readValue_obj hskip hhead, List.singleton_append,
        readFields_fieldsText (depth + 1) depth rest hfields (by omega)]
      show Except.ok (Json.obj (dedupFields (f :: fs)), rest) = _
      rw [dedupFields_of_nodup names]

/-- What was written for a value without numbers is read as that value. -/
theorem parse_document {v : Json} (h : Legible nestingLimit v) : parse v.document = .ok v := by
  obtain ⟨c, s, hprint, hc⟩ := h.print_eq_cons 0
  have hread := h.readsBack.readValue_print h 0 (2 * (v.print 0 ++ ['\n']).length + 2) ['\n']
    (by rw [List.length_append]; omega)
  have hskip : skipSpace (v.print 0 ++ ['\n']) = v.print 0 ++ ['\n'] := by
    rw [hprint]
    exact skipSpace_of_mem hc
  unfold parse document
  rw [String.toList_ofList]
  dsimp only
  rw [hskip, hread]
  split
  · next heq =>
    split at heq
    -- no value starts with a mark
    · next hmark =>
      rw [hprint] at hmark
      cases hmark
      exact absurd hc (by decide)
    · cases heq
  · next heq =>
    split at heq
    · cases heq
    · cases heq
      rfl

end ExtTypes.Json
