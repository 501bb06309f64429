import ExtTypes.Path.Location

/-! Trees of directories and files. A place in a tree is changed through `alter`, which is told what
is there so far and says what is there from then on. Main statements: `find?_alter_self` and
`node_find?_alter`, what a change shows at its own place and at all places that are not below it. -/
namespace ExtTypes

/-- What stands at a place. -/
inductive Node
  | dir
  | file (bytes : ByteArray)

instance : DecidableEq Node
  | .dir, .dir => isTrue rfl
  | .file a, .file b =>
    if h : a.data = b.data then isTrue (congrArg Node.file (ByteArray.ext h))
    else isFalse fun e => h (congrArg ByteArray.data (Node.file.inj e))
  | .dir, .file _ => isFalse nofun
  | .file _, .dir => isFalse nofun

/-- A file, or a directory with all that is in it. The order of its entries is that of a listing. -/
inductive Tree
  | file (bytes : ByteArray)
  | dir (entries : List (Name × Tree))

namespace Tree

def node : Tree → Node
  | file b => .file b
  | dir _ => .dir

/-- The tree with a name among the entries of a directory. -/
def named? (n : Name) : List (Name × Tree) → Option Tree
  | [] => none
  | e :: es => if e.1 = n then some e.2 else named? n es

/-- What has a name in a directory; nothing is in a file. -/
def child? (n : Name) : Tree → Option Tree
  | file _ => none
  | dir es => named? n es

/-- The names in a directory. -/
def names : Tree → List Name
  | file _ => []
  | dir es => es.map Prod.fst

/-- The tree at a place. -/
def at? : Location → Tree → Option Tree
  | [], t => some t
  | n :: l, t => (t.child? n).bind (at? l)

mutual

/-- All places in a tree but its own, a directory before what is in it. -/
def places : Tree → List (Location × Node)
  | file _ => []
  | dir es => placesIn es

def placesIn : List (Name × Tree) → List (Location × Node)
  | [] => []
  | (n, t) :: es => ([n], t.node) :: (places t).map (fun e => (n :: e.1, e.2)) ++ placesIn es

end

/-- In every directory the names are different. -/
inductive IsProper : Tree → Prop
  | file (b : ByteArray) : IsProper (file b)
  | dir (es : List (Name × Tree)) (names : (es.map Prod.fst).Nodup)
      (entries : ∀ e ∈ es, IsProper e.2) : IsProper (dir es)

/-- A change of what may be at a place. -/
abbrev Change := Option Tree → Option Tree

/-- Changes the entry with a name. -/
def alterEntry (f : Change) (n : Name) : List (Name × Tree) → List (Name × Tree)
  | [] => (f none).toList.map fun t => (n, t)
  | e :: es =>
    if e.1 = n then ((f (some e.2)).toList.map fun t => (n, t)) ++ es else e :: alterEntry f n es

/-- Changes what is at a place. There is nothing to change at a place that is in no directory. -/
def alter (f : Change) : Location → Change
  | [], t => f t
  | n :: l, some (dir es) => some (dir (alterEntry (alter f l) n es))
  | _ :: _, t => t

theorem mem_names_alterEntry {f : Change} {n m : Name} {es : List (Name × Tree)}
    (h : m ∈ (alterEntry f n es).map Prod.fst) : m = n ∨ m ∈ es.map Prod.fst := by
  induction es with
  | nil => cases hf : f none <;> simp_all [alterEntry]
  | cons e es ih =>
    by_cases he : e.1 = n
    · cases hf : f (some e.2) <;> simp_all [alterEntry]
    · simp only [alterEntry, he, if_false, List.map_cons, List.mem_cons] at h ⊢
      rcases h with rfl | h
      · exact .inr (.inl rfl)
      · exact (ih h).imp id .inr

theorem nodup_alterEntry {f : Change} {n : Name} {es : List (Name × Tree)}
    (h : (es.map Prod.fst).Nodup) : ((alterEntry f n es).map Prod.fst).Nodup := by
  induction es with
  | nil => cases hf : f none <;> simp [alterEntry, hf]
  | cons e es ih =>
    obtain ⟨hn, hes⟩ := List.nodup_cons.mp h
    by_cases he : e.1 = n
    · subst he
      cases hf : f (some e.2) <;> simp_all [alterEntry]
    · simp only [alterEntry, he, if_false, List.map_cons]
      refine List.nodup_cons.mpr ⟨fun hm => ?_, ih hes⟩
      rcases mem_names_alterEntry hm with hm | hm
      · exact he hm
      · exact hn hm

theorem named?_alterEntry_of_ne {f : Change} {n m : Name} (h : m ≠ n) (es : List (Name × Tree)) :
    named? m (alterEntry f n es) = named? m es := by
  induction es with
  | nil => cases hf : f none <;> simp [alterEntry, named?, hf, Ne.symm h]
  | cons e es ih =>
    by_cases he : e.1 = n
    · cases hf : f (some e.2) <;> simp [alterEntry, named?, he, hf, Ne.symm h]
    · simp [alterEntry, named?, he, ih]

theorem mem_of_named? {n : Name} {t : Tree} {es : List (Name × Tree)} (h : named? n es = some t) :
    (n, t) ∈ es := by
  induction es with
  | nil => simp [named?] at h
  | cons e es ih =>
    by_cases he : e.1 = n
    · have : e.2 = t := by simpa [named?, he] using h
      exact List.mem_cons.mpr (.inl (by rw [← he, ← this]))
    · exact List.mem_cons_of_mem _ (ih (by simpa [named?, he] using h))

theorem named?_eq_none {n : Name} {es : List (Name × Tree)} (h : n ∉ es.map Prod.fst) :
    named? n es = none := by
  induction es with
  | nil => rfl
  | cons e es ih =>
    simp only [List.map_cons, List.mem_cons, not_or] at h
    simp [named?, Ne.symm h.1, ih h.2]

theorem named?_alterEntry_self {f : Change} {n : Name} {es : List (Name × Tree)}
    (h : (es.map Prod.fst).Nodup) : named? n (alterEntry f n es) = f (named? n es) := by
  induction es with
  | nil => cases hf : f none <;> simp [alterEntry, named?, hf]
  | cons e es ih =>
    obtain ⟨hn, hes⟩ := List.nodup_cons.mp h
    by_cases he : e.1 = n
    · have hn : n ∉ es.map Prod.fst := he ▸ hn
      cases hf : f (some e.2) <;> simp [alterEntry, named?, he, hf, named?_eq_none hn]
    · simp [alterEntry, named?, he, ih hes]

/-- An entry after a change is one from before, or what became of the changed one. -/
theorem mem_alterEntry {f : Change} {n : Name} {es : List (Name × Tree)} {e : Name × Tree}
    (h : e ∈ alterEntry f n es) :
    e ∈ es ∨ ∃ t? : Option Tree, (∀ t ∈ t?, (n, t) ∈ es) ∧ f t? = some e.2 := by
  induction es with
  | nil =>
    refine .inr ⟨none, by simp, ?_⟩
    cases hf : f none <;> simp_all [alterEntry]
  | cons d es ih =>
    by_cases hd : d.1 = n
    · simp only [alterEntry, hd, if_true, List.mem_append, List.mem_map, Option.mem_toList] at h
      rcases h with ⟨t, ht, rfl⟩ | h
      · exact .inr ⟨some d.2, by simp [← hd], ht⟩
      · exact .inl (List.mem_cons_of_mem _ h)
    · simp only [alterEntry, hd, if_false, List.mem_cons] at h
      rcases h with rfl | h
      · exact .inl List.mem_cons_self
      · rcases ih h with h | ⟨t?, ht, hf⟩
        · exact .inl (List.mem_cons_of_mem _ h)
        · exact .inr ⟨t?, fun t hm => List.mem_cons_of_mem _ (ht t hm), hf⟩

theorem IsProper.nodup {es : List (Name × Tree)} (h : (Tree.dir es).IsProper) :
    (es.map Prod.fst).Nodup := by
  cases h; assumption

theorem IsProper.of_mem {es : List (Name × Tree)} (h : (Tree.dir es).IsProper) {e : Name × Tree}
    (he : e ∈ es) : e.2.IsProper := by
  cases h with
  | dir _ _ hes => exact hes e he

/-- Whether a change leaves proper trees proper. -/
def Change.IsProper (f : Change) : Prop :=
  ∀ t? : Option Tree, (∀ t ∈ t?, t.IsProper) → ∀ t ∈ f t?, t.IsProper

theorem isProper_alterEntry {f : Change} (hf : f.IsProper) {n : Name} {es : List (Name × Tree)}
    (h : IsProper (dir es)) : IsProper (dir (alterEntry f n es)) := by
  refine .dir _ (nodup_alterEntry h.nodup) fun e he => ?_
  rcases mem_alterEntry he with he | ⟨t?, ht, hft⟩
  · exact h.of_mem he
  · exact hf t? (fun t hm => h.of_mem (ht t hm)) e.2 hft

theorem isProper_alter {f : Change} (hf : f.IsProper) (l : Location) : (alter f l).IsProper := by
  induction l with
  | nil => exact hf
  | cons n l ih =>
    intro t? ht t hmem
    match t? with
    | none => simp [alter] at hmem
    | some (file b) => exact ht t hmem
    | some (dir es) =>
      simp only [alter, Option.mem_def, Option.some.injEq] at hmem
      subst hmem
      exact isProper_alterEntry ih (ht _ rfl)

/-- The tree at a place of a tree that may not be there. -/
def find? (t? : Option Tree) (l : Location) : Option Tree := t?.bind (at? l)

@[simp] theorem find?_none (l : Location) : find? none l = none := rfl

@[simp] theorem find?_nil (t? : Option Tree) : find? t? [] = t? := by
  cases t? <;> rfl

@[simp] theorem find?_dir_cons (es : List (Name × Tree)) (n : Name) (l : Location) :
    find? (some (dir es)) (n :: l) = find? (named? n es) l := rfl

@[simp] theorem find?_file_cons (b : ByteArray) (n : Name) (l : Location) :
    find? (some (file b)) (n :: l) = none := rfl

theorem find?_append (t? : Option Tree) (l r : Location) :
    find? t? (l ++ r) = find? (find? t? l) r := by
  induction l generalizing t? with
  | nil => simp
  | cons n l ih =>
    match t? with
    | none => rfl
    | some (file b) => rfl
    | some (dir es) => simpa using ih (named? n es)

/-- A change of a place in a directory shows at the place. -/
theorem find?_alter_self {f : Change} {l : Location} {t? : Option Tree}
    (ht : ∀ t ∈ t?, t.IsProper)
    (hl : l = [] ∨ ∃ es, find? t? l.dropLast = some (dir es)) :
    find? (alter f l t?) l = f (find? t? l) := by
  induction l generalizing t? with
  | nil => simp [alter]
  | cons n l ih =>
    obtain ⟨es, hes⟩ := hl.resolve_left (List.cons_ne_nil _ _)
    match t? with
    | none => simp at hes
    | some (file b) => cases l <;> simp at hes
    | some (dir ds) =>
      have hp := ht _ rfl
      simp only [alter, find?_dir_cons, named?_alterEntry_self hp.nodup]
      refine ih (fun t hm => ?_) ?_
      · exact hp.of_mem (mem_of_named? hm)
      · cases l with
        | nil => exact .inl rfl
        | cons m l => exact .inr ⟨es, by simpa using hes⟩

/-- A change of a place shows nowhere but there and below it. -/
theorem node_find?_alter {f : Change} {l l' : Location} {t? : Option Tree}
    (ht : ∀ t ∈ t?, t.IsProper) (h : ¬ l <+: l') :
    (find? (alter f l t?) l').map node = (find? t? l').map node := by
  induction l generalizing t? l' with
  | nil => exact absurd List.nil_prefix h
  | cons n l ih =>
    match t?, l' with
    | none, _ => rfl
    | some (file b), _ => rfl
    | some (dir ds), [] => rfl
    | some (dir ds), m :: l' =>
      have hp := ht _ rfl
      by_cases hm : m = n
      · subst hm
        simp only [alter, find?_dir_cons, named?_alterEntry_self hp.nodup]
        exact ih (fun t hm => hp.of_mem (mem_of_named? hm)) fun hl => h (by simpa using hl)
      · simp [alter, named?_alterEntry_of_ne hm]

theorem named?_of_mem {es : List (Name × Tree)} (h : (es.map Prod.fst).Nodup) {e : Name × Tree}
    (he : e ∈ es) : named? e.1 es = some e.2 := by
  induction es with
  | nil => cases he
  | cons d es ih =>
    obtain ⟨hd, hes⟩ := List.nodup_cons.mp h
    rcases List.mem_cons.mp he with rfl | he
    · simp [named?]
    · have : d.1 ≠ e.1 := fun hde => hd (hde ▸ List.mem_map_of_mem he)
      simp [named?, this, ih hes he]

theorem mem_placesIn {es : List (Name × Tree)} {l : Location} {k : Node} :
    (l, k) ∈ placesIn es ↔
      ∃ e ∈ es, l = [e.1] ∧ k = e.2.node ∨ ∃ r, l = e.1 :: r ∧ (r, k) ∈ e.2.places := by
  induction es with
  | nil => simp [placesIn]
  | cons e es ih =>
    simp only [placesIn, List.cons_append, List.mem_cons, List.mem_append, List.mem_map, ih,
      Prod.mk.injEq, Prod.exists]
    grind

/-- The places in a tree are those where something stands. -/
theorem mem_places {t : Tree} (h : t.IsProper) {l : Location} {k : Node} :
    (l, k) ∈ t.places ↔ l ≠ [] ∧ (find? (some t) l).map node = some k := by
  induction h generalizing l with
  | file b => cases l <;> simp [places]
  | dir es hn hes ih =>
    rw [places, mem_placesIn]
    constructor
    · rintro ⟨e, he, ⟨rfl, rfl⟩ | ⟨r, rfl, hr⟩⟩
      · simp [named?_of_mem hn he]
      · simpa [named?_of_mem hn he] using ((ih e he).mp hr).2
    · rintro ⟨hl, hk⟩
      cases l with
      | nil => exact absurd rfl hl
      | cons n r =>
        rw [find?_dir_cons] at hk
        match hm : named? n es with
        | none => simp [hm] at hk
        | some t =>
          have he := mem_of_named? hm
          rw [hm] at hk
          refine ⟨(n, t), he, ?_⟩
          cases r with
          | nil => exact .inl ⟨rfl, by simpa using hk.symm⟩
          | cons m r => exact .inr ⟨_, rfl, (ih _ he).mpr ⟨List.cons_ne_nil m r, hk⟩⟩

theorem isProper_find? {t? : Option Tree} (ht : ∀ t ∈ t?, t.IsProper) {l : Location} {s : Tree}
    (hs : find? t? l = some s) : s.IsProper := by
  induction l generalizing t? with
  | nil => exact ht s (by simpa using hs)
  | cons n l ih =>
    match t? with
    | none => cases hs
    | some (file b) => cases hs
    | some (dir es) =>
      exact ih (fun t hm => (ht _ rfl).of_mem (mem_of_named? hm)) (by simpa using hs)

end Tree

end ExtTypes
