import ExtTypes.Proofs.Message.Walk

/-! How messages are named. What stands in a group takes the name of the group in front, and a bundle
that is put in a group as a whole keeps its names behind that of the group. A group without a name
leaves no trace, so that it is taken for the root. Main statement: `ofBundle_group`. -/
namespace ExtTypes.Message

/-! ### Names -/

theorem nameIn_of_ne {group : String} (h : group ≠ "") (key : String) :
    nameIn group key = group ++ "_" ++ key := if_neg h

theorem append_underscore_ne (group key : String) : group ++ "_" ++ key ≠ "" := by
  intro h
  have hlength := congrArg String.length h
  simp [String.length_append] at hlength

theorem nameOf_concat (group : String) (keys : List String) (key : String) :
    nameOf group (keys ++ [key]) = nameIn (nameOf group keys) key := by
  rw [nameOf, List.foldl_append]
  rfl

theorem nameOf_ne_empty {group : String} (h : group ≠ "") (keys : List String) :
    nameOf group keys ≠ "" := by
  induction keys generalizing group with
  | nil => exact h
  | cons key keys ih =>
    apply ih
    rw [nameIn_of_ne h]
    exact append_underscore_ne group key

/-- Only keys without a name come to no name. -/
theorem nameOf_eq_empty_iff (keys : List String) : nameOf "" keys = "" ↔ ∀ key ∈ keys, key = "" := by
  induction keys with
  | nil => simp [nameOf]
  | cons key keys ih =>
    have hroot : nameOf "" (key :: keys) = nameOf key keys := rfl
    rw [hroot, List.forall_mem_cons]
    by_cases hkey : key = ""
    · rw [hkey, ih]
      simp
    · simp [hkey, nameOf_ne_empty hkey keys]

/-- Keys are appended behind a name, whatever stands before it. -/
theorem nameOf_append (p : String) {key : String} (h : key ≠ "") (keys : List String) :
    nameOf (p ++ key) keys = p ++ nameOf key keys := by
  induction keys generalizing key with
  | nil => rfl
  | cons k keys ih =>
    have hp : p ++ key ≠ "" := fun he => h (String.append_eq_empty_iff.mp he).2
    have hassoc : p ++ key ++ "_" ++ k = p ++ (key ++ "_" ++ k) := by
      simp only [String.append_assoc]
    show nameOf (nameIn (p ++ key) k) keys = p ++ nameOf (nameIn key k) keys
    rw [nameIn_of_ne hp, nameIn_of_ne h, hassoc, ih (append_underscore_ne key k)]

/-- A name grows by a line for each key, and never by more. -/
theorem length_nameOf_le {p : String} (hp : p ≠ "") (q : String) (keys : List String) :
    (nameOf q keys).length + p.length ≤ (nameOf p keys).length + q.length := by
  induction keys generalizing p q with
  | nil => exact Nat.le_of_eq (Nat.add_comm _ _)
  | cons k keys ih =>
    have hrest := ih (append_underscore_ne p k) (nameIn q k)
    have hgrows : (nameIn q k).length ≤ q.length + 1 + k.length := by
      unfold nameIn
      split
      · omega
      · rw [String.length_append, String.length_append]
        exact Nat.le_refl _
    have hline : "_".length = 1 := rfl
    show (nameOf (nameIn q k) keys).length + p.length ≤
      (nameOf (nameIn p k) keys).length + q.length
    rw [nameIn_of_ne hp]
    rw [String.length_append, String.length_append, hline] at hrest
    omega

/-- In a group a name is the one at the root behind that of the group, unless the group has no name or
the keys go through one that has none. -/
theorem nameOf_group_iff (g k : String) (keys : List String) :
    nameOf g (k :: keys) = g ++ "_" ++ nameOf "" (k :: keys) ↔ g ≠ "" ∧ (k = "" → keys = []) := by
  have hline : "_".length = 1 := rfl
  have hroot : nameOf "" (k :: keys) = nameOf k keys := rfl
  rw [hroot]
  by_cases hg : g = ""
  · constructor
    · intro h
      rw [hg, hroot] at h
      have hlength := congrArg String.length h
      rw [String.length_append, String.length_append, hline] at hlength
      omega
    · intro h
      exact absurd hg h.1
  · have hgroup : nameOf g (k :: keys) = nameOf (g ++ "_" ++ k) keys := by
      show nameOf (nameIn g k) keys = _
      rw [nameIn_of_ne hg]
    rw [hgroup]
    by_cases hk : k = ""
    · cases keys with
      | nil => simp [nameOf, hg]
      | cons k' keys =>
        constructor
        · intro h
          have hne := append_underscore_ne (g ++ "_" ++ k) k'
          -- one line more is written for the key without a name
          have hle := length_nameOf_le hne k' keys
          have hleft : nameOf (g ++ "_" ++ k) (k' :: keys) =
              nameOf (g ++ "_" ++ k ++ "_" ++ k') keys := by
            show nameOf (nameIn (g ++ "_" ++ k) k') keys = _
            rw [nameIn_of_ne (append_underscore_ne g k)]
          have hright : nameOf k (k' :: keys) = nameOf k' keys := by
            rw [hk]
            rfl
          rw [hleft, hright] at h
          have hlength := congrArg String.length h
          simp only [String.length_append, hline] at hlength hle
          omega
        · intro h
          cases h.2 hk
    -- a key with a name is followed by the same whatever stands before it
    · rw [nameOf_append (g ++ "_") hk keys]
      simp [hg, hk]

/-! ### A bundle in a group -/

/-- The message as it is named in a group. -/
def inGroup (g : String) (m : Message) : Message := { m with name := g ++ "_" ++ m.name }

variable {g : String} {fields : List (String × Json)}

theorem ofBundle_single (hsome : fields ≠ []) (htext : fields.lookup "message" = none) :
    ofBundle (.obj [(g, .obj fields)]) = (stops fields).mapM (Node.read g) := by
  have hroot : nameIn "" g = g := if_pos rfl
  have hvalue : collectValue g (.obj fields) = collectFields g fields := by
    rw [collectValue, htext]
    dsimp only
    rw [List.isEmpty_eq_false_iff.mpr hsome, if_neg Bool.false_ne_true]
  rw [ofBundle, collectFields, hroot, hvalue, collectFields_eq]
  cases (stops fields).mapM (Node.read g) with
  | error e => rfl
  | ok ms =>
    show (collectFields "" []).map _ = _
    rw [collectFields, Except.map, List.append_nil]

theorem read_rename {group group' : String} {n : Node} {m : Message} (h : n.read group = .ok m) :
    n.read group' = .ok { m with name := nameOf group' n.keys } := by
  obtain ⟨-, fields, hv, hread⟩ := read_eq_ok h
  rw [Node.read, hv]
  exact read_of_says hread

theorem exists_mapM_rename {group group' : String} {ns : List Node} {ms : List Message}
    (h : ns.mapM (Node.read group) = .ok ms) : ∃ ms', ns.mapM (Node.read group') = .ok ms' := by
  have hread := mapM_eq_ok_iff.mp h
  clear h
  induction hread with
  | nil => exact ⟨[], rfl⟩
  | cons hn _ ih =>
    obtain ⟨ms', hms'⟩ := ih
    exact ⟨_, mapM_eq_ok_iff.mpr (.cons (read_rename hn) (mapM_eq_ok_iff.mp hms'))⟩

theorem map_name_eq {group : String} {ns : List Node} {ms : List Message}
    (h : ns.mapM (Node.read group) = .ok ms) :
    ms.map (·.name) = ns.map fun n => nameOf group n.keys := by
  have hread := mapM_eq_ok_iff.mp h
  clear h
  induction hread with
  | nil => rfl
  | cons hn _ ih => rw [List.map_cons, List.map_cons, ih, (read_eq_ok hn).1]

/-- The messages are those at the root, each in the group, if this is so for the names. -/
theorem mapM_inGroup_iff {ns : List Node} {ms : List Message}
    (h : ns.mapM (Node.read "") = .ok ms) :
    ns.mapM (Node.read g) = .ok (ms.map (inGroup g)) ↔
      ∀ n ∈ ns, nameOf g n.keys = g ++ "_" ++ nameOf "" n.keys := by
  rw [mapM_eq_ok_iff]
  have hread := mapM_eq_ok_iff.mp h
  clear h
  induction hread with
  | nil => simp
  | @cons n m ns ms hn _ ih =>
    have hname := (read_eq_ok hn).1
    have hgroup : n.read g = .ok (inGroup g m) ↔ nameOf g n.keys = g ++ "_" ++ nameOf "" n.keys := by
      rw [read_rename hn, Except.ok.injEq, inGroup, hname]
      simp
    rw [List.map_cons, List.forall₂_cons, List.forall_mem_cons]
    exact and_congr hgroup ih

theorem stops_inside {k : String} {group : List (String × Json)} {n : Node}
    (h : (k, .obj group) ∈ fields) (htext : group.lookup "message" = none) (hn : n ∈ stops group) :
    ∃ m ∈ stops fields, m.keys = k :: n.keys := by
  obtain ⟨i, hi⟩ := List.getElem?_of_mem h
  obtain ⟨hmet, hgroup⟩ := mem_stops.mp hn
  exact ⟨_, mem_stops.mpr ⟨.inside hi htext hmet, hgroup⟩, rfl⟩

theorem keys_ne_nil {n : Node} (h : n ∈ stops fields) : n.keys ≠ [] := by
  cases (mem_stops.mp h).1 <;> exact List.cons_ne_nil _ _

/-- The way down from a group ends somewhere. -/
theorem exists_stop (fs : List (String × Json)) (h : fs ≠ []) : ∃ n, n ∈ stops fs := by
  obtain ⟨⟨k, v⟩, rest, rfl⟩ := List.exists_cons_of_ne_nil h
  cases hv : isGroup v with
  | false => exact ⟨⟨[0], [k], v⟩, mem_stops.mpr ⟨.here rfl, hv⟩⟩
  | true =>
    obtain ⟨group, rfl, hsome, htext⟩ := isGroup_eq_true hv
    obtain ⟨n, hn⟩ := exists_stop group hsome
    have hmem : (k, Json.obj group) ∈ (k, Json.obj group) :: rest := List.mem_cons_self
    obtain ⟨m, hm, -⟩ := stops_inside hmem htext hn
    exact ⟨m, hm⟩
termination_by sizeOf fs

/-- All names in a bundle are put behind that of the group, unless the group or one of those in the
bundle has no name. -/
theorem forall_nameOf_group_iff (hsome : fields ≠ []) :
    (∀ n ∈ stops fields, nameOf g n.keys = g ++ "_" ++ nameOf "" n.keys) ↔
      g ≠ "" ∧ ∀ v, ("", v) ∈ fields → isGroup v = false := by
  constructor
  · intro h
    -- the law for a single name says which keys may be on the way
    have hstop {n : Node} (hn : n ∈ stops fields) {k : String} {keys : List String}
        (hkeys : n.keys = k :: keys) : g ≠ "" ∧ (k = "" → keys = []) := by
      have hname := h n hn
      rw [hkeys] at hname
      exact (nameOf_group_iff g k keys).mp hname
    constructor
    · obtain ⟨n, hn⟩ := exists_stop fields hsome
      obtain ⟨k, keys, hkeys⟩ := List.exists_cons_of_ne_nil (keys_ne_nil hn)
      exact (hstop hn hkeys).1
    · intro v hv
      cases hgroup : isGroup v with
      | false => rfl
      | true =>
        obtain ⟨group, rfl, hgroupSome, htext⟩ := isGroup_eq_true hgroup
        obtain ⟨n, hn⟩ := exists_stop group hgroupSome
        obtain ⟨m, hm, hkeys⟩ := stops_inside hv htext hn
        exact absurd ((hstop hm hkeys).2 rfl) (keys_ne_nil hn)
  · rintro ⟨hg, hnamed⟩ n hn
    cases (mem_stops.mp hn).1 with
    | here => exact (nameOf_group_iff g _ []).mpr ⟨hg, fun _ => rfl⟩
    | @inside _ group i k m hi htext hm =>
      refine (nameOf_group_iff g k m.keys).mpr ⟨hg, fun hk => ?_⟩
      have hmem : (k, .obj group) ∈ fields := List.mem_of_getElem? hi
      rw [hk] at hmem
      have hgroup : isGroup (.obj group) = true := by
        cases group with
        | nil => cases hm <;> contradiction
        | cons f fs => simp [isGroup, htext]
      rw [hnamed _ hmem] at hgroup
      cases hgroup

/-- A bundle in a group is accepted where it is accepted by itself. Its names are then those it has by
itself behind that of the group, unless the group or a group of the bundle has no name. At every depth
the name of what stands in a group is put behind that of the group, unless this is made of empty keys
only. -/
theorem ofBundle_group (g : String) {fields : List (String × Json)} (hsome : fields ≠ [])
    (htext : fields.lookup "message" = none) :
    ((∃ ms, ofBundle (.obj [(g, .obj fields)]) = .ok ms) ↔ ∃ ms, ofBundle (.obj fields) = .ok ms) ∧
    (∀ ms, ofBundle (.obj fields) = .ok ms →
      (ofBundle (.obj [(g, .obj fields)]) = .ok (ms.map (inGroup g)) ↔
        g ≠ "" ∧ ∀ v, ("", v) ∈ fields → isGroup v = false)) ∧
    (∀ ms, ofBundle (.obj fields) = .ok ms →
      ms.map (·.name) = (stops fields).map fun n => nameOf "" n.keys) ∧
    ∀ keys key, nameOf "" (keys ++ [key]) = nameOf "" keys ++ "_" ++ key ↔
      ∃ k ∈ keys, k ≠ "" := by
  rw [ofBundle_single hsome htext, ofBundle_obj]
  refine ⟨⟨?_, ?_⟩, ?_, ?_, ?_⟩
  · rintro ⟨ms, h⟩
    exact exists_mapM_rename h
  · rintro ⟨ms, h⟩
    exact exists_mapM_rename h
  · intro ms h
    rw [mapM_inGroup_iff h, forall_nameOf_group_iff hsome]
  · intro ms h
    exact map_name_eq h
  · intro keys key
    have hne : (∃ k ∈ keys, k ≠ "") ↔ nameOf "" keys ≠ "" := by
      rw [Ne, nameOf_eq_empty_iff]
      simp
    rw [nameOf_concat, hne]
    constructor
    · intro h hempty
      rw [hempty] at h
      have hlength := congrArg String.length h
      simp [nameIn, String.length_append] at hlength
    · intro h
      exact nameIn_of_ne h key

/-- A bundle with a group in it. -/
def menuFields : List (String × Json) :=
  [("title", .obj [("message", .str "Menu")]),
   ("item", .obj [("open", .obj [("message", .str "Open")])])]

theorem ofBundle_group_menu : ∃ ms, ofBundle (.obj menuFields) = .ok ms ∧
    ofBundle (.obj [("popup", .obj menuFields)]) = .ok (ms.map (inGroup "popup")) ∧
    ms.map (·.name) = ["title", "item_open"] := by
  have hsome : menuFields ≠ [] := List.cons_ne_nil _ _
  have hnamed : ∀ v, ("", v) ∈ menuFields → isGroup v = false := by simp [menuFields]
  obtain ⟨-, hgroup, -, -⟩ := ofBundle_group "popup" hsome rfl
  have hread : ofBundle (.obj menuFields) =
    .ok [⟨"title", "Menu", none⟩, ⟨"item_open", "Open", none⟩] := rfl
  exact ⟨_, hread, (hgroup _ hread).mpr ⟨by decide, hnamed⟩, rfl⟩

/-- In a group without a name the messages are named as if they stood at the root. -/
theorem ofBundle_nameless_group : ∃ fields ms, fields ≠ [] ∧ fields.lookup "message" = none ∧
    ofBundle (.obj fields) = .ok ms ∧
    ofBundle (.obj [("", .obj fields)]) ≠ .ok (ms.map (inGroup "")) := by
  refine ⟨[("a", .obj [("message", .str "A")])], [⟨"a", "A", none⟩], List.cons_ne_nil _ _, rfl, rfl,
    ?_⟩
  intro h
  have hread : ofBundle (.obj [("", .obj [("a", .obj [("message", .str "A")])])]) =
    .ok [⟨"a", "A", none⟩] := rfl
  rw [hread] at h
  exact absurd (Except.ok.inj h) (by decide)

end ExtTypes.Message
