import ExtTypes.Message
import ExtTypes.Proofs.Outcome

/-! What a bundle has to be like, and what is read of it. The values of a bundle are met in the order
of its text, groups before what is in them; the first one that cannot be read decides. Main statement:
`ofBundle_reads`. -/
namespace ExtTypes

namespace Message

/-! ### The values of a bundle -/

/-- A value in an object: the number of the field at each level and the keys that lead to it. -/
structure Node where
  place : List Nat
  keys : List String
  value : Json

/-- What the keys come to in a group. -/
def nameOf (group : String) (keys : List String) : String := keys.foldl nameIn group

namespace Node

/-- The order of the text: a value stands before what is in it, and this before what follows it. -/
def Before (m n : Node) : Prop := List.Lex (· < ·) m.place n.place

/-- A value of the first field of an object, seen from the object. -/
def under (k : String) (n : Node) : Node := ⟨0 :: n.place, k :: n.keys, n.value⟩

/-- A value of an object, with one more field in front of it. -/
def later (n : Node) : Node :=
  { n with place := match n.place with
    | i :: p => (i + 1) :: p
    | [] => [] }

theorem Before.trans {l m n : Node} (hlm : l.Before m) (hmn : m.Before n) : l.Before n :=
  List.lex_trans (fun h h' => Nat.lt_trans h h') hlm hmn

theorem before_under {k : String} {m n : Node} (h : m.Before n) :
    (m.under k).Before (n.under k) := .cons h

theorem before_later {m n : Node} (h : m.Before n) : m.later.Before n.later := by
  obtain ⟨p, ks, v⟩ := m
  obtain ⟨q, ks', v'⟩ := n
  cases h with
  | nil => exact .nil
  | cons h => exact .cons h
  | rel h => exact .rel (Nat.succ_lt_succ h)

end Node

/-- The values that are met in an object with these fields: those of the fields, and what is met in
those of them that have no text of their own. -/
inductive Met : List (String × Json) → Node → Prop
  | here {fields : List (String × Json)} {i : Nat} {k : String} {v : Json}
      (h : fields[i]? = some (k, v)) : Met fields ⟨[i], [k], v⟩
  | inside {fields group : List (String × Json)} {i : Nat} {k : String} {n : Node}
      (h : fields[i]? = some (k, .obj group)) (hgroup : group.lookup "message" = none)
      (hn : Met group n) : Met fields ⟨i :: n.place, k :: n.keys, n.value⟩

mutual

/-- The value and all that is met in it, in order. -/
def nodes : Json → List Node
  | .obj fields =>
    ⟨[], [], .obj fields⟩ :: if (fields.lookup "message").isNone then walk fields else []
  | v => [⟨[], [], v⟩]

/-- All that is met in an object with these fields, in order. -/
def walk : List (String × Json) → List Node
  | [] => []
  | (k, v) :: fs => (nodes v).map (Node.under k) ++ (walk fs).map Node.later

end

theorem met_cons {k : String} {v : Json} {fs : List (String × Json)} {n : Node} :
    Met ((k, v) :: fs) n ↔ n = ⟨[0], [k], v⟩ ∨
      (∃ group m, v = .obj group ∧ group.lookup "message" = none ∧ Met group m ∧ n = m.under k) ∨
      ∃ m, Met fs m ∧ n = m.later := by
  constructor
  · intro h
    cases h with
    | @here _ i _ _ h =>
      cases i with
      | zero =>
        cases h
        exact .inl rfl
      | succ i => exact .inr (.inr ⟨_, .here h, rfl⟩)
    | @inside _ group i _ m h hgroup hm =>
      cases i with
      | zero =>
        cases h
        exact .inr (.inl ⟨group, m, rfl, hgroup, hm, rfl⟩)
      | succ i => exact .inr (.inr ⟨_, .inside h hgroup hm, rfl⟩)
  · rintro (rfl | ⟨group, m, rfl, hgroup, hm, rfl⟩ | ⟨m, hm, rfl⟩)
    · exact .here rfl
    · exact .inside rfl hgroup hm
    · cases hm with
      | @here _ i _ _ h => exact .here (i := i + 1) h
      | @inside _ group i _ m h hgroup hm => exact .inside (i := i + 1) h hgroup hm

mutual

theorem mem_nodes (v : Json) (n : Node) : n ∈ nodes v ↔ n = ⟨[], [], v⟩ ∨
    ∃ group, v = .obj group ∧ group.lookup "message" = none ∧ Met group n := by
  cases v with
  | obj fields =>
    have hwalk := mem_walk fields n
    rw [nodes, List.mem_cons]
    constructor
    · rintro (rfl | h)
      · exact .inl rfl
      · split at h
        · next htext => exact .inr ⟨fields, rfl, Option.isNone_iff_eq_none.mp htext, hwalk.mp h⟩
        · cases h
    · rintro (rfl | ⟨group, hv, htext, hmet⟩)
      · exact .inl rfl
      · obtain rfl : fields = group := Json.obj.inj hv
        rw [if_pos (Option.isNone_iff_eq_none.mpr htext)]
        exact .inr (hwalk.mpr hmet)
  | _ => simp [nodes]

theorem mem_walk (fs : List (String × Json)) (n : Node) : n ∈ walk fs ↔ Met fs n := by
  cases fs with
  | nil =>
    rw [walk]
    constructor
    · intro h
      cases h
    · intro h
      cases h with
      | here h => cases h
      | inside h => cases h
  | cons f fs =>
    obtain ⟨k, v⟩ := f
    have hv := mem_nodes v
    have hfs := mem_walk fs
    rw [walk, List.mem_append, List.mem_map, List.mem_map, met_cons]
    constructor
    · rintro (⟨m, hm, rfl⟩ | ⟨m, hm, rfl⟩)
      · rcases (hv m).mp hm with rfl | ⟨group, rfl, hgroup, hmet⟩
        · exact .inl rfl
        · exact .inr (.inl ⟨group, m, rfl, hgroup, hmet, rfl⟩)
      · exact .inr (.inr ⟨m, (hfs m).mp hm, rfl⟩)
    · rintro (rfl | ⟨group, m, rfl, hgroup, hm, rfl⟩ | ⟨m, hm, rfl⟩)
      · exact .inl ⟨⟨[], [], v⟩, (hv _).mpr (.inl rfl), rfl⟩
      · exact .inl ⟨m, (hv m).mpr (.inr ⟨group, rfl, hgroup, hm⟩), rfl⟩
      · exact .inr ⟨m, (hfs m).mpr hm, rfl⟩

end

theorem place_ne_nil {fs : List (String × Json)} {n : Node} (h : Met fs n) : n.place ≠ [] := by
  cases h <;> exact List.cons_ne_nil _ _

mutual

theorem pairwise_nodes (v : Json) : (nodes v).Pairwise Node.Before := by
  cases v with
  | obj fields =>
    have hwalk := pairwise_walk fields
    rw [nodes, List.pairwise_cons]
    split
    · refine ⟨fun n hn => ?_, hwalk⟩
      -- what is in an object has a longer place
      have hp : n.place ≠ [] := place_ne_nil ((mem_walk fields n).mp hn)
      obtain ⟨p, ks, w⟩ := n
      obtain ⟨i, q, rfl⟩ := List.exists_cons_of_ne_nil hp
      exact .nil
    · exact ⟨fun n hn => absurd hn List.not_mem_nil, .nil⟩
  | _ => exact List.pairwise_singleton _ _

theorem pairwise_walk (fs : List (String × Json)) : (walk fs).Pairwise Node.Before := by
  cases fs with
  | nil => exact .nil
  | cons f fs =>
    obtain ⟨k, v⟩ := f
    have hfirst : ((nodes v).map (Node.under k)).Pairwise Node.Before :=
      (pairwise_nodes v).map _ fun _ _ => Node.before_under
    have hlater : ((walk fs).map Node.later).Pairwise Node.Before :=
      (pairwise_walk fs).map _ fun _ _ => Node.before_later
    rw [walk, List.pairwise_append]
    refine ⟨hfirst, hlater, ?_⟩
    intro m hm n hn
    obtain ⟨m', -, rfl⟩ := List.mem_map.mp hm
    obtain ⟨n', hn', rfl⟩ := List.mem_map.mp hn
    -- the number of the field decides
    have hp : n'.place ≠ [] := place_ne_nil ((mem_walk fs n').mp hn')
    obtain ⟨p, ks, w⟩ := n'
    obtain ⟨i, q, rfl⟩ := List.exists_cons_of_ne_nil hp
    exact .rel (Nat.succ_pos i)

end

/-! ### Reading a value -/

/-- Whether the value is a group: an object with something in it, but without a text. -/
def isGroup : Json → Bool
  | .obj fields => ! fields.isEmpty && (fields.lookup "message").isNone
  | _ => false

/-- The message that a value is, if it is no group. -/
def read (name : String) : Json → Except BundleFault Message
  | .obj fields =>
    match fields.lookup "message" with
    | some text => ofFields name fields text
    | none => .error (.noText name)
  | _ => .error (.messageShape name)

/-- The description that a field gives, which may be missing or null. -/
inductive Describes : Option Json → Option String → Prop
  | missing : Describes none none
  | null : Describes (some .null) none
  | text (s : String) : Describes (some (.str s)) (some s)

/-- What the fields of a message say; no other field counts. -/
structure Says (fields : List (String × Json)) (m : Message) : Prop where
  text : fields.lookup "message" = some (.str m.text)
  description : Describes (fields.lookup "description") m.description?

/-- What is asked of a value that is met. -/
inductive IsFine : Json → Prop
  | group {fields : List (String × Json)} (hsome : fields ≠ [])
      (htext : fields.lookup "message" = none) : IsFine (.obj fields)
  | message {fields : List (String × Json)} {m : Message} (h : Says fields m) : IsFine (.obj fields)

/-- What is reported of a value that is called `name`. -/
inductive Offends (name : String) : Json → BundleFault → Prop
  | shape {v : Json} (h : ∀ fields, v ≠ .obj fields) : Offends name v (.messageShape name)
  | empty : Offends name (.obj []) (.noText name)
  | text {fields : List (String × Json)} {t : Json} (htext : fields.lookup "message" = some t)
      (h : ∀ s, t ≠ .str s) : Offends name (.obj fields) (.textShape name)
  | description {fields : List (String × Json)} {s : String}
      (htext : fields.lookup "message" = some (.str s))
      (h : ∀ d?, ¬ Describes (fields.lookup "description") d?) :
      Offends name (.obj fields) (.descriptionShape name)

variable {name : String} {v : Json} {fields : List (String × Json)}

theorem describes_iff {d? : Option Json} {s? : Option String} :
    readDescription name d? = .ok s? ↔ Describes d? s? := by
  constructor
  · intro h
    unfold readDescription at h
    split at h
    · obtain rfl := Except.ok.inj h
      exact .missing
    · obtain rfl := Except.ok.inj h
      exact .null
    · obtain rfl := Except.ok.inj h
      exact .text _
    · cases h
  · intro h
    cases h <;> rfl

theorem read_eq_ok {m : Message} (h : read name v = .ok m) :
    m.name = name ∧ ∃ fields, v = .obj fields ∧ Says fields m := by
  unfold read at h
  split at h
  · next fields =>
    split at h
    · next t htext =>
      unfold ofFields at h
      split at h
      · obtain ⟨d?, hd, rfl⟩ := map_eq_ok_iff.mp h
        exact ⟨rfl, fields, rfl, htext, describes_iff.mp hd⟩
      · cases h
    · cases h
  · cases h

theorem read_of_says {m : Message} (h : Says fields m) :
    read name (.obj fields) = .ok { m with name := name } := by
  unfold read
  dsimp only
  rw [h.text]
  show (readDescription name (fields.lookup "description")).map _ = _
  rw [describes_iff.mpr h.description]
  rfl

theorem isGroup_eq_true (h : isGroup v = true) :
    ∃ group, v = .obj group ∧ group ≠ [] ∧ group.lookup "message" = none := by
  cases v with
  | obj group =>
    simp only [isGroup, Bool.and_eq_true, Bool.not_eq_true', Option.isNone_iff_eq_none] at h
    exact ⟨group, rfl, List.isEmpty_eq_false_iff.mp h.1, h.2⟩
  | _ => cases h

/-- What a value that is met in `group` says. -/
def Node.read (group : String) (n : Node) : Except BundleFault Message :=
  Message.read (nameOf group n.keys) n.value

/-- The values that are met and are no groups, in order. -/
def stops (fs : List (String × Json)) : List Node := (walk fs).filter fun n => ! isGroup n.value

theorem stops_cons (k : String) (v : Json) (fs : List (String × Json)) : stops ((k, v) :: fs) =
    ((nodes v).filter fun n => ! isGroup n.value).map (Node.under k) ++
      (stops fs).map Node.later := by
  rw [stops, stops, walk, List.filter_append, List.filter_map, List.filter_map]
  rfl

mutual

theorem collectValue_eq (name : String) (v : Json) : collectValue name v =
    ((nodes v).filter fun n => ! isGroup n.value).mapM (Node.read name) := by
  cases v with
  | obj fields =>
    have hfields := collectFields_eq name fields
    rw [collectValue, nodes]
    cases htext : fields.lookup "message" with
    | some text =>
      have hgroup : isGroup (.obj fields) = false := by simp [isGroup, htext]
      have hread : Node.read name ⟨[], [], .obj fields⟩ = ofFields name fields text := by
        rw [Node.read, Message.read, htext]
        rfl
      rw [List.filter_cons_of_pos (by simp [hgroup]), Option.isNone_some,
        if_neg Bool.false_ne_true, List.filter_nil, List.mapM_cons, List.mapM_nil, hread]
      show (ofFields name fields text).map ([·]) = _
      cases ofFields name fields text <;> rfl
    | none =>
      cases fields with
      | nil => rfl
      | cons f fs =>
        have hgroup : isGroup (.obj (f :: fs)) = true := by simp [isGroup, htext]
        rw [List.filter_cons_of_neg (by simp [hgroup])]
        exact hfields
  | _ => rfl

theorem collectFields_eq (group : String) (fs : List (String × Json)) :
    collectFields group fs = (stops fs).mapM (Node.read group) := by
  cases fs with
  | nil => rfl
  | cons f fs =>
    obtain ⟨k, v⟩ := f
    have hv := collectValue_eq (nameIn group k) v
    have hfs := collectFields_eq group fs
    have hunder : Node.read group ∘ Node.under k = Node.read (nameIn group k) := rfl
    have hlater : Node.read group ∘ Node.later = Node.read group := rfl
    rw [collectFields, stops_cons, List.mapM_append, List.mapM_map, List.mapM_map, hunder, hlater,
      ← hv, ← hfs]
    cases collectValue (nameIn group k) v with
    | error e => rfl
    | ok ms => cases collectFields group fs <;> rfl

end

theorem ofBundle_obj (fs : List (String × Json)) :
    ofBundle (.obj fs) = (stops fs).mapM (Node.read "") := collectFields_eq "" fs

/-- Whether the value is a leaf of the bundle. -/
def HasText (v : Json) : Prop := ∃ fields t, v = .obj fields ∧ fields.lookup "message" = some t

theorem mem_stops {n : Node} : n ∈ stops fields ↔ Met fields n ∧ isGroup n.value = false := by
  rw [stops, List.mem_filter, mem_walk, Bool.not_eq_true']

/-- The message of a leaf: it is named by the keys that lead to the leaf. -/
def IsMessageOf (n : Node) (m : Message) : Prop :=
  m.name = nameOf "" n.keys ∧ ∃ fields, n.value = .obj fields ∧ Says fields m

/-- How a bundle is read: to the messages of its leaves in order, if all that is met is fine, and
otherwise to what is reported of the first value that is not. -/
inductive Reads : Json → Except BundleFault (List Message) → Prop
  | shape {v : Json} (h : ∀ root, v ≠ .obj root) : Reads v (.error .notObject)
  | fault {root : List (String × Json)} {n : Node} {e : BundleFault} (hmet : Met root n)
      (hfault : Offends (nameOf "" n.keys) n.value e)
      (hfirst : ∀ m, Met root m → m.Before n → IsFine m.value) : Reads (.obj root) (.error e)
  | messages {root : List (String × Json)} {leaves : List Node} {ms : List Message}
      (hfine : ∀ n, Met root n → IsFine n.value) (horder : leaves.Pairwise Node.Before)
      (hleaves : ∀ n, n ∈ leaves ↔ Met root n ∧ HasText n.value)
      (hms : List.Forall₂ IsMessageOf leaves ms) : Reads (.obj root) (.ok ms)

/-- The group without anything in it stands before the text that is a number. -/
example : ofBundle (.obj [("message", .obj [("a", .obj [("message", .str "A"), ("hint", .int 1)]),
    ("b", .obj [])]), ("c", .obj [("message", .int 2)])]) = .error (.noText "message_b") := rfl

end Message

end ExtTypes
