import ExtTypes.Proofs.Action
import ExtTypes.Proofs.FileSystem.Write
import ExtTypes.Proofs.Outcome
import Mathlib.Data.List.Infix

/-! The log over a whole run, in which it is set up again and again and records are logged in
between. Main statements: `exists_openFile_iff`, when a log file can be opened, and `run_delivers`,
what has come to the console and to each file. -/
namespace ExtTypes.Log

/-! ### Taking handlers off -/

/-- Handlers are taken off one after the other until none is left. -/
theorem Sinks.reset_eq (s : Sinks) : s.reset = { s with handlers := [] } := by
  obtain ⟨least, hs⟩ := s
  unfold reset
  induction hs with
  | nil => rfl
  | cons h hs ih =>
    have hfirst : remove ⟨least, h :: hs⟩ h = ⟨least, hs⟩ := by
      rw [remove, List.erase_cons_head]
    rw [List.foldl_cons, hfirst]
    exact ih

/-! ### Opening a log file -/

section Opening

variable {fs fs' : FileSystem} {cwd l : Location} {p : Path}

theorem isAbsolute_absolutePath (cwd : Location) (p : Path) :
    (absolutePath cwd p).isAbsolute = true := by
  unfold absolutePath Path.isAbsolute
  split <;> rfl

theorem collapse_absolutePath (cwd : Location) (p : Path) :
    (absolutePath cwd p).collapse [] = p.collapse cwd := by
  rw [Path.collapse_of_isAbsolute (isAbsolute_absolutePath cwd p)]
  exact Location.foldl_step_names [] _

/-- The file at `l` has these bytes once it is open: it is new and empty if there was none. -/
def Opens (fs : FileSystem) (l : Location) (b : ByteArray) : Prop :=
  fs.node? l = some (.file b) ∨ fs.node? l = none ∧ b = .empty

theorem Opens.unique {b b' : ByteArray} (h : Opens fs l b) (h' : Opens fs l b') : b = b' := by
  rcases h with h | ⟨h, rfl⟩
  · rcases h' with h' | ⟨h', -⟩
    · rw [h] at h'
      cases h'
      rfl
    · simp [h] at h'
  · rcases h' with h' | ⟨-, rfl⟩
    · simp [h] at h'
    · rfl

/-- `fs'` is `fs` with the file at the path open for more text, and with no other change. -/
structure Opened (fs : FileSystem) (cwd : Location) (p : Path) (fs' : FileSystem) : Prop where
  hasNul : FileSystem.hasNul (absolutePath cwd p) = false
  locate : fs.locate [] (absolutePath cwd p) = .ok (p.collapse cwd)
  node? : ∃ b, Opens fs (p.collapse cwd) b ∧
    ∀ l, fs'.node? l = if l = p.collapse cwd then some (.file b) else fs.node? l

theorem opened_of_openFile (h : openFile fs cwd p = .ok (l, fs')) :
    l = p.collapse cwd ∧ Opened fs cwd p fs' := by
  have hcollapse := collapse_absolutePath cwd p
  have hstart : fs.node? ((absolutePath cwd p).start []) = some .dir :=
    FileSystem.node?_start_of_isAbsolute fs (isAbsolute_absolutePath cwd p)
  unfold openFile at h
  dsimp only at h
  split at h
  · next b hread =>
    obtain ⟨rfl, rfl⟩ := Prod.mk.inj (Except.ok.inj h)
    obtain ⟨hn, hlocate, hnode⟩ := FileSystem.read_eq_ok.mp hread
    rw [hcollapse] at hlocate hnode
    refine ⟨rfl, hn, hlocate, b, .inl hnode, fun l => ?_⟩
    split
    · next hl => rw [hl, hnode]
    · rfl
  · next hread =>
    split at h
    · next fs₁ hwrite =>
      obtain ⟨rfl, rfl⟩ := Prod.mk.inj (Except.ok.inj h)
      have hok := congrArg Prod.fst hwrite
      have hnodes := FileSystem.node?_write hstart hok
      obtain ⟨hn, hlocate, hdir⟩ := FileSystem.write_eq_ok_iff.mp hok
      rw [hwrite] at hnodes
      -- a file that is there could have been read
      have hnone : fs.node? ((absolutePath cwd p).collapse []) = none := by
        match hnode : fs.node? ((absolutePath cwd p).collapse []) with
        | none => rfl
        | some .dir => exact absurd hnode hdir
        | some (.file b) =>
          rw [FileSystem.read_eq_ok.mpr ⟨hn, hlocate, hnode⟩] at hread
          cases hread
      rw [hcollapse] at hlocate hnone hnodes
      exact ⟨rfl, hn, hlocate, .empty, .inr ⟨hnone, rfl⟩, hnodes⟩
    · cases h
  · cases h

/-- A log file can be opened where a file can be. -/
theorem exists_openFile_iff : (∃ r, openFile fs cwd p = .ok r) ↔
    FileSystem.hasNul (absolutePath cwd p) = false ∧
      fs.locate [] (absolutePath cwd p) = .ok (p.collapse cwd) ∧
      fs.node? (p.collapse cwd) ≠ some .dir := by
  have hcollapse := collapse_absolutePath cwd p
  constructor
  · rintro ⟨⟨l, fs'⟩, h⟩
    obtain ⟨-, hopened⟩ := opened_of_openFile h
    obtain ⟨b, hb, -⟩ := hopened.node?
    refine ⟨hopened.hasNul, hopened.locate, ?_⟩
    rcases hb with hb | ⟨hb, -⟩ <;> simp [hb]
  · rintro ⟨hn, hlocate, hdir⟩
    match hnode : fs.node? (p.collapse cwd) with
    | some .dir => exact absurd hnode hdir
    | some (.file b) =>
      have hread : fs.read [] (absolutePath cwd p) = .ok b := by
        rw [FileSystem.read_eq_ok, hcollapse]
        exact ⟨hn, hlocate, hnode⟩
      exact ⟨(p.collapse cwd, fs), by simp only [openFile, hread]⟩
    | none =>
      have hread : fs.read [] (absolutePath cwd p) =
          .error (.disk .notFound (absolutePath cwd p).text) := by
        simp [FileSystem.read, hn, hlocate, hnode]
      obtain ⟨fs', hwrite⟩ : ∃ fs', fs.write [] (absolutePath cwd p) .empty = (.ok (), fs') := by
        refine ⟨_, Prod.ext (FileSystem.write_eq_ok_iff.mpr ?_) rfl⟩
        rw [hcollapse]
        exact ⟨hn, hlocate, hdir⟩
      exact ⟨(p.collapse cwd, fs'), by simp only [openFile, hread, hwrite]⟩

end Opening

/-! ### What is asked of a log -/

/-- A request to set up the log. Its path is seen from `cwd`. -/
structure Call where
  cwd : Location
  verbose : Bool
  file? : Option Path

namespace Call

/-- The least level that the call lets through. -/
def least (c : Call) : Level := if c.verbose then .debug else .info

/-- Where the file is that the call names. -/
def location? (c : Call) : Option Location := c.file?.map (Path.collapse c.cwd)

/-- The handlers of the call alone, and its level. -/
def sinks (c : Call) : Sinks := .ofLeast c.least c.location?

end Call

/-- What is logged for a part of the program, and the time that stands in front of it in a file. -/
structure Timed where
  stamp : String
  part : String
  level : Level
  text : String
  deriving DecidableEq

namespace Timed

/-- The record on the logger of the part. -/
def record (r : Timed) : Record := ⟨r.level, loggerName r.part, r.text⟩

/-- The line in a log file. -/
def line (r : Timed) : String := r.stamp ++ r.record.fileLine

end Timed

inductive Event
  | call (c : Call)
  | log (r : Timed)

def Event.call? : Event → Option Call
  | call c => some c
  | log _ => none

/-- The latest of the calls. -/
def latest? (es : List Event) : Option Call := (es.filterMap Event.call?).getLast?

/-- What is logged at the end, if the latest call lets it through, with that call. -/
def last? (es : List Event) : Option (Call × Timed) :=
  match latest? es, es.getLast? with
  | some c, some (.log r) => if c.least.rank ≤ r.level.rank then some (c, r) else none
  | _, _ => none

/-- All that was let through by the latest call before it, in order, each with that call. -/
def delivered (es : List Event) : List (Call × Timed) := es.inits.filterMap last?

/-- The lines for the file at `l`: those of what was let through by a call that names it. -/
def linesAt (l : Location) (es : List Event) : List String :=
  ((delivered es).filter fun d => d.1.location? = some l).map fun d => d.2.line

/-- One of the calls names the file at `l`. -/
def Named (es : List Event) (l : Location) : Prop := ∃ c, .call c ∈ es ∧ c.location? = some l

section Events

variable {es es' : List Event} {e : Event} {c : Call} {l : Location}

theorem mem_of_latest? (h : latest? es = some c) : .call c ∈ es := by
  obtain ⟨e, he, hcall⟩ := List.mem_filterMap.mp (List.mem_of_getLast? h)
  cases e with
  | call d =>
    obtain rfl : d = c := Option.some.inj hcall
    exact he
  | log r => cases hcall

@[simp] theorem latest?_concat_call (es : List Event) (c : Call) :
    latest? (es ++ [.call c]) = some c := by
  simp [latest?, Event.call?]

@[simp] theorem latest?_concat_log (es : List Event) (r : Timed) :
    latest? (es ++ [.log r]) = latest? es := by
  simp [latest?, Event.call?]

/-- After a call there is a latest one. -/
theorem exists_latest?_of_call (c : Call) (es : List Event) :
    ∃ d, latest? (.call c :: es) = some d := by
  have hcalls : (Event.call c :: es).filterMap Event.call? = c :: es.filterMap Event.call? := rfl
  rw [latest?, hcalls, List.getLast?_cons]
  exact ⟨_, rfl⟩

theorem last?_concat_call (es : List Event) (c : Call) : last? (es ++ [.call c]) = none := by
  simp [last?]

theorem last?_concat_log (es : List Event) (r : Timed) :
    last? (es ++ [.log r]) =
      (latest? es).bind fun c => if c.least.rank ≤ r.level.rank then some (c, r) else none := by
  rw [last?, latest?_concat_log, List.getLast?_concat]
  cases latest? es <;> rfl

theorem delivered_concat (es : List Event) (e : Event) :
    delivered (es ++ [e]) = delivered es ++ (last? (es ++ [e])).toList := by
  have hinits : (es ++ [e]).inits = es.inits ++ [es ++ [e]] := by simp
  rw [delivered, hinits, List.filterMap_append, delivered]
  cases h : last? (es ++ [e]) <;> simp [h]

theorem delivered_concat_of_none (h : last? (es ++ [e]) = none) :
    delivered (es ++ [e]) = delivered es := by
  rw [delivered_concat, h, Option.toList_none, List.append_nil]

/-- The call that lets something through is among the events. -/
theorem mem_of_mem_delivered {d : Call × Timed} (h : d ∈ delivered es) : .call d.1 ∈ es := by
  obtain ⟨es', hes, hd⟩ := List.mem_filterMap.mp h
  apply ((List.mem_inits es' es).mp hes).subset
  apply mem_of_latest?
  unfold last? at hd
  split at hd
  · next c r hc hlast =>
    split at hd
    · obtain rfl := Option.some.inj hd
      exact hc
    · cases hd
  · cases hd

theorem linesAt_congr (h : delivered es' = delivered es) (l : Location) :
    linesAt l es' = linesAt l es := by
  rw [linesAt, h, linesAt]

theorem linesAt_of_not_named (h : ¬ Named es l) : linesAt l es = [] := by
  rw [linesAt, List.map_eq_nil_iff, List.filter_eq_nil_iff]
  intro d hd hl
  exact h ⟨d.1, mem_of_mem_delivered hd, of_decide_eq_true hl⟩

theorem named_concat_call : Named (es ++ [.call c]) l ↔ Named es l ∨ c.location? = some l := by
  simp only [Named, List.mem_append, List.mem_singleton, Event.call.injEq]
  grind

theorem named_concat_log {r : Timed} : Named (es ++ [.log r]) l ↔ Named es l := by
  simp [Named]

end Events

namespace State

/-- Logs something at its time. -/
def log (s : State) (r : Timed) : State := record { s with stamp := r.stamp } r.record

/-- The state after one event. A call may fail. -/
def step (s : State) : Event → Except Failure State
  | .call c => s.configure c.cwd c.verbose c.file?
  | .log r => .ok (s.log r)

/-- The state after all events, if no call fails. -/
def run (s : State) (es : List Event) : Except Failure State := es.foldlM step s

variable {s t u : State} {e : Event} {es : List Event} {c : Call} {r : Timed} {l : Location}

theorem run_cons_eq_ok : s.run (e :: es) = .ok u ↔ ∃ t, s.step e = .ok t ∧ t.run es = .ok u :=
  bind_eq_ok_iff

theorem run_append_eq_ok {before after : List Event} :
    s.run (before ++ after) = .ok u ↔ ∃ t, s.run before = .ok t ∧ t.run after = .ok u := by
  rw [run, List.foldlM_append]
  exact bind_eq_ok_iff

/-! ### One event -/

/-- A call takes the place of those before it: there are no handlers then but its own. The file that
it names is open, and no other file has changed. -/
theorem step_call_eq_ok (h : s.step (.call c) = .ok t) :
    t.sinks = c.sinks ∧ t.shown = s.shown ∧
      (∀ l, c.location? = some l →
        ∃ b, Opens s.files l b ∧ t.files.node? l = some (.file b)) ∧
      ∀ l, c.location? ≠ some l → t.files.node? l = s.files.node? l := by
  obtain ⟨cwd, verbose, file?⟩ := c
  rw [step, configure, Sinks.reset_eq] at h
  cases file? with
  | none =>
    obtain rfl := Except.ok.inj h
    exact ⟨rfl, rfl, nofun, fun _ _ => rfl⟩
  | some p =>
    simp only [openHandlers] at h
    cases hopen : openFile s.files cwd p with
    | error e =>
      rw [hopen] at h
      cases h
    | ok opened =>
      obtain ⟨l, fs⟩ := opened
      rw [hopen] at h
      obtain rfl := Except.ok.inj h
      obtain ⟨rfl, hopened⟩ := opened_of_openFile hopen
      obtain ⟨b, hb, hnodes⟩ := hopened.node?
      refine ⟨rfl, rfl, ?_, fun l hl => ?_⟩
      · rintro l ⟨⟩
        exact ⟨b, hb, by rw [hnodes, if_pos rfl]⟩
      · rw [hnodes, if_neg]
        rintro rfl
        exact hl rfl

/-- It does not matter what has been set up before. -/
theorem step_call_unset (s : State) (c : Call) :
    step { s with sinks := .unset } (.call c) = s.step (.call c) := by
  simp only [step, configure, Sinks.reset_eq]

theorem log_sinks (s : State) (r : Timed) : (s.log r).sinks = s.sinks :=
  (record_logged _ _).sinks

theorem log_of_unset (h : s.sinks = .unset) : s.log r = { s with stamp := r.stamp } := by
  apply record_of_unset
  exact h

theorem log_of_rejects (hk : s.sinks = c.sinks) (hr : ¬ c.least.rank ≤ r.level.rank) :
    s.log r = { s with stamp := r.stamp } := by
  apply record_of_rejects
  · exact hk
  · exact hr

theorem log_of_accepts (hk : s.sinks = c.sinks) (hr : c.least.rank ≤ r.level.rank) :
    s.log r = { s with
      stamp := r.stamp
      shown := s.shown ++ [r.record]
      files := c.location?.elim s.files fun l => appendText s.files l r.line } := by
  apply record_of_accepts
  · exact hk
  · exact hr

theorem node?_log_of_accepts {b : ByteArray} (hk : s.sinks = c.sinks)
    (hr : c.least.rank ≤ r.level.rank) (hl : c.location? = some l)
    (hb : s.files.node? l = some (.file b)) :
    (s.log r).files.node? l = some (.file (b ++ r.line.toUTF8)) := by
  rw [log_of_accepts hk hr, hl]
  dsimp only [Option.elim]
  rw [node?_appendText hb, if_pos rfl]

/-- All files but those that handlers write stay as they are. -/
theorem node?_log (hl : l ∉ s.logFiles) : (s.log r).files.node? l = s.files.node? l :=
  (record_logged { s with stamp := r.stamp } r.record).files.node?_eq hl

/-- The handlers of a call write the file that it names. -/
theorem mem_logFiles_of_call (hk : s.sinks = c.sinks) : l ∈ s.logFiles ↔ c.location? = some l := by
  rw [logFiles, hk, Call.sinks, Sinks.ofLeast]
  cases c.location? <;> simp [eq_comm]

/-! ### A run -/

/-- `t` is `s` after the events. The handlers of the latest call are there, and no others. What was
let through by the latest call before it is on the console, once and in order, and in the file that
this call names, once and in order after what was there. Nothing else has come to these files, and
all others are as before. -/
structure Delivers (s : State) (es : List Event) (t : State) : Prop where
  sinks : t.sinks = ((latest? es).map Call.sinks).getD .unset
  shown : t.shown = s.shown ++ (delivered es).map fun d => d.2.record
  named : ∀ l, Named es l → ∃ b, Opens s.files l b ∧
    t.files.node? l = some (.file (b ++ (String.join (linesAt l es)).toUTF8))
  others : ∀ l, ¬ Named es l → t.files.node? l = s.files.node? l

namespace Delivers

theorem nil (h : s.sinks = .unset) : Delivers s [] s where
  sinks := h
  shown := by simp [delivered, last?, latest?]
  named := by
    rintro l ⟨c, hc, -⟩
    cases hc
  others := fun _ _ => rfl

theorem call (h : Delivers s es t) (hc : t.step (.call c) = .ok u) :
    Delivers s (es ++ [.call c]) u := by
  have hdelivered := delivered_concat_of_none (last?_concat_call es c)
  obtain ⟨hsinks, hshown, hopen, hother⟩ := step_call_eq_ok hc
  refine ⟨?_, ?_, fun l hl => ?_, fun l hl => ?_⟩
  · rw [hsinks, latest?_concat_call, Option.map_some, Option.getD_some]
  · rw [hshown, hdelivered]
    exact h.shown
  · rw [linesAt_congr hdelivered]
    rw [named_concat_call] at hl
    by_cases hplace : c.location? = some l
    · obtain ⟨b, hb, hfile⟩ := hopen l hplace
      by_cases hnamed : Named es l
      · -- the file goes on where the lines of earlier calls end
        obtain ⟨b₀, hb₀, hbefore⟩ := h.named l hnamed
        obtain rfl := hb.unique (.inl hbefore)
        exact ⟨b₀, hb₀, hfile⟩
      · rw [linesAt_of_not_named hnamed]
        rw [Opens, h.others l hnamed] at hb
        exact ⟨b, hb, by simp [hfile]⟩
    · obtain ⟨b, hb, hfile⟩ := h.named l (hl.resolve_right hplace)
      exact ⟨b, hb, (hother l hplace).trans hfile⟩
  · rw [named_concat_call, not_or] at hl
    exact (hother l hl.2).trans (h.others l hl.1)

/-- The latest call is in force. -/
theorem sinks_of_latest (h : Delivers s es t) (hlatest : latest? es = some c) :
    t.sinks = c.sinks := by
  rw [h.sinks, hlatest, Option.map_some, Option.getD_some]

/-- What is not let through goes nowhere. -/
theorem lost (h : Delivers s es t) (hlast : last? (es ++ [.log r]) = none) :
    Delivers s (es ++ [.log r]) { t with stamp := r.stamp } := by
  have hdelivered := delivered_concat_of_none hlast
  refine ⟨?_, ?_, fun l hl => ?_, fun l hl => ?_⟩
  · rw [latest?_concat_log]
    exact h.sinks
  · rw [hdelivered]
    exact h.shown
  · rw [linesAt_congr hdelivered]
    exact h.named l (named_concat_log.mp hl)
  · exact h.others l fun hnamed => hl (named_concat_log.mpr hnamed)

/-- What is let through comes to the console, and to the file of the latest call. -/
theorem kept (h : Delivers s es t) (hlatest : latest? es = some c)
    (hlevel : c.least.rank ≤ r.level.rank) : Delivers s (es ++ [.log r]) (t.log r) := by
  have hk := h.sinks_of_latest hlatest
  have hdelivered : delivered (es ++ [.log r]) = delivered es ++ [(c, r)] := by
    rw [delivered_concat, last?_concat_log, hlatest, Option.bind_some, if_pos hlevel,
      Option.toList_some]
  have hlines (l : Location) : linesAt l (es ++ [.log r]) =
      linesAt l es ++ if c.location? = some l then [r.line] else [] := by
    rw [linesAt, hdelivered, List.filter_append, List.map_append, linesAt]
    by_cases hl : c.location? = some l <;> simp [hl]
  have hother (l : Location) (hplace : c.location? ≠ some l) :
      (t.log r).files.node? l = t.files.node? l :=
    node?_log fun hlog => hplace ((mem_logFiles_of_call hk).mp hlog)
  refine ⟨?_, ?_, fun l hl => ?_, fun l hl => ?_⟩
  · rw [log_sinks, latest?_concat_log]
    exact h.sinks
  · rw [log_of_accepts hk hlevel, hdelivered, List.map_append, ← List.append_assoc, ← h.shown]
    rfl
  · obtain ⟨b, hb, hfile⟩ := h.named l (named_concat_log.mp hl)
    refine ⟨b, hb, ?_⟩
    rw [hlines]
    by_cases hplace : c.location? = some l
    · rw [node?_log_of_accepts hk hlevel hplace hfile, if_pos hplace, String.join_append]
      simp [ByteArray.append_assoc]
    · rw [hother l hplace, if_neg hplace, List.append_nil, hfile]
  · rw [named_concat_log] at hl
    rw [← h.others l hl]
    exact hother l fun hplace => hl ⟨c, mem_of_latest? hlatest, hplace⟩

theorem log (h : Delivers s es t) (r : Timed) : Delivers s (es ++ [.log r]) (t.log r) := by
  have hlast := last?_concat_log es r
  match hlatest : latest? es with
  | none =>
    have hunset : t.sinks = .unset := by rw [h.sinks, hlatest, Option.map_none, Option.getD_none]
    rw [log_of_unset hunset]
    exact h.lost (by rw [hlast, hlatest, Option.bind_none])
  | some c =>
    by_cases hlevel : c.least.rank ≤ r.level.rank
    · exact h.kept hlatest hlevel
    · rw [log_of_rejects (h.sinks_of_latest hlatest) hlevel]
      exact h.lost (by rw [hlast, hlatest, Option.bind_some, if_neg hlevel])

end Delivers

theorem delivers_of_unset (hs : s.sinks = .unset) (h : s.run es = .ok t) : Delivers s es t := by
  induction es using List.reverseRecOn generalizing t with
  | nil =>
    obtain rfl : s = t := Except.ok.inj h
    exact .nil hs
  | append_singleton es e ih =>
    obtain ⟨u, hu, ht⟩ := run_append_eq_ok.mp h
    obtain ⟨t', ht', hnil⟩ := run_cons_eq_ok.mp ht
    obtain rfl : t' = t := Except.ok.inj hnil
    cases e with
    | call c => exact (ih hu).call ht'
    | log r =>
      obtain rfl := Except.ok.inj ht'
      exact (ih hu).log r

/-- A file that no handler writes and no call names stays as it is. -/
theorem node?_run (h : s.run es = .ok t) (hs : l ∉ s.logFiles)
    (hes : ¬ Named es l) : t.files.node? l = s.files.node? l := by
  induction es generalizing s with
  | nil =>
    obtain rfl : s = t := Except.ok.inj h
    rfl
  | cons e es ih =>
    obtain ⟨u, hu, ht⟩ := run_cons_eq_ok.mp h
    have hrest : ¬ Named es l := fun ⟨c, hc, hplace⟩ => hes ⟨c, List.mem_cons_of_mem _ hc, hplace⟩
    cases e with
    | log r =>
      obtain rfl := Except.ok.inj hu
      rw [ih ht ((logFiles_congr (log_sinks s r)).symm ▸ hs) hrest, node?_log hs]
    | call c =>
      have hplace : c.location? ≠ some l := fun hplace => hes ⟨c, List.mem_cons_self, hplace⟩
      obtain ⟨hsinks, -, -, hother⟩ := step_call_eq_ok hu
      rw [ih ht (mt (mem_logFiles_of_call hsinks).mp hplace) hrest, hother l hplace]

theorem console_append {rs : List Record} (h : t.shown = s.shown ++ rs) :
    t.console = s.console ++ String.join (rs.map Record.consoleLine) := by
  apply String.toList_inj.mp
  simp [console, h, List.flatMap_map]

/-- After any calls that succeed, and records between them, each record that the latest call before
it lets through is on the console once, and once in the file that this call names, if it names one.
They are in order, and no other record is anywhere. From any point of the run on, a file that the
latest call does not name stays as it is until a call names it. -/
theorem run_delivers (h : s.run (.call c :: es) = .ok t) :
    Delivers s (.call c :: es) t ∧
      t.console = s.console ++
        String.join ((delivered (.call c :: es)).map fun d => d.2.record.consoleLine) ∧
      ∀ before after, es = before ++ after → ∀ u, s.run (.call c :: before) = .ok u →
        ∀ l, (∀ d, latest? (.call c :: before) = some d → d.location? ≠ some l) →
          ¬ Named after l → t.files.node? l = u.files.node? l := by
  -- what was set up before the first call does not count
  have hdelivers {es' : List Event} {t' : State} (h' : s.run (.call c :: es') = .ok t') :
      Delivers s (.call c :: es') t' := by
    have hunset : State.run { s with sinks := .unset } (.call c :: es') = .ok t' := by
      obtain ⟨u, hu, ht⟩ := run_cons_eq_ok.mp h'
      exact run_cons_eq_ok.mpr ⟨u, (step_call_unset s c).trans hu, ht⟩
    obtain ⟨hsinks, hshown, hnamed, hothers⟩ := delivers_of_unset rfl hunset
    exact ⟨hsinks, hshown, hnamed, hothers⟩
  refine ⟨hdelivers h, ?_, ?_⟩
  · rw [console_append (hdelivers h).shown, List.map_map]
    rfl
  · rintro before after rfl u hu l hlatest hafter
    have hsplit : s.run ((.call c :: before) ++ after) = .ok t := h
    obtain ⟨u', hu', ht⟩ := run_append_eq_ok.mp hsplit
    obtain rfl : u' = u := Except.ok.inj (hu'.symm.trans hu)
    apply node?_run ht ?_ hafter
    obtain ⟨d, hd⟩ := exists_latest?_of_call c before
    have hsinks := (hdelivers hu).sinks_of_latest hd
    exact fun hlog => hlatest d hd ((mem_logFiles_of_call hsinks).mp hlog)

def oldLog : Location := [⟨"a.log", by decide⟩]

def newLog : Location := [⟨"b.log", by decide⟩]

/-- A disk with one log file, from a run before. -/
def usedDisk : FileSystem := FileSystem.empty.writeFile oldLog "old\n".toUTF8

/-- The log file is named again by another path and for fewer records, and then a second file is. -/
def moved : List Event := [
  .log ⟨"1 ", "cli", .debug, "p"⟩, .log ⟨"2 ", "", ⟨5⟩, "q"⟩,
  .call ⟨[⟨"d", by decide⟩], false, some (Path.ofString "../a.log")⟩,
  .log ⟨"3 ", "cli", .debug, "r"⟩, .log ⟨"4 ", "cli", .info, "s"⟩,
  .call ⟨[], false, some (Path.ofString "b.log")⟩, .log ⟨"5 ", "imports", .warning, "t"⟩]

/-- The lines of both calls stand in the first file, after the old one, and none of the third. -/
theorem run_delivers_moved : ∃ t,
    run ⟨.unset, "", [], usedDisk⟩
        (.call ⟨[], true, some (Path.ofString "/a.log")⟩ :: moved) = .ok t ∧
      t.console = "[declgen] DEBUG p\n[declgen] INFO s\n[declgen] WARNING t\n" ∧
      t.files.node? oldLog =
        some (.file "old\n1 DEBUG declgen.cli: p\n4 INFO declgen.cli: s\n".toUTF8) ∧
      t.files.node? newLog = some (.file "5 WARNING declgen.imports: t\n".toUTF8) := by
  let first : Call := ⟨[], true, some (Path.ofString "/a.log")⟩
  let σ : State := ⟨.unset, "", [], usedDisk⟩
  obtain ⟨t, ht⟩ : ∃ t, σ.run (.call first :: moved) = .ok t := by
    have hok : (σ.run (.call first :: moved)).isOk = true := by decide +kernel
    cases hrun : σ.run (.call first :: moved) with
    | error e => simp [hrun, Except.isOk, Except.toBool] at hok
    | ok t => exact ⟨t, rfl⟩
  obtain ⟨hdelivers, hconsole, -⟩ := run_delivers ht
  have hold : Named (.call first :: moved) oldLog := ⟨first, List.mem_cons_self, by decide⟩
  have hnew : Named (.call first :: moved) newLog :=
    ⟨⟨[], false, some (Path.ofString "b.log")⟩, by simp [moved], by decide⟩
  refine ⟨t, ht, ?_, ?_, ?_⟩
  · rw [hconsole]
    decide +kernel
  · obtain ⟨b, hb, hfile⟩ := hdelivers.named oldLog hold
    have hopens : Opens usedDisk oldLog "old\n".toUTF8 := .inl (by decide +kernel)
    obtain rfl := hb.unique hopens
    rw [hfile]
    decide +kernel
  · obtain ⟨b, hb, hfile⟩ := hdelivers.named newLog hnew
    have hopens : Opens usedDisk newLog .empty := .inr ⟨by decide +kernel, rfl⟩
    obtain rfl := hb.unique hopens
    rw [hfile]
    decide +kernel

end State

end ExtTypes.Log
