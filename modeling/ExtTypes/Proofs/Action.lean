import ExtTypes.Action
import ExtTypes.Proofs.FileSystem.Change
import Mathlib.Data.Set.Insert

/-! What actions do to the state. Logging adds text to the log file and leaves all other files
alone. Main statements: `Action.Logs.bind` and `Action.Carries.bind`, from the steps of an action
to the whole. -/
namespace ExtTypes

open FileSystem (Rewrites)

/-- What is set up at once: a handler for the console, and one for the file if there is one, with the
level of the logger. -/
def Log.Sinks.ofLeast (least : Log.Level) (file? : Option Location) : Log.Sinks :=
  ⟨least, ⟨least, .console⟩ :: (file?.map fun l => ⟨least, .file l⟩).toList⟩

namespace Log.State

/-- The files that handlers write. -/
def logFiles (σ : State) : Set Location := {l | ∃ h ∈ σ.sinks.handlers, h.target = .file l}

/-- `τ` is `σ` after records were logged. -/
structure Logged (σ τ : State) : Prop where
  sinks : τ.sinks = σ.sinks
  files : Rewrites σ.logFiles σ.files τ.files
  same : σ.logFiles = ∅ → τ.files = σ.files

variable {σ τ υ : State}

theorem logFiles_congr (h : τ.sinks = σ.sinks) : τ.logFiles = σ.logFiles := by
  rw [logFiles, logFiles, h]

theorem Logged.refl : Logged σ σ := ⟨rfl, .refl, fun _ => rfl⟩

theorem Logged.logFiles (h : Logged σ τ) : τ.logFiles = σ.logFiles := logFiles_congr h.sinks

theorem Logged.trans (h₁ : Logged σ τ) (h₂ : Logged τ υ) : Logged σ υ := by
  have hlog := h₁.logFiles
  refine ⟨h₂.sinks.trans h₁.sinks, h₁.files.trans (hlog ▸ h₂.files), fun hno => ?_⟩
  rw [h₂.same (hlog ▸ hno), h₁.same hno]

/-- The text is put after the bytes of the file, and nothing else changes. -/
theorem node?_appendText {fs : FileSystem} {l : Location} {b : ByteArray}
    (hb : fs.node? l = some (.file b)) (text : String) (l' : Location) :
    (appendText fs l text).node? l' =
      if l' = l then some (.file (b ++ text.toUTF8)) else fs.node? l' := by
  obtain ⟨hne, hparent⟩ := FileSystem.parent_of_file hb
  rw [appendText, hb]
  exact FileSystem.node?_writeFile _ hne hparent (by simp [hb]) l'

theorem appendText_rewrites (fs : FileSystem) (l : Location) (text : String) :
    Rewrites {l} fs (appendText fs l text) := by
  intro l'
  match hn : fs.node? l with
  | some (.file b) =>
    rw [node?_appendText hn]
    split
    · next he =>
      subst he
      exact .inr ⟨rfl, ⟨b, hn⟩, _, rfl⟩
    · exact .inl rfl
  | none | some .dir =>
    rw [appendText, hn]
    exact .inl rfl

/-- A handler writes its own file and no other one. -/
theorem handle_logged (r : Record) {h : Handler} (hh : h ∈ σ.sinks.handlers) :
    Logged σ (handle r σ h) := by
  unfold handle
  split
  · split
    · exact ⟨rfl, .refl, fun _ => rfl⟩
    · next l hl =>
      have hlog : l ∈ σ.logFiles := ⟨h, hh, hl⟩
      -- with a log file there is nothing to say about states without one
      refine ⟨rfl, ?_, fun hno => absurd (hno ▸ hlog) (Set.notMem_empty l)⟩
      exact (appendText_rewrites _ l _).mono (Set.singleton_subset_iff.mpr hlog)
  · exact .refl

theorem foldl_handle_logged (r : Record) {hs : List Handler} (h : hs ⊆ σ.sinks.handlers) :
    Logged σ (hs.foldl (handle r) σ) := by
  induction hs generalizing σ with
  | nil => exact .refl
  | cons d hs ih =>
    obtain ⟨hd, hs⟩ := List.cons_subset.mp h
    have hfirst := handle_logged r hd
    exact hfirst.trans (ih (hfirst.sinks ▸ hs))

theorem record_logged (σ : State) (r : Record) : Logged σ (σ.record r) := by
  unfold record
  split
  · exact foldl_handle_logged r (List.Subset.refl _)
  · exact .refl

theorem record_of_unset (h : σ.sinks = .unset) (r : Record) : σ.record r = σ := by
  unfold record
  rw [h]
  exact ite_self _

variable {least : Level} {file? : Option Location} {r : Record}

theorem record_of_rejects (hk : σ.sinks = .ofLeast least file?)
    (hr : ¬ least.rank ≤ r.level.rank) : σ.record r = σ := by
  unfold record
  rw [hk]
  exact if_neg hr

/-- What gets past the level of the logger gets past that of the handlers, since they are one. -/
theorem record_of_accepts (hk : σ.sinks = .ofLeast least file?)
    (hr : least.rank ≤ r.level.rank) :
    σ.record r = { σ with
      shown := σ.shown ++ [r]
      files := file?.elim σ.files fun l => appendText σ.files l (σ.stamp ++ r.fileLine) } := by
  have hconsole (τ : State) : handle r τ ⟨least, .console⟩ = { τ with shown := τ.shown ++ [r] } :=
    if_pos hr
  have hlevel : σ.sinks.least.rank ≤ r.level.rank := by
    rw [hk]
    exact hr
  have hhandlers : σ.sinks.handlers =
      ⟨least, .console⟩ :: (file?.map fun l => ⟨least, .file l⟩).toList := by
    rw [hk]
    rfl
  rw [record, if_pos hlevel, hhandlers, List.foldl_cons, hconsole]
  cases file? with
  | none => rfl
  | some l => exact if_pos hr

end Log.State

namespace Action

open Log (State)

variable {α β : Type} {σ τ : State}

theorem bind_of_ok {x : Action α} {f : α → Action β} {a : α} (h : x σ = (.ok a, τ)) :
    (x >>= f) σ = f a τ := by
  simp only [bind, h]

theorem bind_of_error {x : Action α} {f : α → Action β} {e : Failure} (h : x σ = (.error e, τ)) :
    (x >>= f) σ = (.error e, τ) := by
  simp only [bind, h]

theorem bind_apply (x : Action α) (f : α → Action β) (σ : State) :
    (x >>= f) σ =
      match x σ with
      | (.ok a, τ) => f a τ
      | (.error e, τ) => (.error e, τ) := rfl

theorem bind_eq_ok {x : Action α} {f : α → Action β} {b : β} :
    (x >>= f) σ = (.ok b, τ) ↔ ∃ a σ', x σ = (.ok a, σ') ∧ f a σ' = (.ok b, τ) := by
  constructor
  · intro h
    rcases hx : x σ with ⟨e | a, σ'⟩
    · rw [bind_of_error hx] at h
      cases h
    · exact ⟨a, σ', rfl, (bind_of_ok hx).symm.trans h⟩
  · rintro ⟨a, σ', hx, h⟩
    rw [bind_of_ok hx, h]

@[simp] theorem look_apply (f : FileSystem → Except Failure α) : look f σ = (f σ.files, σ) := rfl

theorem look_eq_ok {f : FileSystem → Except Failure α} {a : α} :
    look f σ = (.ok a, τ) ↔ f σ.files = .ok a ∧ σ = τ := by
  rw [look_apply, Prod.mk.injEq]

@[simp] theorem log_apply (r : Log.Record) : log r σ = (.ok (), σ.record r) := rfl

theorem bind_assoc {γ : Type} (x : Action α) (f : α → Action β) (g : β → Action γ) :
    x >>= f >>= g = x >>= fun a => f a >>= g := by
  funext σ
  rcases hx : x σ with ⟨e | a, σ'⟩
  · rw [bind_of_error hx, bind_of_error (bind_of_error hx)]
  · rw [bind_of_ok hx]
    rcases hf : f a σ' with ⟨e | b, σ''⟩
    · rw [bind_of_error hf, bind_of_error ((bind_of_ok hx).trans hf)]
    · rw [bind_of_ok hf, bind_of_ok ((bind_of_ok hx).trans hf)]

/-- Whatever becomes of the action, it does nothing but log. -/
def Logs (x : Action α) : Prop := ∀ σ, State.Logged σ (x σ).2

theorem Logs.pure (a : α) : Logs (pure a) := fun _ => .refl

theorem Logs.ofExcept (x : Except Failure α) : Logs (ofExcept x) := fun _ => .refl

theorem Logs.look (f : FileSystem → Except Failure α) : Logs (look f) := fun _ => .refl

theorem Logs.log (r : Log.Record) : Logs (log r) := fun σ => σ.record_logged r

theorem Logs.note (level : Log.Level) (part text : String) : Logs (note level part text) :=
  .log _

theorem Logs.bind {x : Action α} {f : α → Action β} (hx : Logs x) (hf : ∀ a, Logs (f a)) :
    Logs (x >>= f) := by
  intro σ
  have hσ := hx σ
  rcases h : x σ with ⟨e | a, σ'⟩
  · rw [bind_of_error h]
    rw [h] at hσ
    exact hσ
  · rw [bind_of_ok h]
    rw [h] at hσ
    exact hσ.trans (hf a σ')

theorem Logs.forM {f : α → Action PUnit} (hf : ∀ a, Logs (f a)) (as : List α) :
    Logs (as.forM f) := by
  induction as with
  | nil => exact .pure _
  | cons a as ih => exact .bind (hf a) fun _ => ih

/-- Records are logged one after the other. -/
theorem forM_log_apply (r : α → Log.Record) (as : List α) (σ : State) :
    (as.forM fun a => Action.log (r a)) σ = (.ok (), (as.map r).foldl State.record σ) := by
  induction as generalizing σ with
  | nil => rfl
  | cons a as ih => exact (bind_of_ok (log_apply (r a))).trans (ih (σ.record (r a)))

/-- Logging does not fail. -/
theorem forM_log (r : α → Log.Record) (as : List α) (σ : State) :
    ∃ τ, (as.forM fun a => Action.log (r a)) σ = (.ok (), τ) ∧ State.Logged σ τ := by
  have hlogged := Logs.forM (fun a => Logs.log (r a)) as σ
  rw [forM_log_apply] at hlogged
  exact ⟨_, forM_log_apply r as σ, hlogged⟩

/-- What the action gives in one of two states that go together it gives in the other, and the
states go together after it. -/
def Carries (R : State → State → Prop) (x : Action α) : Prop :=
  ∀ σ τ, R σ τ → ∀ a σ', x σ = (.ok a, σ') → ∃ τ', x τ = (.ok a, τ') ∧ R σ' τ'

variable {R : State → State → Prop}

theorem Carries.pure (a : α) : Carries R (pure a) := by
  rintro σ τ h a' σ' ⟨⟩
  exact ⟨τ, rfl, h⟩

theorem Carries.ofExcept (x : Except Failure α) : Carries R (ofExcept x) := by
  rintro σ τ h a σ' ⟨⟩
  exact ⟨τ, rfl, h⟩

theorem Carries.log (hR : ∀ σ τ r, R σ τ → R (σ.record r) (τ.record r)) (r : Log.Record) :
    Carries R (log r) := by
  rintro σ τ h a σ' ⟨⟩
  exact ⟨τ.record r, rfl, hR σ τ r h⟩

theorem Carries.look {f : FileSystem → Except Failure α}
    (hf : ∀ σ τ, R σ τ → ∀ a, f σ.files = .ok a → f τ.files = .ok a) : Carries R (look f) := by
  intro σ τ h a σ' hx
  obtain ⟨ha, rfl⟩ := Prod.mk.inj hx
  exact ⟨τ, Prod.ext (hf σ τ h a ha) rfl, h⟩

theorem Carries.bind {x : Action α} {f : α → Action β} (hx : Carries R x)
    (hf : ∀ a, Carries R (f a)) : Carries R (x >>= f) := by
  intro σ τ h b σ' hb
  obtain ⟨a, σ₁, ha, hb⟩ := bind_eq_ok.mp hb
  obtain ⟨τ₁, hτ, h₁⟩ := hx σ τ h a σ₁ ha
  obtain ⟨τ', hτ', h'⟩ := hf a σ₁ τ₁ h₁ b σ' hb
  exact ⟨τ', bind_eq_ok.mpr ⟨a, τ₁, hτ, hτ'⟩, h'⟩

theorem Carries.forM {f : α → Action PUnit} (hf : ∀ a, Carries R (f a)) (as : List α) :
    Carries R (as.forM f) := by
  induction as with
  | nil => exact .pure _
  | cons a as ih => exact .bind (hf a) fun _ => ih

end Action

end ExtTypes
