import ExtTypes.Hook
import ExtTypes.Proofs.Outcome
import ExtTypes.Settings.Resolve

/-! How hooks work together. Hooks in a row are a run of the first ones and then of the others, which
see what the first ones added; this is so also for hooks that act while they work. What a run asks of
its hooks is read off hooks that note their calls. Main statement: `runAll_composes`. -/
namespace ExtTypes

namespace Hook

/-! ### What a hook returns -/

/-- The entries that a returned value stands for. -/
inductive Yields (h : Hook) : Returned → List Entry → Prop
  | items (es : List Entry) : Yields h (.items (es.map .entry)) es
  | nothing (hfunction : h.isFunction) : Yields h (.single false) []

/-- What is reported of a returned value: that it has no items, or its first item that is no entry. -/
inductive Refused (h : Hook) : Returned → HookFault → Prop
  | single {isTruthy : Bool} (hsome : ¬ (h.isFunction ∧ isTruthy = false)) :
      Refused h (.single isTruthy) (.notIterable h.name)
  | item (es : List Entry) (typeName : String) (is : List Given) :
      Refused h (.items (es.map .entry ++ .other typeName :: is)) (.notEntry h.name typeName)

theorem yields_or_refused (h : Hook) (r : Returned) :
    (∃ es, Yields h r es) ∨ ∃ f, Refused h r f := by
  cases r with
  | single isTruthy =>
    by_cases hnothing : h.isFunction ∧ isTruthy = false
    · obtain ⟨hfunction, rfl⟩ := hnothing
      exact .inl ⟨[], .nothing hfunction⟩
    · exact .inr ⟨_, .single hnothing⟩
  | items is =>
    induction is with
    | nil => exact .inl ⟨[], .items []⟩
    | cons i is ih =>
      cases i with
      | other t => exact .inr ⟨_, .item [] t is⟩
      | entry e =>
        rcases ih with ⟨es, hes⟩ | ⟨f, hf⟩
        · cases hes
          exact .inl ⟨_, .items (e :: _)⟩
        · cases hf with
          | item es t is => exact .inr ⟨_, .item (e :: es) t is⟩

theorem entriesOf_entries (name : String) (es : List Entry) :
    entriesOf name (es.map .entry) = .ok es := by
  induction es with
  | nil => rfl
  | cons e es ih =>
    rw [List.map_cons, entriesOf, ih]
    rfl

theorem entriesOf_other (name : String) (es : List Entry) (t : String) (is : List Given) :
    entriesOf name (es.map .entry ++ .other t :: is) = .error (.hook (.notEntry name t)) := by
  induction es with
  | nil => rfl
  | cons e es ih =>
    rw [List.map_cons, List.cons_append, entriesOf, ih]
    rfl

variable {s : Settings} {seen es : List Entry} {h : Hook} {r : Returned}

theorem Yields.added (hr : Yields h r es) (hwork : h.work s seen = .ok r) :
    h.added s seen = .ok es := by
  rw [Hook.added, hwork]
  cases hr with
  | items => exact entriesOf_entries h.name es
  | nothing hfunction =>
    rw [hfunction]
    rfl

theorem Refused.added {f : HookFault} (hr : Refused h r f) (hwork : h.work s seen = .ok r) :
    h.added s seen = .error (.hook f) := by
  rw [Hook.added, hwork]
  cases hr with
  | @single isTruthy hsome =>
    have hfalse : (h.isFunction && ! isTruthy) = false := by
      cases hf : h.isFunction <;> cases isTruthy <;> simp_all
    show (if h.isFunction && ! isTruthy then _ else _) = _
    rw [hfalse]
    rfl
  | item es t is => exact entriesOf_other h.name es t is

/-- A hook adds what it yields, and nothing otherwise. -/
theorem added_eq_ok_iff : h.added s seen = .ok es ↔ ∃ r, h.work s seen = .ok r ∧ Yields h r es := by
  constructor
  · intro hadded
    cases hwork : h.work s seen with
    | error e =>
      rw [Hook.added, hwork] at hadded
      dsimp only at hadded
      split at hadded <;> cases hadded
    | ok r =>
      rcases yields_or_refused h r with ⟨es', hr⟩ | ⟨f, hr⟩
      · rw [hr.added hwork] at hadded
        obtain rfl := Except.ok.inj hadded
        exact ⟨r, rfl, hr⟩
      · rw [hr.added hwork] at hadded
        cases hadded
  · rintro ⟨r, hwork, hr⟩
    exact hr.added hwork

/-- The fault names the hook. -/
theorem Refused.message {f : HookFault} (hr : Refused h r f) :
    ∃ rest, f.message = "Hook '" ++ h.name ++ rest := by
  cases hr with
  | single =>
    refine ⟨"' must return an iterable of entries", ?_⟩
    unfold HookFault.message
    exact Eq.refl _
  | item es t is =>
    refine ⟨"' returned " ++ t ++ ", expected FileEntry or ModuleEntry", ?_⟩
    unfold HookFault.message
    simp only [String.append_assoc]

end Hook

/-! ### Hooks that act -/

/-- A hook that acts while it works: it may remember calls, read files or ask others. -/
structure Actor (m : Type → Type) where
  name : String
  isFunction : Bool
  work : Settings → List Entry → ExceptT Failure m Returned

namespace Actor

variable {m : Type → Type} [Monad m]

/-- The entries that an acting hook adds; what it returned counts as it does for any hook. -/
def added (a : Actor m) (s : Settings) (seen : List Entry) : ExceptT Failure m (List Entry) :=
  ExceptT.mk do
    let result ← (a.work s seen).run
    return Hook.added ⟨a.name, a.isFunction, fun _ _ => result⟩ s seen

/-- The entries that acting hooks add one after the other. -/
def runAll (s : Settings) : List (Actor m) → List Entry → ExceptT Failure m (List Entry)
  | [], _ => pure []
  | a :: as, seen => do
    let es ← a.added s seen
    let more ← runAll s as (seen ++ es)
    return es ++ more

theorem runAll_append [LawfulMonad m] (s : Settings) (as₁ as₂ : List (Actor m))
    (seen : List Entry) : runAll s (as₁ ++ as₂) seen = do
      let es₁ ← runAll s as₁ seen
      let es₂ ← runAll s as₂ (seen ++ es₁)
      return es₁ ++ es₂ := by
  induction as₁ generalizing seen with
  | nil => simp [runAll]
  | cons a as₁ ih => simp only [List.cons_append, runAll, ih, bind_assoc, pure_bind, List.append_assoc]

end Actor

namespace Hook

variable {s : Settings} {seen es : List Entry} {h : Hook} {hs : List Hook}

/-- The hook as one that acts on nothing. -/
def still (h : Hook) : Actor Id := ⟨h.name, h.isFunction, fun s seen => ExceptT.mk (h.work s seen)⟩

theorem runAll_cons (s : Settings) (h : Hook) (hs : List Hook) (seen : List Entry) :
    runAll s (h :: hs) seen = do
      let es ← h.added s seen
      let more ← runAll s hs (seen ++ es)
      return es ++ more := by
  rw [runAll]
  cases h.added s seen with
  | error e => rfl
  | ok es => cases runAll s hs (seen ++ es) <;> rfl

theorem run_bind_still {α β : Type} (x : ExceptT Failure Id α) (f : α → ExceptT Failure Id β) :
    (x >>= f).run.run = x.run.run >>= fun a => (f a).run.run := by
  change Except Failure α at x
  cases x <;> rfl

/-- Without actions, a run of acting hooks is a run of hooks. -/
theorem runAll_still (s : Settings) (hs : List Hook) (seen : List Entry) :
    (Actor.runAll s (hs.map still) seen).run.run = runAll s hs seen := by
  induction hs generalizing seen with
  | nil => rfl
  | cons h hs ih =>
    have hadded : (h.still.added s seen).run.run = h.added s seen := rfl
    rw [List.map_cons, Actor.runAll, run_bind_still, hadded, runAll_cons]
    simp only [run_bind_still, ih]
    rfl

/-- A run of hooks is a run of the first ones, and then of the others with what was added. -/
theorem runAll_append (s : Settings) (hs₁ hs₂ : List Hook) (seen : List Entry) :
    runAll s (hs₁ ++ hs₂) seen = do
      let es₁ ← runAll s hs₁ seen
      let es₂ ← runAll s hs₂ (seen ++ es₁)
      return es₁ ++ es₂ := by
  -- this is the law of acting hooks, for hooks that act on nothing
  rw [← runAll_still, List.map_append, Actor.runAll_append]
  simp only [run_bind_still, runAll_still]
  rfl

/-! ### Calls -/

/-- A call of a hook, with the entries that it was shown. -/
structure Call where
  hook : Hook
  seen : List Entry

/-- The hook as one that notes its calls. -/
def noting (h : Hook) : Actor (StateM (List Call)) :=
  ⟨h.name, h.isFunction, fun s seen => do
    modify (· ++ [⟨h, seen⟩])
    ExceptT.mk (pure (h.work s seen))⟩

/-- The calls that a run of these hooks makes, in order. -/
def calls (s : Settings) (hs : List Hook) (seen : List Entry) : List Call :=
  ((Actor.runAll s (hs.map noting) seen).run.run []).2

theorem run_bind_noting {α β : Type} (x : ExceptT Failure (StateM (List Call)) α)
    (f : α → ExceptT Failure (StateM (List Call)) β) (log : List Call) :
    (x >>= f).run.run log = match x.run.run log with
      | (.ok a, log') => (f a).run.run log'
      | (.error e, log') => (.error e, log') := by
  rw [ExceptT.run_bind, StateT.run_bind]
  cases hx : x.run.run log with
  | mk r log' =>
    cases r with
    | error e => exact StateT.run_pure _ _
    | ok a => rfl

theorem run_noting_cons (log : List Call) :
    (Actor.runAll s ((h :: hs).map noting) seen).run.run log =
      match h.added s seen with
      | .error e => (.error e, log ++ [⟨h, seen⟩])
      | .ok es =>
        let (result, log') :=
          (Actor.runAll s (hs.map noting) (seen ++ es)).run.run (log ++ [⟨h, seen⟩])
        (result.map (es ++ ·), log') := by
  have hadded : (h.noting.added s seen).run.run log = (h.added s seen, log ++ [⟨h, seen⟩]) := rfl
  rw [List.map_cons, Actor.runAll, run_bind_noting, hadded]
  cases h.added s seen with
  | error e => rfl
  | ok es =>
    dsimp only
    rw [run_bind_noting]
    cases (Actor.runAll s (hs.map noting) (seen ++ es)).run.run (log ++ [⟨h, seen⟩]) with
    | mk r log' => cases r <;> rfl

/-- Hooks that note their calls give what hooks give, and append the calls to what they noted
before. -/
theorem run_noting (hs : List Hook) (seen : List Entry) (log : List Call) :
    (Actor.runAll s (hs.map noting) seen).run.run log =
      (runAll s hs seen, log ++ calls s hs seen) := by
  induction hs generalizing seen log with
  | nil =>
    show (Except.ok [], log) = (Except.ok [], log ++ [])
    rw [List.append_nil]
  | cons h hs ih =>
    -- a run without earlier calls is one of the cases, so that the log is general in the induction
    rw [calls, run_noting_cons, run_noting_cons, runAll]
    cases h.added s seen with
    | error e => rfl
    | ok es =>
      dsimp only
      rw [ih, ih]
      simp

theorem calls_nil (s : Settings) (seen : List Entry) : calls s [] seen = [] := rfl

theorem calls_cons (s : Settings) (h : Hook) (hs : List Hook) (seen : List Entry) :
    calls s (h :: hs) seen = ⟨h, seen⟩ :: match h.added s seen with
      | .error _ => []
      | .ok es => calls s hs (seen ++ es) := by
  rw [calls, run_noting_cons]
  cases h.added s seen with
  | error e => rfl
  | ok es =>
    dsimp only
    rw [run_noting]
    rfl

/-- After a failure nothing is called, and otherwise the other hooks are shown what was added. -/
theorem calls_append (s : Settings) (hs₁ hs₂ : List Hook) (seen : List Entry) :
    calls s (hs₁ ++ hs₂) seen = calls s hs₁ seen ++ match runAll s hs₁ seen with
      | .error _ => []
      | .ok es => calls s hs₂ (seen ++ es) := by
  induction hs₁ generalizing seen with
  | nil =>
    rw [calls_nil, runAll]
    simp
  | cons h hs₁ ih =>
    rw [List.cons_append, calls_cons, calls_cons, runAll, List.cons_append]
    cases h.added s seen with
    | error e => rfl
    | ok es =>
      dsimp only
      rw [ih]
      cases runAll s hs₁ (seen ++ es) with
      | error e => rfl
      | ok more =>
        dsimp only [Except.map]
        rw [List.append_assoc]

/-- A hook is called if all before it gave entries, and is shown these after the first ones. -/
theorem getElem?_calls (hs : List Hook) (seen : List Entry) (k : Nat) (c : Call) :
    (calls s hs seen)[k]? = some c ↔ ∃ h es, hs[k]? = some h ∧
      runAll s (hs.take k) seen = .ok es ∧ c = ⟨h, seen ++ es⟩ := by
  induction hs generalizing seen k with
  | nil => simp [calls_nil]
  | cons h hs ih =>
    rw [calls_cons]
    cases k with
    | zero => simp [runAll, eq_comm]
    | succ k =>
      rw [List.getElem?_cons_succ, List.getElem?_cons_succ, List.take_succ_cons, runAll]
      cases h.added s seen with
      -- after a failure there are no calls, and no run of the hooks before the next one
      | error e => simp
      | ok es =>
        dsimp only
        rw [ih]
        constructor
        · rintro ⟨h', more, hh', hmore, rfl⟩
          refine ⟨h', es ++ more, hh', map_eq_ok_iff.mpr ⟨more, hmore, rfl⟩, ?_⟩
          rw [List.append_assoc]
        · rintro ⟨h', all, hh', hall, rfl⟩
          obtain ⟨more, hmore, rfl⟩ := map_eq_ok_iff.mp hall
          exact ⟨h', more, hh', hmore, by rw [List.append_assoc]⟩

/-- What was called gave these entries. -/
def Call.Gives (s : Settings) (c : Call) (es : List Entry) : Prop :=
  ∃ r, c.hook.work s c.seen = .ok r ∧ Yields c.hook r es

/-- A run succeeds if every hook is called and gives entries, and the result is all of these. -/
theorem runAll_eq_ok_iff (hs : List Hook) (seen es : List Entry) :
    runAll s hs seen = .ok es ↔ ∃ parts, parts.length = hs.length ∧
      List.Forall₂ (Call.Gives s) (calls s hs seen) parts ∧ es = parts.flatten := by
  induction hs generalizing seen es with
  | nil =>
    rw [runAll, calls_nil]
    constructor
    · intro h
      obtain rfl := Except.ok.inj h
      exact ⟨[], rfl, .nil, rfl⟩
    · rintro ⟨parts, hlength, -, rfl⟩
      obtain rfl := List.eq_nil_of_length_eq_zero hlength
      rfl
  | cons h hs ih =>
    rw [calls_cons, runAll]
    constructor
    · intro hrun
      cases hadded : h.added s seen with
      | error e =>
        rw [hadded] at hrun
        cases hrun
      | ok first =>
        rw [hadded] at hrun
        obtain ⟨more, hmore, rfl⟩ := map_eq_ok_iff.mp hrun
        obtain ⟨parts, hlength, hparts, rfl⟩ := (ih _ _).mp hmore
        exact ⟨first :: parts, congrArg (· + 1) hlength,
          .cons (added_eq_ok_iff.mp hadded) hparts, rfl⟩
    · rintro ⟨parts, hlength, hparts, rfl⟩
      cases hparts with
      | @cons _ first _ parts hfirst hparts =>
        have hadded : h.added s seen = .ok first := added_eq_ok_iff.mpr hfirst
        rw [hadded] at hparts ⊢
        dsimp only at hparts ⊢
        rw [(ih _ _).mpr ⟨parts, Nat.succ.inj hlength, hparts, rfl⟩]
        rfl

/-- The run of a hook that is refused: nothing is called after it. -/
theorem runAll_of_refused {hs₁ : List Hook} (hs₂ : List Hook) {r : Returned} {f : HookFault}
    (hrun : runAll s hs₁ seen = .ok es) (hwork : h.work s (seen ++ es) = .ok r)
    (hr : Refused h r f) : runAll s (hs₁ ++ h :: hs₂) seen = .error (.hook f) ∧
      calls s (hs₁ ++ h :: hs₂) seen = calls s hs₁ seen ++ [⟨h, seen ++ es⟩] := by
  have hadded := hr.added hwork
  constructor
  · rw [runAll_append, hrun]
    show (runAll s (h :: hs₂) (seen ++ es) >>= _) = _
    rw [runAll, hadded]
    rfl
  · rw [calls_append, hrun]
    dsimp only
    rw [calls_cons, hadded]

/-- Hooks in a row are a run of the first ones and then of the others, which are shown what the first
ones added; this holds for hooks that act as well. Each hook is shown all that was added before it, and
the result is made of the entries that the hooks gave. What a hook returns either stands for entries or
is refused, with a fault that names the hook and ends the run. -/
theorem runAll_composes (s : Settings) (hs₁ hs₂ : List Hook) (seen : List Entry) :
    (runAll s (hs₁ ++ hs₂) seen = do
      let es₁ ← runAll s hs₁ seen
      let es₂ ← runAll s hs₂ (seen ++ es₁)
      return es₁ ++ es₂) ∧
    (∀ (m : Type → Type) [Monad m] [LawfulMonad m] (as₁ as₂ : List (Actor m)),
      Actor.runAll s (as₁ ++ as₂) seen = do
        let es₁ ← Actor.runAll s as₁ seen
        let es₂ ← Actor.runAll s as₂ (seen ++ es₁)
        return es₁ ++ es₂) ∧
    (∀ k c, (calls s (hs₁ ++ hs₂) seen)[k]? = some c ↔ ∃ h es, (hs₁ ++ hs₂)[k]? = some h ∧
      runAll s ((hs₁ ++ hs₂).take k) seen = .ok es ∧ c = ⟨h, seen ++ es⟩) ∧
    (∀ es, runAll s (hs₁ ++ hs₂) seen = .ok es ↔ ∃ parts, parts.length = (hs₁ ++ hs₂).length ∧
      List.Forall₂ (Call.Gives s) (calls s (hs₁ ++ hs₂) seen) parts ∧ es = parts.flatten) ∧
    (∀ (h : Hook) (r : Returned), (∃ es, Yields h r es) ∨ ∃ f, Refused h r f) ∧
    ∀ (h : Hook) (r : Returned) (f : HookFault) (es : List Entry), runAll s hs₁ seen = .ok es →
      h.work s (seen ++ es) = .ok r → Refused h r f →
      runAll s (hs₁ ++ h :: hs₂) seen = .error (.hook f) ∧
        calls s (hs₁ ++ h :: hs₂) seen = calls s hs₁ seen ++ [⟨h, seen ++ es⟩] ∧
        ∃ rest, f.message = "Hook '" ++ h.name ++ rest := by
  refine ⟨runAll_append s hs₁ hs₂ seen, ?_, getElem?_calls _ _, runAll_eq_ok_iff _ _,
    yields_or_refused, ?_⟩
  · intro m _ _ as₁ as₂
    exact Actor.runAll_append s as₁ as₂ seen
  · intro h r f es hrun hwork hr
    obtain ⟨herror, hcalls⟩ := runAll_of_refused hs₂ hrun hwork hr
    exact ⟨herror, hcalls, hr.message⟩

/-- A hook that counts the entries it is shown. -/
def readme : Hook :=
  ⟨"readme", false, fun _ seen => .ok (.items [.entry (.file
    ⟨"types/readme.d.ts", "// " ++ toString seen.length ++ " entries", true⟩)])⟩

/-- A function that returns an entry in place of a list of entries. -/
def lone : Hook := ⟨"lone", true, fun _ _ => .ok (.single true)⟩

theorem runAll_composes_lone : ∃ s es,
    Settings.resolve [] (.ofString "/project") (.json (.obj [])) = .ok s ∧
    runAll s [readme] [.module "wxt/vite-builder-env"] = .ok es ∧
    runAll s ([readme] ++ lone :: [readme]) [.module "wxt/vite-builder-env"] =
      .error (.hook (.notIterable "lone")) ∧
    calls s ([readme] ++ lone :: [readme]) [.module "wxt/vite-builder-env"] =
      calls s [readme] [.module "wxt/vite-builder-env"] ++
        [⟨lone, [.module "wxt/vite-builder-env"] ++ es⟩] := by
  obtain ⟨s, hs⟩ : ∃ s, Settings.resolve [] (.ofString "/project") (.json (.obj [])) = .ok s :=
    ⟨_, rfl⟩
  obtain ⟨-, -, -, -, -, hstop⟩ := runAll_composes s [readme] [readme]
    [.module "wxt/vite-builder-env"]
  have hlone : Refused lone (.single true) (.notIterable "lone") := .single (by simp)
  obtain ⟨herror, hcalls, -⟩ := hstop lone (.single true) (.notIterable "lone") _ rfl rfl hlone
  exact ⟨s, _, hs, rfl, herror, hcalls⟩

end Hook

end ExtTypes
