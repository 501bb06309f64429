import ExtTypes.Import.Session
import ExtTypes.Proofs.Import.Names

/-! What a scanner knows after any requests. A scan does not look at the scanner, and one that fails
does not change it, wherever it fails. Main statement: `Session.serve_after`. -/
namespace ExtTypes

open Log (State)

namespace Scanner

/-- What a scan does without a scanner. -/
def find (source : Path) (dirs : List String) : Action (List Import) := do
  if ← Action.look fun files => files.pathIsDir [] source then
    let found ← scanDirs source dirs
    Action.note .debug "imports"
      ("Indexed " ++ toString found.length ++ " imports under " ++ source.text)
    pure found
  else Action.ofExcept (.error (.noSourceDir source.text))

theorem find_logs (source : Path) (dirs : List String) : Action.Logs (find source dirs) := by
  refine .bind (.look _) fun isDir => ?_
  cases isDir with
  | true => exact .bind (scanDirs_logs source dirs) fun _ => .bind (.note _ _ _) fun _ => .pure _
  | false => exact .ofExcept _

theorem scan_apply (sc : Scanner) (source : Path) (dirs : List String) (σ : State) :
    sc.scan source dirs σ =
      match find source dirs σ with
      | (.ok found, τ) => (.ok { sc with scanned := found }, τ)
      | (.error e, τ) => (.error e, τ) := by
  unfold scan find
  rw [Action.bind_apply, Action.bind_apply, Action.look_apply]
  rcases σ.files.pathIsDir [] source with e | _ | _
  · rfl
  · rfl
  · simp only [if_true]
    rw [Action.bind_apply, Action.bind_apply]
    rcases scanDirs source dirs σ with ⟨e | found, τ⟩ <;> rfl

/-- The imports of one directory, as the files are. -/
def foundIn (files : FileSystem) (base : Path) : Except Failure (List Import) :=
  match files.dirAt? [] base with
  | .error e => .error e
  | .ok none => .ok []
  | .ok (some l) => scanBelow files base l

theorem scanDir_fst (base : Path) (σ : State) : (scanDir base σ).1 = foundIn σ.files base := by
  unfold scanDir foundIn
  rw [Action.bind_apply, Action.look_apply]
  rcases σ.files.dirAt? [] base with e | _ | l <;> rfl

/-- Without a log file among the files, the scan of one directory does not show to that of the next
one. -/
theorem scanDirs_ok_iff (source : Path) (dirs : List String) {σ : State} (hno : σ.logFiles = ∅) :
    (∃ found, (scanDirs source dirs σ).1 = .ok found) ↔
      ∀ d ∈ dirs, ∃ is, foundIn σ.files (source.child d) = .ok is := by
  induction dirs generalizing σ with
  | nil => simp [scanDirs, Pure.pure]
  | cons d dirs ih =>
    have hfst := scanDir_fst (source.child d) σ
    have hlogged := scanDir_logs (source.child d) σ
    rw [List.forall_mem_cons, ← hfst]
    rcases hscan : scanDir (source.child d) σ with ⟨e | is, τ⟩
    · have hfail : scanDirs source (d :: dirs) σ = (.error e, τ) := Action.bind_of_error hscan
      simp [hfail]
    · rw [hscan] at hlogged
      have hrest := ih (hlogged.logFiles.trans hno)
      rw [hlogged.same hno] at hrest
      rw [← hrest]
      have hnext : scanDirs source (d :: dirs) σ =
          (do let rest ← scanDirs source dirs; pure (is ++ rest) : Action _) τ :=
        Action.bind_of_ok hscan
      rw [hnext]
      rcases hdirs : scanDirs source dirs τ with ⟨e | rest, υ⟩
      · rw [Action.bind_of_error hdirs]
        simp
      · rw [Action.bind_of_ok hdirs]
        simp [Pure.pure]

/-- A scan succeeds if the place is a directory and all that is looked at can be read. -/
theorem find_ok_iff (source : Path) (dirs : List String) {σ : State} (hno : σ.logFiles = ∅) :
    (∃ found, (find source dirs σ).1 = .ok found) ↔ σ.files.pathIsDir [] source = .ok true ∧
      ∀ d ∈ dirs, ∃ is, foundIn σ.files (source.child d) = .ok is := by
  rw [← scanDirs_ok_iff source dirs hno]
  unfold find
  rw [Action.bind_apply, Action.look_apply]
  rcases σ.files.pathIsDir [] source with e | _ | _
  · simp
  · simp [Action.ofExcept]
  · simp only [if_true]
    rw [Action.bind_apply]
    rcases scanDirs source dirs σ with ⟨e | found, τ⟩
    · simp
    · exact iff_of_true ⟨found, rfl⟩ ⟨trivial, found, rfl⟩

end Scanner

namespace Session

variable {α β : Type} {s t : Scanner × State} {sc : Scanner} {σ τ : State}

theorem bind_of_ok {x : Session α} {f : α → Session β} {a : α} (h : x s = (.ok a, t)) :
    (x >>= f) s = f a t := by
  simp only [bind, h]

theorem bind_of_error {x : Session α} {f : α → Session β} {e : Failure}
    (h : x s = (.error e, t)) : (x >>= f) s = (.error e, t) := by
  simp only [bind, h]

theorem act_of_eq {f : Scanner → Action α} {r : Except Failure α} (h : f sc σ = (r, τ)) :
    act f (sc, σ) = (r, (sc, τ)) := by
  simp only [act, h]

theorem bind_act (f : Scanner → Action α) (g : α → Session β) (sc : Scanner) (σ : State) :
    (act f >>= g) (sc, σ) =
      match f sc σ with
      | (.ok a, τ) => g a (sc, τ)
      | (.error e, τ) => (.error e, (sc, τ)) := by
  rcases h : f sc σ with ⟨e | a, τ⟩
  · exact bind_of_error (act_of_eq h)
  · exact bind_of_ok (act_of_eq h)

/-- What is found takes the place of what was found before; a failure leaves that as it is. -/
theorem scan_apply (source : Path) (dirs : List String) (sc : Scanner) (σ : State) :
    scan source dirs (sc, σ) =
      match Scanner.find source dirs σ with
      | (.ok found, τ) => (.ok found, (⟨sc.presets, found⟩, τ))
      | (.error e, τ) => (.error e, (sc, τ)) := by
  unfold scan Scanner.find
  rw [bind_act, Action.bind_apply, Action.look_apply]
  rcases σ.files.pathIsDir [] source with e | _ | _
  · rfl
  · rfl
  · simp only [if_true]
    rw [bind_act, Action.bind_apply]
    rcases Scanner.scanDirs source dirs σ with ⟨e | found, τ⟩ <;> rfl

/-- A scan by itself tells the scanner that a session has after it. -/
theorem scan_eq (source : Path) (dirs : List String) (sc : Scanner) (σ : State) :
    scan source dirs (sc, σ) =
      match sc.scan source dirs σ with
      | (.ok sc', τ) => (.ok sc'.scanned, (sc', τ))
      | (.error e, τ) => (.error e, (sc, τ)) := by
  rw [scan_apply, Scanner.scan_apply]
  rcases Scanner.find source dirs σ with ⟨e | found, τ⟩ <;> rfl

/-- What is known of these presets and of what the last scan found. -/
def known (presets found : List Import) : List Import := (Import.sift [] (presets ++ found)).1

def declarationsOf (cwd : Location) (start? : Option Path) (is : List Import) : String :=
  Text.joinText "\n"
    (["export \x7b\x7d", "declare global \x7b"] ++ Declaration.importLines cwd start? is ++ ["\x7d"])

/-- The scanner after these requests, each with the log and the files as they are then. -/
def after (sc : Scanner) : List (Request × State) → Scanner
  | [] => sc
  | (r, σ) :: history => after (serve r (sc, σ)).2.1 history

/-- What a request finds, if it is a scan and succeeds. -/
def found? : Request × State → Option (List Import)
  | (.scan source dirs, σ) => (Scanner.find source dirs σ).1.toOption
  | (.imports, _) | (.declarations .., _) => none

/-- What the last scan that succeeded has found. -/
def lastFound (history : List (Request × State)) : List Import :=
  (history.filterMap found?).getLast?.getD []

/-- The answer to a request, by the presets and what the last scan found. -/
def answer (presets found : List Import) (σ : State) : Request → Except Failure Answer
  | .scan source dirs => (Scanner.find source dirs σ).1.map .imports
  | .imports => .ok (.imports (known presets found))
  | .declarations cwd start? => .ok (.text (declarationsOf cwd start? (known presets found)))

/-- Only a scan that succeeds changes what a scanner knows, and no request changes a file other than
the log file. -/
theorem serve_apply (r : Request) (sc : Scanner) (σ : State) :
    ∃ τ, serve r (sc, σ) = (answer sc.presets sc.scanned σ r,
        (⟨sc.presets, (found? (r, σ)).getD sc.scanned⟩, τ)) ∧ State.Logged σ τ := by
  cases r with
  | scan source dirs =>
    have hlogged := Scanner.find_logs source dirs σ
    have hscan := scan_apply source dirs sc σ
    rcases hfind : Scanner.find source dirs σ with ⟨e | found, τ⟩
    · rw [hfind] at hscan hlogged
      refine ⟨τ, (bind_of_error hscan).trans ?_, hlogged⟩
      simp [answer, found?, hfind, Except.map, Except.toOption]
    · rw [hfind] at hscan hlogged
      refine ⟨τ, (bind_of_ok hscan).trans ?_, hlogged⟩
      simp [answer, found?, hfind, Except.map, Except.toOption, Pure.pure]
  | imports =>
    obtain ⟨τ, hτ, hlogged⟩ := sc.imports_apply σ
    exact ⟨τ, bind_of_ok (act_of_eq hτ), hlogged⟩
  | declarations cwd start? =>
    obtain ⟨τ, hτ, hlogged⟩ := sc.imports_apply σ
    have htext : Declaration.importsText cwd sc start? σ =
        (.ok (declarationsOf cwd start? sc.sifted.1), τ) := Action.bind_of_ok hτ
    exact ⟨τ, bind_of_ok (act_of_eq htext), hlogged⟩

theorem after_eq (presets found : List Import) (history : List (Request × State)) :
    after ⟨presets, found⟩ history =
      ⟨presets, (history.filterMap found?).getLast?.getD found⟩ := by
  induction history generalizing found with
  | nil => rfl
  | cons step history ih =>
    obtain ⟨r, σ⟩ := step
    obtain ⟨τ, hserve, -⟩ := serve_apply r ⟨presets, found⟩ σ
    rw [after, hserve, ih]
    cases h : found? (r, σ) with
    | none => simp [h]
    | some js => simp [h, List.getLast?_cons]

/-- After any requests, all that a scanner tells is told by its presets and by what the last scan that
succeeded has found: the answer to the next request, and the scanner after that. A scan finds the same
whatever the scanner is. It fails as a whole if there is no directory to scan or anything in it cannot
be read, and no request changes a file other than the log file. -/
theorem serve_after (presets : List Import) (history : List (Request × State)) (σ : State) :
    (∀ r, ∃ τ, State.Logged σ τ ∧
      serve r (after ⟨presets, []⟩ history, σ) = (answer presets (lastFound history) σ r,
        (⟨presets, (found? (r, σ)).getD (lastFound history)⟩, τ))) ∧
      (σ.logFiles = ∅ → ∀ source dirs, found? (.scan source dirs, σ) ≠ none ↔
        σ.files.pathIsDir [] source = .ok true ∧
          ∀ d ∈ dirs, ∃ is, Scanner.foundIn σ.files (source.child d) = .ok is) := by
  constructor
  · intro r
    obtain ⟨τ, hserve, hlogged⟩ := serve_apply r (after ⟨presets, []⟩ history) σ
    refine ⟨τ, hlogged, ?_⟩
    rw [hserve, after_eq]
    rfl
  · intro hno source dirs
    rw [← Scanner.find_ok_iff source dirs hno, found?]
    cases (Scanner.find source dirs σ).1 <;> simp [Except.toOption]

/-- The disk of the project with one more directory, and a file in it whose bytes are no text. -/
def brokenDisk : FileSystem :=
  (Declaration.sourceDisk.makeDirs [] (Path.ofString "/project/hooks")).2.writeFile
    (Generate.sample.root ++ [⟨"hooks", by decide⟩, ⟨"zip.ts", by decide⟩]) ⟨#[0xFF]⟩

/-- A scan, and a second one that fails after it has read the first of two directories. -/
def twoScans : List (Request × State) := [
  (.scan (Path.ofString "/project") ["utils"], Generate.quiet Declaration.sourceDisk),
  (.scan (Path.ofString "/project") ["utils", "hooks"], Generate.quiet brokenDisk)]

/-- Then the imports are still those of the first scan. -/
theorem serve_after_failed_scan : twoScans.filterMap found? =
      [[⟨"count", "/project/utils/ref.ts", none⟩,
        ⟨"default", "/project/utils/ref.ts", some "ref"⟩]] ∧
    (serve .imports (after ⟨[⟨"ref", "vue", none⟩], []⟩ twoScans, Generate.quiet brokenDisk)).1 =
      .ok (.imports [⟨"ref", "vue", none⟩, ⟨"count", "/project/utils/ref.ts", none⟩]) := by
  have hfound : twoScans.filterMap found? = [[⟨"count", "/project/utils/ref.ts", none⟩,
      ⟨"default", "/project/utils/ref.ts", some "ref"⟩]] := by
    decide +kernel
  obtain ⟨τ, -, hserve⟩ := (serve_after [⟨"ref", "vue", none⟩] twoScans
    (Generate.quiet brokenDisk)).1 .imports
  refine ⟨hfound, ?_⟩
  rw [hserve, lastFound, hfound]
  show Except.ok (Answer.imports _) = _
  decide

end Session

end ExtTypes
