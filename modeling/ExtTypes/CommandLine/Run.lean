import ExtTypes.CommandLine.Arguments
import ExtTypes.Generate
import ExtTypes.Settings.Load

/-! A run of the program: what it prints, how it ends, and the files after it. -/
namespace ExtTypes.CommandLine

structure Outcome where
  /-- Nothing if the run ends in a failure that the program does not report. -/
  exit? : Option Nat
  output : String
  console : String
  failure? : Option Failure
  files : FileSystem

/-- What is said of a failure, if the program reports it. -/
def report? (e : Failure) : Option String :=
  match e.kind with
  | .configuration => some ("Invalid configuration: " ++ e.message ++ "\n")
  | .bundle => some ("Invalid message bundle: " ++ e.message ++ "\n")
  | .encoding =>
    some ("declgen prepare failed: input is not valid UTF-8: " ++ e.message ++ "\n")
  | .run =>
    some ("declgen prepare failed: " ++ e.message ++ "\nRun with --verbose for more details.\n")
  | .typeMismatch | .unexpected => none

/-- A directory as seen from the current one, if it is below that. -/
def shownDir (cwd l : Location) : String :=
  if cwd.isPrefixOf l then Path.text ⟨.relative, (l.drop cwd.length).map .name⟩ else l.text

def summary (cwd : Location) (s : Settings) (r : Generate.Result) : String :=
  "Types generated in " ++ shownDir cwd s.outputDir ++ " (" ++ r.summary ++ ")\n"

/-- Generates the types of the project at a path. -/
def prepare (env : Surroundings) (plugins : Plugins) (path : String) :
    Action (Settings × Generate.Result) := do
  let s ← Action.look fun files => Settings.load files env (Path.ofString path)
  let es ← Action.look fun files => Entrypoint.discover files s
  Action.note .debug "cli" ("Found " ++ toString es.length ++ " entrypoints")
  let r ← Generate.run s es (.plugins plugins)
  pure (s, r)

/-- Sets up the log as the arguments say. -/
def setUpLog (env : Surroundings) (a : Arguments) (state : Log.State) : Except Failure Log.State :=
  match a.log with
  | .console => state.configure env.cwd a.verbose none
  | .file path => state.configure env.cwd a.verbose (some (Path.ofString path))
  | .empty => .error (.type .listAsPath)

/-- How a run ends that has set up its log. -/
def Outcome.ofResult (env : Surroundings) (state : Log.State) :
    Except Failure (Settings × Generate.Result) → Outcome
  | .ok (s, r) => ⟨some 0, summary env.cwd s r, state.console, none, state.files⟩
  | .error e =>
    match report? e with
    | some text => ⟨some 1, "", state.console ++ text, none, state.files⟩
    | none => ⟨none, "", state.console, some e, state.files⟩

/-- Runs the program; `stamp` is the time in front of the lines of a log file. -/
def run (env : Surroundings) (plugins : Plugins) (stamp : String) (files : FileSystem)
    (args : List String) : Outcome :=
  match parse args with
  | .error (.help scope) => ⟨some 0, scope.help, "", none, files⟩
  | .error (.fault scope f) =>
    ⟨some 2, "", scope.usage ++ scope.title ++ ": error: " ++ f.message ++ "\n", none, files⟩
  | .ok a =>
    match setUpLog env a ⟨.unset, stamp, [], files⟩ with
    | .error e => ⟨none, "", "", some e, files⟩
    | .ok state =>
      let (result, state) := prepare env plugins a.path state
      .ofResult env state result

end ExtTypes.CommandLine
