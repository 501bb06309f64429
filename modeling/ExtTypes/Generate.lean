import ExtTypes.Declaration.Globals
import ExtTypes.Declaration.Imports
import ExtTypes.Declaration.Lint
import ExtTypes.Declaration.Messages
import ExtTypes.Declaration.Paths
import ExtTypes.Declaration.Reference
import ExtTypes.Declaration.Tsconfig
import ExtTypes.Hook
import ExtTypes.Writer

/-! A run: all entries are collected first, then the files among them are written below the output
directory. -/
namespace ExtTypes.Generate

/-- The module that declares what every build has. -/
def builderModule : String := "wxt/vite-builder-env"

/-- The modules to refer to. Those of the project itself are known anyway. -/
def moduleEntries (s : Settings) : List Entry :=
  .module builderModule ::
    ((s.modules.filter fun m => m.kind = .package ∧ m.configKey?.isSome).map fun m => .module m.id)

def importEntries (s : Settings) : Action (List Entry) :=
  match s.imports? with
  | none => do
    Action.note .debug "generator" "Auto-imports disabled"
    pure []
  | some o => do
    let (declarations, scanner) ← Declaration.importsEntry s ⟨o.presets, []⟩ o.dirs
    if o.lint.enabled then
      let lint ← Declaration.lintEntry scanner o.lint
      pure [.file declarations, .file lint]
    else pure [.file declarations]

/-- Whether the project has locales. -/
def hasLocales (files : FileSystem) (s : Settings) : Except Failure Bool :=
  (files.find [] (s.publicDir.path.child "_locales")).map Option.isSome

def messageEntries (files : FileSystem) (s : Settings) : Except Failure (List Entry) := do
  if ← hasLocales files s then
    let f ← Declaration.messagesEntry files s
    return [.file f]
  else return []

/-- Hooks that are given, or that are looked for where the settings say. -/
inductive HookSource
  | given (hooks : List Hook)
  | plugins (p : Plugins)

def HookSource.hooks (s : Settings) : HookSource → Except Failure (List Hook)
  | .given hooks => .ok hooks
  | .plugins p => p.discover s.hooks

def hookEntries (s : Settings) (source : HookSource) (seen : List Entry) :
    Action (List Entry) := do
  let hooks ← Action.ofExcept (source.hooks s)
  let added ← Action.ofExcept (Hook.runAll s hooks seen)
  if added.isEmpty then pure ()
  else Action.note .debug "generator" ("Hooks added " ++ toString added.length ++ " entries")
  pure added

/-- All entries of a run, in order. -/
def collect (s : Settings) (entrypoints : List Entrypoint) (source : HookSource) :
    Action (List Entry) := do
  let imports ← importEntries s
  let paths ← Action.look fun files => Declaration.pathsEntry files s entrypoints
  let messages ← Action.look fun files => messageEntries files s
  let own := moduleEntries s ++ imports ++ [.file paths] ++ messages ++
    [.file (Declaration.globalsEntry s), .file (Declaration.tsconfigEntry s)]
  let added ← hookEntries s source own
  let entries := own ++ added
  pure (entries ++ [.file (Declaration.referenceEntry s entries)])

/-- The files of the entries, with the paths where they are written. -/
def targets (s : Settings) (entries : List Entry) : List FileEntry :=
  (entries.filterMap Entry.file?).map fun f =>
    { f with path := (s.outputDir.path.child f.path).text }

structure Result where
  entries : List Entry
  writes : List WriteResult
  deriving DecidableEq, Repr

namespace Result

def written (r : Result) : Nat := (r.writes.filter (·.written)).length

def unchanged (r : Result) : Nat := (r.writes.filter (! ·.written)).length

/-- What is said of the files when all are written. -/
def summary (r : Result) : String :=
  toString r.written ++ " written, " ++ toString r.unchanged ++ " unchanged"

end Result

/-- Writes what was collected. -/
def write (s : Settings) (entries : List Entry) : Action Result := do
  entries.forM fun e => Action.note .debug "generator" ("Entry " ++ e.title)
  let r : Result := ⟨entries, ← Writer.writeAll (targets s entries)⟩
  Action.note .info "generator" ("Types ready: " ++ r.summary)
  pure r

/-- Generates all files of a project. The directory is made even if nothing can be collected for
it. -/
def run (s : Settings) (entrypoints : List Entrypoint) (source : HookSource) : Action Result := do
  Action.note .info "generator" ("Generating types in " ++ s.outputDir.text)
  Action.change fun files => files.makeDirs [] s.typesDir.path
  let entries ← collect s entrypoints source
  write s entries

end ExtTypes.Generate
