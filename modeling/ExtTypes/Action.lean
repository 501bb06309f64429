import ExtTypes.Log

/-! What a run does step by step: it looks at the files, changes them, and logs. A log file is one
of the files, so that a later step sees what has been logged before it. -/
namespace ExtTypes

/-- A computation on files that logs and can fail; what it did before a failure stays. -/
def Action (α : Type) : Type := Log.State → Except Failure α × Log.State

namespace Action

instance : Monad Action where
  pure a := fun s => (.ok a, s)
  bind x f := fun s =>
    match x s with
    | (.ok a, s') => f a s'
    | (.error e, s') => (.error e, s')

def ofExcept {α : Type} (x : Except Failure α) : Action α := fun s => (x, s)

/-- What the files show. -/
def look {α : Type} (f : FileSystem → Except Failure α) : Action α := fun s => (f s.files, s)

/-- A change of the files. -/
def change {α : Type} (f : FileSystem → FileSystem.Outcome α) : Action α := fun s =>
  ((f s.files).1, { s with files := (f s.files).2 })

def log (r : Log.Record) : Action Unit := fun s => (.ok (), s.record r)

/-- Logs a text for a part of the program. -/
def note (level : Log.Level) (part text : String) : Action Unit :=
  log ⟨level, Log.loggerName part, text⟩

end Action

end ExtTypes
