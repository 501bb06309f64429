import ExtTypes.FileSystem.Disk

/-! Log records, and the handlers that take them to the console and to files. A record gets past the
level of the logger first, and then past that of each handler. Setting the log up again takes the
handlers off that were put on before. -/
namespace ExtTypes.Log

/-- The weight of a record. Any number can be one, and some have names. -/
structure Level where
  rank : Int
  deriving DecidableEq, Repr

namespace Level

def debug : Level := ⟨10⟩

def info : Level := ⟨20⟩

def warning : Level := ⟨30⟩

def error : Level := ⟨40⟩

def critical : Level := ⟨50⟩

/-- The levels that have names. -/
def names : List (Level × String) :=
  [(debug, "DEBUG"), (info, "INFO"), (warning, "WARNING"), (error, "ERROR"),
    (critical, "CRITICAL")]

def text (l : Level) : String := (names.lookup l).getD ("Level " ++ toString l.rank)

end Level

/-- The name of the program, which all its loggers share. -/
def programName : String := "declgen"

/-- The full name of the logger of a part of the program. -/
def loggerName (part : String) : String :=
  if part = "" then programName else programName ++ "." ++ part

structure Record where
  level : Level
  /-- The full name of the logger. -/
  logger : String
  text : String
  deriving DecidableEq, Repr

namespace Record

def consoleLine (r : Record) : String :=
  "[" ++ programName ++ "] " ++ r.level.text ++ " " ++ r.text ++ "\n"

/-- The line in a log file, after the time of the record. -/
def fileLine (r : Record) : String :=
  r.level.text ++ " " ++ r.logger ++ ": " ++ r.text ++ "\n"

end Record

/-- Where a handler writes. -/
inductive Target
  | console
  | file (l : Location)
  deriving DecidableEq

/-- Writes what has its least level or more. -/
structure Handler where
  least : Level
  target : Target
  deriving DecidableEq

/-- What the loggers of the program share: a level, and handlers in the order of their being put
on. -/
structure Sinks where
  least : Level
  handlers : List Handler
  deriving DecidableEq

namespace Sinks

/-- What there is before anything has been set up. -/
def unset : Sinks := ⟨.warning, []⟩

def add (s : Sinks) (h : Handler) : Sinks := { s with handlers := s.handlers ++ [h] }

def remove (s : Sinks) (h : Handler) : Sinks := { s with handlers := s.handlers.erase h }

/-- Takes off one handler after the other. -/
def reset (s : Sinks) : Sinks := s.handlers.foldl remove s

end Sinks

/-- What has been set up, the records on the console, and the files. -/
structure State where
  sinks : Sinks
  /-- What stands in front of a line of a log file: the time. -/
  stamp : String
  shown : List Record
  files : FileSystem

/-- The path of a log file, made absolute. -/
def absolutePath (cwd : Location) (p : Path) : Path :=
  ⟨if p.anchor = .doubleRoot then .doubleRoot else .root, (p.collapse cwd).map .name⟩

/-- Opens a file for more text at its end. -/
def openFile (fs : FileSystem) (cwd : Location) (p : Path) :
    Except Failure (Location × FileSystem) :=
  let l := p.collapse cwd
  let path := absolutePath cwd p
  match fs.read [] path with
  | .ok _ => .ok (l, fs)
  | .error (.disk .notFound _) =>
    match fs.write [] path ByteArray.empty with
    | (.ok (), fs') => .ok (l, fs')
    | (.error e, _) => .error e
  | .error e => .error e

/-- The handlers for the console, and for the file if one is given. The file is opened. -/
def openHandlers (fs : FileSystem) (cwd : Location) (least : Level) :
    Option Path → Except Failure (List Handler × FileSystem)
  | none => .ok ([⟨least, .console⟩], fs)
  | some p =>
    match openFile fs cwd p with
    | .error e => .error e
    | .ok (l, fs) => .ok ([⟨least, .console⟩, ⟨least, .file l⟩], fs)

namespace State

/-- Sets up the console, and the file if one is given, in place of what has been set up before. -/
def configure (s : State) (cwd : Location) (verbose : Bool) (file? : Option Path) :
    Except Failure State :=
  let least := if verbose then Level.debug else Level.info
  let sinks := Sinks.reset { s.sinks with least }
  match openHandlers s.files cwd least file? with
  | .error e => .error e
  | .ok (handlers, fs) => .ok { s with sinks := handlers.foldl Sinks.add sinks, files := fs }

/-- The files with more text at the end of the one at `l`. -/
def appendText (fs : FileSystem) (l : Location) (text : String) : FileSystem :=
  match fs.node? l with
  | some (.file b) => fs.writeFile l (b ++ text.toUTF8)
  | _ => fs

/-- Hands a record to a handler. -/
def handle (r : Record) (s : State) (h : Handler) : State :=
  if h.least.rank ≤ r.level.rank then
    match h.target with
    | .console => { s with shown := s.shown ++ [r] }
    | .file l => { s with files := appendText s.files l (s.stamp ++ r.fileLine) }
  else s

/-- Logs a record. -/
def record (s : State) (r : Record) : State :=
  if s.sinks.least.rank ≤ r.level.rank then s.sinks.handlers.foldl (handle r) s else s

/-- The text on the console. -/
def console (s : State) : String :=
  String.ofList (s.shown.flatMap fun r => r.consoleLine.toList)

end State

end ExtTypes.Log
