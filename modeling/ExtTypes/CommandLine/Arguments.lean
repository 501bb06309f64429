import ExtTypes.Decimal.Numeral
import ExtTypes.Text.Fields
import ExtTypes.Text.Quoted

/-! The arguments of the program: switches, of which long ones may be cut short and short ones may
stand together, and one command with switches and a path of its own. -/
namespace ExtTypes.CommandLine

inductive Switch
  | help
  | verbose
  | logFile
  deriving DecidableEq, Repr

namespace Switch

def names : Switch → List String
  | help => ["-h", "--help"]
  | verbose => ["-v", "--verbose"]
  | logFile => ["--log-file"]

/-- Whether a value follows the switch. -/
def takesValue (s : Switch) : Bool := s = logFile

def title (s : Switch) : String := Text.joinText "/" s.names

end Switch

/-- The program itself, or its command. -/
inductive Scope
  | program
  | prepare
  deriving DecidableEq, Repr

namespace Scope

def switches : Scope → List Switch
  | program => [.help, .verbose, .logFile]
  | prepare => [.help, .verbose]

def title : Scope → String
  | program => "declgen"
  | prepare => "declgen prepare"

def usage : Scope → String
  | program => "usage: declgen [-h] [-v] [--log-file LOG_FILE] \x7bprepare\x7d ...\n"
  | prepare => "usage: declgen prepare [-h] [-v] [path]\n"

def help : Scope → String
  | program =>
    program.usage ++ "\n" ++
    "Generate type declarations for an extension project's build surface.\n\n" ++
    "positional arguments:\n" ++
    "  \x7bprepare\x7d\n" ++
    "    prepare            Generate the types directory and tsconfig.json.\n\n" ++
    "options:\n" ++
    "  -h, --help           show this help message and exit\n" ++
    "  -v, --verbose        Increase log verbosity for troubleshooting.\n" ++
    "  --log-file LOG_FILE  Also write logs to this file.\n"
  | prepare =>
    prepare.usage ++ "\n" ++
    "positional arguments:\n" ++
    "  path           Path to the project root (defaults to current directory).\n\n" ++
    "options:\n" ++
    "  -h, --help     show this help message and exit\n" ++
    "  -v, --verbose  Increase log verbosity for troubleshooting.\n"

end Scope

inductive ArgumentFault
  | noValue (s : Switch)
  | unusedValue (s : Switch) (value : String)
  | ambiguous (arg : String) (names : List String)
  | noCommand
  | unknownCommand (name : String)
  | unrecognized (args : List String)
  deriving DecidableEq, Repr

def ArgumentFault.message : ArgumentFault → String
  | noValue s => "argument " ++ s.title ++ ": expected one argument"
  | unusedValue s v =>
    "argument " ++ s.title ++ ": ignored explicit argument " ++ Text.quoted v
  | ambiguous arg names =>
    "ambiguous option: " ++ arg ++ " could match " ++ Text.joinText ", " names
  | noCommand => "the following arguments are required: command"
  | unknownCommand name =>
    "argument command: invalid choice: " ++ Text.quoted name ++ " (choose from 'prepare')"
  | unrecognized args => "unrecognized arguments: " ++ Text.joinText " " args

/-- Where lines of the log go besides the console. -/
inductive LogTarget
  | console
  | file (path : String)
  /-- What is left of a value that is only a divider. -/
  | empty
  deriving DecidableEq, Repr

/-- The log file that a value stands for; a divider does not count as one. -/
def LogTarget.ofValue (v : String) : LogTarget := if v = "--" then empty else file v

/-- What the arguments ask for. -/
structure Arguments where
  verbose : Bool
  log : LogTarget
  path : String
  deriving DecidableEq, Repr

/-- Why there is nothing to run. -/
inductive Stop
  | help (scope : Scope)
  | fault (scope : Scope) (f : ArgumentFault)
  deriving DecidableEq, Repr

/-- What an argument is in its place. -/
inductive Word
  | switch (s : Switch) (isShort : Bool) (value? : Option String)
  | unknown (text : String)
  | plain (text : String)
  | divider
  deriving DecidableEq, Repr

namespace Word

def isShortName (s : List Char) : Bool := s.drop 1 |>.head? |>.any (· ≠ '-')

/-- The names of the switches of a scope, each with its switch. -/
def named (scope : Scope) : List (String × Switch) :=
  scope.switches.flatMap fun s => s.names.map fun n => (n, s)

/-- The text before the first equals sign and the text after it. -/
def cutValue (s : List Char) : List Char × Option String :=
  match Text.cutAt? ['='] s with
  | some (a, b) => (a, some (String.ofList b))
  | none => (s, none)

/-- The switches that an argument may mean, each with its name and value. A long name may be cut
short; a short name may have its value right after it. -/
def candidates (scope : Scope) (s : List Char) : List (String × Switch × Option String) :=
  if isShortName s then
    (named scope).filterMap fun (n, x) =>
      if n.toList = s.take 2 then some (n, x, some (String.ofList (s.drop 2)))
      else if s.isPrefixOf n.toList then some (n, x, none)
      else none
  else
    let (start, value?) := cutValue s
    (named scope).filterMap fun (n, x) =>
      if start.isPrefixOf n.toList then some (n, x, value?) else none

def allDigits (s : List Char) : Bool := s.all fun c => (Text.decimalValue? c).isSome

/-- Whether a text with a dash in front looks like a negative number. A line feed at its end does
not count. -/
def isNegative (s : List Char) : Bool :=
  let t := if s.getLast? = some '\n' then s.dropLast.drop 1 else s.drop 1
  let part := (t.dropWhile (· ≠ '.')).drop 1
  (! t.isEmpty && allDigits t) ||
    (t.contains '.' && allDigits (t.takeWhile (· ≠ '.')) && ! part.isEmpty && allDigits part)

def known (scope : Scope) (name : String) (value? : Option String) : Option Word :=
  ((named scope).lookup name).map fun x => switch x (isShortName name.toList) value?

/-- What an argument that is no divider is. -/
def ofText (scope : Scope) (text : String) : Except Stop Word :=
  let s := text.toList
  if s.head? ≠ some '-' then .ok (plain text)
  else match known scope text none with
    | some w => .ok w
    | none =>
      -- a dash alone is a value
      if s.length = 1 then .ok (plain text)
      else
        let (start, value?) := cutValue s
        match value?.bind fun v => known scope (String.ofList start) (some v) with
        | some w => .ok w
        | none =>
          match candidates scope s with
          | [(n, x, v?)] => .ok (switch x (isShortName n.toList) v?)
          | [] =>
            if isNegative s || s.contains ' ' then .ok (plain text) else .ok (unknown text)
          | cs => .error (.fault scope (.ambiguous text (cs.map (·.1))))

/-- What all arguments are; after a divider all are plain. -/
def ofTexts (scope : Scope) : List String → Except Stop (List Word)
  | [] => .ok []
  | "--" :: rest => .ok (divider :: rest.map plain)
  | a :: rest =>
    match ofText scope a with
    | .error e => .error e
    | .ok w => (ofTexts scope rest).map (w :: ·)

end Word

/-- The switches that stand behind a short one in the same argument. -/
def cluster (scope : Scope) (s : Switch) : List Char → Except Stop (List Switch)
  | [] => .ok [s]
  | c :: more =>
    match (Word.named scope).lookup (String.ofList ['-', c]) with
    | none => .error (.fault scope (.unusedValue s (String.ofList (c :: more))))
    | some s' => (cluster scope s' more).map (s :: ·)

/-- The switches of one argument that take no value. -/
def flags (scope : Scope) (s : Switch) (isShort : Bool) (value? : Option String) :
    Except Stop (List Switch) :=
  match value? with
  | none => .ok [s]
  | some v =>
    if isShort && v ≠ "" then cluster scope s v.toList
    else .error (.fault scope (.unusedValue s v))

/-- Says what the flags say, in their order. -/
def applyFlags (scope : Scope) (a : Arguments) : List Switch → Except Stop Arguments
  | [] => .ok a
  | .help :: _ => .error (.help scope)
  | .verbose :: ss => applyFlags scope { a with verbose := true } ss
  | .logFile :: ss => applyFlags scope a ss

/-- The arguments of the command: what they ask for, and those that mean nothing. `path?` is the path
if it has been found. -/
def readCommand : Arguments → Option String → List Word → Except Stop (Arguments × List String)
  | a, path?, [] => .ok ({ a with path := path?.getD "." }, [])
  | a, path?, .switch s isShort value? :: ws =>
    match flags .prepare s isShort value? with
    | .error e => .error e
    | .ok fs =>
      match applyFlags .prepare a fs with
      | .error e => .error e
      | .ok a => readCommand a path? ws
  | a, path?, .unknown t :: ws => (readCommand a path? ws).map fun (a, ex) => (a, t :: ex)
  -- the divider next to the path goes with it; any other one means nothing
  | a, none, .plain t :: .divider :: ws => readCommand a (some t) ws
  | a, none, .plain t :: ws => readCommand a (some t) ws
  | a, some p, .plain t :: ws => (readCommand a (some p) ws).map fun (a, ex) => (a, t :: ex)
  | a, none, .divider :: .plain t :: ws => readCommand a (some t) ws
  | a, none, .divider :: ws => readCommand a none ws
  | a, some p, .divider :: ws => (readCommand a (some p) ws).map fun (a, ex) => (a, "--" :: ex)

/-- The command with the arguments after its name. -/
def runCommand (a : Arguments) (extra : List String) (name : String) (rest : List String) :
    Except Stop Arguments :=
  if name ≠ "prepare" then .error (.fault .program (.unknownCommand name))
  else match Word.ofTexts .prepare rest with
    | .error e => .error e
    | .ok ws =>
      match readCommand a none ws with
      | .error e => .error e
      | .ok (a, []) =>
        if extra = [] then .ok a else .error (.fault .program (.unrecognized extra))
      | .ok (_, more) => .error (.fault .program (.unrecognized (extra ++ more)))

/-- The arguments up to the command, with the texts they come from. -/
def readProgram : Arguments → List String → List Word → List String → Except Stop Arguments
  | a, extra, .switch s isShort value? :: ws, _ :: ts =>
    if s.takesValue then
      match value?, ws, ts with
      | some v, ws, ts => readProgram { a with log := .ofValue v } extra ws ts
      | none, .plain t :: ws, _ :: ts => readProgram { a with log := .ofValue t } extra ws ts
      | none, _, _ => .error (.fault .program (.noValue s))
    else
      match flags .program s isShort value? with
      | .error e => .error e
      | .ok fs =>
        match applyFlags .program a fs with
        | .error e => .error e
        | .ok a => readProgram a extra ws ts
  | a, extra, .unknown t :: ws, _ :: ts => readProgram a (extra ++ [t]) ws ts
  -- the command reads the texts after its name anew, with its own switches
  | a, extra, .plain t :: _, _ :: ts => runCommand a extra t ts
  | a, extra, .divider :: _ :: _, _ :: ts => runCommand a extra "--" ts
  | _, _, _, _ => .error (.fault .program .noCommand)

/-- What the arguments of the program ask for. -/
def parse (args : List String) : Except Stop Arguments :=
  match Word.ofTexts .program args with
  | .error e => .error e
  | .ok ws => readProgram ⟨false, .console, "."⟩ [] ws args

end ExtTypes.CommandLine
