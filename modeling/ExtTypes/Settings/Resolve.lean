import ExtTypes.Decimal.Numeral
import ExtTypes.FileSystem.Disk
import ExtTypes.Settings.Basic
import ExtTypes.Value.Basic

/-! Settings from a configuration. A value of a wrong kind is a fault where only one kind makes
sense, and counts as missing where any text would do. -/
namespace ExtTypes

/-- The text of a value, unless it is too long. -/
def Scalar.shown (s : Scalar) : Except Failure String :=
  match s with
  | .int n => if Decimal.isWritable n then .ok s.text else .error (.value (.digits none))
  | s => .ok s.text

namespace View

/-- The text of a text or a number. -/
def asText? : View → Except Failure (Option String)
  | .scalar (.str s) => .ok (some s)
  | .scalar (.int n) => (Scalar.shown (.int n)).map some
  | .scalar (.real x) => .ok (some (Scalar.text (.real x)))
  | _ => .ok none

/-- `asText?` of a value that may be missing. -/
def textOf? : Option View → Except Failure (Option String)
  | some v => v.asText?
  | none => .ok none

/-- `textOf?` for a text that must not be empty. -/
def nonemptyText? (v? : Option View) : Except Failure (Option String) :=
  (textOf? v?).map fun t? => t?.filter (· ≠ "")

def asInt? : View → Option Int
  | .scalar (.int n) => some n
  | .scalar (.str s) => (Decimal.readInt 10 s.toList).toOption
  | _ => none

/-- The truth that a value says in one of the usual ways. -/
def asBool? : View → Option Bool
  | .scalar (.bool b) => some b
  | .scalar (.str s) =>
    let word := String.ofList ((Text.strip s.toList).map Char.toLower)
    if word = "true" ∨ word = "yes" ∨ word = "1" then some true
    else if word = "false" ∨ word = "no" ∨ word = "0" then some false
    else none
  | _ => none

/-- The text of an item that is a text, a number or a truth. -/
def itemText? : View → Except Failure (Option String)
  | .scalar (.bool b) => .ok (some (Scalar.text (.bool b)))
  | v => v.asText?

/-- The texts of the items that have one. -/
def itemTexts : List Value → Except Failure (List String)
  | [] => .ok []
  | v :: vs => do
    let t? ← v.view.itemText?
    return t?.toList ++ (← itemTexts vs)

/-- The texts in a list; a text alone is a list of one. -/
def asTexts : View → Except Failure (List String)
  | .scalar (.str s) => .ok [s]
  | .scalar (.bytes bs) => .ok (bs.map fun b => toString b.toNat)
  | .list items => itemTexts items
  | .pair a b => itemTexts [a, b]
  | _ => .ok []

/-- The entries of a mapping; none of anything else. -/
def entries : Option View → List (Scalar × Value)
  | some (.map es) => es
  | _ => []

/-- What stands under a name. -/
def lookup? (entries : List (Scalar × Value)) (name : String) : Option View :=
  (entries.find? fun e => e.1 = .str name).map fun e => e.2.view

/-- The kind of a value that holds no items. -/
def typeName : View → String
  | .scalar .null => "NoneType"
  | .scalar (.bool _) => "bool"
  | .scalar (.int _) => "int"
  | .scalar (.real _) => "float"
  | .scalar (.str _) => "str"
  | .scalar (.bytes _) => "bytes"
  | .scalar (.date _) => "datetime.date"
  | .scalar (.moment _) => "datetime.datetime"
  | .list _ => "list"
  | .pair _ _ => "tuple"
  | .set _ => "set"
  | .map _ => "dict"

/-- The items that a value holds: of a mapping its names, of a text its characters. -/
def items? : View → Option (List View)
  | .list items => some (items.map Value.view)
  | .pair a b => some [a.view, b.view]
  | .set items => some (items.map .scalar)
  | .map es => some (es.map fun e => .scalar e.1)
  | .scalar (.str s) => some (s.toList.map fun c => .scalar (.str (String.singleton c)))
  | .scalar (.bytes bs) => some (bs.map fun b => .scalar (.int b.toNat))
  | .scalar _ => none

end View

namespace Settings

/-- A directory as seen from `base`. -/
def resolveDir (links : Links) (base : Location) (v? : Option View) (default : String) :
    Except Failure Location := do
  let text := (← View.nonemptyText? v?).getD default
  FileSystem.resolve links [] (base.path.child text)

def fault {α : Type} (f : ConfigFault) : Except Failure α := .error (.config f)

def readManifestVersion (browser : String) (v? : Option View) : Except Failure ManifestVersion :=
  match v?.bind View.asInt? with
  | none => .ok (.default browser)
  | some n =>
    match ManifestVersion.ofInt? n with
    | some v => .ok v
    | none => do
      -- the version is shown in the message
      let _ ← Scalar.shown (.int n)
      fault (.manifestVersion n)

def readCommand (v? : Option View) : Except Failure Command := do
  let text := (← View.nonemptyText? v?).getD Command.build.text
  match Command.ofText? text with
  | some c => return c
  | none => fault (.command text)

/-- The aliases that every project has. -/
def defaultAliases (root source : Location) : List (String × Location) :=
  [("~~", root), ("@@", root), ("~", source), ("@", source)]

def addAliases (links : Links) (root : Location) :
    List (String × Location) → List (Scalar × Value) → Except Failure (List (String × Location))
  | acc, [] => .ok acc
  | acc, (name, target) :: es => do
    match ← View.nonemptyText? (some target.view) with
    | none => fault (.aliasTarget (← name.shown))
    | some t =>
      let l ← FileSystem.resolve links [] (root.path.child t)
      addAliases links root (putField (← name.shown) l acc) es

def readAliases (links : Links) (root source : Location) (v? : Option View) :
    Except Failure (List (String × Location)) :=
  match v? with
  | none | some (.scalar .null) => .ok (defaultAliases root source)
  | some (.map es) => addAliases links root (defaultAliases root source) es
  | some _ => fault .aliasShape

def readPreset (v : View) : Except Failure Import :=
  match v with
  | .map es => do
    match ← View.nonemptyText? (View.lookup? es "name") with
    | none => fault .importsEntry
    | some n =>
      match ← View.nonemptyText? (View.lookup? es "from") with
      | none => fault .importsEntry
      | some s => return ⟨n, s, ← View.nonemptyText? (View.lookup? es "as")⟩
  | _ => fault .importsEntry

def readPresets (v? : Option View) : Except Failure (List Import) :=
  match v? with
  | none => .ok []
  | some v =>
    if v.isTruthy then
      match v.items? with
      | some items => items.mapM readPreset
      | none => .error (.type (.notIterable v.typeName))
    else .ok []

def accessWords : List String := ["readonly", "readable", "writable", "writeable"]

def readAccess : View → Except Failure GlobalAccess
  | .scalar (.bool b) => .ok (.flag b)
  | .scalar (.str s) => if s ∈ accessWords then .ok (.word s) else fault .globalsValue
  | _ => fault .globalsValue

def readLint (v? : Option View) : Except Failure LintOptions :=
  match View.entries v? with
  | [] => .ok .default
  | es => do
    let enabled := ((View.lookup? es "enabled").bind View.asBool?).getD false
    let filePath := (← View.nonemptyText? (View.lookup? es "file_path")).getD
      LintOptions.default.filePath
    match View.lookup? es "globals_prop_value" with
    | none => .ok ⟨enabled, filePath, LintOptions.default.access⟩
    | some v => (readAccess v).map fun access => ⟨enabled, filePath, access⟩

def readImports (v? : Option View) : Except Failure (Option ImportOptions) :=
  match v? with
  | some (.scalar (.bool false)) => .ok none
  | none | some (.scalar .null) | some (.scalar (.bool true)) => .ok (some .default)
  | some (.map es) => do
    let dirs ← match View.lookup? es "dirs" with
      | some v => v.asTexts
      | none => pure ImportOptions.default.dirs
    let presets ← readPresets (View.lookup? es "imports")
    let lint ← readLint (View.lookup? es "eslintrc")
    return some ⟨dirs, presets, lint⟩
  | some _ => fault .importsShape

def readModule (v : View) : Except Failure BuildModule :=
  match v with
  | .scalar (.str s) => .ok ⟨s, .package, none⟩
  | .map es => do
    match ← View.nonemptyText? (View.lookup? es "id") with
    | none => fault .moduleId
    | some id =>
      let kind := (← View.nonemptyText? (View.lookup? es "type")).getD ModuleKind.package.text
      match ModuleKind.ofText? kind with
      | none => fault (.moduleKind kind id)
      | some k => return ⟨id, k, ← View.textOf? (View.lookup? es "config_key")⟩
  | _ => fault .moduleId

def readModules (v? : Option View) : Except Failure (List BuildModule) :=
  match v? with
  | none | some (.scalar .null) => .ok []
  | some (.list items) => items.mapM fun v => readModule v.view
  | some _ => fault .modulesShape

/-- The settings that a configuration asks for, for a project at `root`. -/
def resolve (links : Links) (root : Path) (config : Value) : Except Failure Settings :=
  match config.view with
  | .map es => do
    let root ← FileSystem.resolve links [] root
    let sourceDir ← resolveDir links root (View.lookup? es "src_dir") "."
    let publicDir ← resolveDir links sourceDir (View.lookup? es "public_dir") "public"
    let entrypointsDir ← resolveDir links sourceDir (View.lookup? es "entrypoints_dir") "entrypoints"
    let outputDir ← resolveDir links root (View.lookup? es "output_dir") ".wxt"
    let outBaseDir ← resolveDir links root (View.lookup? es "out_base_dir") ".output"
    let browser := (← View.nonemptyText? (View.lookup? es "browser")).getD "chrome"
    let manifestVersion ← readManifestVersion browser (View.lookup? es "manifest_version")
    let command ← readCommand (View.lookup? es "command")
    let mode := (← View.nonemptyText? (View.lookup? es "mode")).getD command.defaultMode
    let aliases ← readAliases links root sourceDir (View.lookup? es "alias")
    let manifest := View.entries (View.lookup? es "manifest")
    let defaultLocale? ← View.textOf? (View.lookup? manifest "default_locale")
    let imports? ← readImports (View.lookup? es "imports")
    let modules ← readModules (View.lookup? es "modules")
    let hooks ← match View.lookup? es "hooks" with
      | some v => v.asTexts
      | none => pure []
    return {
      root, sourceDir, publicDir, entrypointsDir, outBaseDir, outputDir, browser,
      manifestVersion, command, mode, imports?, modules, aliases, defaultLocale?, hooks }
  | _ => fault .notMapping

end Settings

end ExtTypes
