import ExtTypes.Import.Basic
import ExtTypes.Path.Location

/-! The settings of a build. Directories are locations; the output of a build stands in a directory
named for the browser and the manifest version. -/
namespace ExtTypes

inductive ManifestVersion
  | v2
  | v3
  deriving DecidableEq, Repr

inductive Command
  | build
  | serve
  deriving DecidableEq, Repr

/-- Whether a module comes from a package registry or from the project. -/
inductive ModuleKind
  | package
  | «local»
  deriving DecidableEq, Repr

structure BuildModule where
  id : String
  kind : ModuleKind
  configKey? : Option String
  deriving DecidableEq, Repr

/-- What a linter is told of a global. -/
inductive GlobalAccess
  | flag (b : Bool)
  | word (s : String)
  deriving DecidableEq, Repr

structure LintOptions where
  enabled : Bool
  filePath : String
  access : GlobalAccess
  deriving DecidableEq, Repr

structure ImportOptions where
  dirs : List String
  presets : List Import
  lint : LintOptions
  deriving DecidableEq, Repr

structure Settings where
  root : Location
  sourceDir : Location
  publicDir : Location
  entrypointsDir : Location
  outBaseDir : Location
  outputDir : Location
  browser : String
  manifestVersion : ManifestVersion
  command : Command
  mode : String
  /-- Nothing if auto-imports are off. -/
  imports? : Option ImportOptions
  modules : List BuildModule
  aliases : List (String × Location)
  defaultLocale? : Option String
  hooks : List String
  deriving DecidableEq

namespace ManifestVersion

def number : ManifestVersion → Nat
  | v2 => 2
  | v3 => 3

def ofInt? (n : Int) : Option ManifestVersion :=
  if n = 2 then some v2 else if n = 3 then some v3 else none

/-- The version that a browser takes if none is asked for. -/
def default (browser : String) : ManifestVersion :=
  if browser = "firefox" ∨ browser = "safari" then v2 else v3

end ManifestVersion

namespace Command

def text : Command → String
  | build => "build"
  | serve => "serve"

def ofText? (s : String) : Option Command :=
  if s = "build" then some build else if s = "serve" then some serve else none

def defaultMode : Command → String
  | build => "production"
  | serve => "development"

end Command

namespace ModuleKind

def text : ModuleKind → String
  | package => "node_module"
  | «local» => "local"

def ofText? (s : String) : Option ModuleKind :=
  if s = "node_module" then some package else if s = "local" then some «local» else none

end ModuleKind

namespace LintOptions

def default : LintOptions := ⟨false, "eslintrc-auto-import.json", .flag true⟩

end LintOptions

namespace ImportOptions

def default : ImportOptions := ⟨["components", "composables", "hooks", "utils"], [], .default⟩

end ImportOptions

namespace Settings

def typesName : Name := ⟨"types", by decide⟩

/-- Where generated declarations go. -/
def typesDir (s : Settings) : Location := s.outputDir ++ [typesName]

/-- Where the build goes. The name of the browser may hold slashes. -/
def outDir (s : Settings) : Path :=
  s.outBaseDir.path.child (s.browser ++ "-mv" ++ toString s.manifestVersion.number)

end Settings

end ExtTypes
