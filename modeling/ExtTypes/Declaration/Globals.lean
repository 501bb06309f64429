import ExtTypes.Declaration.Frame
import ExtTypes.Entry
import ExtTypes.Settings.Basic

/-! Constants that a build puts in place of names. -/
namespace ExtTypes

structure GlobalVar where
  name : String
  value : Json
  type : String

namespace GlobalVar

/-- A truth about the browser. -/
def browserFlag (s : Settings) (name browser : String) : GlobalVar :=
  ⟨name, .bool (s.browser = browser), "boolean"⟩

def ofSettings (s : Settings) : List GlobalVar :=
  [⟨"MANIFEST_VERSION", .int s.manifestVersion.number, "2 | 3"⟩,
   ⟨"BROWSER", .str s.browser, "string"⟩,
   browserFlag s "CHROME" "chrome",
   browserFlag s "FIREFOX" "firefox",
   browserFlag s "SAFARI" "safari",
   browserFlag s "EDGE" "edge",
   browserFlag s "OPERA" "opera",
   ⟨"COMMAND", .str s.command.text, "\"build\" | \"serve\""⟩,
   ⟨"MODE", .str s.mode, "string"⟩]

/-- The constants whose value hangs on the entrypoint. -/
def ofEntrypoint (name : String) : List GlobalVar := [⟨"ENTRYPOINT", .str name, "string"⟩]

end GlobalVar

namespace Declaration

/-- The declaration of constants, each given by its name and its type. -/
def globalsText (globals : List (String × String)) : String :=
  unlines <|
    [header,
     "export \x7b\x7d",
     "interface ImportMetaEnv \x7b"] ++
    globals.map (fun g => "  readonly " ++ g.1 ++ ": " ++ g.2 ++ ";") ++
    ["\x7d",
     "interface ImportMeta \x7b",
     "  readonly env: ImportMetaEnv",
     "\x7d"]

def globalsEntry (s : Settings) : FileEntry :=
  ⟨"types/globals.d.ts",
   globalsText ((GlobalVar.ofSettings s ++ GlobalVar.ofEntrypoint "").map fun g =>
     (g.name, g.type)),
   true⟩

end Declaration

end ExtTypes
