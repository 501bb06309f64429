import ExtTypes.Entry
import ExtTypes.Json.Printer
import ExtTypes.Settings.Basic

/-! The compiler configuration, with a path mapping for every alias and for what is below it. -/
namespace ExtTypes.Declaration

/-- The path of `l` from the output directory. -/
def fromOutput (s : Settings) (l : Location) : String :=
  relativeText [] l.path s.outputDir.path

def pathMappings (s : Settings) : List (String × Json) :=
  dedupFields (s.aliases.flatMap fun (name, target) =>
    let path := fromOutput s target
    [(name, .arr [.str path]), (name ++ "/*", .arr [.str (path ++ "/*")])])

def tsconfigObject (s : Settings) : Json :=
  .obj
    [("compilerOptions", .obj
      [("target", .str "ESNext"),
       ("module", .str "ESNext"),
       ("moduleResolution", .str "Bundler"),
       ("noEmit", .bool true),
       ("esModuleInterop", .bool true),
       ("forceConsistentCasingInFileNames", .bool true),
       ("resolveJsonModule", .bool true),
       ("strict", .bool true),
       ("skipLibCheck", .bool true),
       ("paths", .obj (pathMappings s))]),
     ("include", .arr [.str (fromOutput s s.root ++ "/**/*"), .str "./wxt.d.ts"]),
     ("exclude", .arr [.str (fromOutput s s.outBaseDir)])]

def tsconfigEntry (s : Settings) : FileEntry :=
  ⟨"tsconfig.json", (tsconfigObject s).document, false⟩

end ExtTypes.Declaration
