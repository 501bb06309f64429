/-! What a run produces: references to modules, and files. -/
namespace ExtTypes

/-- A generated file; its path starts at the output directory. -/
structure FileEntry where
  path : String
  text : String
  /-- Whether the file that ties all together refers to it. -/
  referenced : Bool
  deriving DecidableEq, Repr

inductive Entry
  | module (name : String)
  | file (f : FileEntry)
  deriving DecidableEq, Repr

namespace Entry

/-- What the entry is called where entries are listed. -/
def title : Entry → String
  | module name => name
  | file f => f.path

def file? : Entry → Option FileEntry
  | module _ => none
  | file f => some f

end Entry

end ExtTypes
