import ExtTypes.Declaration.Frame
import ExtTypes.Entry
import ExtTypes.FileSystem.Disk
import ExtTypes.Message
import ExtTypes.Settings.Basic

/-! An overload for each message of the default locale. -/
namespace ExtTypes.Declaration

def noDescription : String := "No message description."

/-- The description, unless it is empty. -/
def descriptionText (m : Message) : String :=
  match m.description? with
  | some d => if d = "" then noDescription else d
  | none => noDescription

def messageLines (m : Message) : List String :=
  ["    /**",
   "     * " ++ descriptionText m,
   "     *",
   "     * \"" ++ m.text ++ "\"",
   "     */",
   "    getMessage(",
   "      messageName: \"" ++ m.name ++ "\",",
   "      substitutions?: string | string[],",
   "      options?: GetMessageOptions,",
   "    ): string;"]

/-- The overloads; a blank line if there are none. -/
def overloadLines (ms : List Message) : List String :=
  if ms.isEmpty then [""] else ms.flatMap messageLines

def messagesText (ms : List Message) : String :=
  unlines <|
    [header,
     "import \"wxt/browser\";",
     "",
     "declare module \"wxt/browser\" \x7b",
     "  /**",
     "   * See https://developer.chrome.com/docs/extensions/reference/i18n/#method-getMessage",
     "   */",
     "  interface GetMessageOptions \x7b",
     "    /**",
     "     * See https://developer.chrome.com/docs/extensions/reference/i18n/#method-getMessage",
     "     */",
     "    escapeLt?: boolean",
     "  \x7d",
     "",
     "  export interface WxtI18n extends I18n.Static \x7b"] ++
    overloadLines ms ++
    ["  \x7d",
     "\x7d"]

/-- The path of the bundle of a locale. -/
def bundleFile (s : Settings) (locale : String) : Path :=
  ((s.publicDir.path.child "_locales").child locale).child "messages.json"

/-- The messages of the text of a bundle. -/
def readBundle (text : String) : Except Failure (List Message) :=
  match Json.parse text with
  | .error e => .error (.json e)
  | .ok v =>
    match Message.ofBundle v with
    | .error e => .error (.bundle e)
    | .ok ms => .ok ms

/-- The messages of the default locale; none if no default locale is set. -/
def defaultMessages (files : FileSystem) (s : Settings) : Except Failure (List Message) :=
  match s.defaultLocale?.filter (· ≠ "") with
  | none => .ok []
  | some locale => do readBundle (← files.readText [] (bundleFile s locale))

def messagesEntry (files : FileSystem) (s : Settings) : Except Failure FileEntry :=
  (defaultMessages files s).map fun ms => ⟨"types/i18n.d.ts", messagesText ms, true⟩

end ExtTypes.Declaration
