import ExtTypes.Decimal.Numeral
import ExtTypes.Json.Reader
import ExtTypes.Path.Basic
import ExtTypes.Text.Quoted
import ExtTypes.Text.Utf8
import ExtTypes.Value.Calendar

/-! Everything that can go wrong, each as the cause it is, and the wording of each in one place. -/
namespace ExtTypes

/-- The name of the file that configures a project. -/
def configFileName : String := ".declgen.yml"

inductive ConfigFault
  | unreadable
  | notMapping
  | manifestVersion (n : Int)
  | command (text : String)
  | aliasShape
  | aliasTarget (name : String)
  | importsShape
  | importsEntry
  | globalsValue
  | modulesShape
  | moduleId
  | moduleKind (kind id : String)
  deriving DecidableEq, Repr

inductive BundleFault
  | notObject
  | messageShape (name : String)
  | noText (name : String)
  | textShape (name : String)
  | descriptionShape (name : String)
  deriving DecidableEq, Repr

inductive HookFault
  | targetForm (target : String)
  | notImported (source why : String)
  | noAttribute (source member : String)
  | notLoaded (name why : String)
  | notHook (name : String)
  | notIterable (name : String)
  | notEntry (name typeName : String)
  deriving DecidableEq, Repr

/-- What the operating system says about a path. -/
inductive DiskCause
  | notFound
  | alreadyExists
  | notDirectory
  | isDirectory
  | nameTooLong
  deriving DecidableEq, Repr

/-- A value that cannot be used where it stands. -/
inductive ValueFault
  | nulInPath
  | emptyPath
  | relativeEntry (path : String)
  | integer (base : Nat) (text : String)
  /-- A whole number that is too long to be read from that many digits, or to be written. -/
  | digits (count? : Option Nat)
  | real (text : String)
  | calendar (fault : CalendarFault)
  | codePoint
  deriving DecidableEq, Repr

/-- A whole number that is too large for its use. -/
inductive Overflow
  | real
  | codePoint
  deriving DecidableEq, Repr

/-- Something that is no text, path or time where one has to be. -/
inductive TypeFault
  | notIterable (typeName : String)
  | relativeModule (name : String)
  | listAsText
  | listAsPath
  deriving DecidableEq, Repr

/-- The classes of failures that are reported in different ways. -/
inductive FailureClass
  | configuration
  | bundle
  | encoding
  | run
  | typeMismatch
  | unexpected
  deriving DecidableEq, Repr

inductive Failure
  | config (fault : ConfigFault)
  | bundle (fault : BundleFault)
  | json (fault : Json.Fault)
  | encoding (fault : Text.Utf8Fault)
  | hook (fault : HookFault)
  | disk (cause : DiskCause) (path : String)
  | noSourceDir (path : String)
  | value (fault : ValueFault)
  | overflow (o : Overflow)
  | type (fault : TypeFault)
  | missingKey (key : String)
  | missingCharacter
  | notTimestamp
  /-- Values inside values without end, or almost. -/
  | tooDeep
  | noHome
  /-- What a hook reports in words of its own. -/
  | raised (kind : FailureClass) (label text : String)
  deriving DecidableEq, Repr

def ConfigFault.message : ConfigFault → String
  | unreadable => "Failed to parse " ++ configFileName
  | notMapping => configFileName ++ " must contain a mapping at the root"
  | manifestVersion n => "manifest_version must be 2 or 3, got " ++ toString n
  | command c => "command must be one of build, serve, got '" ++ c ++ "'"
  | aliasShape => "alias must be a mapping of alias name to path"
  | aliasTarget name => "alias '" ++ name ++ "' must map to a path"
  | importsShape => "imports must be false or a mapping"
  | importsEntry => "imports.imports entries require 'name' and 'from'"
  | globalsValue =>
    "imports.eslintrc.globals_prop_value must be one of " ++
      "true, false, readonly, readable, writable, writeable"
  | modulesShape => "modules must be a list"
  | moduleId => "modules entries require an 'id'"
  | moduleKind kind id => "Unknown module type '" ++ kind ++ "' for module '" ++ id ++ "'"

def BundleFault.message : BundleFault → String
  | notObject => "messages.json must contain an object at the root"
  | messageShape name => "Message '" ++ name ++ "' must be an object"
  | noText name => "Message '" ++ name ++ "' is missing the 'message' field"
  | textShape name => "Message '" ++ name ++ "' must have a string 'message'"
  | descriptionShape name => "Message '" ++ name ++ "' has a non-string 'description'"

def HookFault.message : HookFault → String
  | targetForm t => "Hook '" ++ t ++ "' must use the 'module:attribute' form"
  | notImported m why => "Failed to import hook module '" ++ m ++ "': " ++ why
  | noAttribute m a => "Hook module '" ++ m ++ "' has no attribute '" ++ a ++ "'"
  | notLoaded name why => "Failed to load hook entry point '" ++ name ++ "': " ++ why
  | notHook name => "Hook '" ++ name ++ "' must be a TypesHook subclass, instance, or callable"
  | notIterable name => "Hook '" ++ name ++ "' must return an iterable of entries"
  | notEntry name t =>
    "Hook '" ++ name ++ "' returned " ++ t ++ ", expected FileEntry or ModuleEntry"

def DiskCause.message : DiskCause → String
  | notFound => "[Errno 2] No such file or directory"
  | alreadyExists => "[Errno 17] File exists"
  | notDirectory => "[Errno 20] Not a directory"
  | isDirectory => "[Errno 21] Is a directory"
  | nameTooLong => "[Errno 36] File name too long"

def ValueFault.message : ValueFault → String
  | nulInPath => "embedded null byte"
  | emptyPath => "no path specified"
  | relativeEntry p => "Entry path must be absolute before writing: " ++ p
  | integer base t =>
    "invalid literal for int() with base " ++ toString base ++ ": " ++
      String.ofList ((Text.quoted t).toList.take 200)
  | digits count? => Decimal.tooLongText count?
  | real t => "could not convert string to float: " ++ Text.quoted t
  | calendar fault => fault.message
  | codePoint => "chr() arg not in range(0x110000)"

def Overflow.message : Overflow → String
  | real => "int too large to convert to float"
  | codePoint => "Python int too large to convert to C int"

def TypeFault.message : TypeFault → String
  | notIterable t => "'" ++ t ++ "' object is not iterable"
  | relativeModule name =>
    "the 'package' argument is required to perform a relative import for " ++ Text.quoted name
  | listAsText => "expected string or bytes-like object, got 'list'"
  | listAsPath => "expected str, bytes or os.PathLike object, not list"

namespace Failure

def message : Failure → String
  | config fault => fault.message
  | bundle fault => fault.message
  | json fault => fault.message
  | encoding fault => fault.message
  | hook fault => fault.message
  | disk cause path => cause.message ++ ": " ++ Text.quoted path
  | noSourceDir path => "Source directory not found: " ++ path
  | value fault => fault.message
  | overflow o => o.message
  | type fault => fault.message
  | missingKey key => Text.quoted key
  | missingCharacter => "string index out of range"
  | notTimestamp => "'NoneType' object has no attribute 'groupdict'"
  | tooDeep => Json.nestingText
  | noHome => "Could not determine home directory."
  | raised _ _ text => text

def kind : Failure → FailureClass
  | config _ => .configuration
  | bundle _ | json (.unexpected ..) => .bundle
  | encoding _ => .encoding
  | hook _ | disk _ _ | noSourceDir _ => .run
  | type _ => .typeMismatch
  | raised kind _ _ => kind
  | json _ | value _ | overflow _ | missingKey _ | missingCharacter | notTimestamp | tooDeep
  | noHome => .unexpected

end Failure

end ExtTypes
