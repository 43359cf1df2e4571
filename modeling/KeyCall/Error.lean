import KeyCall.Value.Shown

/-!
# Errors

Everything that can go wrong, one constructor for each cause.  The wording of every message is in
`Error.message`, and the class an error is reported under is in `Error.kind`.  Four of the classes
are the program's own and have an exit code; the others come from values used where they do not
fit, from files, and from the targets that templates call.

## Main definitions

* `ErrorKind`: the classes of error, with their labels and exit codes.
* `Error`: the causes.
* `Error.kind`, `Error.message`: the class and the wording of an error.
* `Error.subject?`: the template or the name that an error of the program's own is about.

## Main results

* `exitCode_pos`: no error ends the command line with success.
-/

namespace KeyCall

/-- The classes under which errors are reported. -/
inductive ErrorKind
  /-- The program's own errors that belong to no narrower class. -/
  | general
  /-- A key that starts like a template and is none, or a property list that is none. -/
  | parse
  /-- A name that the registry does not know. -/
  | resolution
  /-- A file that cannot be used. -/
  | input
  /-- A value that is out of the range of its type. -/
  | value
  /-- A value of the wrong type. -/
  | type
  /-- An attribute that a value does not have. -/
  | member
  /-- A call that failed. -/
  | runtime
  /-- A call with the wrong arguments. -/
  | kit
  /-- Bytes that are no text. -/
  | encoding
  /-- A text that has no bytes. -/
  | unencodable
  /-- Containers in more containers than can be followed. -/
  | recursion
  /-- A directory where a file is needed. -/
  | directory
  /-- A path that the system refuses. -/
  | system
  /-- A class that is not known here. -/
  | foreign (label : String)
  deriving DecidableEq, Repr, Inhabited

namespace ErrorKind

/-- The label of a class in reports. -/
def label : ErrorKind → String
  | general => "DecoratorError"
  | parse => "ParseError"
  | resolution => "ResolutionError"
  | input => "InputError"
  | value => "ValueError"
  | type => "TypeError"
  | member => "AttributeError"
  | runtime => "RuntimeError"
  | kit => "KitError"
  | encoding => "UnicodeDecodeError"
  | unencodable => "UnicodeEncodeError"
  | recursion => "RecursionError"
  | directory => "IsADirectoryError"
  | system => "OSError"
  | foreign label => label

/-- The exit code of the program's own classes. -/
def ownExitCode? : ErrorKind → Option Nat
  | general => some 1
  | parse => some 2
  | resolution => some 3
  | input => some 4
  | _ => none

/-- The exit code of a class; an error that is not the program's own counts as general. -/
def exitCode (k : ErrorKind) : Nat := k.ownExitCode?.getD 1

/-- No error ends in success. -/
theorem exitCode_pos (k : ErrorKind) : 0 < k.exitCode := by
  cases k <;> exact Nat.zero_lt_succ _

end ErrorKind

/-- Where and why bytes are no text in UTF-8. -/
structure Utf8Fault where
  /-- The first of the bytes in question. -/
  first : UInt8
  /-- Its position. -/
  position : Nat
  /-- How many bytes are in question. -/
  length : Nat
  /-- What is wrong with them. -/
  reason : String
  deriving DecidableEq, Repr, Inhabited

/-- Surrogates in a path, which have no bytes. -/
structure PathFault where
  /-- The first of them. -/
  first : Text.CodePoint
  /-- Its position. -/
  position : Nat
  /-- How many there are in a row. -/
  length : Nat
  deriving DecidableEq, Repr, Inhabited

/-- The causes of failure. -/
inductive Error
  /-- The key starts with the sentinel and has none of the three forms of a template. -/
  | notTemplate (key : String)
  /-- An entry of a property list has no colon or no name. -/
  | badProperty (entry : String)
  /-- An attribute path has an empty segment. -/
  | badPath (path : String)
  /-- The registry has no such name. -/
  | unknownName (role name : String) (registered : List String)
  /-- The owner has no attribute of that name that can be called. -/
  | noMethod (owner method : String)
  /-- A value that cannot be called was to be registered. -/
  | notCallable (value name : Value)
  /-- The suffix of presenters has no class name to follow. -/
  | noClassName
  /-- The value is neither a collection nor a text. -/
  | notIterable (typeName : String)
  /-- The value was to be matched and is no text. -/
  | notText (typeName : String)
  /-- Bytes were given where a text was needed to match. -/
  | bytesNotText
  /-- Bytes were given where a text was needed to split. -/
  | textNotBytes
  /-- The value introduced by `holder` has no such attribute. -/
  | noAttribute (holder name : String)
  /-- A mapping has a key that no JSON object can have. -/
  | keyNotWritable (typeName : String)
  /-- A number has too many digits to be written. -/
  | tooLargeToWrite
  /-- There is no such file. -/
  | collectionMissing (path : String)
  /-- The path, or a part of it, is longer than the system takes. -/
  | nameTooLong (path : String)
  /-- The path names a directory. -/
  | isDirectory (path : String)
  /-- The file's suffix names no format. -/
  | formatUnknown (suffix : String)
  /-- The file is not well-formed. -/
  | malformed (path detail : String)
  /-- The file holds a scalar. -/
  | notCollection (path typeName : String)
  /-- The file is no text. -/
  | undecodable (fault : Utf8Fault)
  /-- The file holds an integer of too many digits to be read. -/
  | tooLargeToRead (digits : Nat)
  /-- The file holds a container in too many others; `container` says which kind it is. -/
  | tooDeep (container : String)
  /-- The stack gave out; `place` is what the message says of where, if anything. -/
  | stackExhausted (place : String)
  /-- There is no path where one is needed. -/
  | noPath
  /-- The path has a null character. -/
  | nullInPath
  /-- The path has no bytes. -/
  | pathUnencodable (fault : PathFault)
  /-- There is no such registry module. -/
  | moduleMissing (path : String)
  /-- The path names something that is not a registry module. -/
  | notModule (path : String)
  /-- The registry module failed while it was loaded. -/
  | moduleFailed (path reason : String)
  /-- The host, or a package, raised an error of its own, about a subject or not. -/
  | raised (kind : ErrorKind) (text : String) (subject : Option String)
  deriving Inhabited

namespace Error

/-- The class of an error. -/
def kind : Error → ErrorKind
  | notTemplate _ => .parse
  | badProperty _ => .parse
  | badPath _ => .value
  | unknownName _ _ _ => .resolution
  | noMethod _ _ => .resolution
  | notCallable _ _ => .type
  | noClassName => .type
  | notIterable _ => .type
  | notText _ => .type
  | bytesNotText => .type
  | textNotBytes => .type
  | noAttribute _ _ => .member
  | keyNotWritable _ => .type
  | tooLargeToWrite => .value
  | collectionMissing _ => .input
  | nameTooLong _ => .system
  | isDirectory _ => .directory
  | formatUnknown _ => .input
  | malformed _ _ => .input
  | notCollection _ _ => .input
  | undecodable _ => .encoding
  | tooLargeToRead _ => .value
  | tooDeep _ => .recursion
  | stackExhausted _ => .recursion
  | noPath => .type
  | nullInPath => .value
  | pathUnencodable _ => .unencodable
  | moduleMissing _ => .input
  | notModule _ => .input
  | moduleFailed _ _ => .input
  | raised k _ _ => k

/-- Names in the order of their code points. -/
def sortedNames (names : List String) : List String :=
  let values (name : String) : List Nat := (Text.codePoints name.toList).map Text.CodePoint.value
  names.mergeSort fun a b => !(values b).lex (values a) Nat.blt

/-- A parse error names its subject after its text. -/
def withSubject (text : String) (subject : Option String) : String :=
  match subject with
  | none => text
  | some s => s!"{text}: {Text.quoted s}"

/-- What is wrong with some bytes. -/
def utf8Message (f : Utf8Fault) : String :=
  let place :=
    if f.length ≤ 1 then
      s!"byte 0x{String.ofList (Text.hexPadded 2 f.first.toNat)} in position {f.position}"
    else s!"bytes in position {f.position}-{f.position + f.length - 1}"
  s!"'utf-8' codec can't decode {place}: {f.reason}"

/-- What is wrong with a path. -/
def pathMessage (f : PathFault) : String :=
  let place :=
    if f.length ≤ 1 then
      s!"character '{String.ofList (Text.escaped f.first.value)}' in position {f.position}"
    else s!"characters in position {f.position}-{f.position + f.length - 1}"
  s!"'utf-8' codec can't encode {place}: surrogates not allowed"

/-- The number of digits that integers to the base ten may have when they are read or written. -/
def digitLimit : Nat := 4300

/-- That an integer has too many digits; `detail` may say how many. -/
def digitsMessage (detail : String) : String :=
  s!"Exceeds the limit ({digitLimit} digits) for integer string conversion{detail}; " ++
    "use sys.set_int_max_str_digits() to increase the limit"

/-- The wording of an error. -/
def message : Error → String
  | notTemplate key => withSubject "Invalid template pattern" (some key)
  | badProperty entry => withSubject "Invalid property entry" (some entry)
  | badPath path => s!"Invalid attribute path: {Text.quoted path}"
  | unknownName role name registered =>
    s!"Unknown {role}: {Text.quoted name}. Registered: {shownNames (sortedNames registered)}"
  | noMethod owner method => s!"{owner} has no callable method {Text.quoted method}"
  | notCallable value name =>
    s!"Cannot register non-callable {value.shown} as {name.shown}"
  | noClassName => "unsupported operand type(s) for +: 'NoneType' and 'str'"
  | notIterable t => s!"'{t}' object is not iterable"
  | notText t => s!"expected string or bytes-like object, got '{t}'"
  | bytesNotText => "cannot use a string pattern on a bytes-like object"
  | textNotBytes => "a bytes-like object is required, not 'str'"
  | noAttribute holder name => s!"{holder} has no attribute '{name}'"
  | keyNotWritable t => s!"keys must be str, int, float, bool or None, not {t}"
  | tooLargeToWrite => digitsMessage ""
  | nameTooLong path => s!"[Errno 36] File name too long: {Text.quoted path}"
  | collectionMissing path => s!"Collection file not found: {path}"
  | isDirectory path => s!"[Errno 21] Is a directory: {Text.quoted path}"
  | formatUnknown suffix => s!"Unsupported collection format: {suffix}"
  | malformed path detail => s!"Error reading {path}: {detail}"
  | notCollection path t => s!"{path} must contain a mapping or a list, got {t}"
  | undecodable f => utf8Message f
  | tooLargeToRead digits => digitsMessage s!": value has {digits} digits"
  | tooDeep container =>
    s!"maximum recursion depth exceeded while decoding a JSON {container} from a unicode string"
  | stackExhausted place => s!"maximum recursion depth exceeded{place}"
  | noPath => "expected str, bytes or os.PathLike object, not list"
  | nullInPath => "embedded null byte"
  | pathUnencodable f => pathMessage f
  | moduleMissing path => s!"Registry module not found: {path}"
  | notModule path => s!"Cannot load module: {path}"
  | moduleFailed path reason => s!"Error loading registry module {path}: {reason}"
  | raised .parse text subject => withSubject text subject
  | raised _ text _ => text

/-- The template that a parse error is about, or the name that a resolution error is about. -/
def subject? : Error → Option String
  | notTemplate key => some key
  | badProperty entry => some entry
  | unknownName _ name _ => some name
  | noMethod owner method => some s!"{owner}.{method}"
  | raised _ _ subject => subject
  | _ => none

/-- The exit code that an error ends the command line with. -/
def exitCode (e : Error) : Nat := e.kind.exitCode

/-- Whether an error is one of the program's own. -/
def isOwn (e : Error) : Bool := e.kind.ownExitCode?.isSome

end Error
end KeyCall
