import KeyCall.CommandLine.Word
import KeyCall.Json.Writing

/-!
# Requests

The words of a command line make a request.  Words are taken from left to right: help is shown as
soon as it is asked for, and what is wrong with an option counts when the option is reached.  Only
words that could be several options count at once, and missing or needless words count last.

## Main definitions

* `Action`, `Request`: what can be asked for.
* `Request.paths`: the paths that a request names.
* `Stop`: why a command line makes no request.
* `Found`: what a page's words say.
* `Request.ofArguments`: reads a command line.
-/

namespace KeyCall
namespace CommandLine

/-- What can be asked for. -/
inductive Action
  /-- Show the overview. -/
  | overview
  /-- Process the collection in a file, once some registry modules are loaded.  The option that
  loads a module may be left without a path. -/
  | process (file : String) (modules : List (Option String)) (layout : Json.Layout)
  /-- Validate the collection in a file. -/
  | validate (file : String)
  /-- Read a template. -/
  | parse (template : String)
  deriving DecidableEq, Repr, Inhabited

/-- An action, and whether the log is shown. -/
structure Request where
  /-- Whether the log is shown. -/
  verbose : Bool := false
  /-- The action. -/
  action : Action := .overview
  deriving DecidableEq, Repr, Inhabited

/-- The paths that a request names. -/
def Request.paths (r : Request) : List String :=
  match r.action with
  | .overview => []
  | .process file modules _ => modules.filterMap id ++ [file]
  | .validate file => [file]
  | .parse _ => []

/-- Why a command line makes no request. -/
inductive Stop
  /-- A page of help is asked for. -/
  | help (page : Page)
  /-- Something is wrong with the words of a page. -/
  | misuse (page : Page) (m : Misuse)
  deriving DecidableEq, Repr, Inhabited

/-- What a page's words say. -/
structure Found where
  /-- Whether the log is shown. -/
  verbose : Bool := false
  /-- The registry modules to load. -/
  modules : List (Option String) := []
  /-- The layout of the output. -/
  layout : Json.Layout := .pretty
  /-- What the command works on, or the command. -/
  operand : Option String := none
  /-- The words behind the command. -/
  behind : List String := []
  /-- The words that nothing is known of. -/
  extras : List String := []
  deriving DecidableEq, Repr, Inhabited

namespace Found

/-- The layouts by name. -/
def layouts : List (String × Json.Layout) := [("json", .line), ("pretty", .pretty)]

/-- Takes an option without value in. -/
def takeFlag (p : Page) (f : Found) : Use → Except Stop Found
  | .help => .error (.help p)
  | .verbose => .ok { f with verbose := true }
  | _ => .ok f

/-- Takes options without value in. -/
def takeFlags (p : Page) (f : Found) (us : List Use) : Except Stop Found :=
  us.foldlM (takeFlag p) f

/-- Takes an option with its value in.  Without a value, the usual layout is chosen. -/
def takeValue (p : Page) (f : Found) (u : Use) (value : Option String) : Except Stop Found :=
  match u, value with
  | .registry, _ => .ok { f with modules := f.modules ++ [value] }
  | .output, none => .ok { f with layout := .pretty }
  | .output, some name =>
    match Entries.get? (· == ·) layouts name with
    | some layout => .ok { f with layout }
    | none => .error (.misuse p (.badChoice u.title name (layouts.map Prod.fst)))
  | _, _ => .ok f

/-- Takes a word in that nothing is known of. -/
def takeExtra (f : Found) (text : String) : Found := { f with extras := f.extras ++ [text] }

/-- Takes an operand in; a second one is needless. -/
def takeOperand (f : Found) (text : String) : Found :=
  match f.operand with
  | none => { f with operand := some text }
  | some _ => f.takeExtra text

/-- Takes the words of a page in.  In the overview, the first operand is the command, and ends the
words of the page. -/
def readWords (p : Page) (f : Found) : List (String × Word) → Except Stop Found
  | [] => .ok f
  | (_, .operand t) :: ws =>
    if p = .overview then .ok { f with operand := some t, behind := ws.map Prod.fst }
    else match ws with
      | (_, .divider) :: ws =>
        if f.operand.isNone then readWords p (f.takeOperand t) ws
        else readWords p ((f.takeOperand t).takeExtra dividerText) ws
      | ws => readWords p (f.takeOperand t) ws
  | (d, .divider) :: ws =>
    if p = .overview then
      if ws.isEmpty then .ok (f.takeExtra d)
      else .ok { f with operand := some d, behind := ws.map Prod.fst }
    else if f.operand.isNone && !ws.isEmpty then readWords p f ws
    else readWords p (f.takeExtra d) ws
  | (_, .unknown text) :: ws => readWords p (f.takeExtra text) ws
  | (_, .options flags tail) :: ws =>
    match tail with
    | .nothing => do readWords p (← f.takeFlags p flags) ws
    | .value u text => do
      let f ← f.takeFlags p flags
      readWords p (← f.takeValue p u text) ws
    | .misuse m => .error (.misuse p m)
    | .awaiting u =>
      match ws with
      | (_, .operand text) :: ws => do
        let f ← f.takeFlags p flags
        readWords p (← f.takeValue p u (some text)) ws
      | _ => .error (.misuse p (.missingValue u))

end Found

/-- Reads the words of a page. -/
def Page.read (p : Page) (args : List String) : Except Stop Found :=
  match wordsOf p args with
  | .error m => .error (.misuse p m)
  | .ok ws => Found.readWords p {} ws

/-- The action of a command, once it is known what the command works on. -/
def Page.action (p : Page) (f : Found) (operand : String) : Action :=
  match p with
  | .overview => .overview
  | .process => .process operand f.modules f.layout
  | .validate => .validate operand
  | .parse => .parse operand

namespace Request

/-- No words may be left over. -/
def withoutExtras (extras : List String) (r : Request) : Except Stop Request :=
  if extras.isEmpty then .ok r else .error (.misuse .overview (.unrecognized extras))

/-- Reads a command line. -/
def ofArguments (args : List String) : Except Stop Request := do
  let front ← Page.overview.read args
  match front.operand with
  | none => withoutExtras front.extras { verbose := front.verbose }
  | some name =>
    match Page.ofName? name with
    | none => .error (.misuse .overview (.badChoice "command" name Page.commandNames))
    | some page =>
      let found ← page.read front.behind
      match found.operand with
      | none => .error (.misuse page (.missingOperand page.operandName))
      | some operand =>
        let action := page.action found operand
        withoutExtras (front.extras ++ found.extras) { verbose := front.verbose, action }

end Request
end CommandLine
end KeyCall
