import KeyCall.CommandLine.Page
import KeyCall.Text.Digit
import KeyCall.Text.Quoted

/-!
# Words of a command line

A word is an option if it starts with a hyphen and is more than that; two hyphens alone make all
words behind them operands, and as an attached value they count for none.  An option may be cut
short as long as only one option's name starts that way, its value may be attached to it, and
options of one letter that take no value may share a hyphen with others.

## Main definitions

* `Misuse`: what can be wrong with a command line.
* `Tail`, `Word`: the words.
* `cluster`: the options that share a hyphen.
* `Word.ofText`: reads a word.
* `wordsOf`: reads the words of a page.
-/

namespace KeyCall
namespace CommandLine

/-- What can be wrong with a command line. -/
inductive Misuse
  /-- The names of several options start with what is written. -/
  | ambiguous (written : String) (names : List String)
  /-- An option that takes no value has one. -/
  | ignoredValue (use : Use) (value : String)
  /-- An option that takes a value has none. -/
  | missingValue (use : Use)
  /-- A value is none of those there are. -/
  | badChoice (title value : String) (choices : List String)
  /-- What the command works on is missing. -/
  | missingOperand (name : String)
  /-- Nothing is known of some words. -/
  | unrecognized (texts : List String)
  deriving DecidableEq, Repr, Inhabited

/-- The wording of a misuse. -/
def Misuse.message : Misuse → String
  | ambiguous written names =>
    let candidates := ", ".intercalate names
    s!"ambiguous option: {written} could match {candidates}"
  | ignoredValue use value =>
    s!"argument {use.title}: ignored explicit argument {Text.quoted value}"
  | missingValue use => s!"argument {use.title}: expected one argument"
  | badChoice title value choices =>
    let shown := ", ".intercalate (choices.map Text.quoted)
    s!"argument {title}: invalid choice: {Text.quoted value} (choose from {shown})"
  | missingOperand name => s!"the following arguments are required: {name}"
  | unrecognized texts =>
    let shown := " ".intercalate texts
    s!"unrecognized arguments: {shown}"

/-- What a word holds behind the options without value. -/
inductive Tail
  /-- Nothing. -/
  | nothing
  /-- An option with its value; two hyphens count for none. -/
  | value (use : Use) (text : Option String)
  /-- An option whose value is the next word. -/
  | awaiting (use : Use)
  /-- Something that is wrong. -/
  | misuse (m : Misuse)
  deriving DecidableEq, Repr, Inhabited

/-- The words. -/
inductive Word
  /-- What a command works on. -/
  | operand (text : String)
  /-- Two hyphens. -/
  | divider
  /-- An option that nothing is known of. -/
  | unknown (text : String)
  /-- Options without value, and what is behind them. -/
  | options (flags : List Use) (tail : Tail)
  deriving DecidableEq, Repr, Inhabited

/-- The two hyphens behind which all words are operands. -/
def dividerText : String := "--"

/-- An option with its value, behind options without value. -/
def Word.ofValue (flags : List Use) (u : Use) (text : String) : Word :=
  .options flags (.value u (if text == dividerText then none else some text))

/-- An option without anything attached to it, behind options without value. -/
def Word.alone (flags : List Use) (u : Use) : Word :=
  if u.takesValue then .options flags (.awaiting u) else .options (flags ++ [u]) .nothing

/-- The option of one letter. -/
def useOfLetter? (p : Page) (c : Char) : Option Use := p.useOf? (String.ofList ['-', c])

/-- An option with a text attached to it, behind options without value.  Only an option of one
letter that takes no value can have others attached. -/
def cluster (p : Page) (flags : List Use) (u : Use) (isShort : Bool) (text : List Char) : Word :=
  let ignored : Word := .options flags (.misuse (.ignoredValue u (String.ofList text)))
  if u.takesValue then .ofValue flags u (String.ofList text)
  else match text with
    | [] => ignored
    | c :: rest =>
      match if isShort then useOfLetter? p c else none with
      | none => ignored
      | some v =>
        let flags := flags ++ [u]
        if rest.isEmpty then .alone flags v else cluster p flags v true rest

/-- What an option's text is in front of its first equals sign, and what is behind it. -/
def atEquals (cs : List Char) : List Char × Option (List Char) :=
  (cs.takeWhile (· != '='), ((cs.dropWhile (· != '=')).tail?))

/-- Reads a word that is no option's name and starts with a hyphen: an option cut short or with
its value attached, or none. -/
def Word.ofHyphen (p : Page) (text : String) : Except Misuse Word :=
  let cs := text.toList
  let (front, value) := atEquals cs
  match p.useOf? (String.ofList front), value with
  | some u, some value => .ok (cluster p [] u (front.length = 2) value)
  | _, _ =>
    if cs.take 2 == ['-', '-'] then
      match p.optionNames.filter fun n => front.isPrefixOf n.toList with
      | [] => .ok (leftOver cs)
      | [n] =>
        match p.useOf? n, value with
        | some u, some value => .ok (cluster p [] u false value)
        | some u, none => .ok (.alone [] u)
        | none, _ => .ok (leftOver cs)
      | names => .error (.ambiguous text names)
    else match p.useOf? (String.ofList (cs.take 2)) with
      | some u => .ok (cluster p [] u true (cs.drop 2))
      | none => .ok (leftOver cs)
where
  /-- A negative number is an operand, and so is what holds a space; nothing is known of other
  words. -/
  leftOver (cs : List Char) : Word :=
    if Text.looksNegative cs || cs.contains ' ' then .operand text
    else .unknown text

/-- Reads a word. -/
def Word.ofText (p : Page) (text : String) : Except Misuse Word :=
  match text.toList with
  | '-' :: _ :: _ =>
    match p.useOf? text with
    | some u => .ok (.alone [] u)
    | none => Word.ofHyphen p text
  | _ => .ok (.operand text)

/-- Reads the words of a page, and keeps their texts. -/
def wordsOf (p : Page) : List String → Except Misuse (List (String × Word))
  | [] => .ok []
  | t :: ts =>
    if t == dividerText then .ok ((t, .divider) :: ts.map fun t => (t, .operand t))
    else do
      let w ← Word.ofText p t
      let ws ← wordsOf p ts
      .ok ((t, w) :: ws)

end CommandLine
end KeyCall
