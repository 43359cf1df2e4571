import KeyCall.Decimal.Shortest
import KeyCall.Text.Quoted
import KeyCall.Value.Basic

/-!
# Values as messages show them

Messages and log lines show a value so that its kind can be told from its text: a text is quoted,
a number stands bare, lists and mappings stand in brackets and braces.  Where a value is used as
a text rather than shown, a text stands for itself and a day or a moment is written in the usual
order.

## Main definitions

* `Value.shown`: a value as messages show it.
* `Value.asText`: a value used as a text.
* `shownNames`: a list of names as messages show it.
-/

namespace KeyCall

/-- Texts between commas. -/
def commaList (ss : List String) : String := ", ".intercalate ss

/-- A list of names as messages show it. -/
def shownNames (names : List String) : String := "[" ++ commaList (names.map Text.quoted) ++ "]"

namespace Date

/-- A number of at least `width` digits. -/
def padded (width n : Nat) : String :=
  let ds := Nat.toDigits 10 n
  String.ofList (List.replicate (width - ds.length) '0' ++ ds)

/-- Year, month and day between hyphens. -/
def text (d : Date) : String := s!"{padded 4 d.year}-{padded 2 d.month}-{padded 2 d.day}"

/-- A day as messages show it. -/
def shown (d : Date) : String := s!"datetime.date({d.year}, {d.month}, {d.day})"

end Date

namespace Moment

/-- The offset of a zone in hours and minutes, with its sign. -/
def offsetText (minutes : Int) : String :=
  let n := minutes.natAbs
  (if minutes < 0 then "-" else "+") ++ Date.padded 2 (n / 60) ++ ":" ++ Date.padded 2 (n % 60)

/-- Day and time of day, with the fraction of the second and the zone if there are any. -/
def text (m : Moment) : String :=
  let clock := ":".intercalate ([m.hour, m.minute, m.second].map (Date.padded 2))
  let fraction := if m.micro = 0 then "" else "." ++ Date.padded 6 m.micro
  let zone := (m.offset.map offsetText).getD ""
  s!"{m.date.text} {clock}{fraction}{zone}"

/-- A span of minutes as messages show it: whole days, and the seconds that are left. -/
def shownSpan (minutes : Int) : String :=
  let days := minutes / 1440
  let seconds := minutes % 1440 * 60
  let parts := (if days = 0 then [] else [s!"days={days}"]) ++
    if seconds = 0 then [] else [s!"seconds={seconds}"]
  "datetime.timedelta(" ++ (if parts.isEmpty then "0" else commaList parts) ++ ")"

/-- A zone as messages show it. -/
def shownZone (minutes : Int) : String :=
  if minutes = 0 then "datetime.timezone.utc" else s!"datetime.timezone({shownSpan minutes})"

/-- A moment as messages show it.  Zeros at the end of the time of day are left out, down to the
minute. -/
def shown (m : Moment) : String :=
  let parts := [m.date.year, m.date.month, m.date.day, m.hour, m.minute] ++
    if m.micro != 0 then [m.second, m.micro] else if m.second != 0 then [m.second] else []
  let zone := m.offset.toList.map fun minutes => s!"tzinfo={shownZone minutes}"
  "datetime.datetime(" ++ commaList (parts.map toString ++ zone) ++ ")"

end Moment

/-- What stands for a callable where one is shown. -/
def Target.shown (t : Target) : String :=
  match t.sort with
  | .function n => s!"<function {n}>"
  | .construct c => s!"<class '{c}'>"
  | .callable c => s!"<{c} object>"

namespace Value

mutual

/-- A value as messages show it. -/
def shown : Value → String
  | .null => "None"
  | .bool b => if b then "True" else "False"
  | .int n => toString n
  | .float x => x.text
  | .text s => Text.quoted s
  | .bytes bs => Text.quotedBytes bs
  | .date d => d.shown
  | .moment m => m.shown
  | .list xs => "[" ++ commaList (shownItems xs) ++ "]"
  | .tuple [x] => "(" ++ shown x ++ ",)"
  | .tuple xs => "(" ++ commaList (shownItems xs) ++ ")"
  | .mapping .ordered [] => "OrderedDict()"
  | .mapping .ordered es => "OrderedDict([" ++ commaList (shownPairs es) ++ "])"
  | .mapping _ es => "\x7b" ++ commaList (shownEntries es) ++ "\x7d"
  | .record fs => "namespace(" ++ commaList (shownFields fs) ++ ")"
  | .object c _ => "<" ++ c ++ " object>"
  | .target t _ => t.shown

/-- The items of a list. -/
def shownItems : List Value → List String
  | [] => []
  | x :: xs => shown x :: shownItems xs

/-- The entries of a mapping, with a colon between key and value. -/
def shownEntries : List (Value × Value) → List String
  | [] => []
  | (k, v) :: es => (shown k ++ ": " ++ shown v) :: shownEntries es

/-- The entries of a mapping that stresses its order, each as a pair. -/
def shownPairs : List (Value × Value) → List String
  | [] => []
  | (k, v) :: es => ("(" ++ shown k ++ ", " ++ shown v ++ ")") :: shownPairs es

/-- The fields of a record. -/
def shownFields : List (String × Value) → List String
  | [] => []
  | (n, v) :: fs => (n ++ "=" ++ shown v) :: shownFields fs

end

/-- A value used as a text. -/
def asText : Value → String
  | .text s => s
  | .date d => d.text
  | .moment m => m.text
  | v => v.shown

@[simp] theorem shown_text (s : String) : (Value.text s).shown = Text.quoted s := by
  simp [shown]

@[simp] theorem asText_text (s : String) : (Value.text s).asText = s := rfl

end Value
end KeyCall
