import KeyCall.Decimal.Shortest
import KeyCall.Text.Blank
import KeyCall.Text.Digit
import KeyCall.Yaml.Cursor

/-!
# The types of scalars

What a plain scalar stands for follows from its text: some texts are null, truth values, numbers,
days or moments, and all others stand for themselves.  A scalar may also be given a type, which its
text need not fit.

## Main definitions

* `Yaml.ScalarType`: the types.
* `Yaml.ScalarType.ofPlain`: the type of a plain scalar.
* `Yaml.boolOf`, `Yaml.intOf`, `Yaml.floatOf`, `Yaml.stampOf`: the values of the types with values
  of their own.
-/

namespace KeyCall
namespace Yaml

/-- The types of scalars. -/
inductive ScalarType
  /-- Null. -/
  | null
  /-- A truth value. -/
  | bool
  /-- An integer. -/
  | int
  /-- A fractional number. -/
  | float
  /-- A day or a moment. -/
  | stamp
  /-- The key whose value is merged into its mapping. -/
  | merge
  /-- The key of a mapping's default value. -/
  | default
  /-- A string of bytes. -/
  | bytes
  /-- A text. -/
  | text
  deriving DecidableEq, Repr, Inhabited

/-! ### Texts of numbers -/

/-- Whether a character is a digit to the base ten, or an underscore between such digits. -/
def isDigitMark (c : Char) : Bool := c.isDigit || c = '_'

/-- A number without its sign. -/
def unsigned : List Char → List Char
  | '-' :: cs => cs
  | '+' :: cs => cs
  | cs => cs

/-- Whether a number has a minus sign. -/
def isNegative (cs : List Char) : Bool := cs.head? == some '-'

/-- Whether a text is one or two digits that make a number below sixty. -/
def isSixtieth : List Char → Bool
  | [d] => d.isDigit
  | [t, d] => '0' ≤ t && t ≤ '5' && d.isDigit
  | _ => false

/-- Cuts a text at its colons. -/
def atColons (cs : List Char) : List (List Char) := Text.pieces ':' cs

/-- Whether a text is digits between underscores, the first a digit. -/
def isNumeral : List Char → Bool
  | [] => false
  | c :: cs => c.isDigit && cs.all isDigitMark

/-- Whether a text without sign is an integer: to the base two, eight, ten or sixteen, or in
sixtieths. -/
def isIntBody (cs : List Char) : Bool :=
  match cs with
  | ['0'] => true
  | '0' :: 'b' :: ds => !ds.isEmpty && ds.all fun c => c = '0' || c = '1' || c = '_'
  | '0' :: 'x' :: ds =>
    !ds.isEmpty && ds.all fun c =>
      c.isDigit || c = '_' || ('a' ≤ c && c ≤ 'f') || ('A' ≤ c && c ≤ 'F')
  | '0' :: ds => ds.all fun c => ('0' ≤ c && c ≤ '7') || c = '_'
  | _ =>
    match atColons cs with
    | [] => false
    | first :: rest => isNumeral first && rest.all isSixtieth

/-- Whether a text is an exponent with its mark and its sign, or empty. -/
def isExponent : List Char → Bool
  | [] => true
  | e :: s :: ds =>
    (e = 'e' || e = 'E') && (s = '-' || s = '+') && !ds.isEmpty && ds.all Char.isDigit
  | _ => false

/-- Whether a text without sign is a fractional number: with digits in front of its point, or in
sixtieths with a fraction. -/
def isFloatBody (cs : List Char) : Bool :=
  let whole := cs.takeWhile (· != '.')
  match cs.dropWhile (· != '.') with
  | '.' :: rest =>
    let tail := rest.dropWhile isDigitMark
    match atColons whole with
    | [] => false
    | [first] => isNumeral first && isExponent tail
    | first :: rest => isNumeral first && rest.all isSixtieth && tail.isEmpty
  | _ => false

/-- Whether a text is a fractional number that starts with its point; it has no sign. -/
def isPointed (cs : List Char) : Bool :=
  match cs with
  | '.' :: rest =>
    isNumeral (rest.takeWhile isDigitMark) && isExponent (rest.dropWhile isDigitMark)
  | _ => false

/-- The texts of infinity, without their sign. -/
def infinities : List (List Char) := [".inf".toList, ".Inf".toList, ".INF".toList]

/-- The texts of what is not a number. -/
def notNumbers : List (List Char) := [".nan".toList, ".NaN".toList, ".NAN".toList]

/-- Whether a text is a fractional number. -/
def isFloat (cs : List Char) : Bool :=
  isFloatBody (unsigned cs) || isPointed cs || infinities.contains (unsigned cs) ||
    notNumbers.contains cs

/-- The texts of null. -/
def nulls : List String := ["", "~", "null", "Null", "NULL"]

/-- The texts of truth. -/
def truths : List String := ["yes", "Yes", "YES", "true", "True", "TRUE", "on", "On", "ON"]

/-- The texts of falsehood. -/
def falsehoods : List String := ["no", "No", "NO", "false", "False", "FALSE", "off", "Off", "OFF"]

/-! ### Texts of days and moments -/

/-- A day, or a moment, by its digits. -/
structure Stamp where
  /-- The year. -/
  year : List Char
  /-- The month. -/
  month : List Char
  /-- The day of the month. -/
  day : List Char
  /-- Hour, minute, second and fraction. -/
  clock : Option (List Char × List Char × List Char × List Char) := none
  /-- Whether the zone is behind, and its hours and minutes. -/
  zone : Option (Bool × List Char × List Char) := none
  deriving Repr, Inhabited

/-- Takes as many digits as there are, up to `most`; fewer than `least` are none. -/
def takeDigits? (least most : Nat) (cs : List Char) : Option (List Char × List Char) :=
  let ds := (cs.take most).takeWhile Char.isDigit
  if least ≤ ds.length then some (ds, cs.drop ds.length) else none

/-- What is behind a character, if the text starts with it. -/
def behind? (c : Char) : List Char → Option (List Char)
  | [] => none
  | x :: cs => if x = c then some cs else none

/-- A space or a tab. -/
def isSpaceOrTab (c : Char) : Bool := c = ' ' || c = '\t'

/-- What is behind the mark between the day and the time of day. -/
def behindMark? : List Char → Option (List Char)
  | [] => none
  | c :: cs =>
    if c = 'T' || c = 't' then some cs
    else if isSpaceOrTab c then some (cs.dropWhile isSpaceOrTab)
    else none

/-- A text that is a zone, or nothing. -/
def zone? (cs : List Char) : Option (Option (Bool × List Char × List Char)) :=
  match cs, cs.dropWhile isSpaceOrTab with
  | [], _ => some none
  | _, ['Z'] => some (some (false, ['0'], ['0']))
  | _, c :: cs =>
    if c = '+' || c = '-' then
      match takeDigits? 1 2 cs with
      | some (hours, []) => some (some (c = '-', hours, ['0']))
      | some (hours, ':' :: cs) =>
        match takeDigits? 2 2 cs with
        | some (minutes, []) => some (some (c = '-', hours, minutes))
        | _ => none
      | _ => none
    else none
  | _, [] => none

/-- A text that is a day or a moment. -/
def Stamp.ofText? (cs : List Char) : Option Stamp := do
  let (year, cs) ← takeDigits? 4 4 cs
  let (month, cs) ← takeDigits? 1 2 (← behind? '-' cs)
  let (day, cs) ← takeDigits? 1 2 (← behind? '-' cs)
  if cs.isEmpty then some { year, month, day }
  else
    let (hour, cs) ← takeDigits? 1 2 (← behindMark? cs)
    let (minute, cs) ← takeDigits? 2 2 (← behind? ':' cs)
    let (second, cs) ← takeDigits? 2 2 (← behind? ':' cs)
    let (fraction, cs) := match cs with
      | '.' :: cs => (cs.takeWhile Char.isDigit, cs.dropWhile Char.isDigit)
      | cs => ([], cs)
    let zone ← zone? cs
    some { year, month, day, clock := some (hour, minute, second, fraction), zone }

/-- Whether a plain scalar is a day or a moment; without a time of day, the month and the day have
two digits. -/
def isStamp (cs : List Char) : Bool :=
  match Stamp.ofText? cs with
  | some s => s.clock.isSome || (s.month.length == 2 && s.day.length == 2)
  | none => false

/-- The type of a plain scalar. -/
def ScalarType.ofPlain (cs : List Char) : ScalarType :=
  let s := String.ofList cs
  if nulls.contains s then .null
  else if truths.contains s || falsehoods.contains s then .bool
  else if isFloat cs then .float
  else if isIntBody (unsigned cs) then .int
  else if s == "<<" then .merge
  else if s == "=" then .default
  else if isStamp cs then .stamp
  else .text

/-! ### Values -/

/-- The truth value that a text names. -/
def boolOf (cs : List Char) : Except Trouble Bool :=
  let word := String.ofList (cs.map Char.toLower)
  if truths.contains word then .ok true
  else if falsehoods.contains word then .ok false
  else .error (.other "KeyError" (Text.quoted word))

/-- The ASCII digit for a digit of any script. -/
def asciiDigit (c : Char) : Char :=
  match Text.digitZeros.find? fun z => z ≤ c.toNat && c.toNat < z + 10 with
  | some z => Char.ofNat ('0'.toNat + (c.toNat - z))
  | none => c

/-- A text without the blanks around it, with ASCII digits. -/
def literal (cs : List Char) : List Char := (Text.trim cs).map asciiDigit

/-- The number that a digit to some base stands for; any other character stands for one that is no
digit. -/
def digitValue (c : Char) : Nat :=
  if c.isDigit then c.toNat - '0'.toNat
  else if c.isAlpha then c.toLower.toNat - 'a'.toNat + 10
  else 36

/-- The number that digits to a base spell. -/
def toBase (base : Nat) (ds : List Char) : Nat := ds.foldl (fun n d => base * n + digitValue d) 0

/-- The letter that marks a base. -/
def baseMark? : Nat → Option Char
  | 2 => some 'b'
  | 8 => some 'o'
  | 16 => some 'x'
  | _ => none

/-- Digits without the mark of their base. -/
def withoutMark (base : Nat) : List Char → List Char
  | '0' :: c :: ds => if baseMark? base == some c.toLower then ds else '0' :: c :: ds
  | ds => ds

/-- The error of a text that is no integer to a base, of which two hundred characters are shown. -/
def notInteger (base : Nat) (cs : List Char) : Trouble :=
  let shown := String.ofList ((Text.quotedChars cs).take 200)
  .ofValue s!"invalid literal for int() with base {base}: {shown}"

/-- The integer that a text spells to a base.  To the base ten, it may not have too many digits. -/
def integer (base : Nat) (cs : List Char) : Except Trouble Int :=
  let body := literal cs
  let ds := withoutMark base (unsigned body)
  let digits := ds.takeWhile (digitValue · < base)
  if base = 10 && Error.digitLimit < digits.length then
    .error (.ofError (.tooLargeToRead digits.length))
  else if digits.isEmpty || digits.length < ds.length then .error (notInteger base cs)
  else .ok (if isNegative body then -(toBase base digits : Int) else toBase base digits)

/-- The error of a text that ends in front of its first character. -/
def noCharacter : Trouble := .other "IndexError" "string index out of range"

/-- The value of an integer.  In sixtieths, each part counts sixty times as much as the next. -/
def intOf (cs : List Char) : Except Trouble Int := do
  let value := cs.filter (· != '_')
  let n ← match unsigned value with
    | [] => .error noCharacter
    | ['0'] => .ok 0
    | '0' :: 'b' :: ds => integer 2 ds
    | '0' :: 'x' :: ds => integer 16 ds
    | '0' :: ds => integer 8 ('0' :: ds)
    | ds => (atColons ds).foldlM (fun n p => do .ok (60 * n + (← integer 10 p))) 0
  .ok (if isNegative value then -n else n)

/-- The fractional number that a text spells. -/
def fractional (cs : List Char) : Except Trouble Binary64 :=
  match Binary64.ofText? (String.ofList (literal cs)) with
  | some x => .ok x
  | none =>
    .error (.ofValue ("could not convert string to float: " ++ Text.quoted (String.ofList cs)))

/-- The sum of numbers in sixtieths, the last of which comes first; `unit` is what the first one
counts for. -/
def sixtieths (sum : Binary64) (unit : Nat) : List Binary64 → Binary64
  | [] => sum
  | x :: xs => sixtieths (sum.plus (x.times unit)) (60 * unit) xs

/-- The value of a fractional number.  In sixtieths, the parts are summed up from the last one
on. -/
def floatOf (cs : List Char) : Except Trouble Binary64 := do
  let value := (cs.filter (· != '_')).map Char.toLower
  let body := unsigned value
  let x ←
    if value.isEmpty then .error noCharacter
    else if body = ".inf".toList then .ok (.infinite false)
    else if body = ".nan".toList then .ok .nan
    else match atColons body with
      | [x] => fractional x
      | parts => do .ok (sixtieths (.zero false) 1 (← parts.mapM fractional).reverse)
  .ok (if isNegative value then x.negated else x)

/-! ### Days and moments -/

/-- A part of a day or a moment that must not be out of range. -/
def inRange (fits : Bool) (message : String) : Except Trouble Unit :=
  if fits then .ok () else .error (.ofValue message)

/-- The day of the calendar with a year, a month and a day. -/
def dateOf (y m d : Nat) : Except Trouble Date := do
  inRange (0 < y) "year 0 is out of range"
  inRange (0 < m && m ≤ 12) "month must be in 1..12"
  inRange (0 < d && d ≤ Date.daysIn y m) "day is out of range for month"
  .ok ⟨y, m, d⟩

/-- By how many minutes a zone is ahead, which must be less than a day. -/
def offsetOf (behind : Bool) (hours minutes : Nat) : Except Trouble Int := do
  let n : Int := (60 * hours + minutes : Nat)
  let n := if behind then -n else n
  let span := Moment.shownSpan n
  inRange (n.natAbs < 1440)
    ("offset must be a timedelta strictly between -timedelta(hours=24) and timedelta(hours=24), " ++
      s!"not {span}.")
  .ok n

/-- The millionths that the digits of a fraction make; the seventh digit and those behind do not
count. -/
def microOf (ds : List Char) : Nat :=
  let ds := ds.take 6
  toBase 10 (ds ++ List.replicate (6 - ds.length) '0')

/-- The value of a day or a moment. -/
def Stamp.value (s : Stamp) : Except Trouble Value := do
  let number := toBase 10
  match s.clock with
  | none => .ok (.date (← dateOf (number s.year) (number s.month) (number s.day)))
  | some (hour, minute, second, fraction) =>
    let offset ← s.zone.mapM fun (behind, hours, minutes) =>
      offsetOf behind (number hours) (number minutes)
    let date ← dateOf (number s.year) (number s.month) (number s.day)
    inRange (number hour < 24) "hour must be in 0..23"
    inRange (number minute < 60) "minute must be in 0..59"
    inRange (number second < 60) "second must be in 0..59"
    .ok (.moment ⟨date, number hour, number minute, number second, microOf fraction, offset⟩)

/-- The value of a text that is given the type of days and moments.  A line feed at its end does not
count. -/
def stampOf (cs : List Char) : Except Trouble Value :=
  match Stamp.ofText? (if cs.getLast? = some '\n' then cs.dropLast else cs) with
  | some s => s.value
  | none => .error (.other "AttributeError" "'NoneType' object has no attribute 'groupdict'")

end Yaml
end KeyCall
