import KeyCall.Decimal.Binary64

/-!
# The shortest decimal text of a double

A double is written with the fewest decimal digits that read back as it, and of the numbers with
so few digits with the one nearest to it.  The reals that read back as a double form an interval
around it, half way to its two neighbours, with its ends counted in when the mantissa is even.
For one digit, two digits and so on, the two points of the decimal grid next to the double are
held against that interval, and the first grid with a hit wins.  Seventeen digits always suffice.

## Main definitions

* `Digits`: a decimal number as its digits and the place of its point.
* `shortestDigits`: the shortest digits of a positive double.
* `Layout`, `Layout.write`: how digits are set, by position or with an exponent.
* `Binary64.text`: a double as collections and messages show it.
* `Binary64.ofText?`: the double that a decimal text names.
-/

namespace KeyCall

/-- A positive decimal number `0.d₁d₂… * 10 ^ point`, without zeros at the end of its digits. -/
structure Digits where
  /-- The digits, the first of them not zero. -/
  digits : List Char
  /-- How many digits stand before the point; negative for zeros behind it. -/
  point : Int
  deriving DecidableEq, Repr, Inhabited

namespace Digits

/-- The digits of `n * 10 ^ exponent`. -/
def ofScaled (n : Nat) (exponent : Int) : Digits :=
  let ds := Nat.toDigits 10 n
  ⟨(ds.reverse.dropWhile (· == '0')).reverse, (ds.length : Int) + exponent⟩

end Digits

/-! ### The decimal grids around a double -/

/-- A grid of decimal numbers held against the quarter steps of a double: `n` steps of the grid
are `n * grid` and `a` quarter steps are `a * quarter`, in a unit common to both. -/
structure Grid where
  /-- The size of a step of the grid. -/
  grid : Nat
  /-- The size of a quarter of the double's last place. -/
  quarter : Nat

namespace Grid

/-- The grid of step `10 ^ p` against a double of exponent `e`. -/
def ofPower (p e : Int) : Grid :=
  let q := e - 2
  ⟨tenTo p.toNat * twoTo (-q).toNat, twoTo q.toNat * tenTo (-p).toNat⟩

/-- Whether `n` steps of the grid read back as the double of mantissa `m` and exponent `e`. -/
def reads (g : Grid) (m : Nat) (e : Int) (n : Nat) : Bool :=
  let low := if m = twoTo 52 && Binary64.leastExponent < e then 4 * m - 1 else 4 * m - 2
  let high := 4 * m + 2
  let x := n * g.grid
  if m % 2 = 0 then low * g.quarter ≤ x && x ≤ high * g.quarter
  else low * g.quarter < x && x < high * g.quarter

/-- The number of steps that reads back as the double and lies nearest to it, an exact tie going
to the even number, if one of the two neighbours on the grid reads back at all. -/
def nearest? (g : Grid) (m : Nat) (e : Int) : Option Nat :=
  let value := 4 * m * g.quarter
  let below := value / g.grid
  let above := below + 1
  match g.reads m e below, g.reads m e above with
  | false, false => none
  | true, false => some below
  | false, true => some above
  | true, true => some (roundHalfEven value g.grid)

end Grid

/-- The place of the point of `m * 2 ^ e`: the least `n` with `m * 2 ^ e < 10 ^ n`. -/
def pointOf (m : Nat) (e : Int) : Int :=
  let num := m * twoTo e.toNat
  let den := twoTo (-e).toNat
  if den ≤ num then (Nat.toDigits 10 (num / den)).length
  else 1 - ((Nat.toDigits 10 (den / num)).length : Int)

/-- The shortest digits of the double of positive mantissa `m` and exponent `e`. -/
def shortestDigits (m : Nat) (e : Int) : Digits :=
  let n := pointOf m e
  let onGrid? (k : Nat) : Option Digits :=
    let p := n - (k + 1)
    ((Grid.ofPower p e).nearest? m e).map (Digits.ofScaled · p)
  ((List.range 17).findSome? onGrid?).getD ⟨['0'], 1⟩

/-! ### Setting digits -/

/-- How digits are set: with the point in its place while that lies between two bounds, and with
an exponent otherwise. -/
structure Layout where
  /-- The least place of the point that is written by position. -/
  least : Int
  /-- The greatest one. -/
  greatest : Int
  /-- The least number of digits of an exponent. -/
  exponentWidth : Nat

/-- Doubles are written by position from 0.0001 up to, but not including, ten to the sixteenth;
an exponent has at least two digits. -/
def Layout.usual : Layout := ⟨-3, 16, 2⟩

/-- An exponent with its sign, padded with zeros. -/
def Layout.exponent (l : Layout) (n : Int) : List Char :=
  let ds := Nat.toDigits 10 n.natAbs
  (if n < 0 then '-' else '+') :: List.replicate (l.exponentWidth - ds.length) '0' ++ ds

/-- Sets digits.  A number written by position always shows a digit behind the point. -/
def Layout.write (l : Layout) (d : Digits) : List Char :=
  if l.least ≤ d.point && d.point ≤ l.greatest then
    if d.point ≤ 0 then
      '0' :: '.' :: List.replicate (-d.point).toNat '0' ++ d.digits
    else
      let n := d.point.toNat
      if d.digits.length ≤ n then
        d.digits ++ List.replicate (n - d.digits.length) '0' ++ ['.', '0']
      else d.digits.take n ++ '.' :: d.digits.drop n
  else
    let fraction := match d.digits.drop 1 with
      | [] => []
      | rest => '.' :: rest
    d.digits.take 1 ++ fraction ++ 'e' :: l.exponent (d.point - 1)

namespace Binary64

/-- The text of a number without its sign. -/
def magnitudeText (m : Nat) (e : Int) : List Char :=
  if m = 0 then ['0', '.', '0'] else Layout.usual.write (shortestDigits m e)

/-- A double as collections and messages show it. -/
def text : Binary64 → String
  | .nan => "nan"
  | .infinite s => if s then "-inf" else "inf"
  | .finite s m e => String.ofList ((if s then ['-'] else []) ++ magnitudeText m e)

/-! ### Reading -/

/-- The double written as a whole part, a fraction and an exponent of ten. -/
def ofParts (negative : Bool) (whole fraction : List Char) (exponent : Int) : Binary64 :=
  let digits := (whole ++ fraction).foldl (fun n c => 10 * n + (c.toNat - '0'.toNat)) 0
  ofDecimal negative digits (exponent - fraction.length)

/-- An exponent: digits after an optional sign. -/
def exponentOfText? (cs : List Char) : Option Int :=
  let (negative, ds) := match cs with
    | '-' :: ds => (true, ds)
    | '+' :: ds => (false, ds)
    | ds => (false, ds)
  if ds.isEmpty || !ds.all Char.isDigit then none
  else
    let n : Nat := ds.foldl (fun n c => 10 * n + (c.toNat - '0'.toNat)) 0
    some (if negative then -(n : Int) else n)

/-- A number without its sign: digits, an optional fraction and an optional exponent. -/
def magnitudeOfText? (negative : Bool) (cs : List Char) : Option Binary64 :=
  let whole := cs.takeWhile Char.isDigit
  let rest := cs.dropWhile Char.isDigit
  let (fraction, rest) := match rest with
    | '.' :: r => (r.takeWhile Char.isDigit, r.dropWhile Char.isDigit)
    | r => ([], r)
  if whole.isEmpty && fraction.isEmpty then none
  else match rest with
    | [] => some (ofParts negative whole fraction 0)
    | c :: r =>
      if c = 'e' || c = 'E' then (exponentOfText? r).map (ofParts negative whole fraction ·)
      else none

/-- The double that a text names: a decimal number or a word, with or without a sign. -/
def ofText? (s : String) : Option Binary64 :=
  let cs := s.toList
  let negative := cs.head? == some '-'
  let body := if negative || cs.head? == some '+' then cs.drop 1 else cs
  match String.ofList (body.map Char.toLower) with
  | "nan" => some .nan
  | "inf" => some (.infinite negative)
  | "infinity" => some (.infinite negative)
  | _ => magnitudeOfText? negative body

end Binary64
end KeyCall
