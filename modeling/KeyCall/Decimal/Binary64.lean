/-!
# Double-precision numbers

A fractional number of a collection is a double of the binary64 format.  The program hardly
calculates with such numbers: it reads them from decimal text, compares them when they are keys,
and writes them again.  So a double is kept as its exact sign, mantissa and exponent, and all of
its operations are exact ones on natural numbers, rounded once at the end.

## Main definitions

* `Binary64`: a double.
* `twoTo`, `tenTo`: powers.
* `roundHalfEven`: the natural number nearest to a quotient.
* `Binary64.ofRatio`: the double nearest to a quotient of natural numbers.
* `Binary64.ofDecimal`: the double nearest to a decimal number.
* `Binary64.plus`, `Binary64.times`, `Binary64.negated`: sums, multiples and negatives.
* `Binary64.equals`, `Binary64.equalsInt`: numeric equality with a double and with an integer.
-/

namespace KeyCall

/-- A double.  A finite one stands for `mantissa * 2 ^ exponent` with its sign; its mantissa is
less than `2 ^ 53`, and at least `2 ^ 52` unless the exponent is the least one. -/
inductive Binary64
  /-- Not a number. -/
  | nan
  /-- One of the two infinities. -/
  | infinite (negative : Bool)
  /-- A finite number; a zero has a sign too. -/
  | finite (negative : Bool) (mantissa : Nat) (exponent : Int)
  deriving DecidableEq, Repr, Inhabited

/-- A power of two. -/
def twoTo (n : Nat) : Nat := Nat.pow 2 n

/-- A power of ten. -/
def tenTo (n : Nat) : Nat := Nat.pow 10 n

/-- The natural number nearest to `num / den`; a half goes to the even neighbour. -/
def roundHalfEven (num den : Nat) : Nat :=
  let q := num / den
  let r := num % den
  if 2 * r < den then q
  else if den < 2 * r then q + 1
  else if q % 2 = 0 then q
  else q + 1

namespace Binary64

/-- The exponent of the least positive double, which all subnormal numbers share. -/
def leastExponent : Int := -1074

/-- The exponent of the greatest finite double. -/
def greatestExponent : Int := 971

/-- The zero of the given sign. -/
def zero (negative : Bool) : Binary64 := .finite negative 0 leastExponent

/-- `num / den` divided by `2 ^ e`, again as a quotient. -/
def scaleDown (num den : Nat) (e : Int) : Nat × Nat :=
  if 0 ≤ e then (num, den * twoTo e.toNat) else (num * twoTo (-e).toNat, den)

/-- The exponent at which `num / den` has a mantissa of 53 bits, or the least exponent if the
number is smaller than that. -/
def exponentFor (num den : Nat) : Int :=
  let guess : Int := (Nat.log2 num : Int) - (Nat.log2 den : Int) - 52
  let (n, d) := scaleDown num den guess
  let exact := if n < d * twoTo 52 then guess - 1 else guess
  max exact leastExponent

/-- The double nearest to `num / den`, ties to the even mantissa; a number beyond the range is an
infinity. -/
def ofRatio (negative : Bool) (num den : Nat) : Binary64 :=
  if num = 0 then zero negative
  else
    let e := exponentFor num den
    let (n, d) := scaleDown num den e
    let m := roundHalfEven n d
    let (m, e) := if m = twoTo 53 then (twoTo 52, e + 1) else (m, e)
    if greatestExponent < e then .infinite negative else .finite negative m e

/-- The double nearest to `digits * 10 ^ exponent`.  A power far outside the range is not
computed: beyond 310 digits before the point every number is infinite, and one with 330 zeros
after it is zero. -/
def ofDecimal (negative : Bool) (digits : Nat) (exponent : Int) : Binary64 :=
  if digits = 0 then zero negative
  else
    let point : Int := ((Nat.toDigits 10 digits).length : Int) + exponent
    if 310 < point then .infinite negative
    else if point < -330 then zero negative
    else if 0 ≤ exponent then ofRatio negative (digits * tenTo exponent.toNat) 1
    else ofRatio negative digits (tenTo (-exponent).toNat)

/-- A finite magnitude as a quotient. -/
def ratio (m : Nat) (e : Int) : Nat × Nat :=
  if 0 ≤ e then (m * twoTo e.toNat, 1) else (m, twoTo (-e).toNat)

/-- The double nearest to a sum.  A sum that is zero is negative if both parts are. -/
def plus : Binary64 → Binary64 → Binary64
  | .finite s m e, .finite t n f =>
    let (a, b) := ratio m e
    let (c, d) := ratio n f
    let sum : Int := (if s then -1 else 1) * (a * d : Nat) + (if t then -1 else 1) * (c * b : Nat)
    if sum = 0 then zero (s && t) else ofRatio (decide (sum < 0)) sum.natAbs (b * d)
  | .infinite s, .infinite t => if s = t then .infinite s else .nan
  | .nan, _ => .nan
  | _, .nan => .nan
  | .infinite s, _ => .infinite s
  | _, .infinite t => .infinite t

/-- The double nearest to a multiple. -/
def times (n : Nat) : Binary64 → Binary64
  | .finite s m e =>
    let (a, b) := ratio m e
    ofRatio s (n * a) b
  | x => x

/-- A double with the other sign. -/
def negated : Binary64 → Binary64
  | .nan => .nan
  | .infinite s => .infinite (!s)
  | .finite s m e => .finite (!s) m e

/-- Numeric equality: the two zeros are equal, and not-a-number equals nothing. -/
def equals : Binary64 → Binary64 → Bool
  | .infinite s, .infinite t => s == t
  | .finite s m e, .finite t n f => (m == 0 && n == 0) || (s == t && m == n && e == f)
  | _, _ => false

/-- Numeric equality with an integer. -/
def equalsInt (x : Binary64) (n : Int) : Bool :=
  match x with
  | .finite s m e =>
    let whole : Int := if s then -(m : Int) else m
    if 0 ≤ e then whole * (twoTo e.toNat : Nat) == n else whole == n * (twoTo (-e).toNat : Nat)
  | _ => false

/-- Whether a double counts as false: the two zeros do. -/
def isZero : Binary64 → Bool
  | .finite _ m _ => m == 0
  | _ => false

end Binary64
end KeyCall
