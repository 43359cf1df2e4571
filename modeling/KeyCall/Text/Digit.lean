/-!
# Decimal digits

The decimal digits of Unicode 14.0 come in runs of ten, each from a zero on.

## Main definitions

* `digitZeros`: the code points of the zeros, in increasing order.
* `isDecimalDigit`: a character less than ten places behind a zero.
* `looksNegative`: a minus sign, digits, and perhaps a point with digits behind it.

## Main results

* `isDecimalDigit_of_isDigit`: the ASCII digits are decimal digits.
-/

namespace KeyCall
namespace Text

/-- The zeros of all scripts. -/
def digitZeros : List Nat :=
  [
    0x30, 0x660, 0x6F0, 0x7C0, 0x966, 0x9E6, 0xA66, 0xAE6, 0xB66, 0xBE6, 0xC66, 0xCE6, 0xD66,
    0xDE6, 0xE50, 0xED0, 0xF20, 0x1040, 0x1090, 0x17E0, 0x1810, 0x1946, 0x19D0, 0x1A80, 0x1A90,
    0x1B50, 0x1BB0, 0x1C40, 0x1C50, 0xA620, 0xA8D0, 0xA900, 0xA9D0, 0xA9F0, 0xAA50, 0xABF0,
    0xFF10, 0x104A0, 0x10D30, 0x11066, 0x110F0, 0x11136, 0x111D0, 0x112F0, 0x11450, 0x114D0,
    0x11650, 0x116C0, 0x11730, 0x118E0, 0x11950, 0x11C50, 0x11D50, 0x11DA0, 0x16A60, 0x16AC0,
    0x16B50, 0x1D7CE, 0x1D7D8, 0x1D7E2, 0x1D7EC, 0x1D7F6, 0x1E140, 0x1E2F0, 0x1E950, 0x1FBF0
  ]

/-- A decimal digit of any script. -/
def isDecimalDigit (c : Char) : Bool :=
  digitZeros.any fun z => z ≤ c.toNat && c.toNat < z + 10

/-- Every ASCII digit is a decimal digit. -/
theorem isDecimalDigit_of_isDigit {c : Char} (h : c.isDigit = true) :
    isDecimalDigit c = true := by
  have hc : 0x30 ≤ c.toNat ∧ c.toNat < 0x30 + 10 := by
    simp only [Char.isDigit, Bool.and_eq_true, decide_eq_true_eq, ge_iff_le,
      UInt32.le_iff_toNat_le] at h
    simp only [Char.toNat]
    exact ⟨h.1, Nat.lt_succ_of_le h.2⟩
  simp only [isDecimalDigit, digitZeros, List.any_cons, Bool.or_eq_true, Bool.and_eq_true,
    decide_eq_true_eq]
  exact .inl hc

/-- Whether a list of characters, up to a line feed at its end, is a minus sign, digits, and
perhaps a point with digits behind it.  With a point, the digits in front may be missing. -/
def looksNegative (cs : List Char) : Bool :=
  match if cs.getLast? = some '\n' then cs.dropLast else cs with
  | '-' :: ds =>
    let whole := ds.takeWhile isDecimalDigit
    match ds.dropWhile isDecimalDigit with
    | [] => !whole.isEmpty
    | '.' :: rest => !rest.isEmpty && rest.all isDecimalDigit
    | _ => false
  | _ => false

end Text
end KeyCall
