/-!
# Blanks, word characters and trimming

Keys are read by a grammar that knows the six ASCII blanks, while the pieces it yields are
trimmed of every Unicode blank.  Both classes live here, together with the few operations on
lists of characters that the readers share: taking a run off the end of a list, trimming, and
cutting at a separator.

## Main definitions

* `isBlank`, `isAsciiBlank`, `isWord`: the character classes.
* `splitTail p l`: `l` cut before its longest tail of characters in `p`.
* `trim`: a list without the blanks at its two ends.
* `pieces`, `split`: a list, and a text, cut at every occurrence of a separator.
* `cutAtFirst?`: the two sides of the first occurrence of a separator.

## Main results

* `splitTail_append`, `splitTail_tail_all`, `splitTail_front_getLast`: the cut of `splitTail`.
* `isBlank_of_isAsciiBlank`: the ASCII blanks are blanks.
-/

namespace KeyCall
namespace Text

/-! ### Character classes -/

/-- A blank: white space in the sense of Unicode, with the four separators U+001C to U+001F
counted in.  Trimming removes these. -/
def isBlank (c : Char) : Bool :=
  let n := c.toNat
  (0x09 ≤ n && n ≤ 0x0D) || (0x1C ≤ n && n ≤ 0x20) || n == 0x85 || n == 0xA0 || n == 0x1680 ||
    (0x2000 ≤ n && n ≤ 0x200A) || n == 0x2028 || n == 0x2029 || n == 0x202F || n == 0x205F ||
    n == 0x3000

/-- An ASCII blank: space, tab, line feed, vertical tab, form feed or carriage return.  These
alone may stand between the tokens of a key. -/
def isAsciiBlank (c : Char) : Bool :=
  let n := c.toNat
  (0x09 ≤ n && n ≤ 0x0D) || n == 0x20

/-- A word character: an ASCII letter, an ASCII digit or the underscore. -/
def isWord (c : Char) : Bool := c.isAlphanum || c == '_'

/-- Every ASCII blank is a blank. -/
theorem isBlank_of_isAsciiBlank {c : Char} (h : isAsciiBlank c = true) : isBlank c = true := by
  simp only [isAsciiBlank, isBlank, Bool.or_eq_true, Bool.and_eq_true, decide_eq_true_eq,
    beq_iff_eq] at h ⊢
  omega

/-! ### Runs at the end of a list -/

/-- Cuts a list before its longest tail of elements in `p`. -/
def splitTail {α : Type} (p : α → Bool) (l : List α) : List α × List α :=
  ((l.reverse.dropWhile p).reverse, (l.reverse.takeWhile p).reverse)

/-- Nothing is lost in the cut. -/
theorem splitTail_append {α : Type} (p : α → Bool) (l : List α) :
    (splitTail p l).1 ++ (splitTail p l).2 = l := by
  rw [splitTail, ← List.reverse_append, List.takeWhile_append_dropWhile, List.reverse_reverse]

/-- The tail holds elements of `p` only. -/
theorem splitTail_tail_all {α : Type} (p : α → Bool) (l : List α) :
    ∀ a ∈ (splitTail p l).2, p a = true := by
  intro a h
  have := List.all_takeWhile (p := p) (l := l.reverse)
  rw [List.all_eq_true] at this
  exact this a (by simpa [splitTail] using h)

/-- The front does not end in an element of `p`. -/
theorem splitTail_front_getLast {α : Type} (p : α → Bool) (l : List α) (a : α)
    (h : (splitTail p l).1.getLast? = some a) : p a = false := by
  rw [splitTail, List.getLast?_reverse] at h
  have := List.head?_dropWhile_not p l.reverse
  rw [h] at this
  simpa using this

/-- Removes the last element if it is `c`, and fails otherwise. -/
def dropLast? (c : Char) (l : List Char) : Option (List Char) :=
  match l.reverse with
  | [] => none
  | d :: r => if d = c then some r.reverse else none

/-- What `dropLast?` yields, followed by the element it removed, is the list. -/
theorem dropLast?_eq_some_iff {c : Char} {l r : List Char} :
    dropLast? c l = some r ↔ l = r ++ [c] := by
  rw [dropLast?]
  split
  · next h => simp_all
  · next d t h =>
    have hl : l = t.reverse ++ [d] := by rw [← List.reverse_reverse l, h, List.reverse_cons]
    subst hl
    constructor
    · intro hr
      split at hr
      · next hd => simp_all
      · simp at hr
    · intro hr
      obtain ⟨h1, h2⟩ := List.append_inj' hr rfl
      simp_all

/-! ### Trimming -/

/-- Removes the blanks at the start. -/
def trimStart (l : List Char) : List Char := l.dropWhile isBlank

/-- Removes the blanks at the end. -/
def trimEnd (l : List Char) : List Char := (splitTail isBlank l).1

/-- Removes the blanks at both ends. -/
def trim (l : List Char) : List Char := trimEnd (trimStart l)

/-- A string without the blanks at its ends. -/
def trimmed (s : String) : String := String.ofList (trim s.toList)

/-- Whether a list holds blanks only; the empty one does. -/
def allBlank (l : List Char) : Bool := l.all isBlank

@[simp] theorem trim_nil : trim [] = [] := rfl

@[simp] theorem allBlank_nil : allBlank [] = true := rfl

/-! ### Separators -/

/-- Cuts a list at every `sep`.  There is one more piece than there are separators, so the
empty list has one empty piece. -/
def pieces (sep : Char) : List Char → List (List Char)
  | [] => [[]]
  | c :: cs =>
    if c = sep then [] :: pieces sep cs
    else
      match pieces sep cs with
      | [] => [[c]]
      | p :: ps => (c :: p) :: ps

/-- The pieces of a text. -/
def split (sep : Char) (s : String) : List String := (pieces sep s.toList).map String.ofList

/-- The two sides of the first `sep`, or nothing if there is none. -/
def cutAtFirst? (sep : Char) : List Char → Option (List Char × List Char)
  | [] => none
  | c :: cs =>
    if c = sep then some ([], cs) else (cutAtFirst? sep cs).map fun (a, b) => (c :: a, b)

@[simp] theorem pieces_nil (sep : Char) : pieces sep [] = [[]] := rfl

theorem pieces_ne_nil (sep : Char) (l : List Char) : pieces sep l ≠ [] := by
  cases l with
  | nil => simp
  | cons c cs =>
    rw [pieces]
    split
    · simp
    · split <;> simp

/-- Whether `small` occurs in a list as a run of consecutive items. -/
def contains {α : Type} [BEq α] (small : List α) : List α → Bool
  | [] => small.isEmpty
  | c :: cs => small.isPrefixOf (c :: cs) || contains small cs

end Text
end KeyCall
