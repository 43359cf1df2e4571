import KeyCall.Json.Token
import KeyCall.Json.Writing

/-!
# Documents

A JSON document is one from its first character to its last: quotes are closed, and so is every
bracket and every brace, in the reverse order of their opening.  Blanks stand between tokens only,
and what is between quotes holds neither quotes nor line ends.

Three words that are no numbers of JSON stand for the doubles that are no numbers, as is usual.  Of
the other numbers only the characters are told.

What is written piece by piece is laid out here: digits, numbers, and containers between their ends.

## Main definitions

* `Json.InQuotes` — what may stand between quotes.
* `Json.IsDocument` — the documents.

## Main results

* `Json.isNumber_intText`, `Json.floatText_mem_words_or_isNumber` — numbers are written as numbers.
* `Json.Layout.exists_enclosed_eq` — how a container is laid out.
-/

namespace KeyCall
namespace Json

/-! ### Documents -/

/-- A hexadecimal digit in lower case. -/
def isHexDigit (c : Char) : Bool := "0123456789abcdef".toList.contains c

/-- What may stand between quotes: characters that are neither quotes nor backslashes nor control
characters, and characters spelled behind a backslash by a letter or a number. -/
inductive InQuotes : List Char → Prop
  | nil : InQuotes []
  | plain {c : Char} {cs : List Char} (hc : 0x20 ≤ c.toNat) (hquote : c ≠ '"') (hslash : c ≠ '\\')
      (rest : InQuotes cs) : InQuotes (c :: cs)
  | letter {c : Char} {cs : List Char} (hc : c ∈ ['"', '\\', '/', 'b', 'f', 'n', 'r', 't'])
      (rest : InQuotes cs) : InQuotes ('\\' :: c :: cs)
  | number {ds cs : List Char} (hlength : ds.length = 4) (hds : ∀ d ∈ ds, isHexDigit d = true)
      (rest : InQuotes cs) : InQuotes ('\\' :: 'u' :: (ds ++ cs))

/-- A character of a number. -/
def isNumberChar (c : Char) : Bool := c.isDigit || c == '-' || c == '+' || c == '.' || c == 'e'

/-- A number, as far as its characters tell: a row of them, at least one. -/
def IsNumber (cs : List Char) : Prop := cs ≠ [] ∧ ∀ c ∈ cs, isNumberChar c = true

/-- Blanks between tokens. -/
def IsGap (cs : List Char) : Prop := ∀ c ∈ cs, isBlank c = true

/-- A name with its value. -/
def member (m : List Char × List Char) : List Char := '"' :: m.1 ++ ['"', ':', ' '] ++ m.2

/-- A JSON document. -/
inductive IsDocument : List Char → Prop
  | word {cs : List Char} (hcs : cs ∈ words.map Prod.fst) : IsDocument cs
  | number {cs : List Char} (hcs : IsNumber cs) : IsDocument cs
  | text {cs : List Char} (hcs : InQuotes cs) : IsDocument ('"' :: cs ++ ['"'])
  | list {items : List (List Char)} {first between last : List Char} (hfirst : IsGap first)
      (hbetween : IsGap between) (hlast : IsGap last) (hitems : ∀ s ∈ items, IsDocument s) :
      IsDocument (['['] ++ first ++ (',' :: between).intercalate items ++ last ++ [']'])
  | mapping {members : List (List Char × List Char)} {first between last : List Char}
      (hfirst : IsGap first) (hbetween : IsGap between) (hlast : IsGap last)
      (hnames : ∀ m ∈ members, InQuotes m.1) (hvalues : ∀ m ∈ members, IsDocument m.2) :
      IsDocument (['\x7b'] ++ first ++ (',' :: between).intercalate (members.map member) ++ last ++
        ['\x7d'])

/-! ### Hexadecimal digits -/

theorem isHexDigit_digitChar : ∀ n < 16, isHexDigit (Nat.digitChar n) = true := by decide

theorem isHexDigit_of_mem_hexDigits {n : Nat} {c : Char} (hc : c ∈ Text.hexDigits n) :
    isHexDigit c = true := by
  induction n using Nat.strongRecOn with
  | ind n ih =>
    rw [Text.hexDigits, Nat.toDigits_eq_if (by decide)] at hc
    split at hc
    · next hn =>
      rw [List.mem_singleton.1 hc]
      exact isHexDigit_digitChar n hn
    · rcases List.mem_append.1 hc with hc | hc
      · exact ih (n / 16) (by omega) hc
      · rw [List.mem_singleton.1 hc]
        exact isHexDigit_digitChar _ (Nat.mod_lt n (by decide))

/-- A code unit below `0x10000` is spelled out by four digits. -/
theorem exists_hexPadded_eq {n : Nat} (hn : n < 0x10000) :
    ∃ a b c d, Text.hexPadded 4 n = [a, b, c, d] ∧ ∀ x ∈ [a, b, c, d], isHexDigit x = true := by
  have hlength : (Text.hexDigits n).length ≤ 4 :=
    (Nat.length_toDigits_le_iff (by decide) (by decide)).2 hn
  have hdigits : ∀ x ∈ Text.hexPadded 4 n, isHexDigit x = true := by
    intro x hx
    rcases List.mem_append.1 hx with hx | hx
    · rw [List.eq_of_mem_replicate hx]
      rfl
    · exact isHexDigit_of_mem_hexDigits hx
  have hfour : (Text.hexPadded 4 n).length = 4 := by
    rw [Text.hexPadded, List.length_append, List.length_replicate]
    omega
  match Text.hexPadded 4 n, hfour, hdigits with
  | [a, b, c, d], _, hdigits => exact ⟨a, b, c, d, rfl, hdigits⟩

/-! ### Numbers -/

theorem isNumberChar_of_mem_toDigits {n : Nat} {c : Char} (hc : c ∈ Nat.toDigits 10 n) :
    isNumberChar c = true := by
  have hdigit : c.isDigit = true := Nat.isDigit_of_mem_toDigits (by decide) (by decide) hc
  simp [isNumberChar, hdigit]

theorem IsNumber.minus {cs : List Char} (h : IsNumber cs) : IsNumber ('-' :: cs) := by
  refine ⟨List.cons_ne_nil _ _, fun c hc => ?_⟩
  rcases List.mem_cons.1 hc with rfl | hc
  · rfl
  · exact h.2 c hc

theorem isNumber_intText {n : Int} {s : String} (h : intText n = .ok s) : IsNumber s.toList := by
  have hdigits : (toString n.natAbs).toList = Nat.toDigits 10 n.natAbs := by
    rw [Nat.toString_eq_ofList_toDigits, String.toList_ofList]
  have hnumber : IsNumber (toString n.natAbs).toList := by
    rw [hdigits]
    exact ⟨Nat.toDigits_ne_nil, fun c hc => isNumberChar_of_mem_toDigits hc⟩
  unfold intText at h
  by_cases hlong : Error.digitLimit < (toString n.natAbs).length
  · simp only [hlong, if_true] at h
    cases h
  · simp only [hlong, if_false, Except.ok.injEq] at h
    subst h
    by_cases hneg : n < 0
    · rw [if_pos hneg, String.toList_append]
      exact hnumber.minus
    · rw [if_neg hneg]
      exact hnumber

/-- The digits of a double are digits. -/
theorem isNumberChar_of_mem_shortestDigits {m : Nat} {e : Int} {c : Char}
    (hc : c ∈ (shortestDigits m e).digits) : isNumberChar c = true := by
  have hscaled : ∀ (n : Nat) (p : Int),
      c ∈ (Digits.ofScaled n p).digits → isNumberChar c = true := by
    intro n p hmem
    rw [Digits.ofScaled, List.mem_reverse] at hmem
    exact isNumberChar_of_mem_toDigits
      (List.mem_reverse.1 ((List.dropWhile_sublist _).subset hmem))
  unfold shortestDigits at hc
  dsimp only at hc
  generalize hfound : (List.range 17).findSome? _ = found at hc
  cases found with
  | none =>
    rw [List.mem_singleton.1 hc]
    rfl
  | some d =>
    obtain ⟨k, -, hk⟩ := List.exists_of_findSome?_eq_some hfound
    obtain ⟨n, -, rfl⟩ := Option.map_eq_some_iff.1 hk
    exact hscaled n _ hc

/-- However digits are set, they stay a number. -/
theorem isNumber_write (l : KeyCall.Layout) {d : Digits}
    (hd : ∀ c ∈ d.digits, isNumberChar c = true) : IsNumber (l.write d) := by
  have hzeros : ∀ n, ∀ c ∈ List.replicate n '0', isNumberChar c = true := by
    intro n c hc
    rw [List.eq_of_mem_replicate hc]
    rfl
  have htake : ∀ n, ∀ c ∈ d.digits.take n, isNumberChar c = true :=
    fun n c hc => hd c (List.mem_of_mem_take hc)
  have hdrop : ∀ n, ∀ c ∈ d.digits.drop n, isNumberChar c = true :=
    fun n c hc => hd c (List.mem_of_mem_drop hc)
  have hexponent : ∀ n, ∀ c ∈ l.exponent n, isNumberChar c = true := by
    intro n c hc
    rw [KeyCall.Layout.exponent, List.cons_append, List.mem_cons, List.mem_append] at hc
    rcases hc with rfl | hc | hc
    · split <;> rfl
    · exact hzeros _ c hc
    · exact isNumberChar_of_mem_toDigits hc
  have hempty : ∀ c ∈ ([] : List Char), isNumberChar c = true := by simp
  unfold KeyCall.Layout.write
  split
  · split
    · refine ⟨by simp, ?_⟩
      simp only [List.cons_append, List.forall_mem_cons, List.forall_mem_append]
      exact ⟨rfl, rfl, hzeros _, hd⟩
    · dsimp only
      split
      · refine ⟨by simp, ?_⟩
        simp only [List.forall_mem_cons, List.forall_mem_append]
        exact ⟨⟨hd, hzeros _⟩, rfl, rfl, hempty⟩
      · refine ⟨by simp, ?_⟩
        simp only [List.forall_mem_cons, List.forall_mem_append]
        exact ⟨htake _, rfl, hdrop _⟩
  · refine ⟨by simp, ?_⟩
    simp only [List.forall_mem_cons, List.forall_mem_append]
    refine ⟨⟨htake 1, ?_⟩, rfl, hexponent _⟩
    have hfraction := hdrop 1
    cases hrest : d.digits.drop 1 with
    | nil => exact hempty
    | cons c cs =>
      rw [hrest] at hfraction
      exact List.forall_mem_cons.2 ⟨rfl, hfraction⟩

theorem toList_floatText (negative : Bool) (m : Nat) (e : Int) :
    (floatText (.finite negative m e)).toList =
      (if negative then ['-'] else []) ++ Binary64.magnitudeText m e := by
  rw [floatText, Binary64.text, String.toList_ofList]
  · exact nofun
  · exact nofun
  · exact nofun

theorem isNumber_floatText (negative : Bool) (m : Nat) (e : Int) :
    IsNumber (floatText (.finite negative m e)).toList := by
  have hmagnitude : IsNumber (Binary64.magnitudeText m e) := by
    unfold Binary64.magnitudeText
    split
    · exact ⟨by simp, List.all_eq_true.1 rfl⟩
    · exact isNumber_write _ fun c hc => isNumberChar_of_mem_shortestDigits hc
  rw [toList_floatText]
  split
  · exact hmagnitude.minus
  · exact hmagnitude

/-- A fractional number is a word or a number. -/
theorem floatText_mem_words_or_isNumber (x : Binary64) :
    (floatText x).toList ∈ words.map Prod.fst ∨ IsNumber (floatText x).toList := by
  cases x with
  | nan => exact .inl (by decide)
  | infinite negative => cases negative <;> exact .inl (by decide)
  | finite negative m e => exact .inr (isNumber_floatText negative m e)

/-! ### Containers -/

theorem isGap_nil : IsGap [] := nofun

theorem isGap_newLine (depth : Nat) : IsGap (Layout.newLine depth).toList := by
  intro c hc
  rw [Layout.newLine, String.toList_ofList] at hc
  rcases List.mem_cons.1 hc with rfl | hc
  · rfl
  · rw [List.eq_of_mem_replicate hc]
    rfl

/-- Between its ends a container has its items with commas and blanks. -/
theorem Layout.exists_enclosed_eq (l : Layout) (first last : String) (depth : Nat)
    (items : List String) :
    ∃ front between back, IsGap front ∧ IsGap between ∧ IsGap back ∧
      (l.enclosed first last depth items).toList =
        first.toList ++ front ++ (',' :: between).intercalate (items.map String.toList) ++ back ++
          last.toList := by
  cases items with
  | nil => exact ⟨[], [], [], isGap_nil, isGap_nil, isGap_nil, by cases l <;> simp [enclosed]⟩
  | cons item items =>
    cases l with
    | line =>
      refine ⟨[], [' '], [], isGap_nil, List.all_eq_true.1 rfl, isGap_nil, ?_⟩
      simp [enclosed]
    | pretty =>
      refine ⟨(newLine (depth + 1)).toList, (newLine (depth + 1)).toList, (newLine depth).toList,
        isGap_newLine _, isGap_newLine _, isGap_newLine _, ?_⟩
      simp [enclosed]

end Json
end KeyCall
