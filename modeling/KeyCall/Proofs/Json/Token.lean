import KeyCall.Json.Reading
import Mathlib

/-!
# What a JSON text can start with

The tokens that a text can start with, by kind, with what is known of each kind: a token that opens
a container is one character, a text in quotes that is at fault fails for a reason of its own, and
an integer has no more digits than can be read, unless it is the token of an integer that has.

## Main definitions

* `Json.containerOf?` — the container that a character opens.
* `Json.IsShort` — an integer does not have too many digits.
* `Json.IsLeaf` — the values that are a token of their own.
* `Json.Starts` — the tokens that a text can start with.

## Main results

* `Json.starts_lex` — **the token that a text starts with is one of them.**
-/

namespace KeyCall
namespace Json

/-! ### Kinds of tokens -/

/-- The container that a character opens, if it opens one. -/
def containerOf? : Char → Option String
  | '[' => some "array"
  | '\x7b' => some "object"
  | _ => none

/-- An integer does not have too many digits. -/
def IsShort (n : Int) : Prop := (toString n.natAbs).length ≤ Error.digitLimit

/-- The values that are a token of their own, texts apart. -/
inductive IsLeaf : Value → Prop
  | null : IsLeaf .null
  | bool (b : Bool) : IsLeaf (.bool b)
  | int {n : Int} (hn : IsShort n) : IsLeaf (.int n)
  | float (x : Binary64) : IsLeaf (.float x)

/-- The tokens that a text can start with, and how many characters they take. -/
inductive Starts : List Char → Token × Nat → Prop
  | finish : Starts [] (.finish, 0)
  | openBracket (cs : List Char) : Starts ('[' :: cs) (.openBracket, 1)
  | openBrace (cs : List Char) : Starts ('\x7b' :: cs) (.openBrace, 1)
  | closeBracket (cs : List Char) : Starts (']' :: cs) (.closeBracket, 1)
  | closeBrace (cs : List Char) : Starts ('\x7d' :: cs) (.closeBrace, 1)
  | colon (cs : List Char) : Starts (':' :: cs) (.colon, 1)
  | comma (cs : List Char) : Starts (',' :: cs) (.comma, 1)
  | text {cs : List Char} (units : List Nat) (taken : Nat) :
      Starts cs (.text (Text.ofCodePoints (ofUnits units)), taken)
  | badText {cs : List Char} {f : Fault} (hf : f.reason.error? = none) : Starts cs (.badText f, 0)
  | scalar {cs : List Char} {v : Value} (hv : IsLeaf v) (taken : Nat) : Starts cs (.scalar v, taken)
  | tooLong {cs front digits rest : List Char} (hcs : cs = front ++ digits ++ rest)
      (hdigits : ∀ d ∈ digits, d.isDigit = true) (hlong : Error.digitLimit < digits.length) :
      Starts cs (.tooLong digits.length, 0)
  | unknown {cs : List Char} : Starts cs (.unknown, 0)

/-! ### Texts and numbers -/

/-- A text in quotes is read, or is at fault. -/
theorem error?_of_textBody {opening cs : List Char} {done : List Nat} {taken : Nat} {f : Fault}
    (h : textBody opening done taken cs = .error f) : f.reason.error? = none := by
  fun_induction textBody opening done taken cs with
  | case2 => cases h
  | case4 _ _ _ _ _ _ _ _ _ _ ih => exact ih h
  | case7 _ _ _ _ _ _ _ _ ih => exact ih h
  | case11 _ _ _ _ _ _ _ _ _ _ ih => exact ih h
  | _ =>
    cases h
    rfl

/-- The whole part of a number is a row of digits that the number starts with. -/
theorem wholePart?_eq_some {cs ds : List Char} (h : wholePart? cs = some ds) :
    (∃ rest, cs = ds ++ rest) ∧ ∀ d ∈ ds, d.isDigit = true := by
  cases cs with
  | nil => cases h
  | cons c cs =>
    rw [wholePart?] at h
    split at h
    · next hc =>
      cases h
      exact ⟨⟨cs, by rw [hc]; rfl⟩, by simp⟩
    · split at h
      · next hdigit =>
        cases h
        refine ⟨⟨cs.dropWhile Char.isDigit, ?_⟩, List.forall_mem_cons.2 ⟨hdigit, fun d hd => ?_⟩⟩
        · rw [List.cons_append, List.takeWhile_append_dropWhile]
        · exact List.all_eq_true.1 List.all_takeWhile d hd
      · cases h

/-- What digits are worth takes no more digits. -/
theorem worth_lt {ds : List Char} (h : ∀ d ∈ ds, d.isDigit = true) :
    ds.foldl (fun n c => 10 * n + (c.toNat - '0'.toNat)) 0 < 10 ^ ds.length := by
  induction ds using List.reverseRecOn with
  | nil => exact Nat.one_pos
  | append_singleton ds d ih =>
    obtain ⟨hds, hd⟩ := List.forall_mem_append.1 h
    have hworth := ih hds
    have hdigit : d.toNat ≤ 57 := by
      have hd := List.forall_mem_singleton.1 hd
      simp only [Char.isDigit, Bool.and_eq_true, decide_eq_true_eq] at hd
      exact hd.2
    have hzero : '0'.toNat = 48 := rfl
    rw [List.foldl_append, List.foldl_cons, List.foldl_nil, List.length_append,
      List.length_singleton, Nat.pow_succ]
    omega

theorem isShort_of_natAbs_lt {n : Int} {k : Nat} (hn : n.natAbs < 10 ^ k)
    (hk : k ≤ Error.digitLimit) : IsShort n := by
  rcases Nat.eq_zero_or_pos k with rfl | hpos
  · have hzero : n.natAbs = 0 := Nat.lt_one_iff.1 hn
    rw [IsShort, hzero]
    decide
  · rw [IsShort, Nat.toString_eq_ofList_toDigits, String.length_ofList]
    exact Nat.le_trans ((Nat.length_toDigits_le_iff (by decide) hpos).2 hn) hk

theorem starts_of_number? {cs : List Char} {found : Token × Nat} (h : number? cs = some found) :
    Starts cs found := by
  obtain ⟨negative, hnegative⟩ : ∃ b, (cs.head? == some '-') = b := ⟨_, rfl⟩
  obtain ⟨body, hbody⟩ : ∃ body, (if negative then cs.drop 1 else cs) = body := ⟨_, rfl⟩
  have hfront : ∃ front, cs = front ++ body := by
    subst hbody
    split
    · exact ⟨cs.take 1, (List.take_append_drop 1 cs).symm⟩
    · exact ⟨[], rfl⟩
  unfold number? at h
  simp only [hnegative, hbody] at h
  cases hwhole : wholePart? body with
  | none =>
    rw [hwhole] at h
    cases h
  | some whole =>
    obtain ⟨⟨rest, hrest⟩, hdigits⟩ := wholePart?_eq_some hwhole
    obtain ⟨front, hfront⟩ := hfront
    rw [hwhole, Option.bind_eq_bind, Option.bind_some] at h
    generalize fractionPart _ = fraction at h
    generalize exponentPart _ = mark at h
    by_cases hplain : (fraction.isEmpty && mark.isEmpty) = true
    · by_cases hlong : Error.digitLimit < whole.length
      · simp only [hplain, hlong, Bool.true_and, decide_true, if_true] at h
        have hcs : cs = front ++ whole ++ rest := by rw [hfront, hrest, List.append_assoc]
        cases h
        exact .tooLong hcs hdigits hlong
      · simp only [hplain, hlong, Bool.true_and, decide_false, Bool.false_eq_true, if_false,
          if_true] at h
        cases h
        refine .scalar (.int (isShort_of_natAbs_lt ?_ (Nat.not_lt.1 hlong))) _
        have hworth := worth_lt hdigits
        split <;> simpa using hworth
    · simp only [hplain, Bool.false_and, Bool.false_eq_true, if_false] at h
      cases h
      exact .scalar (.float _) _

theorem isLeaf_of_mem_words {w : List Char × Value} (h : w ∈ words) : IsLeaf w.2 := by
  simp only [words, List.mem_cons, List.not_mem_nil, or_false] at h
  rcases h with rfl | rfl | rfl | rfl | rfl | rfl
  · exact .null
  · exact .bool true
  · exact .bool false
  · exact .float _
  · exact .float _
  · exact .float _

/-- **The tokens that a text can start with.** -/
theorem starts_lex (cs : List Char) : Starts cs (lex cs) := by
  unfold lex
  split
  · exact .finish
  · exact .openBrace _
  · exact .closeBrace _
  · exact .openBracket _
  · exact .closeBracket _
  · exact .colon _
  · exact .comma _
  · split
    · exact .text _ _
    · next f hf => exact .badText (error?_of_textBody hf)
  · split
    · next found hfound => exact starts_of_number? hfound
    · split
      · next w v hfind => exact .scalar (isLeaf_of_mem_words (List.mem_of_find?_eq_some hfind)) _
      · exact .unknown

namespace Starts

variable {cs : List Char} {taken : Nat} {t : Token}

/-- A token that opens a container is the character that does. -/
theorem exists_of_container? {container : String} (h : Starts cs (t, taken))
    (ht : container? t = some container) :
    ∃ c rest, cs = c :: rest ∧ containerOf? c = some container ∧ taken = 1 := by
  cases h with
  | openBracket rest => exact ⟨'[', rest, rfl, ht, rfl⟩
  | openBrace rest => exact ⟨'\x7b', rest, rfl, ht, rfl⟩
  | _ => cases ht

/-- An integer of too many digits has them in a row. -/
theorem exists_of_tooLong {n : Nat} (h : Starts cs (.tooLong n, taken)) :
    ∃ front digits rest, cs = front ++ (digits ++ rest) ∧ (∀ d ∈ digits, d.isDigit = true) ∧
      digits.length = n ∧ Error.digitLimit < n := by
  cases h with
  | @tooLong _ front digits rest hcs hdigits hlong =>
    exact ⟨front, digits, rest, hcs.trans (List.append_assoc _ _ _), hdigits, rfl, hlong⟩

theorem error?_of_badText {f : Fault} (h : Starts cs (.badText f, taken)) :
    f.reason.error? = none := by
  cases h with
  | badText hf => exact hf

end Starts

end Json
end KeyCall
