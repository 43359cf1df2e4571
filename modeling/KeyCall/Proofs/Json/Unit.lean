import KeyCall.Proofs.Json.Document
import Mathlib.Data.List.Chain

/-!
# Texts as code units

To JSON a text is its code units.  A character beyond the first plane has two of them, which are a
pair of surrogates, and a surrogate without a partner is a code unit of its own.  So different texts
can have the same code units: one has a character where the other has the two surrogates of its
pair.  No text that was read from code units has such surrogates in a row, since reading joins every
pair.  So texts that were read can be told apart by their code units.

In quotes a code unit is written as a character, by a letter or by its number.  However that is, the
code units are read back.

## Main definitions

* `Json.units`, `Json.nameUnits` — the code units of a code point and of a text.
* `Json.IsSpelled` — the text was read from code units.
* `Json.Spells` — what stands between quotes, and the code units that it spells.

## Main results

* `Json.ofUnits_units` — where no two surrogates make a pair, reading the code units gives the code
  points back.
* `Json.nameUnits_injective` — **texts that were read differ in their code units.**
* `Json.Spells.textBody_eq` — what is spelled is read back.
* `Json.exists_quoted_spells` — **a text in quotes spells its code units.**
-/

namespace KeyCall
namespace Json

/-- The code units of a code point. -/
def units : Text.CodePoint → List Nat
  | .char c =>
    if c.toNat < 0x10000 then [c.toNat]
    else [0xD800 + (c.toNat - 0x10000) / 0x400, 0xDC00 + (c.toNat - 0x10000) % 0x400]
  | .surrogate place => [0xD800 + place.val]

theorem units_of_lt {c : Char} (hc : c.toNat < 0x10000) : units (.char c) = [c.toNat] := by
  rw [units, if_pos hc]

theorem units_of_le {c : Char} (hc : 0x10000 ≤ c.toNat) :
    units (.char c) =
      [0xD800 + (c.toNat - 0x10000) / 0x400, 0xDC00 + (c.toNat - 0x10000) % 0x400] := by
  rw [units, if_neg (Nat.not_lt.2 hc)]

theorem toNat_lt (c : Char) : c.toNat < 0x110000 := by
  rcases c.valid with h | h
  · exact Nat.lt_trans h (by decide)
  · exact h.2

/-- The code units of a text. -/
def nameUnits (s : String) : List Nat := (Text.codePoints s.toList).flatMap units

/-- The text was read from code units. -/
def IsSpelled (s : String) : Prop := ∃ us, s = Text.ofCodePoints (ofUnits us)

/-- Two code points in a row are not the two surrogates of a pair. -/
def NoPair (p q : Text.CodePoint) : Prop :=
  ¬ (Text.isHighSurrogate p.value = true ∧ Text.isLowSurrogate q.value = true)

/-! ### Surrogates -/

theorem isHighSurrogate_iff {n : Nat} :
    Text.isHighSurrogate n = true ↔ 0xD800 ≤ n ∧ n < 0xDC00 := by
  rw [Text.isHighSurrogate, Bool.and_eq_true, decide_eq_true_eq, decide_eq_true_eq]

theorem isLowSurrogate_iff {n : Nat} :
    Text.isLowSurrogate n = true ↔ 0xDC00 ≤ n ∧ n < 0xE000 := by
  rw [Text.isLowSurrogate, Bool.and_eq_true, decide_eq_true_eq, decide_eq_true_eq]

/-- The number of a character is that of no surrogate. -/
theorem toNat_notMem_surrogates (c : Char) : c.toNat < 0xD800 ∨ 0xE000 ≤ c.toNat := by
  rcases c.valid with h | h
  · exact .inl h
  · exact .inr h.1

theorem ofValue_toNat (c : Char) : Text.CodePoint.ofValue c.toNat = .char c := by
  have hc := toNat_notMem_surrogates c
  rw [Text.CodePoint.ofValue, dif_neg (by omega), Char.ofNat_toNat]

theorem ofValue_surrogate (place : Fin 0x800) :
    Text.CodePoint.ofValue (0xD800 + place.val) = .surrogate place := by
  rw [Text.CodePoint.ofValue, dif_pos (by omega)]
  simp

/-- The code point of a number is a surrogate only if the number is that of it. -/
theorem value_ofValue_of_surrogate {n : Nat}
    (h : 0xD800 ≤ (Text.CodePoint.ofValue n).value ∧ (Text.CodePoint.ofValue n).value < 0xE000) :
    (Text.CodePoint.ofValue n).value = n := by
  unfold Text.CodePoint.ofValue at h ⊢
  split at h
  · next hn =>
    rw [dif_pos hn, Text.CodePoint.value]
    dsimp only
    omega
  · have hc := toNat_notMem_surrogates (Char.ofNat n)
    rw [Text.CodePoint.value] at h
    omega

/-- A joined character is beyond all surrogates. -/
theorem not_surrogate_joined (high low : Nat) :
    ¬ (0xD800 ≤ (Text.CodePoint.ofValue (Text.joined high low)).value ∧
      (Text.CodePoint.ofValue (Text.joined high low)).value < 0xE000) := by
  intro h
  have hvalue := value_ofValue_of_surrogate h
  have hbeyond : 0x10000 ≤ Text.joined high low := by
    unfold Text.joined
    omega
  omega

/-! ### Reading code units -/

/-- The first code point is a second surrogate only if the first code unit is. -/
theorem exists_ofUnits_cons (n : Nat) (ns : List Nat) :
    ∃ p ps, ofUnits (n :: ns) = p :: ps ∧
      (Text.isLowSurrogate p.value = true → Text.isLowSurrogate n = true) := by
  have hlow : Text.isLowSurrogate (Text.CodePoint.ofValue n).value = true →
      Text.isLowSurrogate n = true := by
    intro h
    have hvalue := isLowSurrogate_iff.1 h
    rwa [value_ofValue_of_surrogate (by omega)] at h
  cases ns with
  | nil => exact ⟨.ofValue n, [], rfl, hlow⟩
  | cons m ns =>
    rw [ofUnits]
    split
    · refine ⟨.ofValue (Text.joined n m), ofUnits ns, rfl, fun h => ?_⟩
      have hvalue := isLowSurrogate_iff.1 h
      exact absurd (by omega) (not_surrogate_joined n m)
    · exact ⟨.ofValue n, ofUnits (m :: ns), rfl, hlow⟩

/-- Reading joins every pair. -/
theorem isChain_ofUnits (us : List Nat) : (ofUnits us).IsChain NoPair := by
  fun_induction ofUnits us with
  | case1 => exact .nil
  | case2 n => exact .singleton _
  | case3 n m ns hpair ih =>
    refine ih.cons fun q _ h => ?_
    have hvalue := isHighSurrogate_iff.1 h.1
    exact absurd (by omega) (not_surrogate_joined n m)
  | case4 n m ns hpair ih =>
    refine ih.cons fun q hq h => hpair ?_
    obtain ⟨p, ps, heq, hlow⟩ := exists_ofUnits_cons m ns
    rw [heq, List.head?_cons, Option.mem_some_iff] at hq
    subst hq
    have hvalue := isHighSurrogate_iff.1 h.1
    have hhigh := h.1
    rw [value_ofValue_of_surrogate (by omega)] at hhigh
    rw [hhigh, hlow h.2]
    rfl

/-- A code unit that is not the first of a pair is read on its own. -/
theorem ofUnits_cons {n : Nat} {ns : List Nat}
    (h : ∀ m, ns.head? = some m →
      ¬ (Text.isHighSurrogate n = true ∧ Text.isLowSurrogate m = true)) :
    ofUnits (n :: ns) = .ofValue n :: ofUnits ns := by
  cases ns with
  | nil => rfl
  | cons m ns =>
    have hm := h m rfl
    rw [← Bool.and_eq_true] at hm
    rw [ofUnits, if_neg hm]

/-- The first code unit is a second surrogate only if the code point is. -/
theorem isLowSurrogate_of_head?_units {p : Text.CodePoint} {n : Nat} {rest : List Nat}
    (hn : (units p ++ rest).head? = some n) (hlow : Text.isLowSurrogate n = true) :
    Text.isLowSurrogate p.value = true := by
  have hvalue := isLowSurrogate_iff.1 hlow
  cases p with
  | char c =>
    have hc := toNat_lt c
    rcases Nat.lt_or_ge c.toNat 0x10000 with hsmall | hbig
    · rw [units_of_lt hsmall] at hn
      cases hn
      exact hlow
    · rw [units_of_le hbig] at hn
      have hhead := Option.some.inj hn
      omega
  | surrogate place =>
    cases hn
    exact hlow

/-- **Where no two surrogates make a pair, the code points are read back.** -/
theorem ofUnits_units {ps : List Text.CodePoint} (h : ps.IsChain NoPair) :
    ofUnits (ps.flatMap units) = ps := by
  induction ps with
  | nil => rfl
  | cons p ps ih =>
    obtain ⟨hnext, hps⟩ := List.isChain_cons.1 h
    rw [List.flatMap_cons]
    cases p with
    | char c =>
      have hc := toNat_notMem_surrogates c
      rcases Nat.lt_or_ge c.toNat 0x10000 with hsmall | hbig
      · rw [units_of_lt hsmall, List.singleton_append, ofUnits_cons fun m _ hpair => ?_,
          ofValue_toNat, ih hps]
        have hvalue := isHighSurrogate_iff.1 hpair.1
        omega
      · have hlt := toNat_lt c
        have hhigh : Text.isHighSurrogate (0xD800 + (c.toNat - 0x10000) / 0x400) = true :=
          isHighSurrogate_iff.2 (by omega)
        have hlow : Text.isLowSurrogate (0xDC00 + (c.toNat - 0x10000) % 0x400) = true :=
          isLowSurrogate_iff.2 (by omega)
        have hjoined : Text.joined (0xD800 + (c.toNat - 0x10000) / 0x400)
            (0xDC00 + (c.toNat - 0x10000) % 0x400) = c.toNat := by
          unfold Text.joined
          omega
        rw [units_of_le hbig, List.cons_append, List.singleton_append, ofUnits, hhigh, hlow,
          Bool.and_self, if_pos rfl, hjoined, ofValue_toNat, ih hps]
    | surrogate place =>
      rw [units, List.singleton_append, ofUnits_cons fun m hm hpair => ?_, ofValue_surrogate,
        ih hps]
      cases ps with
      | nil => cases hm
      | cons q qs => exact hnext q rfl ⟨hpair.1, isLowSurrogate_of_head?_units hm hpair.2⟩

/-- **Texts that were read differ in their code units.** -/
theorem nameUnits_injective {s t : String} (hs : IsSpelled s) (ht : IsSpelled t)
    (h : nameUnits s = nameUnits t) : s = t := by
  obtain ⟨us, rfl⟩ := hs
  obtain ⟨vs, rfl⟩ := ht
  rw [nameUnits, nameUnits, Text.codePoints_ofCodePoints, Text.codePoints_ofCodePoints] at h
  rw [← ofUnits_units (isChain_ofUnits us), h, ofUnits_units (isChain_ofUnits vs)]

/-! ### Writing code units -/

/-- What stands between quotes, and the code units that it spells. -/
inductive Spells : List Char → List Nat → Prop
  | nil : Spells [] []
  | plain {c : Char} {cs : List Char} {us : List Nat} (hc : 0x20 ≤ c.toNat) (hquote : c ≠ '"')
      (hslash : c ≠ '\\') (rest : Spells cs us) : Spells (c :: cs) (c.toNat :: us)
  | letter {c d : Char} {cs : List Char} {us : List Nat} (hc : escape? c = some d)
      (rest : Spells cs us) : Spells ('\\' :: c :: cs) (d.toNat :: us)
  | number {a b c d : Char} {n : Nat} {cs : List Char} {us : List Nat}
      (hdigits : ∀ x ∈ [a, b, c, d], isHexDigit x = true) (hn : hexNumber? [a, b, c, d] = some n)
      (rest : Spells cs us) : Spells ('\\' :: 'u' :: a :: b :: c :: d :: cs) (n :: us)

theorem Spells.append {cs ds : List Char} {us vs : List Nat} (h : Spells cs us)
    (hd : Spells ds vs) : Spells (cs ++ ds) (us ++ vs) := by
  induction h with
  | nil => exact hd
  | plain hc hquote hslash rest ih => exact .plain hc hquote hslash ih
  | letter hc rest ih => exact .letter hc ih
  | number hdigits hn rest ih => exact .number hdigits hn ih

/-- What spells code units may stand between quotes. -/
theorem Spells.inQuotes {cs : List Char} {us : List Nat} (h : Spells cs us) : InQuotes cs := by
  have hletters : ∀ {c d : Char}, escape? c = some d →
      c ∈ ['"', '\\', '/', 'b', 'f', 'n', 'r', 't'] := by
    intro c d hc
    unfold escape? at hc
    split at hc
    case h_9 => cases hc
    all_goals decide
  induction h with
  | nil => exact .nil
  | plain hc hquote hslash rest ih => exact .plain hc hquote hslash ih
  | letter hc rest ih => exact .letter (hletters hc) ih
  | @number a b c d n cs us hdigits hn rest ih =>
    exact @InQuotes.number [a, b, c, d] cs rfl hdigits ih

/-- What is spelled is read back, up to the quote behind it. -/
theorem Spells.textBody_eq {cs : List Char} {us : List Nat} (h : Spells cs us)
    (opening : List Char) (done : List Nat) (taken : Nat) (tail : List Char) :
    textBody opening done taken (cs ++ '"' :: tail) =
      .ok (done.reverse ++ us, taken + cs.length + 1) := by
  induction h generalizing done taken with
  | nil =>
    rw [List.nil_append, textBody, List.append_nil]
    rfl
  | @plain c cs us hc hquote hslash rest ih =>
    rw [List.cons_append, textBody.eq_7 _ _ _ _ _ hquote, if_neg (Nat.not_lt.2 hc), ih]
    · simp only [List.reverse_cons, List.append_assoc, List.singleton_append, List.length_cons,
        Nat.add_comm, Nat.add_left_comm]
    · exact fun _ _ _ _ _ h => absurd h hslash
    · exact fun _ h => absurd h hslash
    · exact fun _ _ h => absurd h hslash
    · exact fun h => absurd h hslash
  | @letter c d cs us hc rest ih =>
    have hu : c ≠ 'u' := by
      rintro rfl
      cases hc
    rw [List.cons_append, List.cons_append, textBody.eq_5 _ _ _ _ _ (fun _ _ _ _ _ h => absurd h hu)
      hu, hc]
    dsimp only
    rw [ih]
    simp only [List.reverse_cons, List.append_assoc, List.singleton_append, List.length_cons,
      Nat.add_comm, Nat.add_left_comm]
  | @number a b c d n cs us hdigits hn rest ih =>
    have hmore : (cs ++ '"' :: tail).isEmpty = false := by simp
    simp only [List.cons_append]
    rw [textBody, hmore, hn]
    simp only [Bool.false_eq_true, if_false]
    rw [ih]
    simp only [List.reverse_cons, List.append_assoc, List.singleton_append, List.length_cons,
      Nat.add_comm, Nat.add_left_comm]

theorem hexNumber?_concat (cs : List Char) (d : Char) :
    hexNumber? (cs ++ [d]) =
      (do let n ← hexNumber? cs
          let d ← hexValue? d
          some (16 * n + d)) := by
  rw [hexNumber?, List.foldl_append]
  rfl

theorem hexValue?_digitChar : ∀ n < 16, hexValue? (Nat.digitChar n) = some n := by decide

theorem hexNumber?_hexDigits (n : Nat) : hexNumber? (Text.hexDigits n) = some n := by
  induction n using Nat.strongRecOn with
  | ind n ih =>
    rw [Text.hexDigits, Nat.toDigits_eq_if (by decide)]
    split
    · next hn =>
      have hone : hexNumber? ([] ++ [Nat.digitChar n]) = some n := by
        rw [hexNumber?_concat, hexValue?_digitChar n hn]
        simp [hexNumber?]
      exact hone
    · next hn =>
      have hrest := ih (n / 16) (by omega)
      rw [Text.hexDigits] at hrest
      rw [hexNumber?_concat, hrest, hexValue?_digitChar _ (Nat.mod_lt n (by decide))]
      exact congrArg some (Nat.div_add_mod n 16)

/-- Zeros in front do not count. -/
theorem hexNumber?_hexPadded (width n : Nat) : hexNumber? (Text.hexPadded width n) = some n := by
  have hzero : ∀ k : Nat, hexNumber? (List.replicate k '0') = some 0 := by
    intro k
    induction k with
    | zero => rfl
    | succ k ih =>
      rw [List.replicate_succ', hexNumber?_concat, ih]
      rfl
  rw [Text.hexPadded, ← hexNumber?_hexDigits n]
  rw [hexNumber?, List.foldl_append]
  have hfront := hzero (width - (Text.hexDigits n).length)
  rw [hexNumber?] at hfront
  rw [hfront]
  rfl

/-- A code unit is spelled out by its number. -/
theorem spells_spelledUnit {n : Nat} (hn : n < 0x10000) : Spells (spelledUnit n) [n] := by
  have hvalue := hexNumber?_hexPadded 4 n
  obtain ⟨a, b, c, d, hpadded, hdigits⟩ := exists_hexPadded_eq hn
  rw [hpadded] at hvalue
  rw [spelledUnit, hpadded]
  exact .number hdigits hvalue .nil

/-- A character is written as itself, by a letter or by its code units. -/
theorem spells_quotedChar (c : Char) : Spells (quotedChar c) (units (.char c)) := by
  have hletter : ∀ {d e : Char}, escape? d = some e → e.toNat < 0x10000 →
      Spells ['\\', d] (units (.char e)) := by
    intro d e hd he
    rw [units_of_lt he]
    exact .letter hd .nil
  unfold quotedChar
  simp only [Bool.or_eq_true, decide_eq_true_eq, Bool.and_eq_true]
  split
  case isTrue h => rcases h with rfl | rfl <;> exact hletter rfl (by decide)
  case isFalse hspecial =>
    obtain ⟨hquote, hslash⟩ := not_or.1 hspecial
    split
    · next h => exact h ▸ hletter (d := 'n') rfl (by decide)
    split
    · next h => exact h ▸ hletter (d := 'r') rfl (by decide)
    split
    · next h => exact h ▸ hletter (d := 't') rfl (by decide)
    split
    · next h => exact h ▸ hletter (d := 'f') rfl (by decide)
    split
    · next h => exact h ▸ hletter (d := 'b') rfl (by decide)
    split
    · next h =>
      rw [units_of_lt (by omega)]
      exact .plain h.1 hquote hslash .nil
    split
    · next h =>
      rw [units_of_lt h]
      exact spells_spelledUnit h
    · next h =>
      have hc := toNat_lt c
      rw [units_of_le (Nat.not_lt.1 h)]
      exact (spells_spelledUnit (by omega)).append (spells_spelledUnit (by omega))

/-- **A text in quotes spells its code units.** -/
theorem exists_quoted_spells (s : String) :
    ∃ cs, Spells cs (nameUnits s) ∧ (quoted s).toList = '"' :: cs ++ ['"'] := by
  refine ⟨(Text.codePoints s.toList).flatMap quotedPoint, ?_, String.toList_ofList⟩
  unfold nameUnits
  induction Text.codePoints s.toList with
  | nil => exact .nil
  | cons p ps ih =>
    rw [List.flatMap_cons, List.flatMap_cons]
    refine Spells.append ?_ ih
    cases p with
    | char c => exact spells_quotedChar c
    | surrogate place =>
      exact spells_spelledUnit (by simp only [Text.CodePoint.value]; omega)

end Json
end KeyCall
