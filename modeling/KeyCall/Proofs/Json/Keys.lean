import KeyCall.Proofs.Json.Contents
import KeyCall.Proofs.Json.Outline

/-!
# Keys that become the same name

Keys of all kinds become names, and different keys can become the same one: `1` and `"1"` do.  What
kind a key is of can be told from its name, unless the key is a text: null and the truth values are
words, an integer consists of digits and a sign, and a fractional number has a point or an exponent
or is one of three words of its own.  So of two keys of a mapping that become the same name one is a
text, or both are fractional numbers.

The keys of a mapping that was read from JSON are texts, and those differ in their names.

## Main definitions

* `Json.KeyKind`, `Json.HasKind` — the kinds of keys that are no texts.
* `Json.kindOf` — the kind of a name.

## Main results

* `Json.HasKind.kindOf_eq` — what kind a key is of can be told from its name.
* `Json.text_or_float_of_keyUnits_eq` — **which keys can become the same name.**
* `Json.IsRead.keysTold` — those of a mapping read from JSON do not.
-/

namespace KeyCall
namespace Json

/-! ### Names of ASCII characters -/

/-- A character of ASCII. -/
def IsAscii (c : Char) : Prop := c.toNat < 0x80

instance (c : Char) : Decidable (IsAscii c) := inferInstanceAs (Decidable (c.toNat < 0x80))

/-- What is reserved is far beyond ASCII. -/
theorem isReserved_of_isAscii {c : Char} (hc : IsAscii c) : Text.isReserved c = false := by
  rw [IsAscii] at hc
  have hmark : c ≠ Text.mark := by
    rintro rfl
    exact absurd hc (by decide)
  have hfor : Text.standsFor? c = none := by
    rw [Text.standsFor?, dif_neg (by omega)]
  rw [Text.isReserved, hfor, decide_eq_false hmark]
  rfl

theorem codePoints_of_isAscii {cs : List Char} (h : ∀ c ∈ cs, IsAscii c) :
    Text.codePoints cs = cs.map .char := by
  have hspelled : Text.spelled (cs.map .char) = cs := by
    induction cs with
    | nil => rfl
    | cons c cs ih =>
      obtain ⟨hc, hcs⟩ := List.forall_mem_cons.1 h
      have hfree : Text.isReserved c = false := isReserved_of_isAscii hc
      rw [List.map_cons, Text.spelled, List.flatMap_cons, Text.spelling_of_not_reserved hfree,
        ← Text.spelled, ih hcs]
      rfl
  rw [← Text.codePoints_spelled (cs.map .char), hspelled]

theorem nameUnits_of_isAscii {s : String} (h : ∀ c ∈ s.toList, IsAscii c) :
    nameUnits s = s.toList.map Char.toNat := by
  rw [nameUnits, codePoints_of_isAscii h, List.flatMap_map, List.map_eq_flatMap]
  refine List.flatMap_congr fun c hc => units_of_lt ?_
  exact Nat.lt_trans (h c hc) (by decide)

/-- Names of ASCII characters differ in their code units. -/
theorem eq_of_nameUnits_eq {s t : String} (hs : ∀ c ∈ s.toList, IsAscii c)
    (ht : ∀ c ∈ t.toList, IsAscii c) (h : nameUnits s = nameUnits t) : s = t := by
  rw [nameUnits_of_isAscii hs, nameUnits_of_isAscii ht] at h
  have hinjective : Function.Injective Char.toNat := fun c d hcd => Char.toNat_inj.1 hcd
  exact String.toList_inj.1 (List.map_injective_iff.2 hinjective h)

/-! ### The kind of a name -/

/-- The kinds of keys that are no texts. -/
inductive KeyKind
  /-- Null. -/
  | null
  /-- A truth value. -/
  | bool
  /-- An integer. -/
  | int
  /-- A fractional number. -/
  | float
  deriving DecidableEq, Repr

/-- A character of an integer. -/
def isWholeChar (c : Char) : Bool := c.isDigit || c == '-'

/-- The kind of key that becomes a name. -/
def kindOf (s : String) : KeyKind :=
  if s = "null" then .null
  else if s = "true" ∨ s = "false" then .bool
  else if s.toList.all isWholeChar then .int
  else .float

/-- The key is no text, and this is its kind. -/
inductive HasKind : Value → KeyKind → Prop
  | null : HasKind .null .null
  | bool (b : Bool) : HasKind (.bool b) .bool
  | int (n : Int) : HasKind (.int n) .int
  | float (x : Binary64) : HasKind (.float x) .float

theorem isNumberChar_of_isWholeChar {c : Char} (h : isWholeChar c = true) :
    isNumberChar c = true := by
  simp only [isWholeChar, Bool.or_eq_true, beq_iff_eq] at h
  rcases h with h | rfl
  · simp [isNumberChar, h]
  · rfl

theorem isAscii_of_isNumberChar {c : Char} (h : isNumberChar c = true) : IsAscii c := by
  simp only [isNumberChar, Bool.or_eq_true, beq_iff_eq] at h
  rcases h with (((h | rfl) | rfl) | rfl) | rfl
  · simp only [Char.isDigit, Bool.and_eq_true, decide_eq_true_eq] at h
    exact Nat.lt_of_le_of_lt h.2 (by decide)
  · decide
  · decide
  · decide
  · decide

/-- An integer is written with its digits, behind a sign if it is negative. -/
theorem toList_of_intText {n : Int} {s : String} (h : intText n = .ok s) :
    s.toList = (if n < 0 then ['-'] else []) ++ Nat.toDigits 10 n.natAbs := by
  have hdigits : (toString n.natAbs).toList = Nat.toDigits 10 n.natAbs := by
    rw [Nat.toString_eq_ofList_toDigits, String.toList_ofList]
  unfold intText at h
  by_cases hlong : Error.digitLimit < (toString n.natAbs).length
  · simp only [hlong, if_true] at h
    cases h
  · simp only [hlong, if_false] at h
    rw [← Except.ok.inj h]
    split
    · rw [String.toList_append, hdigits]
      rfl
    · exact hdigits

theorem isWholeChar_of_intText {n : Int} {s : String} (h : intText n = .ok s) :
    ∀ c ∈ s.toList, isWholeChar c = true := by
  intro c hc
  rw [toList_of_intText h, List.mem_append] at hc
  rcases hc with hc | hc
  · split at hc
    · rw [List.mem_singleton.1 hc]
      rfl
    · cases hc
  · have hdigit : c.isDigit = true := Nat.isDigit_of_mem_toDigits (by decide) (by decide) hc
    rw [isWholeChar, hdigit]
    rfl

theorem toDigits_injective {m n : Nat} (h : Nat.toDigits 10 m = Nat.toDigits 10 n) : m = n :=
  Nat.repr_inj.1 (congrArg String.ofList h)

/-- An integer can be told from its digits and its sign. -/
theorem intText_injective {m n : Int} {s : String} (hm : intText m = .ok s)
    (hn : intText n = .ok s) : m = n := by
  -- No digit is a sign.
  have hsign : ∀ {k : Nat} {ds : List Char}, Nat.toDigits 10 k ≠ '-' :: ds := by
    intro k ds h
    have hdigit : '-'.isDigit = true :=
      Nat.isDigit_of_mem_toDigits (n := k) (b := 10) (by decide) (by decide)
        (by rw [h]; exact List.mem_cons_self)
    exact absurd hdigit (by decide)
  have heq := (toList_of_intText hm).symm.trans (toList_of_intText hn)
  by_cases hnegm : m < 0 <;> by_cases hnegn : n < 0 <;>
    simp only [hnegm, hnegn, if_true, if_false, List.nil_append, List.singleton_append,
      List.cons.injEq, true_and] at heq
  · have habs := toDigits_injective heq
    omega
  · exact absurd heq.symm hsign
  · exact absurd heq hsign
  · have habs := toDigits_injective heq
    omega

/-- A finite fractional number has a point or an exponent. -/
theorem exists_mem_magnitudeText (m : Nat) (e : Int) :
    ∃ c ∈ Binary64.magnitudeText m e, isWholeChar c = false := by
  unfold Binary64.magnitudeText
  split
  · exact ⟨'.', by decide, rfl⟩
  · unfold KeyCall.Layout.write
    split
    · split
      · exact ⟨'.', by simp, rfl⟩
      · dsimp only
        split <;> exact ⟨'.', by simp, rfl⟩
    · exact ⟨'e', by simp, rfl⟩

/-! ### Keys -/

/-- The words that are names of keys have a letter that no number has. -/
theorem kindOf_of_isNumberChar {s : String} (h : ∀ c ∈ s.toList, isNumberChar c = true) :
    kindOf s = if s.toList.all isWholeChar then .int else .float := by
  have hword : ∀ {w : String} {d : Char}, d ∈ w.toList → isNumberChar d = false → s ≠ w := by
    rintro w d hd hnumber rfl
    rw [h d hd] at hnumber
    cases hnumber
  have hnull : s ≠ "null" := hword (d := 'n') (by decide) rfl
  have htrue : s ≠ "true" := hword (d := 't') (by decide) rfl
  have hfalse : s ≠ "false" := hword (d := 'f') (by decide) rfl
  rw [kindOf, if_neg hnull, if_neg (not_or.2 ⟨htrue, hfalse⟩)]

theorem kindOf_floatText (x : Binary64) : kindOf (floatText x) = .float := by
  cases x with
  | nan => decide
  | infinite negative => cases negative <;> decide
  | finite negative m e =>
    have hwhole : (floatText (.finite negative m e)).toList.all isWholeChar ≠ true := by
      intro hall
      obtain ⟨c, hc, hpart⟩ := exists_mem_magnitudeText m e
      rw [toList_floatText, List.all_append, Bool.and_eq_true, List.all_eq_true,
        List.all_eq_true] at hall
      rw [hall.2 c hc] at hpart
      cases hpart
    rw [kindOf_of_isNumberChar (isNumber_floatText negative m e).2, if_neg hwhole]

theorem isAscii_of_floatText (x : Binary64) : ∀ c ∈ (floatText x).toList, IsAscii c := by
  cases x with
  | nan => simp [IsAscii, floatText]
  | infinite negative => cases negative <;> simp [IsAscii, floatText]
  | finite negative m e =>
    exact fun c hc => isAscii_of_isNumberChar ((isNumber_floatText negative m e).2 c hc)

/-- **What kind a key is of can be told from its name**, unless the key is a text. -/
theorem HasKind.kindOf_eq {k : Value} {kind : KeyKind} (hk : HasKind k kind) {l : Layout}
    {s : String} (h : nameOf l k = .ok s) : kindOf s = kind ∧ ∀ c ∈ s.toList, IsAscii c := by
  cases hk with
  | null =>
    rw [← Except.ok.inj h]
    exact ⟨by decide, by simp [IsAscii]⟩
  | bool b =>
    rw [← Except.ok.inj h]
    cases b <;> exact ⟨by decide, by simp [IsAscii]⟩
  | int n =>
    have hwhole := isWholeChar_of_intText h
    have hnumber : ∀ c ∈ s.toList, isNumberChar c = true :=
      fun c hc => isNumberChar_of_isWholeChar (hwhole c hc)
    rw [kindOf_of_isNumberChar hnumber, if_pos (List.all_eq_true.2 hwhole)]
    exact ⟨rfl, fun c hc => isAscii_of_isNumberChar (hnumber c hc)⟩
  | float x =>
    rw [← Except.ok.inj h]
    exact ⟨kindOf_floatText x, isAscii_of_floatText x⟩

/-- Keys of one kind that have the same name are the same, unless they are fractional numbers. -/
theorem HasKind.sameKey_or_float {k k' : Value} {kind : KeyKind} (hk : HasKind k kind)
    (hk' : HasKind k' kind) {l : Layout} {s : String} (h : nameOf l k = .ok s)
    (h' : nameOf l k' = .ok s) :
    Value.sameKey k k' = true ∨ ∃ x y, k = .float x ∧ k' = .float y := by
  cases hk with
  | null =>
    cases hk'
    exact .inl rfl
  | bool b =>
    cases hk' with
    | bool b' =>
      have heq := h.trans h'.symm
      cases b <;> cases b'
      · exact .inl rfl
      · exact absurd (Except.ok.inj heq) (by decide)
      · exact absurd (Except.ok.inj heq) (by decide)
      · exact .inl rfl
  | int n =>
    cases hk' with
    | int n' =>
      rw [intText_injective h h']
      exact .inl (by simp [Value.sameKey])
  | float x =>
    cases hk' with
    | float y => exact .inr ⟨x, y, rfl, rfl⟩

/-- A key is a text or of a kind that its name tells. -/
theorem text_or_hasKind_of_isKey {k : Value} (h : IsKey k) :
    (∃ s, k = .text s) ∨ ∃ kind, HasKind k kind := by
  rcases h with h | h
  · cases h with
    | null => exact .inr ⟨_, .null⟩
    | bool b => exact .inr ⟨_, .bool b⟩
    | int hn => exact .inr ⟨_, .int _⟩
    | float x => exact .inr ⟨_, .float x⟩
  · exact .inl h

theorem exists_nameOf_of_isKey {k : Value} (h : IsKey k) :
    ∃ s, nameOf .line k = .ok s ∧ keyUnits k = nameUnits s := by
  rcases @writesIf_nameOf (fun v => .ok v.asText) .line k with ⟨s, hs, -⟩ | ⟨e, -, -, hno⟩
  · exact ⟨s, hs, keyUnits_eq hs⟩
  · exact absurd h hno

/-- **Which keys can become the same name**: one of them is a text, or both are fractional
numbers. -/
theorem text_or_float_of_keyUnits_eq {k k' : Value} (hk : IsKey k) (hk' : IsKey k')
    (happart : Value.sameKey k k' = false) (h : keyUnits k = keyUnits k') :
    (∃ s, k = .text s ∨ k' = .text s) ∨ ∃ x y, k = .float x ∧ k' = .float y := by
  rcases text_or_hasKind_of_isKey hk with ⟨s, rfl⟩ | ⟨kind, hkind⟩
  · exact .inl ⟨s, .inl rfl⟩
  rcases text_or_hasKind_of_isKey hk' with ⟨s, rfl⟩ | ⟨kind', hkind'⟩
  · exact .inl ⟨s, .inr rfl⟩
  obtain ⟨s, hs, hunits⟩ := exists_nameOf_of_isKey hk
  obtain ⟨s', hs', hunits'⟩ := exists_nameOf_of_isKey hk'
  obtain ⟨hname, hascii⟩ := hkind.kindOf_eq hs
  obtain ⟨hname', hascii'⟩ := hkind'.kindOf_eq hs'
  -- The names are of ASCII characters, so that they are the same if their code units are.
  have heq : s = s' := by
    refine eq_of_nameUnits_eq hascii hascii' ?_
    rw [← hunits, ← hunits', h]
  rw [heq, hname'] at hname
  rw [hname] at hkind'
  rcases hkind.sameKey_or_float hkind' hs (heq ▸ hs') with hsame | hfloat
  · rw [hsame] at happart
    cases happart
  · exact .inr hfloat

/-! ### Keys that were read -/

theorem IsRead.isWritten {v : Value} (h : IsRead v) (describe : Value → Except Error String) :
    IsWritten describe v := by
  cases v with
  | int n =>
    cases h with
    | int hn => exact hn
  | mapping kind es =>
    intro k hk
    obtain ⟨s, rfl, -⟩ := h.2.spelled k hk
    exact .inr ⟨s, rfl⟩
  | null | bool | float | text | list => trivial
  | _ => cases h

/-- The keys of a mapping that was read become names that differ. -/
theorem IsRead.keysTold {v : Value} (h : IsRead v) : KeysTold v := by
  cases v with
  | mapping kind es =>
    obtain ⟨-, happart, hspelled⟩ := h
    rw [KeysTold, List.Nodup, List.pairwise_map]
    refine happart.imp_of_mem fun {k k'} hk hk' hsame heq => ?_
    obtain ⟨s, rfl, hs⟩ := hspelled k hk
    obtain ⟨s', rfl, hs'⟩ := hspelled k' hk'
    rw [keyUnits_eq (l := .line) (s := s) rfl, keyUnits_eq (l := .line) (s := s') rfl] at heq
    rw [nameUnits_injective hs hs' heq, Value.sameKey_text, beq_self_eq_true] at hsame
    cases hsame
  | _ => trivial

end Json
end KeyCall
