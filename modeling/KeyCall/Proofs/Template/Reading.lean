import KeyCall.Proofs.Text.Run
import KeyCall.Template.Reading

/-!
# The reader of keys and the grammar

`Cut.read?` takes a key apart from its end, where each piece is the longest run of its kind.  The
grammar of `KeyCall.Template.Cut` lets the pieces be any runs of their kinds.  The two agree because
every delimiter is outside the class of the run next to it, so that no run can grow into its
neighbour: reading what a well-formed cut writes gives the cut back, and whatever is read is a
well-formed cut of the key.

## Main definitions

* `Cut.Yields` — a template has the pieces of a cut, trimmed where they are to be.

## Main results

* `Cut.read?_eq_some_iff` — the reader accepts exactly the keys of well-formed cuts.
* `Template.match?_iff_cut` — **a text is a template exactly when it can be cut, and then it has
  the pieces of the cut.**
-/

namespace KeyCall

open Text

/-! ### Neighbouring classes -/

theorem isWord_of_isAsciiBlank {c : Char} (h : isAsciiBlank c = true) : isWord c = false := by
  have hn : c.toNat = 9 ∨ c.toNat = 10 ∨ c.toNat = 11 ∨ c.toNat = 12 ∨ c.toNat = 13 ∨
      c.toNat = 32 := by
    simp only [isAsciiBlank, Bool.or_eq_true, Bool.and_eq_true, decide_eq_true_eq, beq_iff_eq] at h
    omega
  -- There are only six of them, and each is looked at.
  rw [← Char.ofNat_toNat c]
  rcases hn with hn | hn | hn | hn | hn | hn <;> rw [hn] <;> rfl

theorem isAsciiBlank_of_isWord {c : Char} (h : isWord c = true) : isAsciiBlank c = false := by
  rw [← Bool.not_eq_true]
  intro hb
  rw [isWord_of_isAsciiBlank hb] at h
  exact Bool.noConfusion h

theorem isClassChar_of_isAsciiBlank {c : Char} (h : isAsciiBlank c = true) :
    isClassChar c = false := by
  simp [isClassChar, h]

theorem isAsciiBlank_of_isClassChar {c : Char} (h : isClassChar c = true) :
    isAsciiBlank c = false := by
  rw [← Bool.not_eq_true]
  intro hb
  rw [isClassChar_of_isAsciiBlank hb] at h
  exact Bool.noConfusion h

namespace Cut

/-- A word is outside the blanks. -/
theorem Word.not_blank {l : List Char} (h : Word l) : ∀ c ∈ l, isAsciiBlank c = false :=
  fun c hc => isAsciiBlank_of_isWord (h.2 c hc)

/-- A delimiter followed by blanks is outside the words. -/
theorem Blanks.cons_not_word {l : List Char} (h : Blanks l) {d : Char} (hd : isWord d = false) :
    ∀ c ∈ d :: l, isWord c = false := by
  intro c hc
  rcases List.mem_cons.1 hc with rfl | hc
  · exact hd
  · exact isWord_of_isAsciiBlank (h c hc)

/-- Blanks followed by a delimiter are outside the classes. -/
theorem Blanks.startsOutside_class {l r : List Char} (h : Blanks l)
    (hr : StartsOutside isClassChar r) : StartsOutside isClassChar (l ++ r) := by
  cases l with
  | nil => exact hr
  | cons c l => exact startsOutside_cons.2 (isClassChar_of_isAsciiBlank (h c List.mem_cons_self))

/-! ### What is written is read -/

theorem readBlock?_chars {b : Block} (h : b.WellFormed) : readBlock? b.chars = some b := by
  have hchars : b.chars = '(' :: (b.afterOpen ++
      '{' :: (b.properties ++ '}' :: b.afterBrace ++ ')' :: b.afterClose)) := by
    simp [Block.chars]
  have hbrace : ∀ l, StartsOutside isAsciiBlank ('{' :: l) := fun l => startsOutside_cons.2 rfl
  have hall : b.properties.all isPropertyChar = true := List.all_eq_true.2 h.properties
  rw [hchars, readBlock?]
  simp only [takeWhile_append_eq h.afterOpen (hbrace _), dropWhile_append_eq h.afterOpen (hbrace _),
    splitTail_append_cons (p := isAsciiBlank) (c := ')') rfl h.afterClose,
    splitTail_append_cons (p := isAsciiBlank) (c := '}') rfl h.afterBrace,
    dropLast?_eq_some_iff.2 rfl, Option.bind_eq_bind, Option.bind_some, hall, if_true]

theorem Block.chars_ne_nil (b : Block) : b.chars ≠ [] := by
  simp [Block.chars]

/-- A property list starts with its parenthesis. -/
theorem Block.startsOutside_chars {p : Char → Bool} (hp : p '(' = false) (b : Block) :
    StartsOutside p b.chars := by
  simp [Block.chars, StartsOutside, hp]

theorem readOwner?_chars {o : Owner} (h : o.WellFormed) : readOwner? o.chars = some o := by
  obtain ⟨name, afterName, block, afterDot⟩ := o
  obtain ⟨hne, hName, hAfter, hBlock, hDot⟩ := h
  -- Neither a class nor the blanks behind it can take in the parenthesis of a property list.
  have hstart : ∀ p : Char → Bool, p '(' = false →
      StartsOutside p (block.elim [] Block.chars) := by
    intro p hp
    cases block with
    | none => exact startsOutside_nil
    | some b => exact b.startsOutside_chars hp
  have hclass := hAfter.startsOutside_class (hstart isClassChar rfl)
  have hempty : name.isEmpty = false := by simpa using hne
  rw [Owner.chars, readOwner?]
  simp only [splitTail_append_cons (p := isAsciiBlank) (c := '.') rfl hDot,
    dropLast?_eq_some_iff.2 rfl, Option.bind_eq_bind, Option.bind_some]
  rw [List.append_assoc, takeWhile_append_eq hName hclass, dropWhile_append_eq hName hclass,
    takeWhile_append_eq hAfter (hstart isAsciiBlank rfl),
    dropWhile_append_eq hAfter (hstart isAsciiBlank rfl), hempty]
  cases block with
  | none => rfl
  | some b =>
    have hb : b.chars.isEmpty = false := by simpa using b.chars_ne_nil
    simp only [Option.elim_some, hb, Bool.false_eq_true, if_false, readBlock?_chars (hBlock b rfl),
      Option.bind_some]

theorem Owner.chars_ne_nil (o : Owner) : o.chars ≠ [] := by
  simp [Owner.chars]

theorem Owner.WellFormed.startsOutside_chars {o : Owner} (h : o.WellFormed) :
    StartsOutside isAsciiBlank o.chars := by
  obtain ⟨name, afterName, block, afterDot⟩ := o
  obtain ⟨hne, hName, -, -, -⟩ := h
  cases name with
  | nil => exact absurd rfl hne
  | cons c name =>
    exact startsOutside_cons.2 (isAsciiBlank_of_isClassChar (hName c List.mem_cons_self))

theorem readHead?_chars {c : Cut} (h : c.WellFormed) :
    readHead? c.headChars = some (c.lead, c.owner) := by
  have hlead : Blanks c.lead := h.lead
  rw [headChars, List.cons_append, List.cons_append, readHead?]
  cases ho : c.owner with
  | none =>
    have htake := takeWhile_append_eq hlead (startsOutside_nil (p := isAsciiBlank))
    have hdrop := dropWhile_append_eq hlead (startsOutside_nil (p := isAsciiBlank))
    simp only [Option.elim_none, htake, hdrop, List.isEmpty_nil, if_true]
  | some o =>
    have hwf : o.WellFormed := h.owner o ho
    have hempty : o.chars.isEmpty = false := by simpa using o.chars_ne_nil
    simp only [Option.elim_some, takeWhile_append_eq hlead hwf.startsOutside_chars,
      dropWhile_append_eq hlead hwf.startsOutside_chars, hempty, Bool.false_eq_true, if_false,
      readOwner?_chars hwf, Option.map_some]

/-- What is written before a method does not end in a word: it ends in a brace, a dot or blanks. -/
theorem WellFormed.endsOutside_headChars {c : Cut} (h : c.WellFormed) :
    EndsOutside isWord c.headChars := by
  rw [headChars]
  cases ho : c.owner with
  | none =>
    -- The opening brace is no word character either.
    rw [Option.elim_none, List.append_nil]
    exact endsOutside_append_of_forall (l := ['$']) (by simp) (h.lead.cons_not_word rfl)
  | some o =>
    rw [Option.elim_some, Owner.chars, ← List.append_assoc]
    exact endsOutside_append_of_forall (by simp) ((h.owner o ho).afterDot.cons_not_word rfl)

/-- **What a well-formed cut writes is read as that cut.** -/
theorem read?_chars {c : Cut} (h : c.WellFormed) : read? c.chars = some c := by
  have hout : c.outkey.isEmpty = false := by simpa using h.outkey.1
  have hmet : c.method.isEmpty = false := by simpa using h.method.1
  -- Each run that is taken off the end stops at its neighbour, which is outside its class.
  have htrail : ∀ l, splitTail isAsciiBlank (l ++ c.outkey ++ c.trail) = (l ++ c.outkey, c.trail) :=
    fun l => splitTail_eq_iff.2
      ⟨rfl, h.trail, endsOutside_append_of_forall h.outkey.1 h.outkey.not_blank⟩
  have houtkey : ∀ l, splitTail isWord (l ++ ':' :: c.afterColon ++ c.outkey) =
      (l ++ ':' :: c.afterColon, c.outkey) :=
    fun l => splitTail_eq_iff.2 ⟨rfl, h.outkey.2,
      endsOutside_append_of_forall (by simp) (h.afterColon.cons_not_word rfl)⟩
  have hafter : splitTail isAsciiBlank (c.headChars ++ c.method ++ c.afterMethod) =
      (c.headChars ++ c.method, c.afterMethod) :=
    splitTail_eq_iff.2
      ⟨rfl, h.afterMethod, endsOutside_append_of_forall h.method.1 h.method.not_blank⟩
  have hmethod : splitTail isWord (c.headChars ++ c.method) = (c.headChars, c.method) :=
    splitTail_eq_iff.2 ⟨rfl, h.method.2, h.endsOutside_headChars⟩
  rw [chars, read?]
  simp only [htrail, houtkey, hafter, hmethod, hout, hmet, readHead?_chars h,
    splitTail_append_cons (p := isAsciiBlank) (c := ':') rfl h.afterColon,
    splitTail_append_cons (p := isAsciiBlank) (c := '}') rfl h.afterBrace,
    splitTail_append_cons (p := isAsciiBlank) (c := ')') rfl h.afterParams,
    splitTail_append_cons (p := isParamChar) (c := '(') rfl h.params,
    dropLast?_eq_some_iff.2 rfl, Option.bind_eq_bind, Option.bind_some, Bool.or_self,
    Bool.false_eq_true, if_false]

/-! ### What is read was written -/

theorem readBlock?_eq_some {l : List Char} {b : Block} (h : readBlock? l = some b) :
    b.WellFormed ∧ b.chars = l := by
  unfold readBlock? at h
  split at h
  · next l =>
    split at h
    · next body hbody =>
      obtain ⟨l₁, afterClose, h₁⟩ : ∃ f t, splitTail isAsciiBlank body = (f, t) := ⟨_, _, rfl⟩
      simp only [h₁, Option.bind_eq_bind, Option.bind_eq_some_iff] at h
      obtain ⟨l₂, h₂, h⟩ := h
      obtain ⟨hl₁, hClose⟩ := eq_of_splitTail_of_dropLast? h₁ h₂
      obtain ⟨l₃, afterBrace, h₃⟩ : ∃ f t, splitTail isAsciiBlank l₂ = (f, t) := ⟨_, _, rfl⟩
      simp only [h₃] at h
      obtain ⟨properties, h₄, h⟩ := h
      obtain ⟨hl₂, hBrace⟩ := eq_of_splitTail_of_dropLast? h₃ h₄
      split at h
      · next hall =>
        cases h
        refine ⟨⟨forall_mem_takeWhile l, List.all_eq_true.1 hall, hBrace, hClose⟩, ?_⟩
        have hl : l = l.takeWhile isAsciiBlank ++ '{' :: body := by
          rw [← hbody, List.takeWhile_append_dropWhile]
        conv => rhs; rw [hl, hl₁, hl₂]
        simp [Block.chars]
      · cases h
    · cases h
  · cases h

theorem readOwner?_eq_some {l : List Char} {o : Owner} (h : readOwner? l = some o) :
    o.WellFormed ∧ o.chars = l := by
  unfold readOwner? at h
  obtain ⟨l₁, afterDot, h₁⟩ : ∃ f t, splitTail isAsciiBlank l = (f, t) := ⟨_, _, rfl⟩
  simp only [h₁, Option.bind_eq_bind, Option.bind_eq_some_iff] at h
  obtain ⟨l₂, h₂, h⟩ := h
  obtain ⟨hl₁, hDot⟩ := eq_of_splitTail_of_dropLast? h₁ h₂
  obtain ⟨name, hname⟩ : ∃ a, l₂.takeWhile isClassChar = a := ⟨_, rfl⟩
  obtain ⟨rest, hrest⟩ : ∃ a, l₂.dropWhile isClassChar = a := ⟨_, rfl⟩
  have hl₂ : l₂ = name ++ rest := by rw [← hname, ← hrest, List.takeWhile_append_dropWhile]
  have hclass : ∀ c ∈ name, isClassChar c = true := hname ▸ forall_mem_takeWhile l₂
  simp only [hname, hrest] at h
  split at h
  · cases h
  · next hempty =>
    have hne : name ≠ [] := by simpa using hempty
    obtain ⟨afterName, hafter⟩ : ∃ a, rest.takeWhile isAsciiBlank = a := ⟨_, rfl⟩
    obtain ⟨tail, htail⟩ : ∃ a, rest.dropWhile isAsciiBlank = a := ⟨_, rfl⟩
    have hl₃ : rest = afterName ++ tail := by
      rw [← hafter, ← htail, List.takeWhile_append_dropWhile]
    have hblank : Blanks afterName := hafter ▸ forall_mem_takeWhile rest
    simp only [hafter, htail] at h
    split at h
    · next hnil =>
      cases h
      refine ⟨⟨hne, hclass, hblank, by simp, hDot⟩, ?_⟩
      rw [hl₁, hl₂, hl₃, List.isEmpty_iff.1 hnil]
      simp [Owner.chars]
    · obtain ⟨b, hb, h⟩ := Option.bind_eq_some_iff.1 h
      cases h
      obtain ⟨hwf, hchars⟩ := readBlock?_eq_some hb
      refine ⟨⟨hne, hclass, hblank, by simpa using hwf, hDot⟩, ?_⟩
      rw [hl₁, hl₂, hl₃, ← hchars]
      simp [Owner.chars]

theorem readHead?_eq_some {l lead : List Char} {owner : Option Owner}
    (h : readHead? l = some (lead, owner)) :
    Blanks lead ∧ (∀ o ∈ owner, o.WellFormed) ∧
      '$' :: '{' :: lead ++ owner.elim [] Owner.chars = l := by
  unfold readHead? at h
  split at h
  · next l =>
    have hl := List.takeWhile_append_dropWhile (p := isAsciiBlank) (l := l)
    have hlead : Blanks (l.takeWhile isAsciiBlank) := forall_mem_takeWhile l
    simp only at h
    split at h
    · next hnil =>
      cases h
      rw [List.isEmpty_iff.1 hnil] at hl
      exact ⟨hlead, by simp, by simpa using hl⟩
    · obtain ⟨o, ho, h⟩ := Option.map_eq_some_iff.1 h
      cases h
      obtain ⟨hwf, hchars⟩ := readOwner?_eq_some ho
      refine ⟨hlead, by simpa using hwf, ?_⟩
      rw [Option.elim_some, hchars]
      simp
  · cases h

/-- **Whatever is read is a well-formed cut of the key.** -/
theorem read?_eq_some {l : List Char} {c : Cut} (h : read? l = some c) :
    c.WellFormed ∧ c.chars = l := by
  unfold read? at h
  -- Behind the colon: the blanks at the end, the output key, and the blanks in front of it.
  obtain ⟨l₁, trail, h₁⟩ : ∃ f t, splitTail isAsciiBlank l = (f, t) := ⟨_, _, rfl⟩
  obtain ⟨hl₁, htrail, -⟩ := splitTail_eq_iff.1 h₁
  obtain ⟨l₂, outkey, h₂⟩ : ∃ f t, splitTail isWord l₁ = (f, t) := ⟨_, _, rfl⟩
  obtain ⟨hl₂, houtkey, -⟩ := splitTail_eq_iff.1 h₂
  obtain ⟨l₃, afterColon, h₃⟩ : ∃ f t, splitTail isAsciiBlank l₂ = (f, t) := ⟨_, _, rfl⟩
  simp only [h₁, h₂, h₃, Option.bind_eq_bind, Option.bind_eq_some_iff] at h
  obtain ⟨l₄, h₄, h⟩ := h
  obtain ⟨hl₃, hcolon⟩ := eq_of_splitTail_of_dropLast? h₃ h₄
  -- Behind the method: the closing brace and the parameters in their parentheses.
  obtain ⟨l₅, afterBrace, h₅⟩ : ∃ f t, splitTail isAsciiBlank l₄ = (f, t) := ⟨_, _, rfl⟩
  simp only [h₅] at h
  obtain ⟨l₆, h₆, h⟩ := h
  obtain ⟨hl₄, hbrace⟩ := eq_of_splitTail_of_dropLast? h₅ h₆
  obtain ⟨l₇, afterParams, h₇⟩ : ∃ f t, splitTail isAsciiBlank l₆ = (f, t) := ⟨_, _, rfl⟩
  simp only [h₇] at h
  obtain ⟨l₈, h₈, h⟩ := h
  obtain ⟨hl₅, hparens⟩ := eq_of_splitTail_of_dropLast? h₇ h₈
  obtain ⟨l₉, params, h₉⟩ : ∃ f t, splitTail isParamChar l₈ = (f, t) := ⟨_, _, rfl⟩
  simp only [h₉] at h
  obtain ⟨l₁₀, h₁₀, h⟩ := h
  obtain ⟨hl₆, hparams⟩ := eq_of_splitTail_of_dropLast? h₉ h₁₀
  -- The method, and what stands in front of it.
  obtain ⟨l₁₁, afterMethod, h₁₁⟩ : ∃ f t, splitTail isAsciiBlank l₁₀ = (f, t) := ⟨_, _, rfl⟩
  obtain ⟨hl₇, hafter, -⟩ := splitTail_eq_iff.1 h₁₁
  obtain ⟨l₁₂, method, h₁₂⟩ : ∃ f t, splitTail isWord l₁₁ = (f, t) := ⟨_, _, rfl⟩
  obtain ⟨hl₈, hmethod, -⟩ := splitTail_eq_iff.1 h₁₂
  simp only [h₁₁, h₁₂] at h
  split at h
  · cases h
  · next hempty =>
    simp only [Bool.or_eq_true, List.isEmpty_iff, not_or] at hempty
    obtain ⟨⟨lead, owner⟩, hhead, h⟩ := Option.bind_eq_some_iff.1 h
    cases h
    obtain ⟨hlead, howner, hl₉⟩ := readHead?_eq_some hhead
    refine ⟨⟨hlead, howner, ⟨hempty.2, hmethod⟩, hafter, hparams, hparens, hbrace, hcolon,
      ⟨hempty.1, houtkey⟩, htrail⟩, ?_⟩
    rw [hl₁, hl₂, hl₃, hl₄, hl₅, hl₆, hl₇, hl₈, ← hl₉]
    simp [chars, headChars]

/-- The reader accepts exactly the keys of well-formed cuts, and gives the cut. -/
theorem read?_eq_some_iff {l : List Char} {c : Cut} :
    read? l = some c ↔ c.WellFormed ∧ c.chars = l :=
  ⟨read?_eq_some, fun h => h.2 ▸ read?_chars h.1⟩

/-! ### The template of a key -/

/-- A text is a piece without the blanks at its ends; an absent or blank piece has none. -/
def Cleaned (piece : Option (List Char)) : Option String → Prop
  | none => ∀ l ∈ piece, ∀ c ∈ l, isBlank c = true
  | some t => t ≠ "" ∧ ∃ l ∈ piece, IsTrim l t.toList

/-- A template has the pieces of a cut: the two words as they are, the class and the parameter
list trimmed and absent if blank, and the property list trimmed, be it empty. -/
structure Yields (c : Cut) (t : Template) : Prop where
  method : t.method.toList = c.method
  outkey : t.outkey.toList = c.outkey
  className : Cleaned (c.owner.map Owner.name) t.className
  params : Cleaned (some c.params) t.params
  properties : Option.Rel (fun b ps => IsTrim b.properties ps.toList)
    (c.owner.bind Owner.block) t.properties

theorem cleaned_cleaned? (l : List Char) : Cleaned (some l) (cleaned? l) := by
  unfold cleaned?
  by_cases h : trim l = []
  · simpa [Cleaned, h] using allBlank_iff.1 (trim_eq_nil_iff.1 h)
  · have hne : String.ofList (trim l) ≠ "" := by simpa using h
    have hempty : (trim l).isEmpty = false := by simpa using h
    simp only [hempty, Bool.false_eq_true, if_false]
    exact ⟨hne, l, rfl, by simpa using isTrim_trim l⟩

theorem yields_template (c : Cut) : c.Yields c.template where
  method := String.toList_ofList
  outkey := String.toList_ofList
  params := cleaned_cleaned? c.params
  className := by
    cases h : c.owner with
    | none => simp [template, h, Cleaned]
    | some o => simpa [template, h] using cleaned_cleaned? o.name
  properties := by
    cases h : c.owner.bind Owner.block with
    | none => simp [template, h]
    | some b =>
      simp only [template, h, Option.map_some]
      exact .some (by simpa using isTrim_trim b.properties)

end Cut

namespace Template

theorem match?_eq_some_iff {s : String} {t : Template} :
    match? s = some t ↔ ∃ c : Cut, c.WellFormed ∧ c.chars = s.toList ∧ c.template = t := by
  simp only [match?, Option.map_eq_some_iff, Cut.read?_eq_some_iff, and_assoc]

/-- **A text is a template exactly when it can be cut, and then it has the pieces of the cut.** -/
theorem match?_iff_cut (s : String) :
    ((∃ t, match? s = some t) ↔ ∃ c : Cut, c.WellFormed ∧ c.chars = s.toList) ∧
      ∀ t, match? s = some t → ∀ c : Cut, c.WellFormed → c.chars = s.toList → c.Yields t := by
  refine ⟨⟨?_, ?_⟩, ?_⟩
  · rintro ⟨t, h⟩
    obtain ⟨c, hwf, hc, -⟩ := match?_eq_some_iff.1 h
    exact ⟨c, hwf, hc⟩
  · rintro ⟨c, hwf, hc⟩
    exact ⟨c.template, match?_eq_some_iff.2 ⟨c, hwf, hc, rfl⟩⟩
  · intro t h c hwf hc
    -- The reader would give this cut, so its template is the one that was given.
    have ht : match? s = some c.template := match?_eq_some_iff.2 ⟨c, hwf, hc, rfl⟩
    rw [h] at ht
    cases ht
    exact c.yields_template

/-- The property list may hold what looks like the end of a key. -/
theorem match?_iff_cut_of_lookalike :
    let s := "$\x7b a.B ( \x7b x: \x7d).m()\x7d:k, y \x7d ) . url ( s, ? ) \x7d : thumb "
    let c : Cut :=
      { lead := [' ']
        owner := some
          { name := ['a', '.', 'B']
            afterName := [' ']
            block := some
              { afterOpen := [' ']
                properties := " x: \x7d).m()\x7d:k, y ".toList
                afterBrace := [' ']
                afterClose := [' '] }
            afterDot := [' '] }
        method := ['u', 'r', 'l']
        afterMethod := [' ']
        params := " s, ? ".toList
        afterParams := [' ']
        afterBrace := [' ']
        afterColon := [' ']
        outkey := "thumb".toList
        trail := [' '] }
    let t : Template := ⟨"url", "thumb", some "a.B", some "x: \x7d).m()\x7d:k, y", some "s, ?"⟩
    match? s = some t ∧ c.chars = s.toList ∧ c.Yields t := by
  intro s c t
  have hs : match? s = some t := by decide
  have hc : c.chars = s.toList := by decide
  have hwf : c.WellFormed := (Cut.read?_eq_some (by decide : Cut.read? s.toList = some c)).1
  exact ⟨hs, hc, (match?_iff_cut s).2 t hs c hwf hc⟩

end Template
end KeyCall
