import KeyCall.Proofs.Template.Reading

/-!
# The grammar of keys is unambiguous

A class may hold dots and closing braces, and a property list may hold what looks like the end of a
key, so many a key seems to have several readings.  It has one at most.  The reader gives back every
well-formed cut from what the cut writes, so two cuts of one key are the same cut, and it does not
matter in which order a matcher tries its alternatives or how much it lets a run take.

Where the two delicate delimiters fall can be said without the reader: behind the dot of a class and
behind the brace of a property list there is no room for another one.

## Main definitions

* `Cut.Cuts` — a cut of a text.
* `Cut.form`, `Shape.Writes` — which of the three forms a cut, and a text, is written in.

## Main results

* `Cut.Cuts.unique` — a text has one cut at most.
* `Cut.Yields.eq_template` — a cut yields one template only.
* `Template.match?_unambiguous` — **the cut, the form and the template of a text are unique, and the
  delimiters fall where the last dot and the last braces are.**
-/

namespace KeyCall

open Text

namespace Cut

/-- The cut writes the text, and its pieces are of their kinds. -/
def Cuts (c : Cut) (s : String) : Prop := c.WellFormed ∧ c.chars = s.toList

/-- The form that a cut is written in. -/
def form (c : Cut) : Shape :=
  match c.owner with
  | none => .function
  | some o =>
    match o.block with
    | none => .static
    | some _ => .presenter

end Cut

/-- The text can be cut in that form. -/
def Shape.Writes (shape : Shape) (s : String) : Prop := ∃ c : Cut, c.Cuts s ∧ c.form = shape

namespace Cut

/-! ### One cut -/

theorem read?_eq_some_iff_cuts {s : String} {c : Cut} : read? s.toList = some c ↔ c.Cuts s :=
  read?_eq_some_iff

/-- A text has one cut at most. -/
theorem Cuts.unique {s : String} {c c' : Cut} (h : c.Cuts s) (h' : c'.Cuts s) : c = c' := by
  -- The reader is a function, and it reads both of them.
  have hc : read? s.toList = some c := read?_eq_some_iff_cuts.2 h
  have hc' : read? s.toList = some c' := read?_eq_some_iff_cuts.2 h'
  rw [hc] at hc'
  exact Option.some.inj hc'

/-- A matcher that picks one of the cuts of a text, and gives up only if there is none, is the
reader. -/
theorem eq_read?_of_pick {s : String} {pick : Option Cut} (hsound : ∀ c ∈ pick, c.Cuts s)
    (hcomplete : pick = none → ∀ c : Cut, ¬ c.Cuts s) : pick = read? s.toList := by
  cases pick with
  | some c => exact (read?_eq_some_iff_cuts.2 (hsound c rfl)).symm
  | none =>
    cases hread : read? s.toList with
    | none => rfl
    | some c => exact absurd (read?_eq_some_iff_cuts.1 hread) (hcomplete rfl c)

/-! ### One template -/

theorem Cleaned.unique {piece : Option (List Char)} {a b : Option String} (ha : Cleaned piece a)
    (hb : Cleaned piece b) : a = b := by
  -- A piece that holds blanks only has nothing left that could be a text.
  have hblank : ∀ {t : String}, Cleaned piece none → ¬ Cleaned piece (some t) := by
    intro t hnone hsome
    obtain ⟨hne, l, hl, htrim⟩ := hsome
    have hnil : trim l = [] := trim_eq_nil_iff.2 (allBlank_iff.2 (hnone l hl))
    rw [trim_eq_iff.2 htrim] at hnil
    exact hne (String.toList_eq_nil_iff.1 hnil)
  cases a with
  | none =>
    cases b with
    | none => rfl
    | some t => exact absurd hb (hblank ha)
  | some t =>
    cases b with
    | none => exact absurd ha (hblank hb)
    | some u =>
      obtain ⟨-, l, hl, htrim⟩ := ha
      obtain ⟨-, m, hm, hmtrim⟩ := hb
      have hlm : l = m := Option.mem_unique hl hm
      subst hlm
      have htu : t.toList = u.toList := (trim_eq_iff.2 htrim).symm.trans (trim_eq_iff.2 hmtrim)
      rw [String.toList_inj.1 htu]

theorem optionRel_unique {α β : Type} {R : α → β → Prop} (hR : ∀ a b b', R a b → R a b' → b = b')
    {o : Option α} {p q : Option β} (hp : Option.Rel R o p) (hq : Option.Rel R o q) : p = q := by
  cases hp with
  | none => cases hq with
    | none => rfl
  | some h => cases hq with
    | some h' => rw [hR _ _ _ h h']

/-- A cut yields one template only. -/
theorem Yields.eq_template {c : Cut} {t : Template} (h : c.Yields t) : t = c.template := by
  have hc := c.yields_template
  have hmethod : t.method = c.template.method :=
    String.toList_inj.1 (h.method.trans hc.method.symm)
  have houtkey : t.outkey = c.template.outkey :=
    String.toList_inj.1 (h.outkey.trans hc.outkey.symm)
  have hclass : t.className = c.template.className := h.className.unique hc.className
  have hparams : t.params = c.template.params := h.params.unique hc.params
  have hproperties : t.properties = c.template.properties := by
    refine optionRel_unique (fun b p q hp hq => ?_) h.properties hc.properties
    exact String.toList_inj.1 ((trim_eq_iff.2 hp).symm.trans (trim_eq_iff.2 hq))
  cases t
  simp only at hmethod houtkey hclass hproperties hparams
  rw [hmethod, houtkey, hclass, hproperties, hparams]

/-! ### Where the delimiters fall -/

/-- The dot behind a class is the last one in front of the parenthesis of the method, which is the
only one that opens. -/
def DotIsLast (c : Cut) (o : Owner) (s : String) : Prop :=
  let front := '$' :: '{' :: c.lead ++ o.name ++ o.afterName
  let back := o.afterDot ++ c.method ++ c.afterMethod
  ∃ rest, s.toList = front ++ '.' :: back ++ '(' :: rest ∧ '.' ∉ back ∧
    '(' ∉ front ++ '.' :: back ++ rest

/-- The brace behind a property list is the second to last one. -/
def BraceIsSecondToLast (c : Cut) (o : Owner) (b : Block) (s : String) : Prop :=
  let front := '$' :: '{' :: c.lead ++ o.name ++ o.afterName ++ '(' :: b.afterOpen ++
    '{' :: b.properties
  ∃ middle back, s.toList = front ++ '}' :: middle ++ '}' :: back ∧ '}' ∉ middle ∧ '}' ∉ back

/-- A dot behind a class without a property list is the last one in front of a parenthesis. -/
theorem Cuts.dotIsLast {s : String} {c : Cut} (h : c.Cuts s) {o : Owner} (ho : c.owner = some o)
    (hb : o.block = none) : c.DotIsLast o s := by
  obtain ⟨hwf, hchars⟩ := h
  have howner : o.WellFormed := hwf.owner o ho
  refine ⟨c.params ++ ')' :: c.afterParams ++ '}' :: c.afterBrace ++ ':' :: c.afterColon ++
    c.outkey ++ c.trail, ?_, ?_, ?_⟩
  · rw [← hchars, chars, headChars, ho, Option.elim_some, Owner.chars, hb]
    simp
  · -- Between the dot and the parenthesis there are blanks and a word.
    have hblank : ∀ {l}, Blanks l → '.' ∉ l := fun hl => notMem_of_forall hl rfl
    have hmethod : '.' ∉ c.method := notMem_of_forall hwf.method.2 rfl
    simp [hblank howner.afterDot, hmethod, hblank hwf.afterMethod]
  · have hblank : ∀ {l}, Blanks l → '(' ∉ l := fun hl => notMem_of_forall hl rfl
    have hword : ∀ {l}, Word l → '(' ∉ l := fun hl => notMem_of_forall hl.2 rfl
    have hname : '(' ∉ o.name := notMem_of_forall howner.name rfl
    have hparams : '(' ∉ c.params := notMem_of_forall hwf.params rfl
    simp [hblank hwf.lead, hname, hblank howner.afterName, hblank howner.afterDot,
      hword hwf.method, hblank hwf.afterMethod, hparams, hblank hwf.afterParams,
      hblank hwf.afterBrace, hblank hwf.afterColon, hword hwf.outkey, hblank hwf.trail]

/-- Between the brace of a property list and that of the key there is no other, and behind that of
the key there is none. -/
theorem WellFormed.brace_notMem {c : Cut} (h : c.WellFormed) {o : Owner} {b : Block}
    (ho : c.owner = some o) (hb : o.block = some b) :
    '}' ∉ b.afterBrace ++ ')' :: b.afterClose ++ '.' :: o.afterDot ++ c.method ++ c.afterMethod ++
        '(' :: c.params ++ ')' :: c.afterParams ∧
      '}' ∉ c.afterBrace ++ ':' :: c.afterColon ++ c.outkey ++ c.trail := by
  have howner : o.WellFormed := h.owner o ho
  have hblock : b.WellFormed := howner.block b hb
  have hblank : ∀ {l}, Blanks l → '}' ∉ l := fun hl => notMem_of_forall hl rfl
  have hword : ∀ {l}, Word l → '}' ∉ l := fun hl => notMem_of_forall hl.2 rfl
  have hparams : '}' ∉ c.params := notMem_of_forall h.params rfl
  constructor
  · simp [hblank hblock.afterBrace, hblank hblock.afterClose, hblank howner.afterDot,
      hword h.method, hblank h.afterMethod, hparams, hblank h.afterParams]
  · simp [hblank h.afterBrace, hblank h.afterColon, hword h.outkey, hblank h.trail]

/-- Behind a property list a key has the brace of the list and its own. -/
theorem Cuts.braceIsSecondToLast {s : String} {c : Cut} (h : c.Cuts s) {o : Owner} {b : Block}
    (ho : c.owner = some o) (hb : o.block = some b) : c.BraceIsSecondToLast o b s := by
  obtain ⟨hwf, hchars⟩ := h
  obtain ⟨hmiddle, hback⟩ := hwf.brace_notMem ho hb
  refine ⟨_, _, ?_, hmiddle, hback⟩
  rw [← hchars, chars, headChars, ho, Option.elim_some, Owner.chars, hb, Option.elim_some,
    Block.chars]
  simp

end Cut

namespace Template

/-- What the reader makes of a text with a cut is what that cut yields. -/
theorem match?_eq_some_iff_yields {s : String} {c : Cut} (h : c.Cuts s) (t : Template) :
    match? s = some t ↔ c.Yields t := by
  have hmatch : match? s = some c.template := match?_eq_some_iff.2 ⟨c, h.1, h.2, rfl⟩
  constructor
  · intro ht
    rw [hmatch] at ht
    cases ht
    exact c.yields_template
  · intro ht
    rw [hmatch, ht.eq_template]

/-- **The grammar of keys is unambiguous.**  A text has one cut at most, so that every matcher that
picks a cut picks the same one, and the text is written in one of the three forms at most.  The dot
behind a class without a property list is the last one in front of the only opening parenthesis, and
the brace behind a property list is the second to last one.  The template of a text is the one that
its cut yields. -/
theorem match?_unambiguous (s : String) :
    (∀ c c' : Cut, c.Cuts s → c'.Cuts s → c = c') ∧
      (∀ pick : Option Cut, (∀ c ∈ pick, c.Cuts s) → (pick = none → ∀ c : Cut, ¬ c.Cuts s) →
        pick = Cut.read? s.toList) ∧
      (∀ shape shape' : Shape, shape.Writes s → shape'.Writes s → shape = shape') ∧
      (∀ c : Cut, c.Cuts s → ∀ o, c.owner = some o → o.block = none → c.DotIsLast o s) ∧
      (∀ c : Cut, c.Cuts s → ∀ o b, c.owner = some o → o.block = some b →
        c.BraceIsSecondToLast o b s) ∧
      ∀ c : Cut, c.Cuts s → ∀ t, match? s = some t ↔ c.Yields t := by
  refine ⟨fun c c' h h' => h.unique h', fun pick => Cut.eq_read?_of_pick, ?_,
    fun c h o => h.dotIsLast, fun c h o b => h.braceIsSecondToLast,
    fun c h => match?_eq_some_iff_yields h⟩
  -- Two forms of one text are the forms of the same cut.
  rintro shape shape' ⟨c, hc, rfl⟩ ⟨c', hc', rfl⟩
  rw [hc.unique hc']

/-- The class holds a brace and ends in a dot, and the property list looks like the end of a key. -/
theorem match?_unambiguous_of_lookalike :
    let s := "$\x7b a\x7d.b. (\x7bx: \x7d).m()\x7d:k\x7d) . url(?)\x7d:thumb"
    let b : Cut.Block := ⟨[], "x: \x7d).m()\x7d:k".toList, [], [' ']⟩
    let o : Cut.Owner := ⟨"a\x7d.b.".toList, [' '], some b, [' ']⟩
    let c : Cut :=
      ⟨[' '], some o, "url".toList, [], ['?'], [], [], [], "thumb".toList, []⟩
    c.Cuts s ∧ (∀ c' : Cut, c'.Cuts s → c' = c) ∧
      (∀ shape : Shape, shape.Writes s → shape = .presenter) ∧ c.BraceIsSecondToLast o b s ∧
      match? s = some c.template := by
  intro s b o c
  have hc : c.Cuts s := Cut.read?_eq_some (by decide : Cut.read? s.toList = some c)
  obtain ⟨hunique, -, hform, -, hbrace, hyields⟩ := match?_unambiguous s
  exact ⟨hc, fun c' hc' => hunique c' c hc' hc, fun shape hs => hform shape _ hs ⟨c, hc, rfl⟩,
    hbrace c hc o b rfl rfl, (hyields c hc _).2 c.yields_template⟩

end Template
end KeyCall
