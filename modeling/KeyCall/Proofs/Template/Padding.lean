import KeyCall.Proofs.Template.Property
import KeyCall.Proofs.Template.Unambiguous

/-!
# Blanks in property lists

Between the tokens of a property list there may be blanks: behind the opening brace and in front of
the closing one, and on both sides of every comma and of the colon of every entry.  An entry keeps
its name and its value when blanks are put in at such a place, and so the list keeps its pairs.

A list stays on one line, however.  The line feed is the one blank that may stand between the other
tokens of a key and not in a property list: with one in its list, a text is no key any more.

## Main definitions

* `Property.entryBefore`, `Property.entryAfter` — what the entry at a place has on its two sides.
* `Property.TokenBoundary` — a place between two tokens of a property list.
* `Property.Reads` — two entries are read as the same property.
* `Cut.withProperties` — a key with another property list.

## Main results

* `Property.TokenBoundary.ofText_eq_ok_iff` — blanks at a boundary do not change the pairs.
* `Template.match?_withProperties_iff` — a property list can be exchanged for every other one that
  has no line feed, and for no other.
* `Template.match?_padded` — **a key with blanks put into its property list is read as before,
  unless there is a line feed among them; then it is not read.**
-/

namespace KeyCall

open Text

namespace Property

variable {front back w : List Char}

/-! ### Places in a property list -/

/-- The end of a list from its last comma on: what the entry at that place has in front of it. -/
def entryBefore (front : List Char) : List Char := (splitTail (· != ',') front).2

/-- The start of a list up to its first comma: what the entry at that place has behind it. -/
def entryAfter (back : List Char) : List Char := back.takeWhile (· != ',')

/-- A place between two tokens of a property list, by what stands in front of it and behind it.  The
colon of an entry is the first one in it. -/
inductive TokenBoundary : List Char → List Char → Prop
  | afterBrace (back : List Char) : TokenBoundary [] back
  | beforeBrace (front : List Char) : TokenBoundary front []
  | beforeComma (front back : List Char) : TokenBoundary front (',' :: back)
  | afterComma (front back : List Char) : TokenBoundary (front ++ [',']) back
  | beforeColon {front : List Char} (back : List Char) (h : ':' ∉ entryBefore front) :
      TokenBoundary front (':' :: back)
  | afterColon {front : List Char} (back : List Char) (h : ':' ∉ entryBefore front) :
      TokenBoundary (front ++ [':']) back

theorem entryBefore_eq_iff {a : List Char} :
    entryBefore front = a ↔ ∃ f, front = f ++ a ∧ (∀ c ∈ a, (c != ',') = true) ∧
      EndsOutside (· != ',') f := by
  unfold entryBefore
  constructor
  · rintro rfl
    exact ⟨_, splitTail_eq_iff.1 rfl⟩
  · rintro ⟨f, h⟩
    rw [splitTail_eq_iff.2 h]

theorem comma_notMem_entryBefore (front : List Char) : ',' ∉ entryBefore front := by
  obtain ⟨_, -, ha, -⟩ := entryBefore_eq_iff.1 (rfl : entryBefore front = _)
  exact notMem_of_forall ha rfl

theorem comma_notMem_entryAfter (back : List Char) : ',' ∉ entryAfter back :=
  notMem_of_forall (forall_mem_takeWhile back) rfl

theorem entryBefore_concat_comma (front : List Char) : entryBefore (front ++ [',']) = [] :=
  entryBefore_eq_iff.2 ⟨front ++ [','], by simp, by simp, endsOutside_concat.2 rfl⟩

theorem entryBefore_concat_colon (front : List Char) :
    entryBefore (front ++ [':']) = entryBefore front ++ [':'] := by
  obtain ⟨f, hf, ha, hend⟩ := entryBefore_eq_iff.1 (rfl : entryBefore front = _)
  refine entryBefore_eq_iff.2 ⟨f, ?_, ?_, hend⟩
  · rw [← List.append_assoc, ← hf]
  · intro c hc
    rcases List.mem_append.1 hc with hc | hc
    · exact ha c hc
    · rw [List.mem_singleton.1 hc]
      rfl

/-- What stands at a place of a property list is one of its entries: the blanks put in there go into
that entry, and the others stay as they are. -/
theorem exists_pieces_around (front back : List Char) :
    ∃ before after, ∀ w, ',' ∉ w →
      pieces ',' (front ++ w ++ back) =
        before ++ (entryBefore front ++ w ++ entryAfter back) :: after := by
  obtain ⟨f, hf, -, hend⟩ := entryBefore_eq_iff.1 (rfl : entryBefore front = _)
  have hback : back = entryAfter back ++ back.dropWhile (· != ',') :=
    (List.takeWhile_append_dropWhile).symm
  have hentry : ∀ w, ',' ∉ w → ',' ∉ entryBefore front ++ w ++ entryAfter back := fun w hw => by
    simp [comma_notMem_entryBefore, comma_notMem_entryAfter, hw]
  -- Behind the entry the list ends, or there is a comma and the list goes on.
  obtain ⟨after, hafter⟩ : ∃ after, ∀ w, ',' ∉ w →
      pieces ',' (entryBefore front ++ w ++ back) =
        (entryBefore front ++ w ++ entryAfter back) :: after := by
    cases hrest : back.dropWhile (· != ',') with
    | nil =>
      rw [hrest, List.append_nil] at hback
      refine ⟨[], fun w hw => ?_⟩
      rw [← hback, pieces_of_notMem]
      simpa [← hback] using hentry w hw
    | cons d rest =>
      have hd : d = ',' := by
        have hstart : StartsOutside (· != ',') (d :: rest) := hrest ▸ startsOutside_dropWhile back
        simpa using startsOutside_cons.1 hstart
      subst hd
      refine ⟨pieces ',' rest, fun w hw => ?_⟩
      conv => lhs; rw [hback, hrest, ← List.append_assoc]
      exact pieces_append_cons (hentry w hw) rest
  -- In front of it the list starts, or there is a comma too.
  rcases List.eq_nil_or_concat f with rfl | ⟨g, d, rfl⟩
  · refine ⟨[], after, fun w hw => ?_⟩
    rw [List.nil_append] at hf
    conv => lhs; rw [hf]
    exact hafter w hw
  · rw [List.concat_eq_append] at hf hend
    have hd : d = ',' := by simpa using endsOutside_concat.1 hend
    subst hd
    refine ⟨pieces ',' g, after, fun w hw => ?_⟩
    rw [← hafter w hw, ← pieces_append_sep]
    conv => lhs; rw [hf]
    simp

/-! ### Entries -/

/-- Two entries are read as the same property, or both are skipped, or neither is a property. -/
def Reads (e e' : List Char) : Prop :=
  allBlank e = allBlank e' ∧ ∀ p, ofEntry e = .ok p ↔ ofEntry e' = .ok p

theorem reads_of_trim_eq {e e' : List Char} (h : trim e = trim e') : Reads e e' := by
  constructor
  · rw [← allBlank_trim e, h, allBlank_trim]
  · intro p
    rw [← ofEntry_trim e, h, ofEntry_trim]

theorem ofEntry_append_cons_eq_ok_iff {name value : List Char} (hc : ':' ∉ name) {p : Property} :
    ofEntry (name ++ ':' :: value) = .ok p ↔
      trim name ≠ [] ∧ p = ⟨String.ofList (trim name), String.ofList (trim value)⟩ := by
  by_cases hne : trim name = []
  · simp [ofEntry, cutAtFirst?_append_cons hc, hne]
  · rw [ofEntry_append_cons hc hne, Except.ok.injEq]
    exact ⟨fun h => ⟨hne, h.symm⟩, fun h => h.2.symm⟩

/-- An entry may have any blanks around its name and its value. -/
theorem reads_append_cons {name name' value value' : List Char} (hname : ':' ∉ name)
    (hname' : ':' ∉ name') (hn : trim name = trim name') (hv : trim value = trim value') :
    Reads (name ++ ':' :: value) (name' ++ ':' :: value') := by
  have hcolon : ∀ n v : List Char, allBlank (n ++ ':' :: v) = false := by
    intro n v
    rw [← Bool.not_eq_true, allBlank_iff]
    intro hall
    exact absurd (hall ':' (by simp)) (by decide)
  constructor
  · rw [hcolon, hcolon]
  · intro p
    rw [ofEntry_append_cons_eq_ok_iff hname, ofEntry_append_cons_eq_ok_iff hname', hn, hv]

/-- Blanks at a boundary leave the entry there the property that it was. -/
theorem TokenBoundary.reads (h : TokenBoundary front back) (hw : ∀ c ∈ w, isBlank c = true) :
    Reads (entryBefore front ++ w ++ entryAfter back) (entryBefore front ++ entryAfter back) := by
  have hcolon : ':' ∉ w := notMem_of_forall hw rfl
  -- At the start or at the end of an entry the blanks are trimmed away with its own.
  have hstart : ∀ b, Reads ([] ++ w ++ b) ([] ++ b) := fun b => reads_of_trim_eq (trim_pad_left hw)
  have hstop : ∀ a, Reads (a ++ w ++ []) (a ++ []) := by
    intro a
    rw [List.append_nil, List.append_nil]
    exact reads_of_trim_eq (trim_pad_right hw)
  cases h with
  | afterBrace => exact hstart _
  | beforeBrace => exact hstop _
  | beforeComma => exact hstop _
  | afterComma front =>
    rw [entryBefore_concat_comma]
    exact hstart _
  | beforeColon rest hfront =>
    show Reads (entryBefore front ++ w ++ ':' :: entryAfter rest)
      (entryBefore front ++ ':' :: entryAfter rest)
    exact reads_append_cons (by simp [hfront, hcolon]) hfront (trim_pad_right hw) rfl
  | @afterColon front back hfront =>
    rw [entryBefore_concat_colon, List.append_assoc, List.append_assoc, List.append_assoc,
      List.singleton_append, List.singleton_append]
    exact reads_append_cons hfront hfront rfl (trim_pad_left hw)

/-! ### Lists -/

theorem ofEntries_cons_eq_ok_iff {e : List Char} {es : List (List Char)} {ps : List Property} :
    ofEntries (e :: es) = .ok ps ↔
      (allBlank e = true ∧ ofEntries es = .ok ps) ∨
        (allBlank e = false ∧
          ∃ p qs, ofEntry e = .ok p ∧ ofEntries es = .ok qs ∧ ps = p :: qs) := by
  rw [ofEntries]
  cases hblank : allBlank e with
  | true => simp
  | false =>
    simp only [Bool.false_eq_true, if_false, false_and, true_and, false_or]
    cases ofEntry e with
    | error err => simp [bind, Except.bind]
    | ok p =>
      cases ofEntries es with
      | error err => simp [bind, Except.bind]
      | ok qs => simp [bind, Except.bind, eq_comm]

/-- An entry can be exchanged for one that is read as the same property. -/
theorem Reads.ofEntries_eq_ok_iff {e e' : List Char} (h : Reads e e')
    (before after : List (List Char)) {ps : List Property} :
    ofEntries (before ++ e :: after) = .ok ps ↔ ofEntries (before ++ e' :: after) = .ok ps := by
  induction before generalizing ps with
  | nil =>
    rw [List.nil_append, List.nil_append, ofEntries_cons_eq_ok_iff, ofEntries_cons_eq_ok_iff, h.1]
    simp only [h.2]
  | cons d before ih =>
    rw [List.cons_append, List.cons_append, ofEntries_cons_eq_ok_iff, ofEntries_cons_eq_ok_iff]
    simp only [ih]

/-- **Blanks at a boundary do not change the pairs of a property list.** -/
theorem TokenBoundary.ofText_eq_ok_iff (h : TokenBoundary front back)
    (hw : ∀ c ∈ w, isBlank c = true) {ps : List Property} :
    ofText (String.ofList (front ++ w ++ back)) = .ok ps ↔
      ofText (String.ofList (front ++ back)) = .ok ps := by
  obtain ⟨before, after, hpieces⟩ := exists_pieces_around front back
  have hpadded := hpieces w (notMem_of_forall hw rfl)
  have hplain := hpieces [] (by simp)
  rw [List.append_nil, List.append_nil] at hplain
  rw [ofText, ofText, String.toList_ofList, String.toList_ofList, hpadded, hplain]
  exact (h.reads hw).ofEntries_eq_ok_iff before after

end Property

namespace Cut

/-! ### Keys -/

variable {c : Cut} {o : Owner} {b : Block}

/-- The key with another property list; a key without one stays as it is. -/
def withProperties (c : Cut) (properties : List Char) : Cut :=
  { c with owner := c.owner.map fun o =>
      { o with block := o.block.map fun b => { b with properties } } }

theorem withProperties_owner (ho : c.owner = some o) (hb : o.block = some b) (ps : List Char) :
    (c.withProperties ps).owner = some { o with block := some { b with properties := ps } } := by
  simp [withProperties, ho, hb]

theorem withProperties_self (ho : c.owner = some o) (hb : o.block = some b) :
    c.withProperties b.properties = c := by
  have howner : (c.withProperties b.properties).owner = c.owner := by
    rw [withProperties_owner ho hb, ho, ← hb]
  have hrest : c.withProperties b.properties =
      { c with owner := (c.withProperties b.properties).owner } := rfl
  rw [hrest, howner]

/-- A well-formed key stays well-formed with every property list that has no line feed. -/
theorem wellFormed_withProperties (h : c.WellFormed) {ps : List Char}
    (hps : ∀ x ∈ ps, isPropertyChar x = true) : (c.withProperties ps).WellFormed := by
  refine { h with owner := ?_ }
  intro o' ho'
  obtain ⟨o, ho, rfl⟩ := Option.map_eq_some_iff.1 ho'
  have howner := h.owner o ho
  refine { howner with block := ?_ }
  intro b' hb'
  obtain ⟨b, hb, rfl⟩ := Option.map_eq_some_iff.1 hb'
  exact { howner.block b hb with properties := hps }

/-- A list stands between the second opening brace of a key and the second to last closing one. -/
def Encloses (l inner : List Char) : Prop :=
  ∃ left middle right,
    l = '$' :: '{' :: (left ++ '{' :: (inner ++ '}' :: (middle ++ '}' :: right))) ∧
      '{' ∉ left ∧ '}' ∉ middle ∧ '}' ∉ right

/-- The two sides of the first delimiter are unique. -/
theorem append_cons_inj {d : Char} {a a' b b' : List Char} (ha : d ∉ a) (ha' : d ∉ a')
    (h : a ++ d :: b = a' ++ d :: b') : a = a' ∧ b = b' := by
  have hcut := cutAtFirst?_append_cons ha (b := b)
  rw [h, cutAtFirst?_append_cons ha'] at hcut
  simpa [eq_comm] using hcut

theorem Encloses.unique {l inner inner' : List Char} (h : Encloses l inner)
    (h' : Encloses l inner') : inner = inner' := by
  obtain ⟨left, middle, right, rfl, hleft, hmiddle, hright⟩ := h
  obtain ⟨left', middle', right', heq, hleft', hmiddle', hright'⟩ := h'
  obtain ⟨-, hbody⟩ := append_cons_inj hleft hleft' (by simpa using heq)
  -- Seen from the end, the closing braces are the first two.
  have hback : right.reverse ++ '}' :: (middle.reverse ++ '}' :: inner.reverse) =
      right'.reverse ++ '}' :: (middle'.reverse ++ '}' :: inner'.reverse) := by
    simpa using congrArg List.reverse hbody
  obtain ⟨-, hback⟩ := append_cons_inj (by simpa using hright) (by simpa using hright') hback
  obtain ⟨-, hinner⟩ := append_cons_inj (by simpa using hmiddle) (by simpa using hmiddle') hback
  exact List.reverse_inj.1 hinner

/-- The property list of a key stands between these braces, whatever is in it. -/
theorem WellFormed.encloses_withProperties (h : c.WellFormed) (ho : c.owner = some o)
    (hb : o.block = some b) (ps : List Char) : Encloses (c.withProperties ps).chars ps := by
  have howner : o.WellFormed := h.owner o ho
  have hblock : b.WellFormed := howner.block b hb
  obtain ⟨hmiddle, hright⟩ := h.brace_notMem ho hb
  refine ⟨c.lead ++ o.name ++ o.afterName ++ '(' :: b.afterOpen, _, _, ?_, ?_, hmiddle, hright⟩
  · rw [chars, headChars, withProperties_owner ho hb, Option.elim_some, Owner.chars,
      Option.elim_some, Block.chars]
    simp [withProperties]
  · have hblank : ∀ {l}, Blanks l → '{' ∉ l := fun hl => notMem_of_forall hl rfl
    have hname : '{' ∉ o.name := notMem_of_forall howner.name rfl
    simp [hblank h.lead, hname, hblank howner.afterName, hblank hblock.afterOpen]

/-- A key without a property list has one opening brace only. -/
theorem WellFormed.not_encloses (h : c.WellFormed) (hb : c.owner.bind Owner.block = none)
    (inner : List Char) : ¬ Encloses c.chars inner := by
  have hblank : ∀ {l}, Blanks l → '{' ∉ l := fun hl => notMem_of_forall hl rfl
  have hword : ∀ {l}, Word l → '{' ∉ l := fun hl => notMem_of_forall hl.2 rfl
  have hparams : '{' ∉ c.params := notMem_of_forall h.params rfl
  have hclass : '{' ∉ c.owner.elim [] Owner.chars := by
    cases ho : c.owner with
    | none => simp
    | some o =>
      have howner : o.WellFormed := h.owner o ho
      have hname : '{' ∉ o.name := notMem_of_forall howner.name rfl
      rw [ho, Option.bind_some] at hb
      simp [Owner.chars, hb, hname, hblank howner.afterName, hblank howner.afterDot]
  rintro ⟨left, middle, right, heq, -, -, -⟩
  have hmem : '{' ∈ c.chars.tail.tail := by simp [heq]
  simp [chars, headChars, hblank h.lead, hclass, hword h.method, hblank h.afterMethod, hparams,
    hblank h.afterParams, hblank h.afterBrace, hblank h.afterColon, hword h.outkey,
    hblank h.trail] at hmem

/-- A well-formed cut of the key with another property list has that list. -/
theorem WellFormed.isPropertyChar_of_chars_eq {d : Cut} (h : c.WellFormed) (ho : c.owner = some o)
    (hb : o.block = some b) {ps : List Char} (hd : d.WellFormed)
    (hchars : d.chars = (c.withProperties ps).chars) : ∀ x ∈ ps, isPropertyChar x = true := by
  have hps : Encloses d.chars ps := hchars ▸ h.encloses_withProperties ho hb ps
  cases hblock : d.owner.bind Owner.block with
  | none => exact absurd hps (hd.not_encloses hblock ps)
  | some b' =>
    obtain ⟨o', ho', hb'⟩ := Option.bind_eq_some_iff.1 hblock
    have hown := hd.encloses_withProperties ho' hb' b'.properties
    rw [withProperties_self ho' hb'] at hown
    rw [hps.unique hown]
    exact ((hd.owner o' ho').block b' hb').properties

/-- With another property list, a cut stands for the same template with that list. -/
theorem template_withProperties (ho : c.owner = some o) (hb : o.block = some b) (ps : List Char) :
    (c.withProperties ps).template =
      { c.template with properties := some (String.ofList (trim ps)) } := by
  simp [template, withProperties, ho, hb]

end Cut

namespace Template

variable {s : String} {c : Cut} {o : Cut.Owner} {b : Cut.Block}

/-- A property list can be exchanged for every other one that has no line feed, and for no other. -/
theorem match?_withProperties_iff (hc : c.WellFormed) (ho : c.owner = some o)
    (hb : o.block = some b) (ps : List Char) (t : Template) :
    match? (String.ofList (c.withProperties ps).chars) = some t ↔
      '\n' ∉ ps ∧ t = { c.template with properties := some (String.ofList (trim ps)) } := by
  rw [match?_eq_some_iff, String.toList_ofList, ← Cut.template_withProperties ho hb]
  constructor
  · rintro ⟨d, hd, hchars, rfl⟩
    have hps := hc.isPropertyChar_of_chars_eq ho hb hd hchars
    have hcut : d = c.withProperties ps :=
      Cut.Cuts.unique (s := String.ofList d.chars) ⟨hd, by simp⟩
        ⟨Cut.wellFormed_withProperties hc hps, by simp [hchars]⟩
    exact ⟨notMem_of_forall hps rfl, by rw [hcut]⟩
  · rintro ⟨hps, rfl⟩
    have hchars : ∀ x ∈ ps, isPropertyChar x = true := by
      intro x hx
      have hne : x ≠ '\n' := fun h => hps (h ▸ hx)
      simpa [isPropertyChar] using hne
    exact ⟨c.withProperties ps, Cut.wellFormed_withProperties hc hchars, rfl, rfl⟩

/-- Whatever its property list is, a template with a class and a list has the same shape. -/
theorem shape_properties (t : Template) (ps qs : String) :
    { t with properties := some ps }.shape = { t with properties := some qs }.shape := by
  unfold shape invocation
  cases t.className with
  | none => rfl
  | some n =>
    by_cases hn : n.isEmpty = true
    · simp only [hn, if_true]
    · simp only [hn, Bool.false_eq_true, if_false]
      rfl

/-- **A key with blanks put into its property list is read as before, unless there is a line feed
among them; then it is not read.** -/
theorem match?_padded {front back w : List Char} (hc : c.Cuts s) (ho : c.owner = some o)
    (hb : o.block = some b) (hps : b.properties = front ++ back)
    (hboundary : Property.TokenBoundary front back) (hw : Cut.Blanks w) :
    let s' := String.ofList (c.withProperties (front ++ w ++ back)).chars
    ((∃ t', match? s' = some t') ↔ '\n' ∉ w) ∧
      ∀ t t', match? s = some t → match? s' = some t' →
        t'.className = t.className ∧ t'.method = t.method ∧ t'.params = t.params ∧
          t'.outkey = t.outkey ∧ t'.shape = t.shape ∧
          ∀ ps, t'.pairs = .ok ps ↔ t.pairs = .ok ps := by
  intro s'
  have hread := match?_withProperties_iff hc.1 ho hb (front ++ w ++ back)
  constructor
  · -- The list itself is on one line, so a line feed is one of the blanks.
    have hline : '\n' ∉ front ++ back :=
      hps ▸ notMem_of_forall ((hc.1.owner o ho).block b hb).properties rfl
    have hmem : '\n' ∈ front ++ w ++ back ↔ '\n' ∈ w := by
      simp only [List.mem_append, not_or] at hline ⊢
      simp [hline.1, hline.2]
    constructor
    · rintro ⟨t', ht'⟩
      exact (not_congr hmem).1 ((hread t').1 ht').1
    · intro hw'
      exact ⟨_, (hread _).2 ⟨(not_congr hmem).2 hw', rfl⟩⟩
  · intro t t' ht ht'
    have htemplate : t = c.template := ((match?_eq_some_iff_yields hc t).1 ht).eq_template
    obtain ⟨-, htemplate'⟩ := (hread t').1 ht'
    have hlist : t.properties = some (String.ofList (trim (front ++ back))) := by
      simp [htemplate, Cut.template, ho, hb, hps]
    have hlist' : t'.properties = some (String.ofList (trim (front ++ w ++ back))) := by
      rw [htemplate']
    have hself : t = { t with properties := some (String.ofList (trim (front ++ back))) } := by
      rw [← hlist]
    subst htemplate htemplate'
    refine ⟨rfl, rfl, rfl, rfl, ?_, fun qs => ?_⟩
    · conv => rhs; rw [hself]
      exact shape_properties _ _ _
    · rw [pairs_eq_ofText hlist, pairs_eq_ofText hlist', Property.ofText_trim, Property.ofText_trim]
      exact hboundary.ofText_eq_ok_iff fun x hx => isBlank_of_isAsciiBlank (hw x hx)

/-- A tab may stand behind the brace of a list, and a line feed may not. -/
theorem match?_padded_of_tab_and_lineFeed :
    let t : Template := ⟨"presentUrl", "url", some "Car", some "name: ?", none⟩
    match? "$\x7bCar(\x7bname: ?\x7d).presentUrl()\x7d:url" = some t ∧
      (∃ t', match? "$\x7bCar(\x7b\tname: ?\x7d).presentUrl()\x7d:url" = some t' ∧
        t'.shape = .presenter ∧ t'.pairs = .ok [⟨"name", "?"⟩]) ∧
      ¬ ∃ t', match? "$\x7bCar(\x7b\nname: ?\x7d).presentUrl()\x7d:url" = some t' := by
  intro t
  let s := "$\x7bCar(\x7bname: ?\x7d).presentUrl()\x7d:url"
  let b : Cut.Block := ⟨[], "name: ?".toList, [], []⟩
  let o : Cut.Owner := ⟨"Car".toList, [], some b, []⟩
  let c : Cut := ⟨[], some o, "presentUrl".toList, [], [], [], [], [], "url".toList, []⟩
  have hs : match? s = some t := by decide
  have hc : c.Cuts s := Cut.read?_eq_some (by decide : Cut.read? s.toList = some c)
  have hboundary : Property.TokenBoundary [] b.properties := .afterBrace b.properties
  have htab : "$\x7bCar(\x7b\tname: ?\x7d).presentUrl()\x7d:url" =
      String.ofList (c.withProperties ([] ++ ['\t'] ++ b.properties)).chars := by decide
  have hfeed : "$\x7bCar(\x7b\nname: ?\x7d).presentUrl()\x7d:url" =
      String.ofList (c.withProperties ([] ++ ['\n'] ++ b.properties)).chars := by decide
  refine ⟨hs, ?_, ?_⟩
  · have hw : Cut.Blanks ['\t'] := List.all_eq_true.1 (by decide)
    obtain ⟨haccept, hread⟩ := match?_padded hc rfl rfl rfl hboundary hw
    rw [← htab] at haccept hread
    obtain ⟨t', ht'⟩ := haccept.2 (by decide)
    obtain ⟨-, -, -, -, hshape, hpairs⟩ := hread t t' hs ht'
    exact ⟨t', ht', hshape, (hpairs _).2 rfl⟩
  · have hw : Cut.Blanks ['\n'] := List.all_eq_true.1 (by decide)
    obtain ⟨haccept, -⟩ := match?_padded hc rfl rfl rfl hboundary hw
    rw [← hfeed] at haccept
    exact fun h => haccept.1 h (List.mem_singleton.2 rfl)

end Template
end KeyCall
