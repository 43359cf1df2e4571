import KeyCall.Proofs.Json.Outline
import KeyCall.Proofs.Text.Run

/-!
# Documents have one outline

A document is read from its front.  Its first character tells whether it is a list, a mapping, a
text or none of these, and where it ends follows from its characters, provided that what comes
behind it could not belong to it.  Inside of containers a comma, a closing bracket or a blank comes
behind, so that items and members are cut off one after the other.  So a document cannot be cut in
two ways, and what its outline is does not depend on how it was written.

## Main definitions

* `Json.Follows` — what may come behind a document inside of another one.
* `Json.CutOff` — a piece of a text can be cut off at the front, and in one way only.
* `Json.Closes` — a bracket that closes a row of pieces.

## Main results

* `Json.Closes.eq_of_row_eq` — a row of pieces is cut off where its pieces are.
* `Json.HasOutline.unique` — **documents have one outline.**
* `Json.hasOutline_iff_of_write` — what is written has that of the value and no other.
-/

namespace KeyCall
namespace Json

open Text (StartsOutside startsOutside_nil startsOutside_cons)

/-! ### Where documents end -/

/-- A character of a word or a number. -/
def isBareChar (c : Char) : Bool := isNumberChar c || c.isAlpha

/-- Words and numbers. -/
def IsBare (cs : List Char) : Prop := cs ≠ [] ∧ ∀ c ∈ cs, isBareChar c = true

/-- What may come behind a document inside of another one: nothing that is of a word or a number. -/
abbrev Follows (r : List Char) : Prop := StartsOutside isBareChar r

theorem isBare_of_mem_words {cs : List Char} (h : cs ∈ words.map Prod.fst) : IsBare cs := by
  have hall : ∀ cs ∈ words.map Prod.fst, cs ≠ [] ∧ cs.all isBareChar = true := by decide
  exact ⟨(hall cs h).1, List.all_eq_true.1 (hall cs h).2⟩

theorem isBare_of_isNumber {cs : List Char} (h : IsNumber cs) : IsBare cs :=
  ⟨h.1, fun c hc => by rw [isBareChar, h.2 c hc]; rfl⟩

theorem isBareChar_of_isBlank {c : Char} (h : isBlank c = true) : isBareChar c = false := by
  simp only [isBlank, Bool.or_eq_true, decide_eq_true_eq] at h
  rcases h with ((rfl | rfl) | rfl) | rfl <;> rfl

/-- Behind a gap comes what is behind it. -/
theorem eq_of_gap_append {g g' t t' : List Char} (hg : IsGap g) (hg' : IsGap g')
    (ht : StartsOutside isBlank t) (ht' : StartsOutside isBlank t') (h : g ++ t = g' ++ t') :
    t = t' := by
  rw [← Text.dropWhile_append_eq hg ht, h, Text.dropWhile_append_eq hg' ht']

theorem follows_gap_append {g t : List Char} (hg : IsGap g) (ht : Follows t) :
    Follows (g ++ t) := by
  cases g with
  | nil => exact ht
  | cons c g => exact startsOutside_cons.2 (isBareChar_of_isBlank (hg c List.mem_cons_self))

/-! ### Pieces in a row -/

/-- A piece of a text can be cut off at the front, and whoever cuts it off takes it for the same. -/
def CutOff {α : Type} (D : List Char → α → Prop) (cs : List Char) (a : α) : Prop :=
  ∀ {cs' a' r r'}, D cs' a' → Follows r → Follows r' → cs ++ r = cs' ++ r' → a = a' ∧ r = r'

/-- Pieces with commas in front, up to a closing bracket. -/
def rowTail {α : Type} (close : Char) (between last : List Char) (ps : List (List Char × α))
    (r : List Char) : List Char :=
  (ps.flatMap fun p => ',' :: between ++ p.1) ++ last ++ close :: r

section

variable {α : Type} {D : List Char → α → Prop} {close : Char}
  {between between' last last' r r' : List Char} {ps ps' : List (List Char × α)}

theorem rowTail_nil :
    rowTail close between last ([] : List (List Char × α)) r = last ++ close :: r := rfl

theorem rowTail_cons (p : List Char × α) :
    rowTail close between last (p :: ps) r =
      ',' :: (between ++ (p.1 ++ rowTail close between last ps r)) := by
  simp [rowTail]

theorem intercalate_eq_rowTail (p : List Char × α) :
    (',' :: between).intercalate ((p :: ps).map Prod.fst) ++ last ++ close :: r =
      p.1 ++ rowTail close between last ps r := by
  induction ps generalizing p with
  | nil => simp [rowTail]
  | cons q qs ih =>
    have hq := ih q
    simp only [List.map_cons, List.intercalate_cons_cons, List.append_assoc, rowTail_cons] at hq ⊢
    rw [hq]
    rfl

/-- A bracket that closes a row of pieces, which start with something else. -/
structure Closes (D : List Char → α → Prop) (close : Char) : Prop where
  notBare : isBareChar close = false
  notBlank : isBlank close = false
  notComma : close ≠ ','
  starts : ∀ {cs a}, D cs a → ∃ c t, cs = c :: t ∧ isBlank c = false ∧ c ≠ close

theorem Closes.follows_rowTail (hclose : Closes D close) (hlast : IsGap last) :
    Follows (rowTail close between last ps r) := by
  cases ps with
  | nil => exact follows_gap_append hlast (startsOutside_cons.2 hclose.notBare)
  | cons p ps =>
    rw [rowTail_cons]
    exact startsOutside_cons.2 rfl

theorem Closes.startsOutside (hclose : Closes D close) {cs : List Char} {a : α} (h : D cs a)
    (t : List Char) : StartsOutside isBlank (cs ++ t) := by
  obtain ⟨c, t, rfl, hc, -⟩ := hclose.starts h
  exact startsOutside_cons.2 hc

/-- Rows of pieces are cut off one piece after the other. -/
theorem Closes.eq_of_rowTail_eq (hclose : Closes D close) (hbetween : IsGap between)
    (hbetween' : IsGap between') (hlast : IsGap last) (hlast' : IsGap last')
    (hps : ∀ p ∈ ps, D p.1 p.2 ∧ CutOff D p.1 p.2) (hps' : ∀ p ∈ ps', D p.1 p.2)
    (h : rowTail close between last ps r = rowTail close between' last' ps' r') :
    ps.map Prod.snd = ps'.map Prod.snd ∧ r = r' := by
  have hblank : ∀ t, StartsOutside isBlank (close :: t) :=
    fun t => startsOutside_cons.2 hclose.notBlank
  have hcomma : ∀ t, StartsOutside isBlank (',' :: t) := fun t => startsOutside_cons.2 rfl
  -- Behind the gap a comma says that the row goes on, and the bracket that it does not.
  induction ps generalizing ps' with
  | nil =>
    cases ps' with
    | nil =>
      have heq := eq_of_gap_append hlast hlast' (hblank _) (hblank _) h
      exact ⟨rfl, (List.cons.inj heq).2⟩
    | cons p' ps' =>
      rw [rowTail_nil, rowTail_cons] at h
      have heq := eq_of_gap_append hlast isGap_nil (hblank _) (hcomma _) h
      exact absurd (List.cons.inj heq).1 hclose.notComma
  | cons p ps ih =>
    cases ps' with
    | nil =>
      rw [rowTail_nil, rowTail_cons] at h
      have heq := eq_of_gap_append isGap_nil hlast' (hcomma _) (hblank _) h
      exact absurd (List.cons.inj heq).1.symm hclose.notComma
    | cons p' ps' =>
      obtain ⟨⟨hD, hcut⟩, hps⟩ := List.forall_mem_cons.1 hps
      obtain ⟨hD', hps'⟩ := List.forall_mem_cons.1 hps'
      rw [rowTail_cons, rowTail_cons] at h
      have heq := eq_of_gap_append hbetween hbetween' (hclose.startsOutside hD _)
        (hclose.startsOutside hD' _) (List.cons.inj h).2
      obtain ⟨hsame, heq⟩ :=
        hcut hD' (hclose.follows_rowTail hlast) (hclose.follows_rowTail hlast') heq
      obtain ⟨hmap, hr⟩ := ih hps hps' heq
      exact ⟨by rw [List.map_cons, List.map_cons, hsame, hmap], hr⟩

/-- **Rows of pieces are cut off where their pieces are.** -/
theorem Closes.eq_of_row_eq (hclose : Closes D close) {first first' : List Char}
    (hfirst : IsGap first) (hfirst' : IsGap first') (hbetween : IsGap between)
    (hbetween' : IsGap between') (hlast : IsGap last) (hlast' : IsGap last')
    (hps : ∀ p ∈ ps, D p.1 p.2 ∧ CutOff D p.1 p.2) (hps' : ∀ p ∈ ps', D p.1 p.2)
    (h : first ++ ((',' :: between).intercalate (ps.map Prod.fst) ++ last ++ close :: r) =
      first' ++ ((',' :: between').intercalate (ps'.map Prod.fst) ++ last' ++ close :: r')) :
    ps.map Prod.snd = ps'.map Prod.snd ∧ r = r' := by
  have hblank : ∀ t, StartsOutside isBlank (close :: t) :=
    fun t => startsOutside_cons.2 hclose.notBlank
  have hgap : ∀ {g l : List Char}, IsGap g → IsGap l → IsGap (g ++ l) := fun hg hl c hc =>
    (List.mem_append.1 hc).elim (hg c) (hl c)
  have hnone : ∀ {g b l t : List Char}, g ++ ((',' :: b).intercalate [] ++ l ++ close :: t) =
      g ++ l ++ close :: t := by simp
  -- No piece starts with the closing bracket.
  have hne : ∀ {p : List Char × α} {t t' : List Char}, D p.1 p.2 → close :: t ≠ p.1 ++ t' := by
    intro p t t' hD heq
    obtain ⟨c, u, hcs, -, hc⟩ := hclose.starts hD
    rw [hcs] at heq
    exact hc (List.cons.inj heq).1.symm
  cases ps with
  | nil =>
    rw [List.map_nil, hnone] at h
    cases ps' with
    | nil =>
      rw [List.map_nil, hnone] at h
      have heq := eq_of_gap_append (hgap hfirst hlast) (hgap hfirst' hlast') (hblank _) (hblank _) h
      exact ⟨rfl, (List.cons.inj heq).2⟩
    | cons p' ps' =>
      rw [intercalate_eq_rowTail] at h
      have hD' := (List.forall_mem_cons.1 hps').1
      have heq := eq_of_gap_append (hgap hfirst hlast) hfirst' (hblank _)
        (hclose.startsOutside hD' _) h
      exact absurd heq (hne hD')
  | cons p ps =>
    obtain ⟨⟨hD, hcut⟩, hps⟩ := List.forall_mem_cons.1 hps
    rw [intercalate_eq_rowTail] at h
    cases ps' with
    | nil =>
      rw [List.map_nil, hnone] at h
      have heq := eq_of_gap_append hfirst (hgap hfirst' hlast') (hclose.startsOutside hD _)
        (hblank _) h
      exact absurd heq.symm (hne hD)
    | cons p' ps' =>
      obtain ⟨hD', hps'⟩ := List.forall_mem_cons.1 hps'
      rw [intercalate_eq_rowTail] at h
      have heq := eq_of_gap_append hfirst hfirst' (hclose.startsOutside hD _)
        (hclose.startsOutside hD' _) h
      obtain ⟨hsame, heq⟩ :=
        hcut hD' (hclose.follows_rowTail hlast) (hclose.follows_rowTail hlast') heq
      obtain ⟨hmap, hr⟩ := hclose.eq_of_rowTail_eq hbetween hbetween' hlast hlast' hps hps' heq
      exact ⟨by rw [List.map_cons, List.map_cons, hsame, hmap], hr⟩

end

/-! ### Documents -/

/-- What is spelled is cut off at its closing quote. -/
theorem Spells.unique {cs cs' r r' : List Char} {us us' : List Nat} (h : Spells cs us)
    (h' : Spells cs' us') (heq : cs ++ '"' :: r = cs' ++ '"' :: r') : us = us' ∧ r = r' := by
  have hread := h.textBody_eq [] [] 0 r
  -- Both are read in the same way, up to the first quote.
  rw [heq, h'.textBody_eq [] [] 0 r'] at hread
  simp only [List.reverse_nil, List.nil_append, Nat.zero_add, Except.ok.injEq, Prod.mk.injEq,
    Nat.add_right_cancel_iff] at hread
  obtain ⟨hus, hlength⟩ := hread
  obtain ⟨-, hr⟩ := List.append_inj heq hlength.symm
  exact ⟨hus.symm, (List.cons.inj hr).2⟩

theorem HasOutline.cutOff_bare {cs : List Char} (hcs : IsBare cs) : CutOff HasOutline cs .leaf := by
  intro cs' o' r r' h' hr hr' heq
  have hrun := Text.dropWhile_append_eq hcs.2 hr
  have hbare : IsBare cs' → r = r' := fun hcs' => by
    rw [← hrun, heq, Text.dropWhile_append_eq hcs'.2 hr']
  -- What is not bare starts with another character.
  obtain ⟨c, t, rfl⟩ := List.exists_cons_of_ne_nil hcs.1
  have hc : isBareChar c = true := hcs.2 c List.mem_cons_self
  cases h' with
  | word hcs' => exact ⟨rfl, hbare (isBare_of_mem_words hcs')⟩
  | number hcs' => exact ⟨rfl, hbare (isBare_of_isNumber hcs')⟩
  | text hcs' =>
    rw [(List.cons.inj heq).1] at hc
    cases hc
  | list hfirst hbetween hlast hitems =>
    rw [(List.cons.inj heq).1] at hc
    cases hc
  | mapping hfirst hbetween hlast hnames hvalues =>
    rw [(List.cons.inj heq).1] at hc
    cases hc

/-- A text in quotes is cut off at its closing quote. -/
theorem HasOutline.cutOff_text {cs : List Char} {us : List Nat} (hcs : Spells cs us) :
    CutOff HasOutline ('"' :: cs ++ ['"']) .leaf := by
  intro cs' o' r r' h' hr hr' heq
  cases h' with
  | word hcs' =>
    obtain ⟨hleaf, heq⟩ :=
      HasOutline.cutOff_bare (isBare_of_mem_words hcs') (.text hcs) hr' hr heq.symm
    exact ⟨hleaf.symm, heq.symm⟩
  | number hcs' =>
    obtain ⟨hleaf, heq⟩ :=
      HasOutline.cutOff_bare (isBare_of_isNumber hcs') (.text hcs) hr' hr heq.symm
    exact ⟨hleaf.symm, heq.symm⟩
  | text hcs' =>
    refine ⟨rfl, (hcs.unique hcs' ?_).2⟩
    simpa using heq
  | list hfirst hbetween hlast hitems => cases (List.cons.inj heq).1
  | mapping hfirst hbetween hlast hnames hvalues => cases (List.cons.inj heq).1

/-- A member as it is written, with the code units of its name and the outline of its value. -/
def IsMember (cs : List Char) (m : List Nat × Outline) : Prop :=
  ∃ name value, cs = member (name, value) ∧ Spells name m.1 ∧ HasOutline value m.2

/-- A member as a piece of a row. -/
def Member.piece (m : Member) : List Char × (List Nat × Outline) :=
  (member (m.name, m.value), (m.units, m.outline))

theorem map_member_eq (members : List Member) :
    (members.map fun m => member (m.name, m.value)) = (members.map Member.piece).map Prod.fst := by
  rw [List.map_map]
  rfl

theorem IsMember.cutOff {name value : List Char} {us : List Nat} {o : Outline}
    (hname : Spells name us) (hvalue : CutOff HasOutline value o) :
    CutOff IsMember (member (name, value)) (us, o) := by
  rintro cs' ⟨us', o'⟩ r r' ⟨name', value', rfl, hname', hvalue'⟩ hr hr' heq
  have hquote : name ++ '"' :: (':' :: ' ' :: (value ++ r)) =
      name' ++ '"' :: (':' :: ' ' :: (value' ++ r')) := by simpa [member] using heq
  obtain ⟨rfl, hbehind⟩ := hname.unique hname' hquote
  obtain ⟨rfl, hr⟩ := hvalue hvalue' hr hr' (by simpa using hbehind)
  exact ⟨rfl, hr⟩

/-- A bracket closes a list. -/
theorem closes_hasOutline : Closes HasOutline ']' := by
  refine ⟨rfl, rfl, by decide, fun {cs o} h => ?_⟩
  have hbare : IsBare cs → ∃ c t, cs = c :: t ∧ isBlank c = false ∧ c ≠ ']' := by
    rintro ⟨hne, hall⟩
    obtain ⟨c, t, rfl⟩ := List.exists_cons_of_ne_nil hne
    have hc : isBareChar c = true := hall c List.mem_cons_self
    refine ⟨c, t, rfl, ?_, ?_⟩
    · rw [← Bool.not_eq_true]
      intro hblank
      rw [isBareChar_of_isBlank hblank] at hc
      cases hc
    · rintro rfl
      cases hc
  cases h with
  | word hcs => exact hbare (isBare_of_mem_words hcs)
  | number hcs => exact hbare (isBare_of_isNumber hcs)
  | text hcs => exact ⟨_, _, rfl, rfl, by decide⟩
  | list hfirst hbetween hlast hitems => exact ⟨_, _, rfl, rfl, by decide⟩
  | mapping hfirst hbetween hlast hnames hvalues => exact ⟨_, _, rfl, rfl, by decide⟩

/-- A brace closes a mapping. -/
theorem closes_isMember : Closes IsMember '\x7d' := by
  refine ⟨rfl, rfl, by decide, ?_⟩
  rintro cs m ⟨name, value, rfl, -, -⟩
  exact ⟨_, _, rfl, rfl, by decide⟩

/-- Induction along the document: a container is cut off if what is in it is. -/
theorem HasOutline.cutOff {cs : List Char} {o : Outline} (h : HasOutline cs o) :
    CutOff HasOutline cs o := by
  induction h with
  | word hcs => exact HasOutline.cutOff_bare (isBare_of_mem_words hcs)
  | number hcs => exact HasOutline.cutOff_bare (isBare_of_isNumber hcs)
  | text hcs => exact HasOutline.cutOff_text hcs
  | list hfirst hbetween hlast hitems ih =>
    intro cs' o' r r' h' hr hr' heq
    have hlist := HasOutline.list hfirst hbetween hlast hitems
    -- The first character says that the other document is a list as well.
    cases h' with
    | word hcs' =>
      cases (HasOutline.cutOff_bare (isBare_of_mem_words hcs') hlist hr' hr heq.symm).1
    | number hcs' =>
      cases (HasOutline.cutOff_bare (isBare_of_isNumber hcs') hlist hr' hr heq.symm).1
    | text hcs' => cases (List.cons.inj heq).1
    | mapping hfirst' hbetween' hlast' hnames' hvalues' => cases (List.cons.inj heq).1
    | list hfirst' hbetween' hlast' hitems' =>
      obtain ⟨hmap, hr⟩ := closes_hasOutline.eq_of_row_eq hfirst hfirst' hbetween hbetween' hlast
        hlast' (fun i hi => ⟨hitems i hi, ih i hi⟩) hitems' (by simpa using heq)
      exact ⟨by rw [hmap], hr⟩
  | @mapping members first between last hfirst hbetween hlast hnames hvalues ih =>
    intro cs' o' r r' h' hr hr' heq
    have hmapping := HasOutline.mapping hfirst hbetween hlast hnames hvalues
    cases h' with
    | word hcs' =>
      cases (HasOutline.cutOff_bare (isBare_of_mem_words hcs') hmapping hr' hr heq.symm).1
    | number hcs' =>
      cases (HasOutline.cutOff_bare (isBare_of_isNumber hcs') hmapping hr' hr heq.symm).1
    | text hcs' => cases (List.cons.inj heq).1
    | list hfirst' hbetween' hlast' hitems' => cases (List.cons.inj heq).1
    | @mapping members' first' between' last' hfirst' hbetween' hlast' hnames' hvalues' =>
      have hpieces :
          ∀ p ∈ members.map Member.piece, IsMember p.1 p.2 ∧ CutOff IsMember p.1 p.2 := by
        intro p hp
        obtain ⟨m, hm, rfl⟩ := List.mem_map.1 hp
        exact ⟨⟨m.name, m.value, rfl, hnames m hm, hvalues m hm⟩,
          IsMember.cutOff (hnames m hm) (ih m hm)⟩
      have hpieces' : ∀ p ∈ members'.map Member.piece, IsMember p.1 p.2 := by
        intro p hp
        obtain ⟨m, hm, rfl⟩ := List.mem_map.1 hp
        exact ⟨m.name, m.value, rfl, hnames' m hm, hvalues' m hm⟩
      rw [map_member_eq, map_member_eq] at heq
      obtain ⟨hmap, hr⟩ := closes_isMember.eq_of_row_eq hfirst hfirst' hbetween hbetween' hlast
        hlast' hpieces hpieces' (by simpa using heq)
      rw [List.map_map, List.map_map] at hmap
      exact ⟨congrArg Outline.object hmap, hr⟩

/-- **Documents have one outline.** -/
theorem HasOutline.unique {cs : List Char} {o o' : Outline} (h : HasOutline cs o)
    (h' : HasOutline cs o') : o = o' := (h.cutOff h' startsOutside_nil startsOutside_nil rfl).1

/-- The one outline of what is written is that of the value. -/
theorem hasOutline_iff_of_writeWith {describe : Value → Except Error String} {l : Layout}
    {v : Value} {text : String} (h : writeWith describe l v = .ok text) {o : Outline} :
    HasOutline text.toList o ↔ o = outline v := by
  have houtline := hasOutline_writeWith h
  constructor
  · exact fun ho => ho.unique houtline
  · rintro rfl
    exact houtline

end Json
end KeyCall
