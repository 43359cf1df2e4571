import KeyCall.Proofs.Template.Padding
import KeyCall.Proofs.Template.Writing
import Mathlib.Data.List.Forall2

/-!
# Property lists, well-formed and not

A property list is cut at every comma, and each of its pieces is one of three things: it is blank,
or it has a name in front of its first colon and so holds a property, or it is faulty.  Reading
skips the blank pieces, gives the properties of the others in order, and stops at the first faulty
one.

So a list is read exactly if it is the spelling of some slots, each of which is left blank or filled
with a property, with blanks wherever they may stand.  The slots are the printing of a list in all
of its forms: a trailing comma is a slot left blank, and the plainest printing has no blanks but
those behind its colons and commas.

## Main definitions

* `Property.IsFaulty`, `Property.Holds` — what is wrong with a piece, and what it holds.
* `Property.IsListable` — a property that an entry of a list can hold.
* `Property.Slot`, `Property.spelled` — a piece in all of its spellings, and a list of them.

## Main results

* `Property.ofEntries_eq_error_iff` — **a list fails at its first faulty piece.**
* `Property.ofEntries_eq_ok_iff_holds` — a list holds what its pieces hold.
* `Property.ofText_eq_ok_iff_spelled` — **the lists that are read are the spellings of slots.**
* `Property.ofText_listing` — both, of the text of a list.
-/

namespace KeyCall

open Text

namespace Property

/-! ### Pieces -/

/-- The piece is neither blank nor a property: it has no colon, or nothing but blanks in front of
its first colon. -/
inductive IsFaulty (piece : List Char) : Prop
  | noColon : (∃ c ∈ piece, isBlank c = false) → ':' ∉ piece → IsFaulty piece
  | noName {name value : List Char} : piece = name ++ ':' :: value →
    (∀ c ∈ name, isBlank c = true) → IsFaulty piece

/-- The piece holds the property: its name is what stands in front of the first colon, its value is
all that stands behind, and both are trimmed. -/
inductive Holds : List Char → Property → Prop
  | intro {name value : List Char} : ':' ∉ name → (∃ c ∈ name, isBlank c = false) →
    Holds (name ++ ':' :: value) ⟨String.ofList (trim name), String.ofList (trim value)⟩

theorem trim_ne_nil_iff {l : List Char} : trim l ≠ [] ↔ ∃ c ∈ l, isBlank c = false := by
  rw [Ne, trim_eq_nil_iff, allBlank_iff]
  simp only [Classical.not_forall, Bool.not_eq_true, exists_prop]

/-- A piece with a colon is not blank. -/
theorem allBlank_append_colon (name value : List Char) :
    allBlank (name ++ ':' :: value) = false := by
  rw [← Bool.not_eq_true, allBlank_iff]
  intro h
  have hcolon : isBlank ':' = true := h ':' (List.mem_append_right _ List.mem_cons_self)
  exact absurd hcolon (by decide)

theorem Holds.allBlank_eq_false {piece : List Char} {p : Property} (h : Holds piece p) :
    allBlank piece = false := by
  obtain ⟨-, -⟩ := h
  exact allBlank_append_colon _ _

theorem IsFaulty.allBlank_eq_false {piece : List Char} (h : IsFaulty piece) :
    allBlank piece = false := by
  cases h with
  | noColon hc =>
    rw [← Bool.not_eq_true, allBlank_iff]
    intro hall
    obtain ⟨c, hc, hblank⟩ := hc
    rw [hall c hc] at hblank
    cases hblank
  | noName hpiece =>
    rw [hpiece]
    exact allBlank_append_colon _ _

/-- **A piece is blank, or faulty, or holds a property.** -/
theorem allBlank_or_isFaulty_or_holds (piece : List Char) :
    allBlank piece = true ∨ IsFaulty piece ∨ ∃ p, Holds piece p := by
  by_cases hblank : allBlank piece = true
  · exact .inl hblank
  right
  by_cases hc : ':' ∈ piece
  · obtain ⟨name, value, rfl, hname⟩ := exists_first_of_mem hc
    by_cases hn : ∃ c ∈ name, isBlank c = false
    · exact .inr ⟨_, .intro hname hn⟩
    · refine .inl (.noName rfl ?_)
      simpa using hn
  · refine .inl (.noColon ?_ hc)
    rw [← trim_ne_nil_iff, Ne, trim_eq_nil_iff]
    exact hblank

theorem Holds.not_isFaulty {piece : List Char} {p : Property} (h : Holds piece p) :
    ¬ IsFaulty piece := by
  obtain @⟨name, value, hname, c, hc, hblank⟩ := h
  intro hf
  cases hf with
  | noColon _ hcolon => exact hcolon (by simp)
  | @noName name' value' hpiece hblanks =>
    -- Both cuts are made at the first colon.
    have hname' : ':' ∉ name' := notMem_of_forall hblanks rfl
    have hcut := cutAtFirst?_append_cons hname value
    rw [hpiece, cutAtFirst?_append_cons hname'] at hcut
    cases hcut
    rw [hblanks c hc] at hblank
    cases hblank

theorem Holds.ofEntry_eq_ok {piece : List Char} {p : Property} (h : Holds piece p) :
    ofEntry piece = .ok p := by
  obtain ⟨hc, hn⟩ := h
  exact ofEntry_append_cons hc (trim_ne_nil_iff.2 hn)

theorem IsFaulty.ofEntry_eq_error {piece : List Char} (h : IsFaulty piece) :
    ofEntry piece = .error (.badProperty (String.ofList (trim piece))) := by
  cases h with
  | noColon _ hc => simp only [ofEntry, cutAtFirst?_of_notMem hc]
  | @noName name value hpiece hname =>
    have hc : ':' ∉ name := notMem_of_forall hname rfl
    have hnil : trim name = [] := trim_eq_nil_iff.2 (allBlank_iff.2 hname)
    rw [hpiece]
    simp only [ofEntry, cutAtFirst?_append_cons hc, hnil, List.isEmpty_nil, if_true]

/-! ### Lists of pieces -/

theorem ofEntries_cons_of_allBlank {piece : List Char} (h : allBlank piece = true)
    (pieces : List (List Char)) : ofEntries (piece :: pieces) = ofEntries pieces := by
  rw [ofEntries, if_pos h]

theorem ofEntries_cons_of_isFaulty {piece : List Char} (h : IsFaulty piece)
    (pieces : List (List Char)) :
    ofEntries (piece :: pieces) = .error (.badProperty (String.ofList (trim piece))) := by
  rw [ofEntries, if_neg (by simp [h.allBlank_eq_false]), h.ofEntry_eq_error]
  rfl

theorem ofEntries_cons_of_holds {piece : List Char} {p : Property} (h : Holds piece p)
    (pieces : List (List Char)) :
    ofEntries (piece :: pieces) = (ofEntries pieces).map (p :: ·) := by
  rw [ofEntries, if_neg (by simp [h.allBlank_eq_false]), h.ofEntry_eq_ok]
  cases ofEntries pieces <;> rfl

theorem exists_holds_of_mem {pieces : List (List Char)} {ps : List Property}
    (h : List.Forall₂ Holds pieces ps) : ∀ piece ∈ pieces, ∃ p, Holds piece p := by
  induction h with
  | nil => exact nofun
  | cons hp _ ih => exact List.forall_mem_cons.2 ⟨⟨_, hp⟩, ih⟩

/-- **A list holds what its pieces hold**, one property for each piece that is not blank. -/
theorem ofEntries_eq_ok_iff_holds {pieces : List (List Char)} {ps : List Property} :
    ofEntries pieces = .ok ps ↔ List.Forall₂ Holds (pieces.filter (!allBlank ·)) ps := by
  induction pieces generalizing ps with
  | nil =>
    rw [ofEntries, List.filter_nil, List.forall₂_nil_left_iff, Except.ok.injEq, eq_comm]
  | cons piece pieces ih =>
    rcases allBlank_or_isFaulty_or_holds piece with h | h | ⟨p, h⟩
    · rw [ofEntries_cons_of_allBlank h, List.filter_cons_of_neg (by simp [h]), ih]
    · rw [ofEntries_cons_of_isFaulty h, List.filter_cons_of_pos (by simp [h.allBlank_eq_false])]
      refine iff_of_false (fun hok => by cases hok) fun hall => ?_
      obtain ⟨q, qs, hq, -, -⟩ := List.forall₂_cons_left_iff.1 hall
      exact hq.not_isFaulty h
    · rw [ofEntries_cons_of_holds h, List.filter_cons_of_pos (by simp [h.allBlank_eq_false]),
        List.forall₂_cons_left_iff]
      constructor
      · intro hps
        obtain ⟨qs, hqs, rfl⟩ : ∃ qs, ofEntries pieces = .ok qs ∧ p :: qs = ps := by
          cases hrest : ofEntries pieces with
          | error e => rw [hrest] at hps; cases hps
          | ok qs => rw [hrest] at hps; exact ⟨qs, rfl, Except.ok.inj hps⟩
        exact ⟨p, qs, h, ih.1 hqs, rfl⟩
      · rintro ⟨q, qs, hq, hqs, rfl⟩
        have hsame : Except.ok p = Except.ok q := h.ofEntry_eq_ok.symm.trans hq.ofEntry_eq_ok
        rw [ih.2 hqs, Except.ok.inj hsame]
        rfl

/-- **A list fails at its first faulty piece**, and the error gives that piece, trimmed. -/
theorem ofEntries_eq_error_iff {pieces : List (List Char)} {e : Error} :
    ofEntries pieces = .error e ↔ ∃ before piece after, pieces = before ++ piece :: after ∧
      (∀ q ∈ before, ¬ IsFaulty q) ∧ IsFaulty piece ∧
      e = .badProperty (String.ofList (trim piece)) := by
  constructor
  · intro h
    induction pieces with
    | nil => cases h
    | cons first pieces ih =>
      -- In front of the faulty piece there is one more that is none.
      have hmore : ¬ IsFaulty first → ofEntries pieces = .error e →
          ∃ before piece after, first :: pieces = before ++ piece :: after ∧
            (∀ q ∈ before, ¬ IsFaulty q) ∧ IsFaulty piece ∧
            e = .badProperty (String.ofList (trim piece)) := by
        intro hfirst hrest
        obtain ⟨before, piece, after, rfl, hbefore, hpiece⟩ := ih hrest
        exact ⟨first :: before, piece, after, rfl, List.forall_mem_cons.2 ⟨hfirst, hbefore⟩, hpiece⟩
      rcases allBlank_or_isFaulty_or_holds first with hblank | hfaulty | ⟨p, hp⟩
      · rw [ofEntries_cons_of_allBlank hblank] at h
        refine hmore (fun hf => ?_) h
        rw [hf.allBlank_eq_false] at hblank
        cases hblank
      · rw [ofEntries_cons_of_isFaulty hfaulty] at h
        exact ⟨[], first, pieces, rfl, nofun, hfaulty, (Except.error.inj h).symm⟩
      · rw [ofEntries_cons_of_holds hp] at h
        refine hmore hp.not_isFaulty ?_
        cases hrest : ofEntries pieces with
        | error e' =>
          rw [hrest] at h
          exact congrArg Except.error (Except.error.inj h)
        | ok qs =>
          rw [hrest] at h
          cases h
  · rintro ⟨before, piece, after, rfl, hbefore, hpiece, rfl⟩
    induction before with
    | nil => exact ofEntries_cons_of_isFaulty hpiece after
    | cons first before ih =>
      have hrest := ih fun q hq => hbefore q (List.mem_cons_of_mem _ hq)
      rcases allBlank_or_isFaulty_or_holds first with hblank | hfaulty | ⟨p, hp⟩
      · rw [List.cons_append, ofEntries_cons_of_allBlank hblank, hrest]
      · exact absurd hfaulty (hbefore first List.mem_cons_self)
      · rw [List.cons_append, ofEntries_cons_of_holds hp, hrest]
        rfl

/-! ### Spellings -/

/-- A property that an entry of a list can hold.  Its name and its value are trimmed; the value may
be empty, and may hold colons. -/
structure IsListable (p : Property) : Prop where
  name_ne : p.name ≠ ""
  name_trimmed : IsTrimmed p.name
  name_chars : ∀ c ∈ p.name.toList, c ≠ ',' ∧ c ≠ ':'
  value_trimmed : IsTrimmed p.value
  value_chars : ∀ c ∈ p.value.toList, c ≠ ','

/-- Blanks of any kind in a row, or none. -/
structure Blanks where
  /-- The blanks. -/
  text : List Char := []
  /-- There is nothing else among them. -/
  blank : ∀ c ∈ text, isBlank c = true := by decide

/-- What stands between two commas of a list. -/
inductive Slot
  /-- Nothing but blanks. -/
  | empty (blanks : Blanks)
  /-- A property, with blanks around its name and its value. -/
  | filled (p : Property) (listable : p.IsListable)
    (beforeName afterName beforeValue afterValue : Blanks)

namespace Slot

/-- The characters of a slot. -/
def text : Slot → List Char
  | empty blanks => blanks.text
  | filled p _ beforeName afterName beforeValue afterValue =>
    beforeName.text ++ p.name.toList ++ afterName.text ++
      ':' :: (beforeValue.text ++ p.value.toList ++ afterValue.text)

/-- The property that a slot is filled with. -/
def property? : Slot → Option Property
  | empty _ => none
  | filled p .. => some p

end Slot

/-- A list with the given slots between its commas. -/
def spelled (slots : List Slot) : String :=
  String.ofList ([','].intercalate (slots.map Slot.text))

theorem Blanks.notMem (b : Blanks) {c : Char} (hc : isBlank c = false) : c ∉ b.text :=
  notMem_of_forall b.blank hc

theorem IsListable.holds {p : Property} (h : p.IsListable)
    (beforeName afterName beforeValue afterValue : Blanks) :
    Holds (Slot.filled p h beforeName afterName beforeValue afterValue).text p := by
  have hname : trim (beforeName.text ++ p.name.toList ++ afterName.text) = p.name.toList :=
    (trim_pad beforeName.blank afterName.blank).trans h.name_trimmed.trim_eq
  have hvalue : trim (beforeValue.text ++ p.value.toList ++ afterValue.text) = p.value.toList :=
    (trim_pad beforeValue.blank afterValue.blank).trans h.value_trimmed.trim_eq
  have hcolon : ':' ∉ beforeName.text ++ p.name.toList ++ afterName.text := by
    have hp : ':' ∉ p.name.toList := fun hm => (h.name_chars ':' hm).2 rfl
    have hblanks : ∀ b : Blanks, ':' ∉ b.text := fun b => b.notMem rfl
    simp [hblanks, hp]
  have hne : trim (beforeName.text ++ p.name.toList ++ afterName.text) ≠ [] := by
    rw [hname]
    simpa using h.name_ne
  have hholds : Holds (Slot.filled p h beforeName afterName beforeValue afterValue).text _ :=
    .intro hcolon (trim_ne_nil_iff.1 hne)
  rw [hname, hvalue, String.ofList_toList, String.ofList_toList] at hholds
  exact hholds

/-- **What a piece holds is what a slot is filled with.** -/
theorem Holds.exists_slot {piece : List Char} {p : Property} (h : Holds piece p)
    (hcomma : ',' ∉ piece) : ∃ slot : Slot, slot.text = piece ∧ slot.property? = some p := by
  obtain @⟨name, value, hcolon, hne⟩ := h
  obtain ⟨front, back, hname, hfront, hback, hstart, hend⟩ := isTrim_trim name
  obtain ⟨front', back', hvalue, hfront', hback', hstart', hend'⟩ := isTrim_trim value
  have hmem : ∀ c ∈ trim name, c ∈ name := fun c hc => by rw [hname]; simp [hc]
  have hmem' : ∀ c ∈ trim value, c ∈ value := fun c hc => by rw [hvalue]; simp [hc]
  have hlist : IsListable ⟨String.ofList (trim name), String.ofList (trim value)⟩ := by
    refine ⟨?_, ?_, ?_, ?_, ?_⟩
    · simpa using trim_ne_nil_iff.2 hne
    · exact isTrimmed_of_trim_eq (by simp)
    · intro c hc
      have hc' : c ∈ name := hmem c (by simpa using hc)
      refine ⟨?_, ?_⟩
      · rintro rfl
        exact hcomma (by simp [hc'])
      · rintro rfl
        exact hcolon hc'
    · exact isTrimmed_of_trim_eq (by simp)
    · intro c hc
      have hc' : c ∈ value := hmem' c (by simpa using hc)
      rintro rfl
      exact hcomma (by simp [hc'])
  refine ⟨.filled _ hlist ⟨front, hfront⟩ ⟨back, hback⟩ ⟨front', hfront'⟩ ⟨back', hback'⟩, ?_, rfl⟩
  simp only [Slot.text, String.toList_ofList]
  rw [← hname, ← hvalue]

theorem Slot.comma_notMem_text (slot : Slot) : ',' ∉ slot.text := by
  cases slot with
  | empty blanks => exact blanks.notMem rfl
  | filled p h b₁ b₂ b₃ b₄ =>
    have hname : ',' ∉ p.name.toList := fun hm => (h.name_chars ',' hm).1 rfl
    have hvalue : ',' ∉ p.value.toList := fun hm => h.value_chars ',' hm rfl
    have hblanks : ∀ b : Blanks, ',' ∉ b.text := fun b => b.notMem rfl
    simp [Slot.text, hblanks, hname, hvalue]

/-- The slots of a list are read one by one. -/
theorem forall₂_holds_slots (slots : List Slot) :
    List.Forall₂ Holds ((slots.map Slot.text).filter (!allBlank ·))
      (slots.filterMap Slot.property?) := by
  induction slots with
  | nil => exact .nil
  | cons slot slots ih =>
    cases slot with
    | empty blanks =>
      have hblank : allBlank (Slot.empty blanks).text = true := allBlank_iff.2 blanks.blank
      rw [List.map_cons, List.filter_cons_of_neg (by simp [hblank]),
        List.filterMap_cons_none (by rfl)]
      exact ih
    | filled p h b₁ b₂ b₃ b₄ =>
      have hholds := h.holds b₁ b₂ b₃ b₄
      have hp : (Slot.filled p h b₁ b₂ b₃ b₄).property? = some p := rfl
      rw [List.map_cons, List.filter_cons_of_pos (by simp [hholds.allBlank_eq_false]),
        List.filterMap_cons_some hp]
      exact .cons hholds ih

/-- Pieces that are blank or hold properties are those of slots. -/
theorem exists_slots {pieces : List (List Char)} {ps : List Property}
    (hcomma : ∀ piece ∈ pieces, ',' ∉ piece)
    (h : List.Forall₂ Holds (pieces.filter (!allBlank ·)) ps) :
    ∃ slots : List Slot, slots.map Slot.text = pieces ∧ slots.filterMap Slot.property? = ps := by
  induction pieces generalizing ps with
  | nil => exact ⟨[], rfl, (List.forall₂_nil_left_iff.1 h).symm⟩
  | cons piece pieces ih =>
    have hrest : ∀ q ∈ pieces, ',' ∉ q := fun q hq => hcomma q (List.mem_cons_of_mem _ hq)
    by_cases hblank : allBlank piece = true
    · rw [List.filter_cons_of_neg (by simp [hblank])] at h
      obtain ⟨slots, rfl, rfl⟩ := ih hrest h
      exact ⟨.empty ⟨piece, allBlank_iff.1 hblank⟩ :: slots, rfl, rfl⟩
    · rw [List.filter_cons_of_pos (by simpa using hblank), List.forall₂_cons_left_iff] at h
      obtain ⟨p, qs, hp, hqs, rfl⟩ := h
      obtain ⟨slots, rfl, rfl⟩ := ih hrest hqs
      obtain ⟨slot, rfl, hslot⟩ := hp.exists_slot (hcomma piece List.mem_cons_self)
      exact ⟨slot :: slots, rfl, List.filterMap_cons_some hslot⟩

/-- The pieces of a list are its slots; a list without slots has one empty piece. -/
theorem pieces_spelled {slots : List Slot} (hne : slots ≠ []) :
    pieces ',' (spelled slots).toList = slots.map Slot.text := by
  have hcomma : ∀ l ∈ slots.map Slot.text, ',' ∉ l := by
    intro l hl
    obtain ⟨slot, -, rfl⟩ := List.mem_map.1 hl
    exact slot.comma_notMem_text
  rw [spelled, String.toList_ofList, pieces_eq_splitOn,
    List.splitOn_intercalate _ hcomma (by simpa using hne)]

/-- **The lists that are read are the spellings of slots**, and they hold what the slots are filled
with. -/
theorem ofText_eq_ok_iff_spelled {raw : String} {ps : List Property} :
    ofText raw = .ok ps ↔
      ∃ slots : List Slot, spelled slots = raw ∧ slots.filterMap Slot.property? = ps := by
  constructor
  · intro h
    have hcomma : ∀ piece ∈ pieces ',' raw.toList, ',' ∉ piece := fun _ =>
      sep_notMem_of_mem_pieces
    obtain ⟨slots, hslots, hps⟩ := exists_slots hcomma (ofEntries_eq_ok_iff_holds.1 h)
    refine ⟨slots, ?_, hps⟩
    rw [spelled, hslots, pieces_eq_splitOn, List.intercalate_splitOn, String.ofList_toList]
  · rintro ⟨slots, rfl, rfl⟩
    cases slots with
    | nil => rfl
    | cons slot slots =>
      rw [ofText, pieces_spelled (List.cons_ne_nil _ _)]
      exact ofEntries_eq_ok_iff_holds.2 (forall₂_holds_slots _)

/-- **Which property lists are read, and as what.**  A list, cut at every comma, fails exactly if
one of its pieces is faulty, and then at the first of these, which the error gives without the
blanks around it.  Otherwise it holds one property for each piece that is not blank, in order.  So
the lists that are read are the spellings of properties whose names are not empty and hold neither
commas nor colons, and whose values hold no commas: with blanks of any kind around names, values and
commas, and with any number of slots left blank. -/
theorem ofText_listing (raw : String) :
    let pieces := raw.toList.splitOn ','
    ((∃ e, ofText raw = .error e) ↔ ∃ piece ∈ pieces, IsFaulty piece) ∧
      (∀ e, ofText raw = .error e ↔ ∃ before piece after, pieces = before ++ piece :: after ∧
        (∀ q ∈ before, ¬ IsFaulty q) ∧ IsFaulty piece ∧
        e = .badProperty (String.ofList (trim piece))) ∧
      (∀ ps, ofText raw = .ok ps ↔ List.Forall₂ Holds (pieces.filter (!allBlank ·)) ps) ∧
      (∀ ps, ofText raw = .ok ps ↔
        ∃ slots : List Slot, spelled slots = raw ∧ slots.filterMap Slot.property? = ps) ∧
      ∀ ps, ofText raw = .ok ps → ∀ p ∈ ps, p.IsListable := by
  intro pieces
  have hpieces : Text.pieces ',' raw.toList = pieces := pieces_eq_splitOn ',' raw.toList
  have herror : ∀ e, ofText raw = .error e ↔ ∃ before piece after,
      pieces = before ++ piece :: after ∧ (∀ q ∈ before, ¬ IsFaulty q) ∧ IsFaulty piece ∧
        e = .badProperty (String.ofList (trim piece)) := by
    intro e
    rw [ofText, hpieces, ofEntries_eq_error_iff]
  have hok : ∀ ps, ofText raw = .ok ps ↔ List.Forall₂ Holds (pieces.filter (!allBlank ·)) ps := by
    intro ps
    rw [ofText, hpieces, ofEntries_eq_ok_iff_holds]
  refine ⟨⟨?_, ?_⟩, herror, hok, fun ps => ofText_eq_ok_iff_spelled, fun ps hps p hp => ?_⟩
  · rintro ⟨e, he⟩
    obtain ⟨before, piece, after, hcut, -, hpiece, -⟩ := (herror e).1 he
    exact ⟨piece, by simp [hcut], hpiece⟩
  · rintro ⟨piece, hmem, hpiece⟩
    cases hread : ofText raw with
    | error e => exact ⟨e, rfl⟩
    | ok ps =>
      -- A faulty piece is not blank, so it would have to hold something.
      have hkept : piece ∈ pieces.filter (!allBlank ·) :=
        List.mem_filter.2 ⟨hmem, by simp [hpiece.allBlank_eq_false]⟩
      obtain ⟨p, hp⟩ := exists_holds_of_mem ((hok ps).1 hread) piece hkept
      exact absurd hpiece hp.not_isFaulty
  · obtain ⟨slots, -, rfl⟩ := ofText_eq_ok_iff_spelled.1 hps
    obtain ⟨slot, -, hslot⟩ := List.mem_filterMap.1 hp
    cases slot with
    | empty => cases hslot
    | filled q hq =>
      cases hslot
      exact hq

/-- The first list has an empty slot and one of blanks, a line feed among them, and a value with a
colon; the second has two faulty pieces. -/
theorem ofText_listing_of_blanks :
    let raw := " make\u3000: ?,,\u00a0kind:a:b \n,\t"
    let ps : List Property := [⟨"make", "?"⟩, ⟨"kind", "a:b"⟩]
    let faulty := "name: ?, , \u2003: x ,y"
    ofText raw = .ok ps ∧ (∀ p ∈ ps, p.IsListable) ∧
      (∃ slots : List Slot, spelled slots = raw ∧ slots.filterMap Slot.property? = ps) ∧
      ofText faulty = .error (.badProperty ": x") := by
  intro raw ps faulty
  have hread : ofText raw = .ok ps := by unfold raw ps; rfl
  obtain ⟨-, -, -, hspelled, hlistable⟩ := ofText_listing raw
  refine ⟨hread, hlistable ps hread, (hspelled ps).1 hread, ?_⟩
  refine ((ofText_listing faulty).2.1 _).2 ?_
  refine ⟨["name: ?".toList, " ".toList], " \u2003: x ".toList, ["y".toList], by decide, ?_, ?_, ?_⟩
  · intro q hq
    rcases List.mem_cons.1 hq with rfl | hq
    · have hholds : Holds ("name".toList ++ ':' :: " ?".toList) _ :=
        .intro (by decide) ⟨'n', by decide, rfl⟩
      exact hholds.not_isFaulty
    · intro hf
      have hblank := hf.allBlank_eq_false
      rw [List.mem_singleton.1 hq] at hblank
      cases hblank
  · have hcut : " \u2003: x ".toList = " \u2003".toList ++ ':' :: " x ".toList := by decide
    exact .noName hcut (List.all_eq_true.1 rfl)
  · rfl

end Property
end KeyCall
