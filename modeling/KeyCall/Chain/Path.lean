import KeyCall.Error
import KeyCall.Proofs.Text.Run

/-!
# Attribute paths

An attribute path such as `make->company->name` names a chain of attributes; a dot may stand for an
arrow, and blanks may stand around either.  A path is trimmed and then read from the left: wherever
an arrow or a dot is met, with the blanks in front of it, the text is cut, and reading goes on
behind the blanks that follow.

What comes out can be said without the reading.  The separators do not overlap, so a text has one
way only to be taken apart into pieces without separators; these are its segments.  The parts that
are read are the segments without the blanks around them.

## Main definitions

* `Chain.parts`: what is read of a path.
* `Chain.split`: the same, unless one of the parts is empty.
* `Chain.segments`: a path cut at its separators, blanks and all.
* `Chain.trimmedSegments`: the segments without the blanks around them.
* `Chain.joined`: segments as a path.

## Main results

* `segments_append_mark`: a text is cut at a separator wherever the separator stands.
* `parts_eq_trimmedSegments`: what is read of a path are its trimmed segments.
* `split_eq_ok_iff`: when a path can be split, and into what.
* `split_joined`: segments that are joined are split again.
-/

namespace KeyCall
namespace Chain

open Text

/-! ### Reading a path -/

/-- An arrow or a dot. -/
def mark (isArrow : Bool) : List Char := if isArrow then ['-', '>'] else ['.']

/-- The length of the separator that a text starts with, the blanks around it counted in; it is
zero if the text starts with none. -/
def separatorLength (cs : List Char) : Nat :=
  let before := (cs.takeWhile isBlank).length
  match cs.dropWhile isBlank with
  | '-' :: '>' :: rest => before + 2 + (rest.takeWhile isBlank).length
  | '.' :: rest => before + 1 + (rest.takeWhile isBlank).length
  | _ => 0

/-- Cuts a text at its separators, from the left.  The first `n` characters belong to a separator
that has been met, and are passed over. -/
def partsFrom : (n : Nat) → List Char → List (List Char)
  | _, [] => [[]]
  | n + 1, _ :: cs => partsFrom n cs
  | 0, c :: cs =>
    if separatorLength (c :: cs) = 0 then
      match partsFrom 0 cs with
      | [] => [[c]]
      | s :: ss => (c :: s) :: ss
    else [] :: partsFrom (separatorLength (c :: cs) - 1) cs

/-- The parts of a path: what stands between its separators. -/
def parts (path : String) : List (List Char) := partsFrom 0 (trim path.toList)

/-- Splits a path into its parts; a path with an empty part is none. -/
def split (path : String) : Except Error (List String) :=
  let ss := parts path
  if ss.any List.isEmpty then .error (.badPath path) else .ok (ss.map String.ofList)

/-! ### Segments -/

/-- Cuts a path at every arrow and every dot, from the left. -/
def segments : List Char → List (List Char)
  | [] => [[]]
  | '-' :: '>' :: cs => [] :: segments cs
  | c :: cs =>
    if c = '.' then [] :: segments cs
    else match segments cs with
      | [] => [[c]]
      | s :: ss => (c :: s) :: ss

theorem segments_ne_nil (cs : List Char) : segments cs ≠ [] := by
  fun_cases segments cs <;> simp

/-- The trimmed segments of a path. -/
def trimmedSegments (path : String) : List (List Char) :=
  (segments path.toList).map Text.trim

/-- There is neither a dot nor an arrow in the text. -/
def Unbroken (cs : List Char) : Prop := '.' ∉ cs ∧ ¬ ['-', '>'] <:+: cs

theorem Unbroken.of_isInfix {cs ds : List Char} (h : Unbroken ds) (hcs : cs <:+: ds) :
    Unbroken cs :=
  ⟨fun hdot => h.1 (hcs.subset hdot), fun harrow => h.2 (harrow.trans hcs)⟩

/-- A path starts with its first segment. -/
theorem isPrefix_of_segments {cs s : List Char} {ss : List (List Char)}
    (h : segments cs = s :: ss) : s <+: cs := by
  fun_induction segments cs generalizing s ss with
  | case1 | case2 | case3 =>
    obtain ⟨rfl, -⟩ := List.cons.inj h
    exact List.nil_prefix
  | case4 c cs harrow hdot hs => exact absurd hs (segments_ne_nil cs)
  | case5 c cs harrow hdot s' ss' hs ih =>
    obtain ⟨rfl, -⟩ := List.cons.inj h
    exact List.cons_prefix_cons.2 ⟨rfl, ih hs⟩

/-- No separator is left in a segment. -/
theorem unbroken_of_mem_segments {cs s : List Char} (h : s ∈ segments cs) : Unbroken s := by
  have hnil : Unbroken [] := ⟨List.not_mem_nil, by simp⟩
  fun_induction segments cs generalizing s with
  | case1 => exact List.mem_singleton.1 h ▸ hnil
  | case2 cs ih | case3 cs _ ih =>
    rcases List.mem_cons.1 h with rfl | h
    · exact hnil
    · exact ih h
  | case4 c cs harrow hdot hs => exact absurd hs (segments_ne_nil cs)
  | case5 c cs harrow hdot s' ss' hs ih =>
    rw [hs] at ih
    rcases List.mem_cons.1 h with rfl | h
    · obtain ⟨hdot', harrow'⟩ := ih List.mem_cons_self
      refine ⟨fun hmem => ?_, fun hinfix => ?_⟩
      · exact (List.mem_cons.1 hmem).elim (fun he => hdot he.symm) hdot'
      · rcases List.infix_cons_iff.1 hinfix with hprefix | hinfix
        · -- An arrow in front would have been a separator of the path.
          obtain ⟨rfl, hnext⟩ := List.cons_prefix_cons.1 hprefix
          obtain ⟨rest, rfl⟩ := hnext.trans (isPrefix_of_segments hs)
          exact harrow rest rfl rfl
        · exact harrow' hinfix
    · exact ih (List.mem_cons_of_mem _ h)

/-- A character that starts no separator goes to the first segment. -/
theorem segments_cons {c : Char} {cs s : List Char} {ss : List (List Char)} (hdot : c ≠ '.')
    (harrow : ¬ ['-', '>'] <+: c :: cs) (hs : segments cs = s :: ss) :
    segments (c :: cs) = (c :: s) :: ss := by
  rw [segments, if_neg hdot, hs]
  rintro rest rfl rfl
  exact harrow ⟨rest, rfl⟩

/-- What holds no separator is its own segment. -/
theorem segments_of_unbroken {s : List Char} (hs : Unbroken s) : segments s = [s] := by
  induction s with
  | nil => rfl
  | cons c s ih =>
    have hdot : c ≠ '.' := fun he => hs.1 (he ▸ List.mem_cons_self)
    exact segments_cons hdot (fun hprefix => hs.2 hprefix.isInfix)
      (ih (hs.of_isInfix (List.infix_cons List.infix_rfl)))

/-! ### Cutting at a separator -/

/-- What follows a separator's first character completes no arrow that starts in front of it. -/
theorem head_mark_append_ne (isArrow : Bool) (back : List Char) :
    ∀ e ds, mark isArrow ++ back = e :: ds → e ≠ '>' := by
  rintro e ds h rfl
  cases isArrow <;> exact absurd (List.cons.inj h).1 (by decide)

/-- No arrow is completed by a separator or by what is in front of it. -/
theorem not_arrow_prefix_append {c : Char} {cs ds : List Char}
    (hd : ∀ e ds', ds = e :: ds' → e ≠ '>') (h : ¬ ['-', '>'] <+: c :: cs) :
    ¬ ['-', '>'] <+: c :: (cs ++ ds) := by
  intro hprefix
  obtain ⟨rfl, hnext⟩ := List.cons_prefix_cons.1 hprefix
  cases cs with
  | nil =>
    obtain ⟨rest, hrest⟩ := hnext
    exact hd '>' rest hrest.symm rfl
  | cons e cs =>
    obtain ⟨rfl, -⟩ := List.cons_prefix_cons.1 hnext
    exact h ⟨cs, rfl⟩

/-- **A text is cut at a separator wherever the separator stands.** -/
theorem segments_append_mark (front : List Char) (isArrow : Bool) (back : List Char) :
    segments (front ++ mark isArrow ++ back) = segments front ++ segments back := by
  have hmark := head_mark_append_ne isArrow back
  fun_induction segments front with
  | case1 => cases isArrow <;> rfl
  | case2 cs ih =>
    show [] :: segments (cs ++ mark isArrow ++ back) = _
    rw [ih]
    rfl
  | case3 cs hne ih =>
    show segments ('.' :: (cs ++ mark isArrow ++ back)) = _
    rw [segments, if_pos rfl, ih]
    · rfl
    · rintro rest h -
      exact absurd h (by decide)
  | case4 c cs harrow hdot hs => exact absurd hs (segments_ne_nil cs)
  | case5 c cs harrow hdot s ss hs ih =>
    have hprefix : ¬ ['-', '>'] <+: c :: cs := by
      rintro ⟨rest, h⟩
      obtain ⟨rfl, rfl⟩ := List.cons.inj h
      exact harrow rest rfl rfl
    have hrest : segments (cs ++ (mark isArrow ++ back)) = s :: (ss ++ segments back) := by
      rw [← List.append_assoc, ih, hs]
      rfl
    rw [List.append_assoc, List.cons_append]
    exact segments_cons hdot (not_arrow_prefix_append hmark hprefix) hrest

/-- A text is its own segment, or it is cut at a first separator. -/
theorem segments_cases (cs : List Char) :
    segments cs = [cs] ∨ ∃ s isArrow back, cs = s ++ mark isArrow ++ back ∧
      segments cs = s :: segments back := by
  fun_induction segments cs with
  | case1 => exact .inl rfl
  | case2 cs ih => exact .inr ⟨[], true, cs, rfl, rfl⟩
  | case3 cs hne ih => exact .inr ⟨[], false, cs, rfl, rfl⟩
  | case4 c cs harrow hdot hs => exact absurd hs (segments_ne_nil cs)
  | case5 c cs harrow hdot s ss hs ih =>
    rw [hs] at ih
    rcases ih with h | ⟨s', isArrow, back, rfl, h⟩
    · obtain ⟨rfl, rfl⟩ := List.cons.inj h
      exact .inl rfl
    · obtain ⟨rfl, rfl⟩ := List.cons.inj h
      exact .inr ⟨c :: s, isArrow, back, rfl, rfl⟩

/-! ### Blanks -/

theorem isBlank_ne {c d : Char} (hc : isBlank c = true) (hd : isBlank d = false) : c ≠ d := by
  rintro rfl
  rw [hc] at hd
  cases hd

/-- Blanks in front of a path go to its first segment. -/
theorem segments_blanks_append {bs cs s : List Char} {ss : List (List Char)}
    (hbs : ∀ c ∈ bs, isBlank c = true) (hs : segments cs = s :: ss) :
    segments (bs ++ cs) = (bs ++ s) :: ss := by
  induction bs with
  | nil => exact hs
  | cons b bs ih =>
    have hb : isBlank b = true := hbs b List.mem_cons_self
    refine segments_cons (isBlank_ne hb rfl) (fun hprefix => ?_)
      (ih fun c hc => hbs c (List.mem_cons_of_mem b hc))
    exact isBlank_ne hb (d := '-') rfl (List.cons_prefix_cons.1 hprefix).1.symm

/-- Blanks behind what holds no separator make none. -/
theorem segments_append_blanks {cs bs : List Char} (hcs : Unbroken cs)
    (hbs : ∀ c ∈ bs, isBlank c = true) : segments (cs ++ bs) = [cs ++ bs] := by
  have hhead : ∀ e ds, bs = e :: ds → e ≠ '>' := by
    rintro e ds rfl
    exact isBlank_ne (hbs e List.mem_cons_self) rfl
  induction cs with
  | nil =>
    have hempty : segments [] = [[]] := rfl
    simpa using segments_blanks_append hbs hempty
  | cons c cs ih =>
    have hdot : c ≠ '.' := fun h => hcs.1 (h ▸ List.mem_cons_self)
    refine segments_cons hdot (not_arrow_prefix_append hhead fun hprefix => ?_)
      (ih (hcs.of_isInfix (List.infix_cons List.infix_rfl)))
    exact hcs.2 hprefix.isInfix

theorem map_trim_segments_append_blanks {bs : List Char} (hbs : ∀ c ∈ bs, isBlank c = true)
    (cs : List Char) : (segments (cs ++ bs)).map trim = (segments cs).map trim := by
  rcases segments_cases cs with h | ⟨s, isArrow, back, rfl, h⟩
  · have hcs : Unbroken cs := unbroken_of_mem_segments (h ▸ List.mem_singleton_self cs)
    rw [segments_append_blanks hcs hbs, h, List.map_singleton, List.map_singleton,
      trim_pad_right hbs]
  · -- Behind a separator the text is shorter, and only there the blanks are added.
    have hback := map_trim_segments_append_blanks hbs back
    rw [List.append_assoc (s ++ mark isArrow), segments_append_mark, segments_append_mark,
      List.map_append, List.map_append, hback]
termination_by cs.length
decreasing_by
  subst_vars
  cases isArrow <;> simp [mark] <;> omega

theorem map_trim_segments_blanks_append {bs : List Char} (hbs : ∀ c ∈ bs, isBlank c = true)
    (cs : List Char) : (segments (bs ++ cs)).map trim = (segments cs).map trim := by
  obtain ⟨s, ss, hs⟩ := List.exists_cons_of_ne_nil (segments_ne_nil cs)
  rw [segments_blanks_append hbs hs, hs, List.map_cons, List.map_cons, trim_pad_left hbs]

/-- Blanks around a path are trimmed away with those around its segments. -/
theorem map_trim_segments_trim (cs : List Char) :
    (segments (trim cs)).map trim = (segments cs).map trim := by
  obtain ⟨front, back, hcs, hfront, hback, -, -⟩ := isTrim_trim cs
  conv => rhs; rw [hcs]
  rw [map_trim_segments_append_blanks hback, map_trim_segments_blanks_append hfront]

/-! ### What is read -/

/-- A separator is passed over with the blanks around it. -/
theorem separatorLength_append {before after rest : List Char} (isArrow : Bool)
    (hbefore : ∀ c ∈ before, isBlank c = true) (hafter : ∀ c ∈ after, isBlank c = true)
    (hrest : StartsOutside isBlank rest) :
    separatorLength (before ++ mark isArrow ++ after ++ rest) =
      (before ++ mark isArrow ++ after).length := by
  have hmark : StartsOutside isBlank (mark isArrow ++ (after ++ rest)) := by
    cases isArrow <;> exact startsOutside_cons.2 rfl
  unfold separatorLength
  rw [List.append_assoc, List.append_assoc, takeWhile_append_eq hbefore hmark,
    dropWhile_append_eq hbefore hmark]
  cases isArrow <;>
    simp [mark, takeWhile_append_eq hafter hrest, List.length_append] <;> omega

/-- Where neither an arrow nor a dot is the first that is not blank, there is no separator. -/
theorem separatorLength_eq_zero {cs : List Char}
    (h : ∀ isArrow, ¬ mark isArrow <+: cs.dropWhile isBlank) : separatorLength cs = 0 := by
  unfold separatorLength
  split
  · next rest hrest => exact absurd ⟨rest, hrest.symm⟩ (h true)
  · next rest hrest => exact absurd ⟨rest, hrest.symm⟩ (h false)
  · rfl

/-- No separator starts in a piece that holds none and does not end in a blank. -/
theorem separatorLength_append_eq_zero {cs ds : List Char} (hne : cs ≠ []) (hcs : Unbroken cs)
    (hend : EndsOutside isBlank cs) (hds : ∀ e ds', ds = e :: ds' → e ≠ '>') :
    separatorLength (cs ++ ds) = 0 := by
  -- The first character that is not blank is in the piece, and no separator starts there.
  obtain ⟨bs, c, cs', rfl, hbs, hc⟩ : ∃ bs c cs', cs = bs ++ c :: cs' ∧
      (∀ b ∈ bs, isBlank b = true) ∧ isBlank c = false := by
    cases hdrop : cs.dropWhile isBlank with
    | nil =>
      have htake : cs.takeWhile isBlank = cs := by
        have happ := List.takeWhile_append_dropWhile (p := isBlank) (l := cs)
        rwa [hdrop, List.append_nil] at happ
      have hblank : isBlank (cs.getLast hne) = true :=
        forall_mem_takeWhile cs _ (htake.symm ▸ List.getLast_mem hne)
      rw [hend _ (List.getLast?_eq_some_getLast hne)] at hblank
      cases hblank
    | cons c cs' =>
      refine ⟨cs.takeWhile isBlank, c, cs', ?_, forall_mem_takeWhile cs, ?_⟩
      · rw [← hdrop, List.takeWhile_append_dropWhile]
      · exact startsOutside_cons.1 (hdrop ▸ startsOutside_dropWhile cs)
  have hstart : StartsOutside isBlank (c :: (cs' ++ ds)) := startsOutside_cons.2 hc
  have hrest : Unbroken (c :: cs') := hcs.of_isInfix (List.suffix_append bs _).isInfix
  refine separatorLength_eq_zero fun isArrow hprefix => ?_
  rw [List.append_assoc, List.cons_append, dropWhile_append_eq hbs hstart] at hprefix
  cases isArrow with
  | true => exact not_arrow_prefix_append hds (fun h => hrest.2 h.isInfix) hprefix
  | false => exact hrest.1 ((List.cons_prefix_cons.1 hprefix).1 ▸ List.mem_cons_self)

theorem partsFrom_cons_of_separator {c : Char} {cs : List Char} {n : Nat}
    (h : separatorLength (c :: cs) = n + 1) :
    partsFrom 0 (c :: cs) = [] :: partsFrom n cs := by
  rw [partsFrom, h, if_neg (Nat.succ_ne_zero n), Nat.add_sub_cancel]

theorem partsFrom_cons {c : Char} {cs s : List Char} {ss : List (List Char)}
    (h : separatorLength (c :: cs) = 0) (hs : partsFrom 0 cs = s :: ss) :
    partsFrom 0 (c :: cs) = (c :: s) :: ss := by
  rw [partsFrom, if_pos h, hs]

/-- What belongs to a separator is passed over. -/
theorem partsFrom_length_append (xs cs : List Char) :
    partsFrom xs.length (xs ++ cs) = partsFrom 0 cs := by
  induction xs with
  | nil => rfl
  | cons x xs ih => exact ih

/-- A piece with no separator that does not end in a blank goes to the first part. -/
theorem partsFrom_append {cs ds s : List Char} {ss : List (List Char)} (hcs : Unbroken cs)
    (hend : EndsOutside isBlank cs) (hds : ∀ e ds', ds = e :: ds' → e ≠ '>')
    (h : partsFrom 0 ds = s :: ss) : partsFrom 0 (cs ++ ds) = (cs ++ s) :: ss := by
  induction cs with
  | nil => exact h
  | cons c cs ih =>
    have hzero := separatorLength_append_eq_zero (List.cons_ne_nil c cs) hcs hend hds
    have hend' : EndsOutside isBlank cs := EndsOutside.of_append (l := [c]) hend
    exact partsFrom_cons hzero (ih (hcs.of_isInfix (List.infix_cons List.infix_rfl)) hend')

/-- A separator with the blanks around it stands between two parts. -/
theorem partsFrom_separator {before after back : List Char} (isArrow : Bool)
    (hbefore : ∀ c ∈ before, isBlank c = true) (hafter : ∀ c ∈ after, isBlank c = true)
    (hback : StartsOutside isBlank back) :
    partsFrom 0 (before ++ mark isArrow ++ after ++ back) = [] :: partsFrom 0 back := by
  have hlength := separatorLength_append isArrow hbefore hafter hback
  obtain ⟨x, xs, hxs⟩ : ∃ x xs, before ++ mark isArrow ++ after = x :: xs := by
    refine List.exists_cons_of_ne_nil ?_
    cases isArrow <;> simp [mark]
  rw [hxs, List.cons_append] at hlength ⊢
  rw [partsFrom_cons_of_separator hlength, partsFrom_length_append]

/-- What is read of a trimmed text are its segments without the blanks around them. -/
theorem partsFrom_zero {cs : List Char} (hstart : StartsOutside isBlank cs)
    (hend : EndsOutside isBlank cs) : partsFrom 0 cs = (segments cs).map trim := by
  rcases segments_cases cs with h | ⟨s, isArrow, back, rfl, h⟩
  · have hunbroken : Unbroken cs := unbroken_of_mem_segments (h ▸ List.mem_singleton_self cs)
    have hnil : partsFrom 0 [] = [[]] := rfl
    have hread := partsFrom_append hunbroken hend (by simp) hnil
    rw [List.append_nil] at hread
    rw [hread, h, List.map_singleton, trim_eq_self hstart hend]
  · have hs : Unbroken s := unbroken_of_mem_segments (h ▸ List.mem_cons_self)
    -- The blanks that end the piece and those that start what follows are the separator's.
    obtain ⟨front, before, hcut⟩ : ∃ front before, splitTail isBlank s = (front, before) :=
      ⟨_, _, rfl⟩
    obtain ⟨rfl, hbefore, hfront⟩ := splitTail_eq_iff.1 hcut
    obtain ⟨after, back', rfl, hafter, hback⟩ : ∃ after back', back = after ++ back' ∧
        (∀ c ∈ after, isBlank c = true) ∧ StartsOutside isBlank back' :=
      ⟨_, _, List.takeWhile_append_dropWhile.symm, forall_mem_takeWhile back,
        startsOutside_dropWhile back⟩
    have happ : front ++ before ++ mark isArrow ++ (after ++ back') =
        front ++ (before ++ mark isArrow ++ after ++ back') := by simp
    have hnext : partsFrom 0 (before ++ mark isArrow ++ after ++ back') =
        [] :: (segments back').map trim := by
      rw [partsFrom_separator isArrow hbefore hafter hback, partsFrom_zero hback]
      exact (happ ▸ hend).of_append.of_append
    have htrim : trim (front ++ before) = front := by
      rw [trim_pad_right hbefore]
      exact trim_eq_self (happ ▸ hstart).of_append hfront
    rw [h, List.map_cons, htrim, map_trim_segments_blanks_append hafter, happ,
      partsFrom_append (hs.of_isInfix (List.prefix_append front before).isInfix) hfront ?_ hnext,
      List.append_nil]
    -- Neither a blank nor a separator starts as an arrow ends.
    rintro e ds' hds rfl
    cases before with
    | nil => exact head_mark_append_ne isArrow (after ++ back') '>' ds' (by simpa using hds) rfl
    | cons b before =>
      obtain ⟨rfl, -⟩ := List.cons.inj hds
      exact absurd (hbefore '>' List.mem_cons_self) (by decide)
termination_by cs.length
decreasing_by
  subst_vars
  cases isArrow <;> simp [mark] <;> omega

/-- **What is read of a path** are its trimmed segments. -/
theorem parts_eq_trimmedSegments (path : String) : parts path = trimmedSegments path := by
  rw [parts, partsFrom_zero (startsOutside_trim _) (endsOutside_trim _), map_trim_segments_trim]
  rfl

/-- A path can be split exactly when no trimmed segment is empty, and then into these. -/
theorem split_eq_ok_iff (path : String) (ss : List String) :
    split path = .ok ss ↔
      (∀ s ∈ trimmedSegments path, s ≠ []) ∧ ss = (trimmedSegments path).map String.ofList := by
  unfold split
  rw [parts_eq_trimmedSegments]
  by_cases h : (trimmedSegments path).any List.isEmpty = true
  · simp only [h, ↓reduceIte, reduceCtorEq, false_iff, not_and]
    intro hs
    simp only [List.any_eq_true, List.isEmpty_iff] at h
    obtain ⟨s, hs', rfl⟩ := h
    exact absurd rfl (hs [] hs')
  · simp only [h, Bool.false_eq_true, ↓reduceIte, Except.ok.injEq]
    simp only [List.any_eq_true, List.isEmpty_iff, not_exists, not_and] at h
    exact ⟨fun e => ⟨h, e.symm⟩, fun e => e.2.symm⟩

/-- A path has at least one segment. -/
theorem ne_nil_of_split {path : String} {ss : List String} (h : split path = .ok ss) : ss ≠ [] := by
  obtain ⟨-, rfl⟩ := (split_eq_ok_iff path ss).1 h
  simpa [trimmedSegments] using segments_ne_nil path.toList

/-! ### Joining segments -/

/-- Pieces without separators are cut apart again where arrows join them. -/
theorem segments_intercalate {ss : List (List Char)} (hne : ss ≠ [])
    (hs : ∀ s ∈ ss, Unbroken s) : segments (['-', '>'].intercalate ss) = ss := by
  induction ss with
  | nil => exact absurd rfl hne
  | cons s ss ih =>
    have hhead : segments s = [s] := segments_of_unbroken (hs s List.mem_cons_self)
    cases ss with
    | nil => rwa [List.intercalate_singleton]
    | cons s' ss =>
      have hrest := ih (List.cons_ne_nil s' ss) fun t ht => hs t (List.mem_cons_of_mem s ht)
      have hcut := segments_append_mark s true (['-', '>'].intercalate (s' :: ss))
      rw [hhead, hrest] at hcut
      rw [List.intercalate_cons_cons]
      exact hcut

/-- A text that splitting a path can give: trimmed, not empty and without separators. -/
structure IsSegment (s : String) : Prop where
  trim_eq : Text.trim s.toList = s.toList
  ne_nil : s.toList ≠ []
  unbroken : Unbroken s.toList

theorem isSegment_of_mem_split {path : String} {ss : List String} (h : split path = .ok ss) :
    ∀ s ∈ ss, IsSegment s := by
  obtain ⟨hne, rfl⟩ := (split_eq_ok_iff path ss).1 h
  intro s hs
  obtain ⟨t, ht, rfl⟩ := List.mem_map.1 hs
  obtain ⟨piece, hpiece, rfl⟩ := List.mem_map.1 ht
  obtain ⟨front, back, hcut, -⟩ := Text.isTrim_trim piece
  refine ⟨?_, ?_, ?_⟩ <;> rw [String.toList_ofList]
  · exact Text.trim_trim piece
  · exact hne _ ht
  · exact (unbroken_of_mem_segments hpiece).of_isInfix ⟨front, back, hcut.symm⟩

/-- Segments as a path. -/
def joined (ss : List String) : String := "->".intercalate ss

/-- **Segments that are joined are split again.** -/
theorem split_joined {ss : List String} (hne : ss ≠ []) (hs : ∀ s ∈ ss, IsSegment s) :
    split (joined ss) = .ok ss := by
  have hsegments : segments (joined ss).toList = ss.map String.toList := by
    have hjoined : (joined ss).toList = ['-', '>'].intercalate (ss.map String.toList) :=
      String.toList_intercalate
    rw [hjoined]
    refine segments_intercalate (by simpa using hne) fun t ht => ?_
    obtain ⟨s, hmem, rfl⟩ := List.mem_map.1 ht
    exact (hs s hmem).unbroken
  have htrimmed : trimmedSegments (joined ss) = ss.map String.toList := by
    rw [trimmedSegments, hsegments, List.map_map]
    exact List.map_congr_left fun s hmem => (hs s hmem).trim_eq
  rw [split_eq_ok_iff, htrimmed]
  refine ⟨fun t ht => ?_, ?_⟩
  · obtain ⟨s, hmem, rfl⟩ := List.mem_map.1 ht
    exact (hs s hmem).ne_nil
  · simp [Function.comp_def]

/-- What a path goes on with after its first segment is split again. -/
theorem split_joined_of_split {path name : String} {names : List String}
    (h : split path = .ok (name :: names)) (hne : names ≠ []) :
    split (joined names) = .ok names :=
  split_joined hne fun s hs => isSegment_of_mem_split h s (List.mem_cons_of_mem name hs)

end Chain
end KeyCall
