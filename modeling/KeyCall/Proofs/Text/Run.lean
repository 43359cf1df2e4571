import KeyCall.Text.Blank

/-!
# Runs, trimming and pieces

What the scanning operations of `KeyCall.Text.Blank` do, stated by concatenation.  A run is the
longest one of its class when what stands next to it is outside the class, so the classes of
neighbours decide where a list is cut; a trimmed list is the list between two runs of blanks; and
pieces are what stands between separators.

## Main definitions

* `StartsOutside`, `EndsOutside` — a list has no element of a class at that end.
* `IsTrim` — what stands between two runs of blanks, and itself neither starts nor ends in one.

## Main results

* `splitTail_eq_iff` — the cut before the longest run at the end.
* `trim_eq_iff` — trimming, as a relation.
* `map_trim_pieces_pad` — blanks around a list do not change its trimmed pieces.
* `cutAtFirst?_eq_some_iff` — the cut at the first separator.
-/

namespace KeyCall
namespace Text

section Ends

variable {α : Type} {p : α → Bool}

/-! ### The two ends of a list -/

/-- The list is empty or starts with an element outside `p`. -/
def StartsOutside (p : α → Bool) (l : List α) : Prop := ∀ a, l.head? = some a → p a = false

/-- The list is empty or ends with an element outside `p`. -/
def EndsOutside (p : α → Bool) (l : List α) : Prop := ∀ a, l.getLast? = some a → p a = false

theorem startsOutside_nil : StartsOutside p [] := by
  intro a h
  simp at h

theorem startsOutside_cons {a : α} {l : List α} : StartsOutside p (a :: l) ↔ p a = false := by
  simp [StartsOutside]

theorem startsOutside_append {l r : List α} (hl : l ≠ []) :
    StartsOutside p (l ++ r) ↔ StartsOutside p l := by
  cases l with
  | nil => exact absurd rfl hl
  | cons a l => rw [List.cons_append, startsOutside_cons, startsOutside_cons]

theorem endsOutside_concat {a : α} {l : List α} : EndsOutside p (l ++ [a]) ↔ p a = false := by
  simp [EndsOutside]

theorem endsOutside_append {l r : List α} (hr : r ≠ []) :
    EndsOutside p (l ++ r) ↔ EndsOutside p r := by
  rcases List.eq_nil_or_concat r with rfl | ⟨r, a, rfl⟩
  · exact absurd rfl hr
  · rw [List.concat_eq_append, ← List.append_assoc, endsOutside_concat, endsOutside_concat]

theorem endsOutside_of_forall {l : List α} (h : ∀ a ∈ l, p a = false) : EndsOutside p l :=
  fun a ha => h a (List.mem_of_getLast? ha)

/-- A list ends outside a class if it ends in a non-empty run outside it. -/
theorem endsOutside_append_of_forall {l r : List α} (hr : r ≠ []) (h : ∀ a ∈ r, p a = false) :
    EndsOutside p (l ++ r) :=
  (endsOutside_append hr).2 (endsOutside_of_forall h)

theorem StartsOutside.of_append {l r : List α} (h : StartsOutside p (l ++ r)) :
    StartsOutside p l := by
  cases l with
  | nil => exact startsOutside_nil
  | cons a l => exact (startsOutside_append (List.cons_ne_nil a l)).1 h

theorem EndsOutside.of_append {l r : List α} (h : EndsOutside p (l ++ r)) : EndsOutside p r := by
  cases r with
  | nil => simp [EndsOutside]
  | cons a r => exact (endsOutside_append (List.cons_ne_nil a r)).1 h

theorem startsOutside_reverse {l : List α} : StartsOutside p l.reverse ↔ EndsOutside p l := by
  simp [StartsOutside, EndsOutside]

/-! ### Runs -/

theorem takeWhile_append_eq {a b : List α} (ha : ∀ x ∈ a, p x = true) (hb : StartsOutside p b) :
    (a ++ b).takeWhile p = a := by
  rw [List.takeWhile_append_of_pos ha]
  cases b with
  | nil => simp
  | cons c b => rw [List.takeWhile_cons_of_neg (by simp [startsOutside_cons.1 hb]), List.append_nil]

theorem dropWhile_append_eq {a b : List α} (ha : ∀ x ∈ a, p x = true) (hb : StartsOutside p b) :
    (a ++ b).dropWhile p = b := by
  rw [List.dropWhile_append_of_pos ha]
  cases b with
  | nil => rfl
  | cons c b => rw [List.dropWhile_cons_of_neg (by simp [startsOutside_cons.1 hb])]

theorem startsOutside_dropWhile (l : List α) : StartsOutside p (l.dropWhile p) := by
  intro a h
  have := List.head?_dropWhile_not p l
  rw [h] at this
  simpa using this

theorem forall_mem_takeWhile (l : List α) : ∀ a ∈ l.takeWhile p, p a = true := by
  have := List.all_takeWhile (p := p) (l := l)
  rwa [List.all_eq_true] at this

/-- What is outside a class is not in a run of it. -/
theorem notMem_of_forall {l : List α} {d : α} (h : ∀ a ∈ l, p a = true) (hd : p d = false) :
    d ∉ l := by
  intro hm
  rw [h d hm] at hd
  exact Bool.noConfusion hd

/-- **The cut before the longest run at the end** is the cut whose front ends outside the class. -/
theorem splitTail_eq_iff {l f t : List α} :
    splitTail p l = (f, t) ↔ l = f ++ t ∧ (∀ a ∈ t, p a = true) ∧ EndsOutside p f := by
  constructor
  · intro h
    have ha := splitTail_append p l
    have ht := splitTail_tail_all p l
    have hf := splitTail_front_getLast p l
    rw [h] at ha ht hf
    exact ⟨ha.symm, ht, hf⟩
  · rintro ⟨rfl, ht, hf⟩
    have ht' : ∀ a ∈ t.reverse, p a = true := fun a ha => ht a (List.mem_reverse.1 ha)
    have hf' : StartsOutside p f.reverse := startsOutside_reverse.2 hf
    rw [splitTail, List.reverse_append, dropWhile_append_eq ht' hf', takeWhile_append_eq ht' hf',
      List.reverse_reverse, List.reverse_reverse]

/-- A run at the end is cut off behind the element in front of it. -/
theorem splitTail_append_cons {f t : List α} {c : α} (hc : p c = false)
    (ht : ∀ a ∈ t, p a = true) : splitTail p (f ++ c :: t) = (f ++ [c], t) :=
  splitTail_eq_iff.2 ⟨by simp, ht, endsOutside_concat.2 hc⟩

end Ends

/-- A run at the end and the delimiter in front of it, taken off one after the other. -/
theorem eq_of_splitTail_of_dropLast? {p : Char → Bool} {d : Char} {l front t r : List Char}
    (hsplit : splitTail p l = (front, t)) (hdrop : dropLast? d front = some r) :
    l = r ++ d :: t ∧ ∀ a ∈ t, p a = true := by
  obtain ⟨hl, ht, -⟩ := splitTail_eq_iff.1 hsplit
  refine ⟨?_, ht⟩
  rw [hl, dropLast?_eq_some_iff.1 hdrop, List.append_assoc, List.singleton_append]

/-- What holds in a separator and in all of the lists it joins holds in what they are joined to. -/
theorem forall_mem_intercalate {α : Type} {P : α → Prop} {sep : List α} {ls : List (List α)}
    (hsep : ∀ a ∈ sep, P a) (hls : ∀ l ∈ ls, ∀ a ∈ l, P a) : ∀ a ∈ sep.intercalate ls, P a := by
  induction ls with
  | nil => simp
  | cons l ls ih =>
    cases ls with
    | nil => simpa using hls l List.mem_cons_self
    | cons m ls =>
      intro a ha
      rw [List.intercalate_cons_cons, List.mem_append, List.mem_append] at ha
      rcases ha with (ha | ha) | ha
      · exact hls l List.mem_cons_self a ha
      · exact hsep a ha
      · exact ih (fun r hr => hls r (List.mem_cons_of_mem _ hr)) a ha

/-! ### Trimming -/

/-- `t` is what `l` has between a run of blanks at its start and one at its end. -/
def IsTrim (l t : List Char) : Prop :=
  ∃ front back, l = front ++ t ++ back ∧ (∀ c ∈ front, isBlank c = true) ∧
    (∀ c ∈ back, isBlank c = true) ∧ StartsOutside isBlank t ∧ EndsOutside isBlank t

theorem isTrim_trim (l : List Char) : IsTrim l (trim l) := by
  -- Trimming takes the blanks off the start first, and then off the end of what is left.
  obtain ⟨t, back, h⟩ : ∃ t back, splitTail isBlank (trimStart l) = (t, back) := ⟨_, _, rfl⟩
  have ht : trim l = t := by rw [trim, trimEnd, h]
  obtain ⟨happ, hback, hend⟩ := splitTail_eq_iff.1 h
  refine ⟨l.takeWhile isBlank, back, ?_, forall_mem_takeWhile l, hback, ?_, ht ▸ hend⟩
  · rw [ht, List.append_assoc, ← happ, trimStart, List.takeWhile_append_dropWhile]
  · have hstart : StartsOutside isBlank (t ++ back) := happ ▸ startsOutside_dropWhile l
    rw [ht]
    cases t with
    | nil => exact startsOutside_nil
    | cons c t => exact (startsOutside_append (by simp)).1 hstart

/-- **Trimming, as a relation.** -/
theorem trim_eq_iff {l t : List Char} : trim l = t ↔ IsTrim l t := by
  refine ⟨fun h => h ▸ isTrim_trim l, ?_⟩
  rintro ⟨front, back, rfl, hfront, hback, hstart, hend⟩
  cases t with
  | nil =>
    -- Both runs of blanks are one, and it is gone after the first step.
    have hall : ∀ c ∈ front ++ back, isBlank c = true := by
      intro c hc
      rcases List.mem_append.1 hc with hc | hc
      · exact hfront c hc
      · exact hback c hc
    have hdrop : trimStart (front ++ back) = [] := by
      have := dropWhile_append_eq hall (startsOutside_nil (p := isBlank))
      rwa [List.append_nil] at this
    rw [List.append_nil, trim, hdrop]
    rfl
  | cons c t =>
    have hdrop : trimStart (front ++ (c :: t ++ back)) = c :: t ++ back :=
      dropWhile_append_eq hfront ((startsOutside_append (by simp)).2 hstart)
    rw [List.append_assoc, trim, hdrop, trimEnd, splitTail_eq_iff.2 ⟨rfl, hback, hend⟩]

/-- A list with no blanks at its ends is trimmed already. -/
theorem trim_eq_self {l : List Char} (hs : StartsOutside isBlank l) (he : EndsOutside isBlank l) :
    trim l = l :=
  trim_eq_iff.2 ⟨[], [], by simp, by simp, by simp, hs, he⟩

theorem startsOutside_trim (l : List Char) : StartsOutside isBlank (trim l) := by
  obtain ⟨_, _, _, _, _, h, _⟩ := isTrim_trim l
  exact h

theorem endsOutside_trim (l : List Char) : EndsOutside isBlank (trim l) := by
  obtain ⟨_, _, _, _, _, _, h⟩ := isTrim_trim l
  exact h

@[simp] theorem trim_trim (l : List Char) : trim (trim l) = trim l :=
  trim_eq_self (startsOutside_trim l) (endsOutside_trim l)

/-- Blanks around a list are trimmed away with its own. -/
theorem trim_pad {a l b : List Char} (ha : ∀ c ∈ a, isBlank c = true)
    (hb : ∀ c ∈ b, isBlank c = true) : trim (a ++ l ++ b) = trim l := by
  obtain ⟨front, back, hl, hfront, hback, hs, he⟩ := isTrim_trim l
  refine trim_eq_iff.2 ⟨a ++ front, back ++ b, ?_, ?_, ?_, hs, he⟩
  · conv => lhs; rw [hl]
    simp
  · intro c hc
    rcases List.mem_append.1 hc with hc | hc
    · exact ha c hc
    · exact hfront c hc
  · intro c hc
    rcases List.mem_append.1 hc with hc | hc
    · exact hback c hc
    · exact hb c hc

theorem trim_pad_left {a l : List Char} (ha : ∀ c ∈ a, isBlank c = true) :
    trim (a ++ l) = trim l := by
  simpa using trim_pad (l := l) (b := []) ha (by simp)

theorem trim_pad_right {l b : List Char} (hb : ∀ c ∈ b, isBlank c = true) :
    trim (l ++ b) = trim l := by
  simpa using trim_pad (a := []) (l := l) (by simp) hb

theorem allBlank_iff {l : List Char} : allBlank l = true ↔ ∀ c ∈ l, isBlank c = true :=
  List.all_eq_true

/-- Nothing is left exactly of what holds blanks only. -/
theorem trim_eq_nil_iff {l : List Char} : trim l = [] ↔ allBlank l = true := by
  rw [trim_eq_iff, allBlank_iff]
  constructor
  · rintro ⟨front, back, rfl, hfront, hback, -, -⟩ c hc
    rw [List.append_nil] at hc
    rcases List.mem_append.1 hc with hc | hc
    · exact hfront c hc
    · exact hback c hc
  · intro h
    exact ⟨l, [], by simp, h, by simp, startsOutside_nil, by simp [EndsOutside]⟩

@[simp] theorem allBlank_trim (l : List Char) : allBlank (trim l) = allBlank l := by
  rw [Bool.eq_iff_iff, ← trim_eq_nil_iff, ← trim_eq_nil_iff, trim_trim]

/-! ### Pieces -/

/-- The pieces between separators, in the words of the standard library. -/
theorem pieces_eq_splitOn (sep : Char) (l : List Char) : pieces sep l = l.splitOn sep := by
  induction l with
  | nil => simp
  | cons c l ih =>
    rw [pieces, ih, List.splitOn_cons_eq_if_modifyHead]
    by_cases hc : c = sep
    · simp [hc]
    · rw [if_neg hc, if_neg (by simpa using hc)]
      cases h : l.splitOn sep with
      | nil => exact absurd h (List.splitOn_ne_nil sep l)
      | cons s ss => rfl

theorem pieces_of_notMem {sep : Char} {l : List Char} (h : sep ∉ l) : pieces sep l = [l] := by
  rw [pieces_eq_splitOn, List.splitOn_eq_singleton h]

theorem pieces_append_cons {sep : Char} {l : List Char} (h : sep ∉ l) (r : List Char) :
    pieces sep (l ++ sep :: r) = l :: pieces sep r := by
  rw [pieces_eq_splitOn, pieces_eq_splitOn, List.splitOn_append_cons_self_of_not_mem h]

/-- The pieces on the two sides of a separator. -/
theorem pieces_append_sep (sep : Char) (l r : List Char) :
    pieces sep (l ++ sep :: r) = pieces sep l ++ pieces sep r := by
  induction l with
  | nil => simp [pieces]
  | cons c l ih =>
    rw [List.cons_append, pieces, pieces, ih]
    by_cases hc : c = sep
    · simp [hc]
    · rw [if_neg hc, if_neg hc]
      cases h : pieces sep l with
      | nil =>
        rw [pieces_eq_splitOn] at h
        exact absurd h (List.splitOn_ne_nil sep l)
      | cons p ps => rfl

/-- There is no separator in a piece. -/
theorem sep_notMem_of_mem_pieces {sep : Char} {l piece : List Char} (h : piece ∈ pieces sep l) :
    sep ∉ piece := by
  induction l generalizing piece with
  | nil =>
    rw [List.mem_singleton.1 h]
    exact List.not_mem_nil
  | cons c l ih =>
    rw [pieces] at h
    split at h
    case isTrue =>
      rcases List.mem_cons.1 h with rfl | h
      · exact List.not_mem_nil
      · exact ih h
    case isFalse hc =>
      cases hp : pieces sep l with
      | nil => exact absurd hp (pieces_ne_nil sep l)
      | cons first rest =>
        rw [hp] at h ih
        rcases List.mem_cons.1 h with rfl | h
        · have hfirst := ih List.mem_cons_self
          simp [Ne.symm hc, hfirst]
        · exact ih (List.mem_cons_of_mem _ h)

/-- A list with a separator has a first one. -/
theorem exists_first_of_mem {sep : Char} {l : List Char} (h : sep ∈ l) :
    ∃ a b, l = a ++ sep :: b ∧ sep ∉ a := by
  induction l with
  | nil => simp at h
  | cons c l ih =>
    by_cases hc : c = sep
    · exact ⟨[], l, by simp [hc], by simp⟩
    · obtain ⟨a, b, rfl, ha⟩ := ih ((List.mem_cons.1 h).resolve_left (Ne.symm hc))
      exact ⟨c :: a, b, rfl, by simp [Ne.symm hc, ha]⟩

/-- **Blanks around a list do not change its trimmed pieces.**  Only the first piece gets the
blanks in front and only the last those behind, and both are trimmed away again. -/
theorem map_trim_pieces_pad {sep : Char} (hsep : isBlank sep = false) {a b : List Char}
    (ha : ∀ c ∈ a, isBlank c = true) (hb : ∀ c ∈ b, isBlank c = true) (l : List Char) :
    (pieces sep (a ++ l ++ b)).map trim = (pieces sep l).map trim := by
  by_cases hl : sep ∈ l
  · -- The blanks in front are used up by the first piece, and the rest is shorter.
    obtain ⟨x, r, rfl, hx⟩ := exists_first_of_mem hl
    have hax : sep ∉ a ++ x := by simp [notMem_of_forall ha hsep, hx]
    have hr := map_trim_pieces_pad (a := []) hsep (by simp) hb r
    have happ : a ++ (x ++ sep :: r) ++ b = a ++ x ++ sep :: ([] ++ r ++ b) := by simp
    rw [happ, pieces_append_cons hax, pieces_append_cons hx, List.map_cons, List.map_cons, hr,
      trim_pad_left ha]
  · have halb : sep ∉ a ++ l ++ b := by
      simp [notMem_of_forall ha hsep, notMem_of_forall hb hsep, hl]
    rw [pieces_of_notMem halb, pieces_of_notMem hl, List.map_singleton, List.map_singleton,
      trim_pad ha hb]
termination_by l.length
decreasing_by simp_all; omega

theorem map_trim_pieces_trim {sep : Char} (hsep : isBlank sep = false) (l : List Char) :
    (pieces sep (trim l)).map trim = (pieces sep l).map trim := by
  obtain ⟨front, back, hl, hfront, hback, -, -⟩ := isTrim_trim l
  conv => rhs; rw [hl]
  exact (map_trim_pieces_pad hsep hfront hback (trim l)).symm

/-- Lists without separators are the trimmed pieces of what joins them by a separator and blanks. -/
theorem map_trim_pieces_intercalate {sep : Char} (hsep : isBlank sep = false) {pad : List Char}
    (hpad : ∀ c ∈ pad, isBlank c = true) {ls : List (List Char)} (hne : ls ≠ [])
    (hls : ∀ l ∈ ls, sep ∉ l) :
    (pieces sep ((sep :: pad).intercalate ls)).map trim = ls.map trim := by
  induction ls with
  | nil => exact absurd rfl hne
  | cons l ls ih =>
    cases ls with
    | nil => rw [List.intercalate_singleton, pieces_of_notMem (hls l List.mem_cons_self)]
    | cons m ls =>
      -- The pad stands in front of the second list, where trimming removes it.
      have hrest := ih (by simp) fun r hr => hls r (List.mem_cons_of_mem _ hr)
      rw [List.intercalate_cons_cons, List.append_assoc, List.cons_append,
        pieces_append_cons (hls l List.mem_cons_self), List.map_cons, List.map_cons, ← hrest]
      congr 1
      simpa using map_trim_pieces_pad hsep hpad (b := []) (by simp) _

/-! ### The first separator -/

theorem cutAtFirst?_append_cons {sep : Char} {a : List Char} (ha : sep ∉ a) (b : List Char) :
    cutAtFirst? sep (a ++ sep :: b) = some (a, b) := by
  induction a with
  | nil => simp [cutAtFirst?]
  | cons c a ih =>
    simp only [List.mem_cons, not_or] at ha
    rw [List.cons_append, cutAtFirst?, if_neg (Ne.symm ha.1), ih ha.2]
    rfl

theorem cutAtFirst?_of_notMem {sep : Char} {l : List Char} (h : sep ∉ l) :
    cutAtFirst? sep l = none := by
  induction l with
  | nil => rfl
  | cons c l ih =>
    simp only [List.mem_cons, not_or] at h
    rw [cutAtFirst?, if_neg (Ne.symm h.1), ih h.2]
    rfl

/-- The cut at the first separator has none in front of it. -/
theorem cutAtFirst?_eq_some_iff {sep : Char} {l a b : List Char} :
    cutAtFirst? sep l = some (a, b) ↔ l = a ++ sep :: b ∧ sep ∉ a := by
  constructor
  · intro h
    by_cases hl : sep ∈ l
    · obtain ⟨x, r, rfl, hx⟩ := exists_first_of_mem hl
      rw [cutAtFirst?_append_cons hx] at h
      cases h
      exact ⟨rfl, hx⟩
    · rw [cutAtFirst?_of_notMem hl] at h
      cases h
  · rintro ⟨rfl, ha⟩
    exact cutAtFirst?_append_cons ha b

end Text
end KeyCall
