import KeyCall.Text.Arrival

/-!
# Texts arrive as they are decoded

A text that is read while its file is being fetched is decoded block by block, and a block may break
a character off.  The bytes of such a character wait for the next block, so nothing of a text is
lost and no bytes that are a text are taken for none: where decoding the bytes at once gives a text,
that text arrives.

## Main definitions

* `Text.Encodes`, `Text.IsUtf8` — the bytes of a character, and of some characters.
* `Text.IsBrokenOff` — the bytes that a character starts with, and not all of them.

## Main results

* `Text.decodeUtf8_eq_ok_iff` — decoding gives the characters whose bytes they are.
* `Text.IsUtf8.decodeBlock_eq` — a block is decoded up to the character that it breaks off.
* `Text.Arrival.ofBytes_of_decodeUtf8` — **what is decoded arrives.**
-/

namespace KeyCall
namespace Text

/-! ### The bytes of characters -/

/-- The bytes of a character. -/
inductive Encodes : List UInt8 → Char → Prop
  | one {a : UInt8} (ha : a.toNat < 0x80) : Encodes [a] (Char.ofNat a.toNat)
  | two {a b : UInt8} (hlow : 0xC2 ≤ a.toNat) (hhigh : a.toNat < 0xE0)
      (hb : isContinuation b = true) : Encodes [a, b] (charOfBits (a.toNat - 0xC0) [b])
  | three {a b c : UInt8} (hlow : 0xE0 ≤ a.toNat) (hhigh : a.toNat < 0xF0)
      (hb : followsThree a b = true) (hc : isContinuation c = true) :
      Encodes [a, b, c] (charOfBits (a.toNat - 0xE0) [b, c])
  | four {a b c d : UInt8} (hlow : 0xF0 ≤ a.toNat) (hhigh : a.toNat < 0xF5)
      (hb : followsFour a b = true) (hc : isContinuation c = true) (hd : isContinuation d = true) :
      Encodes [a, b, c, d] (charOfBits (a.toNat - 0xF0) [b, c, d])

/-- The bytes of some characters. -/
inductive IsUtf8 : List UInt8 → List Char → Prop
  | nil : IsUtf8 [] []
  | cons {g bytes : List UInt8} {c : Char} {cs : List Char} (first : Encodes g c)
      (rest : IsUtf8 bytes cs) : IsUtf8 (g ++ bytes) (c :: cs)

/-- The bytes of a character are decoded first. -/
theorem Encodes.decodeFrom_eq {g : List UInt8} {c : Char} (h : Encodes g c) (done : List Char)
    (position : Nat) (bytes : List UInt8) :
    decodeFrom done position (g ++ bytes) =
      decodeFrom (c :: done) (position + g.length) bytes := by
  cases h with
  | one ha =>
    rw [List.singleton_append, decodeFrom.eq_def]
    simp only [ha, if_true, List.length_singleton]
  | @two a b hlow hhigh hb =>
    have h80 : ¬ a.toNat < 0x80 := by omega
    rw [List.cons_append, List.singleton_append, decodeFrom.eq_def]
    simp only [h80, Nat.not_lt.2 hlow, hhigh, hb, if_true, if_false]
    rfl
  | @three a b c hlow hhigh hb hc =>
    have h80 : ¬ a.toNat < 0x80 := by omega
    have hC2 : ¬ a.toNat < 0xC2 := by omega
    rw [List.cons_append, List.cons_append, List.singleton_append, decodeFrom.eq_def]
    simp only [h80, hC2, Nat.not_lt.2 hlow, hhigh, hb, hc, Bool.not_true, Bool.false_eq_true,
      if_true, if_false]
    rfl
  | @four a b c d hlow hhigh hb hc hd =>
    have h80 : ¬ a.toNat < 0x80 := by omega
    have hC2 : ¬ a.toNat < 0xC2 := by omega
    have hE0 : ¬ a.toNat < 0xE0 := by omega
    rw [List.cons_append, List.cons_append, List.cons_append, List.singleton_append,
      decodeFrom.eq_def]
    simp only [h80, hC2, hE0, Nat.not_lt.2 hlow, hhigh, hb, hc, hd, Bool.not_true,
      Bool.false_eq_true, if_true, if_false]
    rfl

theorem IsUtf8.decodeFrom_eq {bytes : List UInt8} {cs : List Char} (h : IsUtf8 bytes cs)
    (done : List Char) (position : Nat) (more : List UInt8) :
    decodeFrom done position (bytes ++ more) =
      decodeFrom (cs.reverse ++ done) (position + bytes.length) more := by
  induction h generalizing done position with
  | nil => rfl
  | cons first rest ih =>
    rw [List.append_assoc, first.decodeFrom_eq, ih, List.reverse_cons, List.append_assoc,
      List.singleton_append, List.length_append, Nat.add_assoc]

/-- What is decoded are the characters whose bytes they are. -/
theorem exists_of_decodeFrom {done cs : List Char} {position : Nat} {bytes : List UInt8}
    (h : decodeFrom done position bytes = .ok cs) :
    ∃ ds, cs = done.reverse ++ ds ∧ IsUtf8 bytes ds := by
  have hmore : ∀ {c : Char} {done : List Char} {g bytes : List UInt8}, Encodes g c →
      (∃ ds, cs = (c :: done).reverse ++ ds ∧ IsUtf8 bytes ds) →
      ∃ ds, cs = done.reverse ++ ds ∧ IsUtf8 (g ++ bytes) ds := by
    rintro c done g bytes hg ⟨ds, rfl, hds⟩
    refine ⟨c :: ds, ?_, .cons hg hds⟩
    rw [List.reverse_cons, List.append_assoc, List.singleton_append]
  have hnot : ∀ {b : Bool}, ¬ (!b) = true → b = true := by decide
  fun_induction decodeFrom done position bytes with
  | case1 done =>
    cases h
    exact ⟨[], (List.append_nil _).symm, .nil⟩
  | case2 done position a rest n ha ih => exact hmore (.one ha) (ih h)
  | case5 done position a n h80 hlow hhigh b rest hb ih =>
    exact hmore (.two (Nat.not_lt.1 hlow) hhigh hb) (ih h)
  | case12 done position a n h80 hC2 hlow hhigh b c rest hb hc ih =>
    exact hmore (.three (Nat.not_lt.1 hlow) hhigh (hnot hb) (hnot hc)) (ih h)
  | case22 done position a n h80 hC2 hE0 hlow hhigh b c d rest hb hc hd ih =>
    exact hmore (.four (Nat.not_lt.1 hlow) hhigh (hnot hb) (hnot hc) (hnot hd)) (ih h)
  | _ => cases h

theorem decodeUtf8_eq_ok_iff {bytes : List UInt8} {cs : List Char} :
    decodeUtf8 bytes = .ok cs ↔ IsUtf8 bytes cs := by
  constructor
  · intro h
    obtain ⟨ds, rfl, hds⟩ := exists_of_decodeFrom h
    exact hds
  · intro h
    have hdecode := h.decodeFrom_eq [] 0 []
    rw [List.append_nil, List.append_nil, decodeFrom, List.reverse_reverse] at hdecode
    exact hdecode

/-! ### Characters that are broken off -/

/-- The bytes that a character starts with, and not all of them. -/
def IsBrokenOff (w : List UInt8) : Prop := ∃ q c, q ≠ [] ∧ Encodes (w ++ q) c

/-- Where a character is broken off, the bytes end too early. -/
theorem IsBrokenOff.decodeFrom_eq {a : UInt8} {w : List UInt8} (h : IsBrokenOff (a :: w))
    (done : List Char) (position : Nat) :
    ∃ n, decodeFrom done position (a :: w) = .error (badEnd a position n) := by
  obtain ⟨q, c, hq, hencodes⟩ := h
  generalize hg : a :: w ++ q = g at hencodes
  cases hencodes with
  | one ha =>
    rw [List.cons_append, List.cons.injEq, List.append_eq_nil_iff] at hg
    exact absurd hg.2.2 hq
  | @two a' b hlow hhigh hb =>
    rw [List.cons_append, List.cons.injEq] at hg
    obtain ⟨rfl, hw⟩ := hg
    have h80 : ¬ a.toNat < 0x80 := by omega
    have hlow := Nat.not_lt.2 hlow
    match w, hw with
    | [], _ =>
      refine ⟨1, ?_⟩
      rw [decodeFrom.eq_def]
      simp only [h80, hlow, hhigh, if_true, if_false]
    | _ :: w, hw => exact absurd (List.append_eq_nil_iff.1 (List.cons.inj hw).2).2 hq
  | @three a' b c hlow hhigh hb hc =>
    rw [List.cons_append, List.cons.injEq] at hg
    obtain ⟨rfl, hw⟩ := hg
    have h80 : ¬ a.toNat < 0x80 := by omega
    have hC2 : ¬ a.toNat < 0xC2 := by omega
    have hlow := Nat.not_lt.2 hlow
    match w, hw with
    | [], _ =>
      refine ⟨1, ?_⟩
      rw [decodeFrom.eq_def]
      simp only [h80, hC2, hlow, hhigh, if_true, if_false]
    | [x], hw =>
      cases (List.cons.inj hw).1
      refine ⟨2, ?_⟩
      rw [decodeFrom.eq_def]
      simp only [h80, hC2, hlow, hhigh, hb, if_true, if_false]
    | _ :: _ :: w, hw =>
      exact absurd (List.append_eq_nil_iff.1 (List.cons.inj (List.cons.inj hw).2).2).2 hq
  | @four a' b c d hlow hhigh hb hc hd =>
    rw [List.cons_append, List.cons.injEq] at hg
    obtain ⟨rfl, hw⟩ := hg
    have h80 : ¬ a.toNat < 0x80 := by omega
    have hC2 : ¬ a.toNat < 0xC2 := by omega
    have hE0 : ¬ a.toNat < 0xE0 := by omega
    have hlow := Nat.not_lt.2 hlow
    match w, hw with
    | [], _ =>
      refine ⟨1, ?_⟩
      rw [decodeFrom.eq_def]
      simp only [h80, hC2, hE0, hlow, hhigh, if_true, if_false]
    | [x], hw =>
      cases (List.cons.inj hw).1
      refine ⟨2, ?_⟩
      rw [decodeFrom.eq_def]
      simp only [h80, hC2, hE0, hlow, hhigh, hb, if_true, if_false]
    | [x, y], hw =>
      obtain ⟨rfl, hrest⟩ := List.cons.inj hw
      obtain ⟨rfl, -⟩ := List.cons.inj hrest
      refine ⟨3, ?_⟩
      rw [decodeFrom.eq_def]
      simp only [h80, hC2, hE0, hlow, hhigh, hb, hc, Bool.not_true, Bool.false_eq_true, if_true,
        if_false]
    | _ :: _ :: _ :: w, hw =>
      have hend := (List.cons.inj (List.cons.inj (List.cons.inj hw).2).2).2
      exact absurd (List.append_eq_nil_iff.1 hend).2 hq

/-- Bytes that start a text are the bytes of characters, and of one that is broken off. -/
theorem IsUtf8.exists_of_append {p q : List UInt8} {cs : List Char} (h : IsUtf8 (p ++ q) cs) :
    ∃ p' w ds es, p = p' ++ w ∧ IsUtf8 p' ds ∧ (w = [] ∨ IsBrokenOff w) ∧ IsUtf8 (w ++ q) es ∧
      cs = ds ++ es := by
  generalize hbytes : p ++ q = bytes at h
  induction h generalizing p with
  | nil =>
    obtain ⟨rfl, rfl⟩ := List.append_eq_nil_iff.1 hbytes
    exact ⟨[], [], [], [], rfl, .nil, .inl rfl, .nil, rfl⟩
  | @cons g bytes c cs first rest ih =>
    rcases List.append_eq_append_iff.1 hbytes with ⟨r, rfl, rfl⟩ | ⟨r, rfl, rfl⟩
    · cases r with
      | nil =>
        rw [List.append_nil] at first
        refine ⟨p, [], [c], cs, (List.append_nil p).symm, ?_, .inl rfl, rest, rfl⟩
        rw [← List.append_nil p]
        exact .cons first .nil
      | cons x r =>
        refine ⟨[], p, [], c :: cs, rfl, .nil, .inr ⟨x :: r, c, List.cons_ne_nil _ _, first⟩, ?_,
          rfl⟩
        rw [← List.append_assoc]
        exact .cons first rest
    · obtain ⟨p', w, ds, es, rfl, hds, hw, hes, rfl⟩ := ih rfl
      exact ⟨g ++ p', w, c :: ds, es, (List.append_assoc _ _ _).symm, .cons first hds, hw, hes, rfl⟩

/-- A block is decoded up to the character that it breaks off, whose bytes wait. -/
theorem IsUtf8.decodeBlock_eq {p w : List UInt8} {ds : List Char} (h : IsUtf8 p ds)
    (hw : w = [] ∨ IsBrokenOff w) : Arrival.decodeBlock (p ++ w) = .ok (ds, w) := by
  have hdecode : decodeUtf8 p = .ok ds := decodeUtf8_eq_ok_iff.2 h
  unfold Arrival.decodeBlock
  cases w with
  | nil => rw [List.append_nil, hdecode]
  | cons a w =>
    have hbroken : IsBrokenOff (a :: w) := hw.resolve_left (List.cons_ne_nil a w)
    obtain ⟨n, hn⟩ := hbroken.decodeFrom_eq (ds.reverse ++ []) (0 + p.length)
    have hblock : decodeUtf8 (p ++ a :: w) = .error (badEnd a (0 + p.length) n) :=
      (h.decodeFrom_eq [] 0 (a :: w)).trans hn
    rw [hblock, Nat.zero_add]
    simp only [badEnd, BEq.rfl, if_true, List.take_left, List.drop_left, hdecode]
    rfl

namespace Arrival

/-- With the bytes that wait in front, bytes that are a text arrive as one. -/
theorem fromBlocks_eq {waiting bytes : List UInt8} {done cs : List Char}
    (h : IsUtf8 (waiting ++ bytes) cs) :
    fromBlocks waiting done bytes = ⟨unifyLines (done ++ cs), none⟩ := by
  induction waiting, done, bytes using fromBlocks.induct generalizing cs with
  | case1 waiting done ds hdecode =>
    rw [List.append_nil, ← decodeUtf8_eq_ok_iff, hdecode] at h
    cases h
    rw [fromBlocks, hdecode]
  | case2 waiting done f hdecode =>
    rw [List.append_nil, ← decodeUtf8_eq_ok_iff, hdecode] at h
    cases h
  | case3 waiting done b bs ds waiting' hblock ih =>
    rw [← List.take_append_drop blockSize (b :: bs), ← List.append_assoc] at h
    obtain ⟨p, w, ds', es, hsplit, hp, hw, hes, rfl⟩ := h.exists_of_append
    have hdecoded := hp.decodeBlock_eq hw
    rw [← hsplit, hblock] at hdecoded
    cases hdecoded
    rw [fromBlocks]
    simp only [hblock]
    rw [ih hes, List.append_assoc]
  | case4 waiting done b bs f hblock =>
    rw [← List.take_append_drop blockSize (b :: bs), ← List.append_assoc] at h
    obtain ⟨p, w, ds, es, hsplit, hp, hw, -, -⟩ := h.exists_of_append
    have hdecoded := hp.decodeBlock_eq hw
    rw [← hsplit, hblock] at hdecoded
    cases hdecoded

/-- **What is decoded arrives.** -/
theorem ofBytes_of_decodeUtf8 {bytes : List UInt8} {cs : List Char}
    (h : decodeUtf8 bytes = .ok cs) : ofBytes bytes = ⟨unifyLines cs, none⟩ :=
  fromBlocks_eq (decodeUtf8_eq_ok_iff.1 h)

end Arrival
end Text
end KeyCall
