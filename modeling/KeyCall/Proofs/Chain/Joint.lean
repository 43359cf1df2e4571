import KeyCall.Proofs.Chain.Writing

/-!
# Joined paths

Two texts with a separator between them are one path, whose segments are those of the first text
and then those of the second.  Nothing has to be asked of the texts, not even that they are paths
themselves.  A separator starts with a hyphen, a dot or a blank, and none of these is the second
character of an arrow; it ends in an angle bracket, a dot or a blank, and none of these is the
first.  So what is written next to it is left as it was.  The blanks around it go to the segments at
its two sides, from where they are trimmed away.

A chain along a joined path is therefore built from its end: first the chain along the second text,
and then the chain along the first one around it.

## Main definitions

* `Chain.Joint` — a separator with the blanks around it.

## Main results

* `Chain.split_append` — splitting a joined path.
* `Chain.build_eq` — what is built along a path.
* `Chain.build_append` — **joining paths is composing chains.**
-/

namespace KeyCall
namespace Chain

open Text

/-! ### Separators -/

/-- A separator with the blanks around it. -/
structure Joint where
  /-- The blanks in front. -/
  before : List Char := []
  /-- Whether it is an arrow, and not a dot. -/
  isArrow : Bool
  /-- The blanks behind. -/
  after : List Char := []
  before_blank : allBlank before = true := by decide
  after_blank : allBlank after = true := by decide

/-- A separator as it is written. -/
def Joint.text (j : Joint) : String := String.ofList (j.before ++ mark j.isArrow ++ j.after)

/-! ### Joined paths -/

variable (p q : String) (j : Joint)

/-- The trimmed segments of a joined path are those of its two parts. -/
theorem trimmedSegments_append :
    trimmedSegments (p ++ j.text ++ q) = trimmedSegments p ++ trimmedSegments q := by
  have hpath : (p ++ j.text ++ q).toList =
      (p.toList ++ j.before) ++ mark j.isArrow ++ (j.after ++ q.toList) := by
    simp [Joint.text]
  rw [trimmedSegments, hpath, segments_append_mark, List.map_append,
    map_trim_segments_append_blanks (allBlank_iff.1 j.before_blank),
    map_trim_segments_blanks_append (allBlank_iff.1 j.after_blank)]
  rfl

/-- A joined path can be split exactly when both of its parts can be. -/
theorem split_append (ss : List String) :
    split (p ++ j.text ++ q) = .ok ss ↔
      ∃ ps qs, split p = .ok ps ∧ split q = .ok qs ∧ ss = ps ++ qs := by
  simp only [split_eq_ok_iff, trimmedSegments_append, List.mem_append, List.map_append]
  constructor
  · rintro ⟨hne, rfl⟩
    exact ⟨_, _, ⟨fun s hs => hne s (Or.inl hs), rfl⟩, ⟨fun s hs => hne s (Or.inr hs), rfl⟩, rfl⟩
  · rintro ⟨ps, qs, ⟨hp, rfl⟩, ⟨hq, rfl⟩, rfl⟩
    exact ⟨fun s hs => hs.elim (hp s) (hq s), rfl⟩

/-- **What is built along a path** is a chain of open records along its segments. -/
theorem build_eq (path : String) (value : Value) :
    build path value = (split path).map fun ss => nested false ss value := by
  rw [build, extend_eq]
  cases h : split path with
  | error e => rfl
  | ok ss =>
    cases ss with
    | nil => exact absurd rfl (ne_nil_of_split h)
    | cons name names => rfl

theorem build_eq_ok_iff {path : String} {value chain : Value} :
    build path value = .ok chain ↔ ∃ ss, split path = .ok ss ∧ chain = nested false ss value := by
  rw [build_eq]
  cases split path with
  | error e => simp [Except.map]
  | ok ss => simp [Except.map, eq_comm]

/-- A chain cannot be built exactly along what has an empty segment. -/
theorem build_eq_error_iff (path : String) (value : Value) (e : Error) :
    build path value = .error e ↔ e = .badPath path ∧ [] ∈ trimmedSegments path := by
  rw [build_eq]
  by_cases hpath : IsPath path
  · have hmem : [] ∉ trimmedSegments path := fun hmem => hpath [] hmem rfl
    rw [split_of_isPath hpath]
    simp [Except.map, hmem]
  · have hmem : [] ∈ trimmedSegments path := by
      simpa [IsPath] using hpath
    rw [split_of_not_isPath hpath]
    simp [Except.map, hmem, eq_comm]

/-- **Joining paths is composing chains.**  Both ways to fail give an error of the same kind, and
the one error there is for a path names the path. -/
theorem build_append (value : Value) :
    let path := p ++ j.text ++ q
    (∀ ss, split path = .ok ss ↔
        ∃ ps qs, split p = .ok ps ∧ split q = .ok qs ∧ ss = ps ++ qs) ∧
      (∀ chain, build path value = .ok chain ↔
        ∃ inner, build q value = .ok inner ∧ build p inner = .ok chain) ∧
      ∀ (any : String) (v : Value),
        (∀ ss, split any = .ok ss → ss ≠ [] ∧ build any v = .ok (nested false ss v)) ∧
          (∀ e, build any v = .error e ↔ e = .badPath any ∧ [] ∈ trimmedSegments any) ∧
          (Error.badPath any).kind = .value := by
  intro path
  refine ⟨split_append p q j, fun chain => ?_, fun any v => ⟨fun ss hss => ?_, ?_, rfl⟩⟩
  · constructor
    · intro h
      obtain ⟨ss, hss, rfl⟩ := build_eq_ok_iff.1 h
      obtain ⟨ps, qs, hp, hq, rfl⟩ := (split_append p q j ss).1 hss
      refine ⟨nested false qs value, build_eq_ok_iff.2 ⟨qs, hq, rfl⟩, ?_⟩
      exact build_eq_ok_iff.2 ⟨ps, hp, nested_append false ps qs value⟩
    · rintro ⟨inner, hinner, hchain⟩
      obtain ⟨qs, hq, rfl⟩ := build_eq_ok_iff.1 hinner
      obtain ⟨ps, hp, rfl⟩ := build_eq_ok_iff.1 hchain
      have hpath : split path = .ok (ps ++ qs) :=
        (split_append p q j _).2 ⟨ps, qs, hp, hq, rfl⟩
      exact build_eq_ok_iff.2 ⟨ps ++ qs, hpath, (nested_append false ps qs value).symm⟩
  · exact ⟨ne_nil_of_split hss, build_eq_ok_iff.2 ⟨ss, hss, rfl⟩⟩
  · exact build_eq_error_iff any v

/-- What ends in a hyphen and what starts with an angle bracket keep their characters. -/
example :
    let j : Joint := { isArrow := true, after := [' '] }
    trimmedSegments ("a-" ++ j.text ++ ">b.c") = [['a', '-'], ['>', 'b'], ['c']] := by decide

end Chain
end KeyCall
