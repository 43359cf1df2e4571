import KeyCall.Chain

/-!
# The descent along a path

Writing along a path calls itself for what the path goes on with, which is joined to a text and cut
again.  So the recursion is on texts, while what gets shorter are the lists that they are cut into.
It gets shorter because a segment that was cut out of a path is cut again as one piece: it is
trimmed, it is not empty and there is no separator in it, and none comes about where an arrow is put
next to it, be it behind a hyphen or in front of an angle bracket.

The calls are counted on a copy of the recursion that keeps a record of each of them.  There are as
many as the path has segments, and only the first can fail.

## Main definitions

* `Chain.interleaved` — pieces with separators between them.
* `Chain.Frame`, `Chain.extendTraced` — writing along a path, with a record of every call.

## Main results

* `Chain.segments_eq_iff` — the one way to cut a text into pieces without separators.
* `Chain.extendTraced_fst` — the record changes nothing.
* `Chain.frames_of_split` — the calls that are made along a path.
* `Chain.split_and_descend` — **paths are cut and trimmed, and the descent along them ends.**
-/

namespace KeyCall
namespace Chain

open Text

/-! ### Cutting -/

/-- Pieces with separators between them. -/
def interleaved : List (List Char) → (arrows : List Bool) → List Char
  | s :: ss, isArrow :: arrows => s ++ mark isArrow ++ interleaved ss arrows
  | ss, _ => ss.flatten

/-- A text is its segments with separators between them. -/
theorem exists_interleaved_segments (cs : List Char) :
    ∃ arrows, arrows.length + 1 = (segments cs).length ∧
      cs = interleaved (segments cs) arrows := by
  rcases segments_cases cs with h | ⟨s, isArrow, back, rfl, h⟩
  · exact ⟨[], by rw [h]; rfl, by rw [h]; simp [interleaved]⟩
  · obtain ⟨arrows, hlength, hback⟩ := exists_interleaved_segments back
    refine ⟨isArrow :: arrows, by rw [h, List.length_cons, List.length_cons, hlength], ?_⟩
    rw [h, interleaved, ← hback]
termination_by cs.length
decreasing_by
  subst_vars
  cases isArrow <;> simp [mark] <;> omega

/-- Pieces without separators are cut apart again at those between them. -/
theorem segments_interleaved {ss : List (List Char)} {arrows : List Bool}
    (hlength : arrows.length + 1 = ss.length) (hss : ∀ s ∈ ss, Unbroken s) :
    segments (interleaved ss arrows) = ss := by
  induction ss generalizing arrows with
  | nil => cases hlength
  | cons s ss ih =>
    have hs : segments s = [s] := segments_of_unbroken (hss s List.mem_cons_self)
    cases arrows with
    | nil =>
      obtain rfl : ss = [] := List.eq_nil_of_length_eq_zero (by simpa using hlength.symm)
      simpa [interleaved] using hs
    | cons isArrow arrows =>
      have hrest := ih (Nat.succ.inj hlength) fun t ht => hss t (List.mem_cons_of_mem s ht)
      rw [interleaved, segments_append_mark, hs, hrest]
      rfl

/-- **A text can be cut into pieces without separators in one way.** -/
theorem segments_eq_iff (cs : List Char) (ss : List (List Char)) :
    segments cs = ss ↔ (∀ s ∈ ss, Unbroken s) ∧
      ∃ arrows, arrows.length + 1 = ss.length ∧ cs = interleaved ss arrows := by
  constructor
  · rintro rfl
    exact ⟨fun s => unbroken_of_mem_segments, exists_interleaved_segments cs⟩
  · rintro ⟨hss, arrows, hlength, rfl⟩
    exact segments_interleaved hlength hss

/-- A path cannot be split exactly when a trimmed segment is empty. -/
theorem split_eq_error_iff (path : String) (e : Error) :
    split path = .error e ↔ [] ∈ trimmedSegments path ∧ e = .badPath path := by
  unfold split
  rw [parts_eq_trimmedSegments]
  by_cases h : (trimmedSegments path).any List.isEmpty = true
  · have hmem : [] ∈ trimmedSegments path := by simpa using h
    simp [h, hmem, eq_comm]
  · have hmem : [] ∉ trimmedSegments path := by simpa using h
    simp [h, hmem]

/-! ### The calls -/

/-- A call of the recursion: where a value is written, along which path, and what comes of it. -/
structure Frame where
  target : Value
  path : String
  outcome : Except Error Value

/-- A call makes something of what was given below it, and its record goes in front. -/
def around (target : Value) (path : String) (finish : Value → Except Error Value)
    (below : Except Error Value × List Frame) : Except Error Value × List Frame :=
  (below.1 >>= finish, ⟨target, path, below.1 >>= finish⟩ :: below.2)

/-- Writing along a path, with a record of the calls in the order in which they are made. -/
def extendTraced (guard : Guard) (target : Value) (path : String) (value : Value) :
    Except Error Value × List Frame :=
  match _h : split path with
  | .error e => around target path .ok (.error e, [])
  | .ok [] => around target path .ok (.ok target, [])
  | .ok [name] => around target path (assign guard target name) (.ok value, [])
  | .ok (name :: next :: names) =>
    around target path (assign guard target name)
      (extendTraced guard (emptyNode target.isMapping) (joined (next :: names)) value)
termination_by depth path
decreasing_by
  rw [depth_of_split _h, depth_of_split (split_joined_of_split _h (List.cons_ne_nil next names))]
  exact Nat.lt_succ_self _

/-- The calls below the first: each is made on an empty node, for one segment fewer. -/
def framesBelow (asMapping : Bool) (value : Value) : (names : List String) → List Frame
  | [] => []
  | name :: names =>
    ⟨emptyNode asMapping, joined (name :: names), .ok (nested asMapping (name :: names) value)⟩ ::
      framesBelow asMapping value names

theorem length_framesBelow (asMapping : Bool) (value : Value) (names : List String) :
    (framesBelow asMapping value names).length = names.length := by
  induction names with
  | nil => rfl
  | cons name names ih => rw [framesBelow, List.length_cons, List.length_cons, ih]

theorem getElem?_framesBelow {asMapping : Bool} {value : Value} {names : List String} {i : Nat}
    {frame : Frame} (h : (framesBelow asMapping value names)[i]? = some frame) :
    names.drop i ≠ [] ∧ frame = ⟨emptyNode asMapping, joined (names.drop i),
      .ok (nested asMapping (names.drop i) value)⟩ := by
  induction names generalizing i with
  | nil => cases h
  | cons name names ih =>
    cases i with
    | zero => exact ⟨List.cons_ne_nil name names, (Option.some.inj h).symm⟩
    | succ i => exact ih h

/-- The record changes nothing. -/
theorem extendTraced_fst (guard : Guard) (target : Value) (path : String) (value : Value) :
    (extendTraced guard target path value).1 = extend guard target path value := by
  fun_induction extendTraced guard target path value with
  | case1 target path e h | case2 target path h | case3 target path name h =>
    rw [extend_eq, h]
    rfl
  | case4 target path name next names h ih =>
    rw [extend_eq, h, around, ih, extend_eq, split_joined_of_split h (List.cons_ne_nil next names)]
    show (assign guard (emptyNode target.isMapping) next _ >>= _) = _
    rw [assign_emptyNode, isMapping_emptyNode]
    rfl

section Calls

variable {guard : Guard} {target value : Value} {path : String}

/-- Where there is no path, there is one call. -/
theorem frames_of_error {e : Error} (h : split path = .error e) :
    (extendTraced guard target path value).2 = [⟨target, path, .error e⟩] := by
  fun_cases extendTraced guard target path value with
  | case1 e' h' =>
    obtain rfl := Except.error.inj (h.symm.trans h')
    rfl
  | case2 h' | case3 name h' | case4 name next names h' => cases h.symm.trans h'

/-- Writing into an empty node does not fail below its path. -/
theorem extend_emptyNode {asMapping : Bool} {names : List String} (hne : names ≠ [])
    (h : split path = .ok names) :
    extend guard (emptyNode asMapping) path value = .ok (nested asMapping names value) := by
  obtain ⟨name, names, rfl⟩ := List.exists_cons_of_ne_nil hne
  rw [extend_eq, h, isMapping_emptyNode]
  exact assign_emptyNode guard asMapping name _

/-- **The calls that are made along a path.** -/
theorem frames_of_split {names : List String} (h : split path = .ok names) :
    (extendTraced guard target path value).2 =
      ⟨target, path, extend guard target path value⟩ ::
        framesBelow target.isMapping value names.tail := by
  have hfirst := extendTraced_fst guard target path value
  fun_induction extendTraced guard target path value generalizing names with
  | case1 target path e hsplit => rw [hsplit] at h; cases h
  | case2 target path hsplit | case3 target path name hsplit =>
    rw [hsplit] at h
    obtain rfl := Except.ok.inj h
    rw [← hfirst]
    rfl
  | case4 target path name next rest hsplit ih =>
    rw [hsplit] at h
    obtain rfl := Except.ok.inj h
    have hrest := split_joined_of_split hsplit (List.cons_ne_nil next rest)
    have hbelow := ih hrest (extendTraced_fst _ _ _ _)
    rw [extend_emptyNode (List.cons_ne_nil next rest) hrest, isMapping_emptyNode] at hbelow
    rw [← hfirst]
    exact congrArg (_ :: ·) hbelow

end Calls

/-- **Paths are cut and trimmed, and the descent along them ends.** -/
theorem split_and_descend (path : String) :
    parts path = (segments path.toList).map trim ∧
      (∀ ss, segments path.toList = ss ↔ (∀ s ∈ ss, Unbroken s) ∧
        ∃ arrows, arrows.length + 1 = ss.length ∧ path.toList = interleaved ss arrows) ∧
      (∀ names, split path = .ok names ↔
        [] ∉ trimmedSegments path ∧ names = (trimmedSegments path).map String.ofList) ∧
      (∀ e, split path = .error e ↔ [] ∈ trimmedSegments path ∧ e = .badPath path) ∧
      (Error.badPath path).kind = .value ∧
      (∀ name rest, split path = .ok (name :: rest) → rest ≠ [] →
        split (joined rest) = .ok rest) ∧
      ∀ (guard : Guard) (target value : Value),
        let run := extendTraced guard target path value
        run.1 = extend guard target path value ∧
          (∀ e, split path = .error e → run.1 = .error e ∧ run.2.length = 1) ∧
          ∀ names, split path = .ok names → run.2.length = names.length ∧
            ∀ i frame, run.2[i]? = some frame →
              split frame.path = .ok (names.drop i) ∧
                frame.outcome = extend guard frame.target frame.path value ∧
                (0 < i → frame.path = joined (names.drop i) ∧
                  frame.target = emptyNode target.isMapping ∧
                  frame.outcome = .ok (nested target.isMapping (names.drop i) value)) := by
  refine ⟨parts_eq_trimmedSegments path, segments_eq_iff path.toList, fun names => ?_,
    split_eq_error_iff path, rfl, fun name rest => split_joined_of_split,
    fun guard target value => ⟨extendTraced_fst guard target path value, fun e h => ?_,
      fun names h => ⟨?_, fun i frame hframe => ?_⟩⟩⟩
  · rw [split_eq_ok_iff]
    exact and_congr_left' ⟨fun h hmem => h [] hmem rfl, fun h s hs he => h (he ▸ hs)⟩
  · refine ⟨?_, by rw [frames_of_error h]; rfl⟩
    rw [extendTraced_fst, extend_eq, h]
    rfl
  · obtain ⟨name, rest, rfl⟩ := List.exists_cons_of_ne_nil (ne_nil_of_split h)
    rw [frames_of_split h, List.length_cons, length_framesBelow]
    rfl
  · rw [frames_of_split h] at hframe
    cases i with
    | zero =>
      obtain rfl := Option.some.inj hframe
      exact ⟨h, rfl, fun h0 => absurd h0 (Nat.lt_irrefl 0)⟩
    | succ i =>
      obtain ⟨hne, rfl⟩ := getElem?_framesBelow hframe
      rw [List.drop_tail] at hne ⊢
      -- What is left of the names are segments as well, and so they are cut again.
      have hsplit : split (joined (names.drop (i + 1))) = .ok (names.drop (i + 1)) :=
        split_joined hne fun s hs => isSegment_of_mem_split h s (List.mem_of_mem_drop hs)
      exact ⟨hsplit, (extend_emptyNode hne hsplit).symm, fun _ => ⟨rfl, rfl, rfl⟩⟩

/-- A hyphen that ends a segment and an angle bracket that starts one are not taken for an arrow,
neither in the path nor where the segments are joined to be cut again. -/
theorem split_and_descend_of_hyphen :
    split "a-. >b ->c" = .ok ["a-", ">b", "c"] ∧
      split "a-->>b->c" = .ok ["a-", ">b", "c"] ∧ split ">b->c" = .ok [">b", "c"] ∧
      (extendTraced unguarded (.record []) "a-. >b ->c" .null).2.length = 3 := by
  have hpath : split "a-. >b ->c" = .ok ["a-", ">b", "c"] := by rfl
  obtain ⟨-, -, -, -, -, hjoined, hcalls⟩ := split_and_descend "a-. >b ->c"
  obtain ⟨-, -, hcalls⟩ := hcalls unguarded (.record []) .null
  exact ⟨hpath, rfl, hjoined "a-" [">b", "c"] hpath (List.cons_ne_nil _ _), (hcalls _ hpath).1⟩

end Chain
end KeyCall
