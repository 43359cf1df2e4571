import KeyCall.Proofs.Chain.Writing
import KeyCall.Proofs.Entries.Merging

/-!
# Many writes along paths

Values are written along paths into one target, one after the other.  Whatever the target is, as
long as every attribute of it can be set, a write fails exactly when its path cannot be split, and a
write that succeeds sets a single attribute: the first segment of the path.  So what is there in the
end can be read off the writes.  Each attribute holds the chain of the last write that starts with
it, with nothing left of earlier ones, or what it held at first if there is no such write.

The kind of the target decides about one thing only, which is of what kind the nodes of the chains
are.

## Main definitions

* `Value.contents` — what a value holds under names, whatever it is.
* `Value.emptied` — the value without its contents.
* `Chain.Write` — a path that could be split, with the value written along it.
* `Chain.after`, `Chain.afterAll` — the target after one step and after many.

## Main results

* `Chain.extend_of_ofStep?` — what one step does.
* `Chain.contents_afterAll` — what many steps do, as writes of single attributes.
* `Chain.afterAll_holds_last` — **each attribute holds the chain of the last write to it.**
-/

namespace KeyCall

namespace Value

/-- What a value holds under names, in order. -/
def contents : Value → List (Value × Value)
  | .mapping _ es => es
  | .record fs => fs.map fun f => (.text f.1, f.2)
  | .object _ fs => fs.map fun f => (.text f.1, f.2)
  | _ => []

/-- The value without its contents: what is left is its kind. -/
def emptied : Value → Value
  | .mapping kind _ => .mapping kind []
  | .record _ => .record []
  | .object c _ => .object c []
  | v => v

theorem isMapping_emptied (v : Value) : v.emptied.isMapping = v.isMapping := by
  cases v <;> rfl

/-- Fields are written like the entries of a mapping whose keys are texts. -/
theorem map_put_text (fs : List (String × Value)) (name : String) (value : Value) :
    (Entries.put (· == ·) fs name value).map (fun f => (Value.text f.1, f.2)) =
      putEntry (fs.map fun f => (Value.text f.1, f.2)) (.text name) value := by
  induction fs with
  | nil => rfl
  | cons f fs ih =>
    obtain ⟨k, v⟩ := f
    rw [Entries.put_cons, List.map_cons, putEntry, Entries.put_cons, sameKey_text]
    by_cases hk : (k == name) = true
    · rw [if_pos hk, if_pos hk, List.map_cons]
    · rw [if_neg hk, if_neg hk, List.map_cons, ih, putEntry]

end Value

namespace Chain

variable {guard : Guard} {target : Value}

/-- A path that could be split, with the value that is written along it. -/
structure Write where
  /-- The first segment: the attribute that is set. -/
  head : String
  /-- The other segments. -/
  rest : List String
  /-- The value at the end. -/
  value : Value

/-- What a write sets its attribute to. -/
def Write.chain (asMapping : Bool) (w : Write) : Value := nested asMapping w.rest w.value

/-- The write that a step makes, if its path can be split. -/
def Write.ofStep? (step : String × Value) : Option Write :=
  match split step.1 with
  | .ok (name :: names) => some ⟨name, names, step.2⟩
  | _ => none

/-- The writes that steps make. -/
def writes (steps : List (String × Value)) : List Write := steps.filterMap Write.ofStep?

/-- The attributes that writes set, each with what it is set to. -/
def settings (asMapping : Bool) (ws : List Write) : List (Value × Value) :=
  ws.map fun w => (.text w.head, w.chain asMapping)

/-- The target after a step; a step that fails leaves it. -/
def after (guard : Guard) (target : Value) (step : String × Value) : Value :=
  (extend guard target step.1 step.2).toOption.getD target

/-- The target after steps. -/
def afterAll (guard : Guard) (target : Value) (steps : List (String × Value)) : Value :=
  steps.foldl (after guard) target

/-! ### One step -/

theorem exists_ofStep? {path : String} {ss : List String} (h : split path = .ok ss)
    (value : Value) : ∃ w, Write.ofStep? (path, value) = some w := by
  obtain ⟨-, rfl⟩ := (split_eq_ok_iff path ss).1 h
  cases hss : (trimmedSegments path).map String.ofList with
  | nil =>
    have hempty : segments path.toList = [] := by simpa [trimmedSegments] using hss
    exact absurd hempty (segments_ne_nil _)
  | cons name names => exact ⟨⟨name, names, value⟩, by rw [Write.ofStep?, h, hss]⟩

/-- Setting an attribute of an open value changes its contents by one entry, and nothing else. -/
theorem assign_contents (ht : target.IsOpen guard) (name : String) (value : Value) :
    ∃ target', assign guard target name value = .ok target' ∧ target'.IsOpen guard ∧
      target'.emptied = target.emptied ∧
      target'.contents = Value.putEntry target.contents (.text name) value := by
  cases target with
  | mapping kind es => exact ⟨_, rfl, trivial, rfl, rfl⟩
  | record fs => exact ⟨_, rfl, trivial, rfl, Value.map_put_text fs name value⟩
  | object c fs =>
    have hg : guard c name = none := ht name
    exact ⟨.object c (Entries.put (· == ·) fs name value), by rw [assign, hg], ht, rfl,
      Value.map_put_text fs name value⟩
  | _ => exact ht.elim

/-- What a step does to an open target. -/
theorem extend_of_ofStep? {path : String} {value : Value} {w : Write} (ht : target.IsOpen guard)
    (hw : Write.ofStep? (path, value) = some w) :
    ∃ target', extend guard target path value = .ok target' ∧ target'.IsOpen guard ∧
      target'.emptied = target.emptied ∧
      target'.contents =
        Value.putEntry target.contents (.text w.head) (w.chain target.isMapping) := by
  rw [extend_eq]
  unfold Write.ofStep? at hw
  cases hs : split path with
  | error e => rw [hs] at hw; cases hw
  | ok ss =>
    rw [hs] at hw
    cases ss with
    | nil => cases hw
    | cons name names =>
      cases hw
      exact assign_contents ht name (nested target.isMapping names value)

/-- A step on an open target fails exactly as the splitting of its path does. -/
theorem extend_eq_error_iff (ht : target.IsOpen guard) (path : String) (value : Value)
    (e : Error) : extend guard target path value = .error e ↔ split path = .error e := by
  constructor
  · intro h
    cases hs : split path with
    | error e' =>
      rw [extend_eq, hs] at h
      cases h
      rfl
    | ok ss =>
      obtain ⟨w, hw⟩ := exists_ofStep? hs value
      obtain ⟨target', hok, -⟩ := extend_of_ofStep? ht hw
      rw [hok] at h
      cases h
  · intro h
    rw [extend_eq, h]
    rfl

theorem after_of_error {step : String × Value} {e : Error}
    (h : extend guard target step.1 step.2 = .error e) : after guard target step = target := by
  rw [after, h]
  rfl

/-! ### Many steps -/

/-- **Many steps are writes of single attributes**, one for each step whose path can be split. -/
theorem contents_afterAll (ht : target.IsOpen guard) (steps : List (String × Value)) :
    (afterAll guard target steps).IsOpen guard ∧
      (afterAll guard target steps).emptied = target.emptied ∧
      (afterAll guard target steps).contents =
        Entries.putAll Value.sameKey target.contents
          (settings target.isMapping (writes steps)) := by
  induction steps generalizing target with
  | nil => exact ⟨ht, rfl, rfl⟩
  | cons step steps ih =>
    have hafter : afterAll guard target (step :: steps) =
        afterAll guard (after guard target step) steps := rfl
    rw [hafter]
    cases hw : Write.ofStep? step with
    | none =>
      have hleft : after guard target step = target := by
        cases hs : split step.1 with
        | error e => exact after_of_error ((extend_eq_error_iff ht _ _ e).2 hs)
        | ok ss =>
          obtain ⟨w, hw'⟩ := exists_ofStep? hs step.2
          rw [hw] at hw'
          cases hw'
      rw [hleft, writes, List.filterMap_cons_none hw]
      exact ih ht
    | some w =>
      obtain ⟨target', hok, hopen, hkind, hcontents⟩ := extend_of_ofStep? ht hw
      have hstep : after guard target step = target' := by rw [after, hok]; rfl
      have hmapping : target'.isMapping = target.isMapping := by
        rw [← Value.isMapping_emptied, hkind, Value.isMapping_emptied]
      obtain ⟨hopen', hkind', hcontents'⟩ := ih hopen
      rw [hstep, writes, List.filterMap_cons_some hw]
      refine ⟨hopen', hkind'.trans hkind, ?_⟩
      rw [hcontents', hcontents, hmapping]
      rfl

/-! ### What is there in the end -/

/-- What is under a name when the kind of the target is left open: a value as it is, or the chain of
a write. -/
def fill (asMapping : Bool) : Value ⊕ Write → Value := Sum.elim id (Write.chain asMapping)

/-- The contents of a target after writes, with its kind left open. -/
def outline (initial : List (Value × Value)) (ws : List Write) : List (Value × (Value ⊕ Write)) :=
  Entries.putAll Value.sameKey (initial.map fun e => (e.1, Sum.inl e.2))
    (ws.map fun w => (.text w.head, Sum.inr w))

theorem map_fill_outline (asMapping : Bool) (initial : List (Value × Value)) (ws : List Write) :
    ((outline initial ws).map fun e => (e.1, fill asMapping e.2)) =
      Entries.putAll Value.sameKey initial (settings asMapping ws) := by
  rw [outline, ← Entries.putAll_map, List.map_map, List.map_map]
  have hinitial : initial.map ((fun e => (e.1, fill asMapping e.2)) ∘
      fun e : Value × Value => (e.1, Sum.inl e.2)) = initial := List.map_id' initial
  rw [hinitial]
  rfl

/-- Of texts, the first of each is kept. -/
theorem eraseDupsBy_sameKey_text (names : List String) :
    (names.map Value.text).eraseDupsBy (fun k' k => Value.sameKey k k') =
      names.eraseDups.map .text := by
  match names with
  | [] => rfl
  | name :: names =>
    have hfilter : (names.map Value.text).filter
          (fun k => decide (Value.sameKey (.text name) k = false)) =
        (names.filter fun n => !n == name).map .text := by
      rw [List.filter_map]
      refine congrArg (List.map Value.text) (List.filter_congr fun n _ => ?_)
      show decide (Value.sameKey (.text name) (.text n) = false) = !n == name
      rw [Value.sameKey_text, BEq.comm]
      cases n == name <;> rfl
    have hshort : (names.filter fun n => !n == name).length ≤ names.length :=
      List.length_filter_le _ _
    rw [List.map_cons, List.eraseDupsBy_cons, hfilter, eraseDupsBy_sameKey_text,
      List.eraseDups_cons, List.map_cons]
termination_by names.length
decreasing_by exact Nat.lt_succ_of_le hshort

theorem keys_putAll_settings (asMapping : Bool) (initial : List (Value × Value))
    (ws : List Write) :
    Entries.keys (Entries.putAll Value.sameKey initial (settings asMapping ws)) =
      Entries.keys initial ++ (((ws.map Write.head).filter fun name =>
        !Entries.has Value.sameKey initial (.text name)).eraseDups.map .text) := by
  have hnew : Entries.keys ((settings asMapping ws).filter fun e =>
        !Entries.has Value.sameKey initial e.1) =
      ((ws.map Write.head).filter fun name =>
        !Entries.has Value.sameKey initial (.text name)).map .text := by
    rw [settings, List.filter_map, List.filter_map, Entries.keys, List.map_map, List.map_map]
    rfl
  rw [Entries.keys_putAll_eq_append, Entries.keys_merged, hnew, eraseDupsBy_sameKey_text]

/-- A text that differs from another is apart from it under the equality of keys. -/
theorem apart_text {name : String} {k : Value} (h : k ≠ .text name) :
    Value.sameKey (.text name) k = false ∧
      ∀ k', Value.sameKey k' (.text name) = true → Value.sameKey k' k = false := by
  have hleft : Value.sameKey (.text name) k = false := by
    rw [← Bool.not_eq_true, Value.sameKey_text_left]
    exact h
  refine ⟨hleft, fun k' hk' => ?_⟩
  rw [Value.sameKey_text_right.1 hk']
  exact hleft

/-- **Each attribute holds the chain of the last write to it.** -/
theorem afterAll_holds_last (ht : target.IsOpen guard) (steps : List (String × Value)) :
    let final := afterAll guard target steps
    let done := writes steps
    let held (v key : Value) := Entries.get? Value.sameKey v.contents key
    (∀ path value,
        (∀ e, extend guard final path value = .error e ↔ split path = .error e) ∧
        (∀ e, split path = .error e →
          e.kind = .value ∧ after guard final (path, value) = final) ∧
        ∀ ss, split path = .ok ss →
          extend guard final path value = .ok (after guard final (path, value))) ∧
      final.emptied = target.emptied ∧
      Entries.keys final.contents = Entries.keys target.contents ++
        ((done.map Write.head).filter fun name =>
          !Entries.has Value.sameKey target.contents (.text name)).eraseDups.map .text ∧
      (∀ front w back, done = front ++ w :: back → (∀ w' ∈ back, w'.head ≠ w.head) →
        held final (.text w.head) = some (nested target.isMapping w.rest w.value)) ∧
      (∀ key, (∀ w ∈ done, key ≠ .text w.head) → held final key = held target key) ∧
      ∃ ends : List (Value × (Value ⊕ Write)), ∀ guard' target',
        target'.IsOpen guard' → target'.contents = target.contents →
          (afterAll guard' target' steps).contents =
            ends.map fun e => (e.1, fill target'.isMapping e.2) := by
  intro final done held
  obtain ⟨hopen, hkind, hcontents⟩ := contents_afterAll ht steps
  refine ⟨fun path value => ⟨extend_eq_error_iff hopen path value, fun e he => ?_, fun ss hs => ?_⟩,
    hkind, ?_, fun front w back hdone hback => ?_, fun key hkey => ?_, ?_⟩
  · refine ⟨?_, after_of_error ((extend_eq_error_iff hopen path value e).2 he)⟩
    rw [split_error he]
    rfl
  · obtain ⟨w, hw⟩ := exists_ofStep? hs value
    obtain ⟨target', hok, -⟩ := extend_of_ofStep? hopen hw
    rw [hok, after, hok]
    rfl
  · rw [hcontents, keys_putAll_settings]
  · show Entries.get? Value.sameKey final.contents _ = _
    rw [hcontents]
    change writes steps = _ at hdone
    rw [hdone, settings, List.map_append, List.map_cons]
    refine Entries.get?_putAll_last (by simp) ?_ _ _
    rintro e he
    obtain ⟨w', hw', rfl⟩ := List.mem_map.1 he
    exact apart_text fun heq => hback w' hw' (Value.text.inj heq).symm
  · show Entries.get? Value.sameKey final.contents _ = _
    rw [hcontents]
    refine Entries.get?_putAll_apart _ ?_
    rintro e he
    obtain ⟨w, hw, rfl⟩ := List.mem_map.1 he
    exact apart_text (hkey w hw)
  · refine ⟨outline target.contents done, fun guard' target' ht' hsame => ?_⟩
    obtain ⟨-, -, hcontents'⟩ := contents_afterAll ht' steps
    rw [hcontents', map_fill_outline, hsame]

/-- The second path has an empty segment.  Of the first write nothing is left, as the last one
starts with the same attribute. -/
theorem afterAll_holds_last_of_overwriting :
    let target : Value := .object "Plain" [("a", .int 0)]
    let steps : List (String × Value) := [("make->name", .text "x"), ("a..b", .int 1),
      ("b", .int 2), (" make . year ", .int 3)]
    let final := afterAll unguarded target steps
    let held (key : Value) := Entries.get? Value.sameKey final.contents key
    target.IsOpen unguarded ∧
      Entries.keys final.contents = [.text "a", .text "make", .text "b"] ∧
      held (.text "make") = some (.record [("year", .int 3)]) ∧
      held (.text "a") = some (.int 0) := by
  intro target steps final held
  have hopen : target.IsOpen unguarded := fun _ => rfl
  have hdone : writes steps = [⟨"make", ["name"], .text "x"⟩, ⟨"b", [], .int 2⟩,
    ⟨"make", ["year"], .int 3⟩] := by rfl
  obtain ⟨-, -, hkeys, hlast, hothers, -⟩ := afterAll_holds_last hopen steps
  rw [hdone] at hkeys hlast hothers
  refine ⟨hopen, hkeys.trans (by rfl), ?_, ?_⟩
  · exact hlast [⟨"make", ["name"], .text "x"⟩, ⟨"b", [], .int 2⟩] ⟨"make", ["year"], .int 3⟩ [] rfl
      fun _ h => absurd h List.not_mem_nil
  · exact (hothers (.text "a") (by simp)).trans (by rfl)

end Chain
end KeyCall
