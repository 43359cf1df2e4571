import KeyCall.Entries

/-!
# Writing entries one after the other

Ordered entries are built by one write after the other, each of which either replaces a value in
its place or appends an entry.  What comes out can be said without following the writes: the first
key stays in front with the value that is written to it last, and the rest is what the entries
under all other keys give by themselves.

Nothing is asked of the equality of keys.  A key that is not the same as itself is written anew
every time, and that, too, is what the description says.

## Main definitions

* `Entries.lastUnder` — the value that entries give to a key last.
* `Entries.merged` — entries merged by their keys.

## Main results

* `Entries.putAll_nil_eq_merged` — **writing entries one after the other merges them.**
* `Entries.keys_putAll_eq_append` — old keys come first, and then the new ones.
* `Entries.get?_putAll_last` — the last value that is written to a key is there.
* `Entries.keys_merged` — merging keeps the distinct keys, in the order of their first entries.
* `Entries.mem_merged` — every value is that of an entry under its key.
* `Entries.merged_eq_self` — entries with distinct keys stay as they are.
-/

namespace KeyCall
namespace Entries

variable {κ α : Type} (same : κ → κ → Bool)

/-- The value that the entries give last to the key `k`, or `a` if they give it none. -/
def lastUnder (k : κ) (a : α) (es : List (κ × α)) : α :=
  ((es.filter fun e => same k e.1).map Prod.snd).getLastD a

/-- The entries under other keys than `k`. -/
def apartFrom (k : κ) (es : List (κ × α)) : List (κ × α) := es.filter fun e => !same k e.1

/-- Entries merged by their keys: each key in the place of its first entry, with the value of its
last. -/
def merged : List (κ × α) → List (κ × α)
  | [] => []
  | (k, a) :: es => (k, lastUnder same k a es) :: merged (apartFrom same k es)
termination_by es => es.length
decreasing_by
  have := List.length_filter_le (fun e : κ × α => !same k e.1) es
  simp only [apartFrom, List.length_cons]
  omega

/-- No two of the keys are the same. -/
def KeysApart (es : List (κ × α)) : Prop := (keys es).Pairwise fun k k' => same k k' = false

variable {same}

@[simp] theorem merged_nil : merged same ([] : List (κ × α)) = [] := by
  rw [merged]

theorem merged_cons (k : κ) (a : α) (es : List (κ × α)) :
    merged same ((k, a) :: es) =
      (k, lastUnder same k a es) :: merged same (apartFrom same k es) := by
  rw [merged]

theorem lastUnder_cons (k k' : κ) (a a' : α) (es : List (κ × α)) :
    lastUnder same k a ((k', a') :: es) =
      lastUnder same k (if same k k' then a' else a) es := by
  unfold lastUnder
  rw [List.filter_cons]
  by_cases h : same k k' = true
  · simp only [h, if_true, List.map_cons, List.getLastD_cons]
  · simp only [h, Bool.false_eq_true, if_false]

theorem apartFrom_cons (k k' : κ) (a' : α) (es : List (κ × α)) :
    apartFrom same k ((k', a') :: es) =
      if same k k' then apartFrom same k es else (k', a') :: apartFrom same k es := by
  unfold apartFrom
  rw [List.filter_cons]
  by_cases h : same k k' = true
  · simp only [h, Bool.not_true, Bool.false_eq_true, if_false, if_true]
  · simp only [h, Bool.not_false, if_true, Bool.false_eq_true, if_false]

theorem mem_apartFrom {k : κ} {e : κ × α} {es : List (κ × α)} :
    e ∈ apartFrom same k es ↔ e ∈ es ∧ same k e.1 = false := by
  rw [apartFrom, List.mem_filter, Bool.not_eq_true']

theorem keysApart_cons {k : κ} {a : α} {es : List (κ × α)} :
    KeysApart same ((k, a) :: es) ↔ (∀ e ∈ es, same k e.1 = false) ∧ KeysApart same es := by
  rw [KeysApart, keys, List.map_cons, List.pairwise_cons, List.forall_mem_map]
  rfl

theorem keysApart_append {es fs : List (κ × α)} :
    KeysApart same (es ++ fs) ↔
      KeysApart same es ∧ KeysApart same fs ∧ ∀ e ∈ es, ∀ f ∈ fs, same e.1 f.1 = false := by
  simp only [KeysApart, keys, List.map_append, List.pairwise_append, List.forall_mem_map]

/-! ### Writing a new key -/

theorem has_eq_false_iff {es : List (κ × α)} {k : κ} :
    has same es k = false ↔ ∀ e ∈ es, same e.1 k = false := by
  rw [has, List.any_eq_false]
  simp only [Bool.not_eq_true]

/-- A new key is written behind all others. -/
theorem put_of_has_eq_false {es : List (κ × α)} {k : κ} (h : has same es k = false) (a : α) :
    put same es k a = es ++ [(k, a)] := by
  induction es with
  | nil => rfl
  | cons e es ih =>
    rw [has_cons, Bool.or_eq_false_iff] at h
    rw [put_cons, h.1, ih h.2]
    rfl

/-- A write keeps the keys apart. -/
theorem KeysApart.put {es : List (κ × α)} (h : KeysApart same es) (k : κ) (a : α) :
    KeysApart same (Entries.put same es k a) := by
  rw [KeysApart, keys_put]
  split
  · exact h
  · next hnew =>
    rw [List.pairwise_append]
    refine ⟨h, List.pairwise_singleton _ _, fun x hx y hy => ?_⟩
    obtain ⟨e, he, rfl⟩ := List.mem_map.1 hx
    rw [List.mem_singleton.1 hy]
    exact has_eq_false_iff.1 (Bool.eq_false_iff.2 hnew) e he

/-! ### Writing merges -/

theorem putAll_cons (out : List (κ × α)) (k : κ) (a : α) (es : List (κ × α)) :
    putAll same out ((k, a) :: es) = putAll same (put same out k a) es := rfl

theorem putAll_append (out es fs : List (κ × α)) :
    putAll same out (es ++ fs) = putAll same (putAll same out es) fs := List.foldl_append

/-- The entry in front takes all that is written to its key, and the entries behind it the rest. -/
theorem putAll_cons_out (k : κ) (a : α) (out es : List (κ × α)) :
    putAll same ((k, a) :: out) es =
      (k, lastUnder same k a es) :: putAll same out (apartFrom same k es) := by
  induction es generalizing a out with
  | nil => rfl
  | cons e es ih =>
    obtain ⟨k', a'⟩ := e
    rw [putAll_cons, put_cons, lastUnder_cons, apartFrom_cons]
    by_cases h : same k k' = true
    · simp only [h, if_true]
      exact ih a' out
    · simp only [h]
      exact ih a (put same out k' a')

/-- **Writing entries one after the other merges them.** -/
theorem putAll_nil_eq_merged (es : List (κ × α)) : putAll same [] es = merged same es := by
  induction es using merged.induct same with
  | case1 => rw [merged_nil]; rfl
  | case2 k a es ih => rw [putAll_cons, put_nil, putAll_cons_out, merged_cons, ih]

/-- What is written goes either to a key that is there or behind all of them, where new keys are
merged. -/
theorem keys_putAll_eq_append (out es : List (κ × α)) :
    keys (putAll same out es) =
      keys out ++ keys (merged same (es.filter fun e => !has same out e.1)) := by
  induction out generalizing es with
  | nil =>
    have hall : es.filter (fun e => !has same ([] : List (κ × α)) e.1) = es :=
      List.filter_eq_self.2 fun _ _ => rfl
    rw [putAll_nil_eq_merged, hall]
    rfl
  | cons e out ih =>
    obtain ⟨k, a⟩ := e
    have hapart : (apartFrom same k es).filter (fun e => !has same out e.1) =
        es.filter fun e => !has same ((k, a) :: out) e.1 := by
      rw [apartFrom, List.filter_filter]
      refine List.filter_congr fun e _ => ?_
      rw [has_cons, Bool.not_or, Bool.and_comm]
    rw [putAll_cons_out, ← hapart]
    exact congrArg (k :: ·) (ih (apartFrom same k es))

theorem put_map {β : Type} (f : α → β) (out : List (κ × α)) (k : κ) (a : α) :
    put same (out.map fun e => (e.1, f e.2)) k (f a) =
      (put same out k a).map fun e => (e.1, f e.2) := by
  induction out with
  | nil => rfl
  | cons e out ih =>
    obtain ⟨k', a'⟩ := e
    rw [List.map_cons, put_cons, put_cons]
    by_cases h : same k' k = true
    · rw [if_pos h, if_pos h, List.map_cons]
    · rw [if_neg h, if_neg h, List.map_cons, ih]

/-- Which keys are written, and where, does not depend on the values. -/
theorem putAll_map {β : Type} (f : α → β) (out es : List (κ × α)) :
    putAll same (out.map fun e => (e.1, f e.2)) (es.map fun e => (e.1, f e.2)) =
      (putAll same out es).map fun e => (e.1, f e.2) := by
  induction es generalizing out with
  | nil => rfl
  | cons e es ih =>
    obtain ⟨k, a⟩ := e
    rw [List.map_cons, putAll_cons, putAll_cons, put_map, ih]

/-! ### The value of a key -/

/-- Writes under other keys leave what a key holds. -/
theorem get?_putAll_apart {n : κ} {es : List (κ × α)} (out : List (κ × α))
    (h : ∀ e ∈ es, same e.1 n = false ∧ ∀ k', same k' e.1 = true → same k' n = false) :
    get? same (putAll same out es) n = get? same out n := by
  induction es generalizing out with
  | nil => rfl
  | cons e es ih =>
    obtain ⟨k, a⟩ := e
    obtain ⟨hk, hk'⟩ := h _ List.mem_cons_self
    rw [putAll_cons, ih _ fun f hf => h f (List.mem_cons_of_mem _ hf), get?_put_apart hk hk']

/-- A key holds what is written to it last. -/
theorem get?_putAll_last {k : κ} {a : α} {back : List (κ × α)} (hk : same k k = true)
    (h : ∀ e ∈ back, same e.1 k = false ∧ ∀ k', same k' e.1 = true → same k' k = false)
    (out front : List (κ × α)) :
    get? same (putAll same out (front ++ (k, a) :: back)) k = some a := by
  rw [putAll_append, putAll_cons, get?_putAll_apart _ h, get?_put_same hk]

/-! ### What merging does -/

theorem keys_apartFrom (k : κ) (es : List (κ × α)) :
    keys (apartFrom same k es) = (keys es).filter fun k' => !same k k' := by
  rw [keys, apartFrom, keys, List.filter_map]
  rfl

/-- Merging keeps the distinct keys, in the order of their first entries. -/
theorem keys_merged (es : List (κ × α)) :
    keys (merged same es) = (keys es).eraseDupsBy fun k' k => same k k' := by
  induction es using merged.induct same with
  | case1 => rw [merged_nil]; rfl
  | case2 k a es ih =>
    have hkeys : keys ((k, a) :: es) = k :: keys es := rfl
    have hfilter : (fun k' => decide (same k k' = false)) = fun k' => !same k k' := by
      funext k'
      cases same k k' <;> rfl
    rw [merged_cons, hkeys, List.eraseDupsBy_cons, hfilter, ← keys_apartFrom, ← ih]
    rfl

/-- The last value under a key is the given one or that of an entry under it. -/
theorem lastUnder_eq_or_mem (same : κ → κ → Bool) (k : κ) (a : α) (es : List (κ × α)) :
    lastUnder same k a es = a ∨ ∃ k', (k', lastUnder same k a es) ∈ es ∧ same k k' = true := by
  induction es generalizing a with
  | nil => exact Or.inl rfl
  | cons e es ih =>
    obtain ⟨k', a'⟩ := e
    rw [lastUnder_cons]
    rcases ih (if same k k' then a' else a) with h | ⟨k'', hmem, hk⟩
    · rw [h]
      by_cases hk : same k k' = true
      · rw [if_pos hk]
        exact Or.inr ⟨k', List.mem_cons_self, hk⟩
      · exact Or.inl (if_neg hk)
    · exact Or.inr ⟨k'', List.mem_cons_of_mem _ hmem, hk⟩

/-- Every key of merged entries is a key of the entries, and every value is that of an entry under
the key. -/
theorem mem_merged {k : κ} {a : α} {es : List (κ × α)} (h : (k, a) ∈ merged same es) :
    (∃ b, (k, b) ∈ es) ∧ ∃ k', (k', a) ∈ es ∧ (k' = k ∨ same k k' = true) := by
  induction es using merged.induct same with
  | case1 => rw [merged_nil] at h; cases h
  | case2 k₀ a₀ es ih =>
    rw [merged_cons, List.mem_cons] at h
    rcases h with h | h
    · cases h
      refine ⟨⟨a₀, List.mem_cons_self⟩, ?_⟩
      rcases lastUnder_eq_or_mem same k a₀ es with hlast | ⟨k', hmem, hk⟩
      · exact ⟨k, by rw [hlast]; exact List.mem_cons_self, Or.inl rfl⟩
      · exact ⟨k', List.mem_cons_of_mem _ hmem, Or.inr hk⟩
    · obtain ⟨⟨b, hb⟩, k', hk', hsame⟩ := ih h
      exact ⟨⟨b, List.mem_cons_of_mem _ (mem_apartFrom.1 hb).1⟩, k',
        List.mem_cons_of_mem _ (mem_apartFrom.1 hk').1, hsame⟩

theorem keysApart_merged (es : List (κ × α)) : KeysApart same (merged same es) := by
  induction es using merged.induct same with
  | case1 => rw [merged_nil]; exact List.Pairwise.nil
  | case2 k a es ih =>
    rw [merged_cons, keysApart_cons]
    refine ⟨fun e he => ?_, ih⟩
    -- What is left for the others has no entry under the first key.
    obtain ⟨⟨b, hb⟩, -⟩ := mem_merged he
    exact (mem_apartFrom.1 hb).2

/-- Entries with distinct keys stay as they are. -/
theorem merged_eq_self {es : List (κ × α)} (h : KeysApart same es) : merged same es = es := by
  induction es with
  | nil => exact merged_nil
  | cons e es ih =>
    obtain ⟨k, a⟩ := e
    obtain ⟨hk, hes⟩ := keysApart_cons.1 h
    have hlast : lastUnder same k a es = a := by
      rcases lastUnder_eq_or_mem same k a es with hlast | ⟨k', hmem, hsame⟩
      · exact hlast
      · rw [hk _ hmem] at hsame
        cases hsame
    have hapart : apartFrom same k es = es :=
      List.filter_eq_self.2 fun e he => by rw [hk e he]; rfl
    rw [merged_cons, hlast, hapart, ih hes]

end Entries
end KeyCall
