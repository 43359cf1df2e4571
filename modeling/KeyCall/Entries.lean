/-!
# Ordered entries

Mappings, records and registries are lists of entries in the order in which their keys were first
written.  Writing a key that is there keeps its place and the key object already stored, and
replaces the value; writing a new key appends an entry.  Which keys count as the same is a
parameter, since the keys of a collection compare by number where the names of a registry compare
as texts.

## Main definitions

* `Entries.get?`: the value under a key.
* `Entries.has`: whether a key is there.
* `Entries.put`: writes a key.
* `Entries.erase`: removes a key.

## Main results

* `keys_put`: which keys are there after a write, and in which order.
* `get?_put_same`, `get?_put_apart`: what the keys hold after a write.
* `get?_erase_self`, `get?_erase_of_ne`: what names hold after a removal.
-/

namespace KeyCall
namespace Entries

variable {κ α : Type}

/-- The keys, in order. -/
def keys (es : List (κ × α)) : List κ := es.map Prod.fst

/-- The value under the first key that is the same as `k`. -/
def get? (same : κ → κ → Bool) (es : List (κ × α)) (k : κ) : Option α :=
  (es.find? fun e => same e.1 k).map Prod.snd

/-- Whether a key is there. -/
def has (same : κ → κ → Bool) (es : List (κ × α)) (k : κ) : Bool := es.any fun e => same e.1 k

/-- Writes `a` under `k`: in the place of the key if it is there, and at the end otherwise. -/
def put (same : κ → κ → Bool) : List (κ × α) → κ → α → List (κ × α)
  | [], k, a => [(k, a)]
  | (k', a') :: es, k, a => if same k' k then (k', a) :: es else (k', a') :: put same es k a

/-- Removes every entry under `k`. -/
def erase (same : κ → κ → Bool) (es : List (κ × α)) (k : κ) : List (κ × α) :=
  es.filter fun e => !same e.1 k

/-- Writes a list of entries, one after the other. -/
def putAll (same : κ → κ → Bool) (es new : List (κ × α)) : List (κ × α) :=
  new.foldl (fun es e => put same es e.1 e.2) es

@[simp] theorem put_nil (same : κ → κ → Bool) (k : κ) (a : α) :
    put same [] k a = [(k, a)] := rfl

theorem put_cons (same : κ → κ → Bool) (k' k : κ) (a' a : α) (es : List (κ × α)) :
    put same ((k', a') :: es) k a =
      if same k' k then (k', a) :: es else (k', a') :: put same es k a := rfl

@[simp] theorem has_nil (same : κ → κ → Bool) (k : κ) : has same ([] : List (κ × α)) k = false :=
  rfl

theorem has_cons (same : κ → κ → Bool) (e : κ × α) (es : List (κ × α)) (k : κ) :
    has same (e :: es) k = (same e.1 k || has same es k) := rfl

/-- A write leaves the keys alone if the key is there, and appends it otherwise. -/
theorem keys_put (same : κ → κ → Bool) (es : List (κ × α)) (k : κ) (a : α) :
    keys (put same es k a) = if has same es k then keys es else keys es ++ [k] := by
  induction es with
  | nil => rfl
  | cons e es ih =>
    obtain ⟨k', a'⟩ := e
    rw [put_cons, has_cons]
    by_cases h : same k' k = true
    · simp [h, keys]
    · simp only [Bool.not_eq_true] at h
      simp only [keys] at ih
      simp only [h, keys, Bool.false_or, Bool.false_eq_true, ↓reduceIte, List.map_cons, ih]
      split <;> simp

/-- A name is found exactly when it is there. -/
theorem get?_isSome (same : κ → κ → Bool) (es : List (κ × α)) (k : κ) :
    (get? same es k).isSome = has same es k := by
  rw [get?, has, Option.isSome_map, List.isSome_find?]

theorem get?_cons (same : κ → κ → Bool) (e : κ × α) (es : List (κ × α)) (k : κ) :
    get? same (e :: es) k = if same e.1 k then some e.2 else get? same es k := by
  rw [get?, List.find?_cons]
  cases same e.1 k <;> rfl

/-- What was written under a key is found there. -/
theorem get?_put_same {same : κ → κ → Bool} {k : κ} (hk : same k k = true) (es : List (κ × α))
    (a : α) : get? same (put same es k a) k = some a := by
  induction es with
  | nil => rw [put_nil, get?_cons, if_pos hk]
  | cons e es ih =>
    obtain ⟨k', a'⟩ := e
    rw [put_cons]
    by_cases h : same k' k = true
    · rw [if_pos h, get?_cons, if_pos h]
    · rw [if_neg h, get?_cons, if_neg h, ih]

/-- A write changes nothing under a key that differs from all that are the same as the written
one. -/
theorem get?_put_apart {same : κ → κ → Bool} {k n : κ} (hk : same k n = false)
    (h : ∀ k', same k' k = true → same k' n = false) (es : List (κ × α)) (a : α) :
    get? same (put same es k a) n = get? same es n := by
  induction es with
  | nil => rw [put_nil, get?_cons, hk]; rfl
  | cons e es ih =>
    obtain ⟨k', a'⟩ := e
    rw [put_cons]
    by_cases hk' : same k' k = true
    · rw [if_pos hk', get?_cons, get?_cons, h k' hk']
      rfl
    · rw [if_neg hk', get?_cons, get?_cons, ih]

/-- What entries hold after a write, they held before, or it was written. -/
theorem mem_put {same : κ → κ → Bool} {es : List (κ × α)} {k : κ} {a : α} {e : κ × α}
    (h : e ∈ put same es k a) : e ∈ es ∨ e.2 = a := by
  induction es with
  | nil =>
    rw [put_nil, List.mem_singleton] at h
    exact Or.inr (congrArg Prod.snd h)
  | cons e' es ih =>
    rw [put_cons] at h
    split at h <;> rcases List.mem_cons.1 h with h | h
    · exact Or.inr (congrArg Prod.snd h)
    · exact Or.inl (List.mem_cons_of_mem _ h)
    · exact Or.inl (h ▸ List.mem_cons_self)
    · exact (ih h).imp (List.mem_cons_of_mem _) id

section Names

variable (es : List (String × α)) (k : String) (a : α)

theorem mem_keys {es : List (String × α)} {k : String} :
    k ∈ keys es ↔ has (· == ·) es k = true := by
  simp [keys, has]

/-- What was written under a name is found there. -/
theorem get?_put_self : get? (· == ·) (put (· == ·) es k a) k = some a :=
  get?_put_same (beq_self_eq_true k) es a

/-- A write changes no other name. -/
theorem get?_put_of_ne {n : String} (hn : n ≠ k) :
    get? (· == ·) (put (· == ·) es k a) n = get? (· == ·) es n := by
  refine get?_put_apart (beq_false_of_ne hn.symm) (fun k' hk' => ?_) es a
  rw [beq_iff_eq.1 hk']
  exact beq_false_of_ne hn.symm

theorem keys_erase : keys (erase (· == ·) es k) = (keys es).filter (· != k) := by
  rw [keys, keys, erase, List.filter_map]
  rfl

/-- Nothing is found under a name that was removed. -/
theorem get?_erase_self : get? (· == ·) (erase (· == ·) es k) k = none := by
  rw [← Option.not_isSome_iff_eq_none, get?_isSome, ← mem_keys, keys_erase]
  simp

/-- A removal changes no other name. -/
theorem get?_erase_of_ne {n : String} (hn : n ≠ k) :
    get? (· == ·) (erase (· == ·) es k) n = get? (· == ·) es n := by
  rw [get?, get?, erase, List.find?_filter]
  refine congrArg _ (congrArg (List.find? · es) (funext fun e => ?_))
  by_cases he : e.1 = n <;> simp [he, hn]

end Names

end Entries
end KeyCall
