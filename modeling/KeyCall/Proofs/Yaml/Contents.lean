import KeyCall.Proofs.Collection.Everywhere
import KeyCall.Yaml.Reading

/-!
# What a YAML file holds

A YAML package can be made to build any object of the program, unless it is asked to load safely.
Then what comes out is of its own kinds, whatever the file says: the mappings in it are plain ones,
and a mapping has no key twice.  This is all that is relied on of a reader.

## Main definitions

* `Yaml.Reader.IsSafe` — what is relied on of a reader.

## Main results

* `Yaml.Node.everywhere_isUsual_of_value` — the value of a tree, and what is in it.
* `Yaml.isSafe_builtIn` — **the reader that the program is run with is safe.**
-/

namespace KeyCall
namespace Yaml

open Value (Everywhere IsUsual)

/-- What a reader makes has plain mappings only, and no key twice in any of them. -/
def Reader.IsSafe (yaml : Reader) : Prop :=
  ∀ arrival v, yaml arrival = .ok v → v.Everywhere IsUsual

/-! ### Scalars -/

theorem isCollection_of_value {s : Stamp} {v : Value} (h : s.value = .ok v) :
    v.isCollection = false := by
  unfold Stamp.value at h
  simp only at h
  split at h
  · obtain ⟨d, -, h⟩ := exists_of_bind_eq_ok h
    cases h
    rfl
  · obtain ⟨offset, -, h⟩ := exists_of_bind_eq_ok h
    obtain ⟨d, -, h⟩ := exists_of_bind_eq_ok h
    obtain ⟨-, -, h⟩ := exists_of_bind_eq_ok h
    obtain ⟨-, -, h⟩ := exists_of_bind_eq_ok h
    obtain ⟨-, -, h⟩ := exists_of_bind_eq_ok h
    cases h
    rfl

theorem isCollection_of_stampOf {cs : List Char} {v : Value} (h : stampOf cs = .ok v) :
    v.isCollection = false := by
  unfold stampOf at h
  split at h
  · exact isCollection_of_value h
  · cases h

namespace Node

theorem isCollection_of_scalarValue {type : ScalarType} {text : List Char} {v : Value}
    (h : scalarValue type text = .ok v) : v.isCollection = false := by
  unfold scalarValue at h
  split at h
  · cases h
    rfl
  · obtain ⟨b, -, rfl⟩ := exists_of_map_eq_ok h
    rfl
  · obtain ⟨n, -, rfl⟩ := exists_of_map_eq_ok h
    rfl
  · obtain ⟨x, -, rfl⟩ := exists_of_map_eq_ok h
    rfl
  · exact isCollection_of_stampOf h
  · split at h
    · cases h
      rfl
    · cases h
  · cases h
    rfl
  · cases h
  · cases h

/-! ### Trees -/

/-- Keys that differ in a YAML mapping differ in every other one. -/
theorem sameKey_eq_false {k k' : Value} (h : sameKey k k' = false) :
    Value.sameKey k k' = false := by
  unfold sameKey at h
  split at h
  · cases h
  · exact h

mutual

/-- The value of a tree is usual everywhere. -/
theorem everywhere_isUsual_of_value : ∀ (n : Node) (v : Value), value n = .ok v →
    v.Everywhere IsUsual
  | .scalar type text, v, h => by
    rw [value] at h
    exact Value.everywhere_isUsual_of_scalar (isCollection_of_scalarValue h)
  | .sequence ns, v, h => by
    rw [value] at h
    obtain ⟨vs, hvs, rfl⟩ := exists_of_map_eq_ok h
    exact .list trivial (everywhere_isUsual_of_values ns vs hvs)
  | .mapping es, v, h => by
    rw [value] at h
    obtain ⟨fs, hfs, rfl⟩ := exists_of_map_eq_ok h
    obtain ⟨hkeys, hvalues⟩ := usual_of_entryValues es [] fs .nil (List.forall_mem_nil _) hfs
    exact .mapping ⟨rfl, hkeys.imp sameKey_eq_false⟩ hvalues
  | .invalid problem, v, h => by
    rw [value] at h
    cases h

theorem everywhere_isUsual_of_values : ∀ (ns : List Node) (vs : List Value), values ns = .ok vs →
    ∀ v ∈ vs, v.Everywhere IsUsual
  | [], vs, h => by
    rw [values] at h
    cases h
    exact List.forall_mem_nil _
  | n :: ns, vs, h => by
    rw [values] at h
    obtain ⟨v, hv, h⟩ := exists_of_bind_eq_ok h
    obtain ⟨ws, hws, h⟩ := exists_of_bind_eq_ok h
    cases h
    exact List.forall_mem_cons.2
      ⟨everywhere_isUsual_of_value n v hv, everywhere_isUsual_of_values ns ws hws⟩

/-- Writing entries onto entries whose keys differ keeps them so. -/
theorem usual_of_entryValues : ∀ (es : List (Node × Node)) (done fs : List (Value × Value)),
    Entries.KeysApart sameKey done → (∀ e ∈ done, e.2.Everywhere IsUsual) →
    entryValues done es = .ok fs →
    Entries.KeysApart sameKey fs ∧ ∀ e ∈ fs, e.2.Everywhere IsUsual
  | [], done, fs, hkeys, hvalues, h => by
    rw [entryValues] at h
    cases h
    exact ⟨hkeys, hvalues⟩
  | (k, n) :: es, done, fs, hkeys, hvalues, h => by
    rw [entryValues] at h
    obtain ⟨key, -, h⟩ := exists_of_bind_eq_ok h
    obtain ⟨v, hv, h⟩ := exists_of_bind_eq_ok h
    refine usual_of_entryValues es _ fs (hkeys.put key v) (fun e he => ?_) h
    rcases Entries.mem_put he with he | he
    · exact hvalues e he
    · rw [he]
      exact everywhere_isUsual_of_value n v hv

end

end Node

/-- What is read is usual everywhere. -/
theorem everywhere_isUsual_of_read {text : List Char} {behind : Option Trouble} {v : Value}
    (h : read text behind = .ok v) : v.Everywhere IsUsual := by
  unfold read at h
  split at h
  · cases h
  · cases h
    exact Value.everywhere_isUsual_of_scalar rfl
  · dsimp only at h
    split at h
    · cases h
    · exact Node.everywhere_isUsual_of_value _ v h

/-- **The reader that the program is run with is safe.** -/
theorem isSafe_builtIn : builtIn.IsSafe := by
  intro arrival v h
  unfold builtIn at h
  cases hread : read arrival.text
      (arrival.fault.map fun f => .ofError (.undecodable f)) with
  | error t =>
    rw [hread] at h
    cases h
  | ok w =>
    rw [hread] at h
    cases h
    exact everywhere_isUsual_of_read hread

end Yaml
end KeyCall
