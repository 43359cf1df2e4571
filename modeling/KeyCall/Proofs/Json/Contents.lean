import KeyCall.Proofs.Collection.Everywhere
import KeyCall.Proofs.Json.Reading
import KeyCall.Proofs.Json.Unit

/-!
# What a JSON text holds

Whatever is read from a JSON text has lists and plain mappings in it and no other collections.  Its
scalars are texts and the values that are a token of their own, so no integer has too many digits;
and the keys of its mappings are texts that were read, no two of them the same.

## Main definitions

* `Json.ReadKeys`, `Json.IsRead` — what every part of a value is that was read.
* `Json.Sound` — what is in the open containers of a state was read.

## Main results

* `Json.Moves.sound` — a token keeps it that way.
* `Json.everywhere_isRead_of_read` — **what is read was read everywhere.**
-/

namespace KeyCall
namespace Json

open Value (Everywhere)

variable {room : Nat}

/-! ### Values that were read -/

/-- The keys of a mapping that was read are texts that were, and no two of them are the same. -/
structure ReadKeys (es : List (Value × Value)) : Prop where
  apart : Entries.KeysApart Value.sameKey es
  spelled : ∀ k ∈ Entries.keys es, ∃ s, k = .text s ∧ IsSpelled s

/-- What a part of a value is that was read. -/
def IsRead : Value → Prop
  | .list _ => True
  | .mapping kind es => kind = .plain ∧ ReadKeys es
  | .text _ => True
  | v => IsLeaf v

theorem IsRead.isUsual {v : Value} (h : IsRead v) : v.IsUsual := by
  cases v with
  | mapping kind es => exact ⟨h.1, h.2.apart⟩
  | _ => trivial

theorem everywhere_isRead_of_isLeaf {v : Value} (h : IsLeaf v) : v.Everywhere IsRead := by
  cases h with
  | null => exact .scalar rfl .null
  | bool b => exact .scalar rfl (.bool b)
  | int hn => exact .scalar rfl (.int hn)
  | float x => exact .scalar rfl (.float x)

theorem readKeys_nil : ReadKeys [] := ⟨.nil, nofun⟩

theorem ReadKeys.put {es : List (Value × Value)} (h : ReadKeys es) {key : String}
    (hkey : IsSpelled key) (v : Value) : ReadKeys (Value.putEntry es (.text key) v) := by
  refine ⟨h.apart.put _ _, fun k hk => ?_⟩
  rw [Value.putEntry, Entries.keys_put] at hk
  split at hk
  · exact h.spelled k hk
  · rcases List.mem_append.1 hk with hk | hk
    · exact h.spelled k hk
    · exact ⟨key, List.mem_singleton.1 hk, hkey⟩

/-! ### States -/

/-- The entries of a mapping were read. -/
def ReadEntries (es : List (Value × Value)) : Prop :=
  ReadKeys es ∧ ∀ e ∈ es, e.2.Everywhere IsRead

/-- What is in an open container was read. -/
def Frame.Sound : Frame → Prop
  | .list done => ∀ x ∈ done, x.Everywhere IsRead
  | .mapping done key => ReadEntries done ∧ IsSpelled key

/-- What is awaited belongs to what was read. -/
def Await.Sound : Await → Prop
  | .name done => ReadEntries done
  | .colon done key => ReadEntries done ∧ IsSpelled key
  | .next v => v.Everywhere IsRead
  | _ => True

/-- What is in the open containers of a state was read. -/
def Sound (s : State) : Prop := (∀ f ∈ s.1, f.Sound) ∧ s.2.Sound

/-- What a token holds was read. -/
def Token.Sound : Token → Prop
  | .text s => IsSpelled s
  | .scalar v => IsLeaf v
  | _ => True

theorem Starts.sound {cs : List Char} {t : Token} {taken : Nat} (h : Starts cs (t, taken)) :
    t.Sound := by
  cases h with
  | text us taken => exact ⟨us, rfl⟩
  | scalar hv taken => exact hv
  | _ => trivial

theorem ReadEntries.put {es : List (Value × Value)} (h : ReadEntries es) {key : String}
    (hkey : IsSpelled key) {v : Value} (hv : v.Everywhere IsRead) :
    ReadEntries (Value.putEntry es (.text key) v) := by
  refine ⟨h.1.put hkey v, fun e he => ?_⟩
  rcases Entries.mem_put he with he | he
  · exact h.2 e he
  · rw [he]
    exact hv

theorem ReadEntries.everywhere {es : List (Value × Value)} (h : ReadEntries es) :
    (Value.mapping .plain es).Everywhere IsRead := .mapping ⟨rfl, h.1⟩ h.2

theorem Begins.sound {t : Token} {stack : List Frame} {s : State} (h : Begins room t stack s)
    (ht : t.Sound) (hstack : ∀ f ∈ stack, f.Sound) : Sound s := by
  cases h with
  | scalar heq =>
    rw [heq] at ht
    exact ⟨hstack, everywhere_isRead_of_isLeaf ht⟩
  | text heq => exact ⟨hstack, .scalar rfl trivial⟩
  | list heq hroom => exact ⟨hstack, trivial⟩
  | mapping heq hroom => exact ⟨hstack, trivial⟩

/-- A token keeps it that way, and a value that comes out was read. -/
theorem Moves.sound {t : Token} {s : State} {r : State ⊕ Value} (h : Moves room t s r)
    (ht : t.Sound) (hs : Sound s) : r.elim Sound (Everywhere IsRead) := by
  obtain ⟨hstack, hawait⟩ := hs
  cases h with
  | value hbegins => exact hbegins.sound ht hstack
  | firstItem hbegins => exact hbegins.sound ht (List.forall_mem_cons.2 ⟨nofun, hstack⟩)
  | noItem heq => exact ⟨hstack, .list trivial nofun⟩
  | nextItem heq =>
    obtain ⟨hdone, hstack⟩ := List.forall_mem_cons.1 hstack
    exact ⟨List.forall_mem_cons.2 ⟨List.forall_mem_cons.2 ⟨hawait, hdone⟩, hstack⟩, trivial⟩
  | listEnd heq =>
    obtain ⟨hdone, hstack⟩ := List.forall_mem_cons.1 hstack
    refine ⟨hstack, .list trivial fun x hx => ?_⟩
    rcases List.mem_cons.1 (List.mem_reverse.1 hx) with rfl | hx
    · exact hawait
    · exact hdone x hx
  | firstName heq =>
    rw [heq] at ht
    exact ⟨hstack, ⟨readKeys_nil, nofun⟩, ht⟩
  | noMember heq => exact ⟨hstack, .mapping ⟨rfl, readKeys_nil⟩ nofun⟩
  | name heq =>
    rw [heq] at ht
    exact ⟨hstack, hawait, ht⟩
  | colon heq => exact ⟨List.forall_mem_cons.2 ⟨hawait, hstack⟩, trivial⟩
  | nextMember heq =>
    obtain ⟨⟨hdone, hkey⟩, hstack⟩ := List.forall_mem_cons.1 hstack
    exact ⟨hstack, hdone.put hkey hawait⟩
  | mappingEnd heq =>
    obtain ⟨⟨hdone, hkey⟩, hstack⟩ := List.forall_mem_cons.1 hstack
    exact ⟨hstack, (hdone.put hkey hawait).everywhere⟩
  | finish heq => exact hawait

/-! ### Reading -/

/-- Every token of a text starts the text that is kept with it. -/
theorem sound_of_mem_lexemes {cs : List Char} {l : Lexeme} (h : l ∈ lexemes cs) :
    l.token.Sound := by
  have hlex : ∀ {cs token taken}, lex cs = (token, taken) → token.Sound := by
    intro cs token taken hlex
    have hstarts := starts_lex cs
    rw [hlex] at hstarts
    exact hstarts.sound
  induction cs using lexemes.induct with
  | case1 =>
    rw [lexemes, List.mem_singleton] at h
    rw [h]
    trivial
  | case2 c cs hblank ih =>
    rw [lexemes, if_pos hblank] at h
    exact ih h
  | case3 c cs hblank token heq =>
    rw [lexemes, if_neg hblank, heq] at h
    rw [List.mem_singleton.1 h]
    exact hlex heq
  | case4 c cs hblank token taken heq htaken ih =>
    rw [lexemes, if_neg hblank, heq] at h
    simp only [htaken, if_false] at h
    rcases List.mem_cons.1 h with rfl | h
    · exact hlex heq
    · exact ih h

theorem everywhere_isRead_of_readFrom {s : State} {ls : List Lexeme} {v : Value} (hs : Sound s)
    (hls : ∀ l ∈ ls, l.token.Sound) (h : readFrom room s ls = .ok v) : v.Everywhere IsRead := by
  induction ls generalizing s with
  | nil => cases h
  | cons l ls ih =>
    obtain ⟨hl, hls⟩ := List.forall_mem_cons.1 hls
    rw [readFrom] at h
    cases hstep : step room s l with
    | error f =>
      rw [hstep] at h
      cases h
    | ok r =>
      have hsound := (moves_of_step hstep).sound hl hs
      rw [hstep] at h
      cases r with
      | inl s' => exact ih hsound hls h
      | inr v' =>
        cases h
        exact hsound

/-- **What is read was read everywhere.** -/
theorem everywhere_isRead_of_read {text : List Char} {v : Value} (h : read text room = .ok v) :
    v.Everywhere IsRead := by
  unfold read at h
  split at h
  · cases h
  · have hstart : Sound ([], .value) := ⟨nofun, trivial⟩
    exact everywhere_isRead_of_readFrom hstart (fun l hl => sound_of_mem_lexemes hl) h

end Json
end KeyCall
