import KeyCall.Proofs.Collection.Everywhere
import KeyCall.Proofs.Json.Token
import KeyCall.Proofs.Json.Unit

/-!
# The outline of what is written

The outline of a document is what is left of it when only its containers and the names of members
are kept.  A name counts as its code units, since that is what a reader of the document is told.
So a value and the document that it is written as can be held against each other: lists have as many
items, and mappings have a member for every key, in the same order.  Names need not differ where
keys do.

What can be written can be told from the value: its integers must not be too long, and its keys have
to be texts or values that are a token of their own, and of its objects there have to be texts.

## Main definitions

* `Json.Outline`, `Json.HasOutline` — the outline of a document.
* `Json.keyUnits`, `Json.outline` — the outline that a value has.
* `Json.IsKey`, `Json.IsWritten` — a part of a value can be written.
* `Json.WritesIf` — writing gives a result under a condition, and otherwise an error.
* `Json.Outline.Distinct`, `Json.KeysTold` — members, and keys, differ in their names.

## Main results

* `Json.hasOutline_writeWith` — **what is written has the outline of the value.**
* `Json.isDocument_writeWith` — what is written is a document.
* `Json.writesIf_writeAt` — **what can be written.**
* `Json.distinct_outline_iff` — **members differ in their names where keys do.**
-/

namespace KeyCall
namespace Json

open Value (Everywhere)

/-! ### Outlines -/

/-- The containers of a document, with the code units of the names of members. -/
inductive Outline
  /-- Anything that is no container. -/
  | leaf
  /-- A list. -/
  | list (items : List Outline)
  /-- A mapping. -/
  | object (members : List (List Nat × Outline))
  deriving Inhabited

/-- A member of a document: its name and its value as they are written, the code units of the name
and the outline of the value. -/
structure Member where
  /-- The name. -/
  name : List Char
  /-- Its code units. -/
  units : List Nat
  /-- The value. -/
  value : List Char
  /-- Its outline. -/
  outline : Outline

/-- The outlines of documents. -/
inductive HasOutline : List Char → Outline → Prop
  | word {cs : List Char} (hcs : cs ∈ words.map Prod.fst) : HasOutline cs .leaf
  | number {cs : List Char} (hcs : IsNumber cs) : HasOutline cs .leaf
  | text {cs : List Char} {us : List Nat} (hcs : Spells cs us) :
      HasOutline ('"' :: cs ++ ['"']) .leaf
  | list {items : List (List Char × Outline)} {first between last : List Char}
      (hfirst : IsGap first) (hbetween : IsGap between) (hlast : IsGap last)
      (hitems : ∀ i ∈ items, HasOutline i.1 i.2) :
      HasOutline
        (['['] ++ first ++ (',' :: between).intercalate (items.map Prod.fst) ++ last ++ [']'])
        (.list (items.map Prod.snd))
  | mapping {members : List Member} {first between last : List Char}
      (hfirst : IsGap first) (hbetween : IsGap between) (hlast : IsGap last)
      (hnames : ∀ m ∈ members, Spells m.name m.units)
      (hvalues : ∀ m ∈ members, HasOutline m.value m.outline) :
      HasOutline
        (['\x7b'] ++ first ++
          (',' :: between).intercalate (members.map fun m => member (m.name, m.value)) ++ last ++
          ['\x7d'])
        (.object (members.map fun m => (m.units, m.outline)))

/-- In every mapping, members differ in their names. -/
inductive Outline.Distinct : Outline → Prop
  | leaf : Distinct .leaf
  | list {os : List Outline} (items : ∀ o ∈ os, Distinct o) : Distinct (.list os)
  | object {ms : List (List Nat × Outline)} (names : (ms.map Prod.fst).Nodup)
      (values : ∀ m ∈ ms, Distinct m.2) : Distinct (.object ms)

/-! ### Outlines of values -/

/-- The code units of the name that a key becomes, if it becomes one. -/
def keyUnits (k : Value) : List Nat :=
  match nameOf .line k with
  | .ok s => nameUnits s
  | .error _ => []

mutual

/-- The outline of what a value is written as. -/
def outline : Value → Outline
  | .list xs => .list (itemOutlines xs)
  | .tuple xs => .list (itemOutlines xs)
  | .mapping .plain es => .object (memberOutlines es)
  | .mapping .ordered es => .object (memberOutlines es)
  | _ => .leaf

/-- The outlines of items. -/
def itemOutlines : List Value → List Outline
  | [] => []
  | x :: xs => outline x :: itemOutlines xs

/-- The names of entries with the outlines of their values. -/
def memberOutlines : List (Value × Value) → List (List Nat × Outline)
  | [] => []
  | (k, v) :: es => (keyUnits k, outline v) :: memberOutlines es

end

/-- The name does not depend on the layout. -/
theorem keyUnits_eq {l : Layout} {k : Value} {s : String} (h : nameOf l k = .ok s) :
    keyUnits k = nameUnits s := by
  have hline : nameOf .line k = .ok s := by
    cases k with
    | null | bool | int | float | text => exact h
    | _ => cases h
  rw [keyUnits, hline]

variable {describe : Value → Except Error String} {l : Layout}

/-- What a text is written as has nothing in it. -/
theorem hasOutline_quoted (s : String) : HasOutline (quoted s).toList .leaf := by
  obtain ⟨cs, hcs, hquoted⟩ := exists_quoted_spells s
  rw [hquoted]
  exact .text hcs

theorem hasOutline_enclosed_list (depth : Nat) {items : List String} {os : List Outline}
    (h : ∃ is : List (List Char × Outline), items.map String.toList = is.map Prod.fst ∧
      os = is.map Prod.snd ∧ ∀ i ∈ is, HasOutline i.1 i.2) :
    HasOutline (l.enclosed "[" "]" depth items).toList (.list os) := by
  obtain ⟨front, between, back, hfront, hbetween, hback, heq⟩ :=
    l.exists_enclosed_eq "[" "]" depth items
  obtain ⟨is, hitems, rfl, his⟩ := h
  rw [heq, hitems]
  exact .list hfront hbetween hback his

theorem hasOutline_enclosed_mapping (depth : Nat) {items : List String}
    {os : List (List Nat × Outline)}
    (h : ∃ ms : List Member, items.map String.toList = (ms.map fun m => member (m.name, m.value)) ∧
      os = (ms.map fun m => (m.units, m.outline)) ∧ (∀ m ∈ ms, Spells m.name m.units) ∧
      ∀ m ∈ ms, HasOutline m.value m.outline) :
    HasOutline (l.enclosed "\x7b" "\x7d" depth items).toList (.object os) := by
  obtain ⟨front, between, back, hfront, hbetween, hback, heq⟩ :=
    l.exists_enclosed_eq "\x7b" "\x7d" depth items
  obtain ⟨ms, hitems, rfl, hnames, hvalues⟩ := h
  rw [heq, hitems]
  exact .mapping hfront hbetween hback hnames hvalues

/-- Induction along the containers of a value: items and members have their outlines, in order. -/
theorem hasOutline_writeAt_all :
    (∀ v depth s, writeAt describe l depth v = .ok s → HasOutline s.toList (outline v)) ∧
      (∀ xs depth ss, writeItems describe l depth xs = .ok ss →
        ∃ is : List (List Char × Outline), ss.map String.toList = is.map Prod.fst ∧
          itemOutlines xs = is.map Prod.snd ∧ ∀ i ∈ is, HasOutline i.1 i.2) ∧
      ∀ es depth ss, writeMembers describe l depth es = .ok ss →
        ∃ ms : List Member, ss.map String.toList = (ms.map fun m => member (m.name, m.value)) ∧
          memberOutlines es = (ms.map fun m => (m.units, m.outline)) ∧
          (∀ m ∈ ms, Spells m.name m.units) ∧ ∀ m ∈ ms, HasOutline m.value m.outline := by
  apply Value.walk_induction
  case list =>
    intro xs ih depth s h
    rw [writeAt] at h
    obtain ⟨items, hitems, rfl⟩ := exists_of_map_eq_ok h
    rw [outline]
    exact hasOutline_enclosed_list depth (ih _ _ hitems)
  case tuple =>
    intro xs ih depth s h
    rw [writeAt] at h
    obtain ⟨items, hitems, rfl⟩ := exists_of_map_eq_ok h
    rw [outline]
    exact hasOutline_enclosed_list depth (ih _ _ hitems)
  case mapping =>
    intro kind es ih depth s h
    have hmembers : ∀ {s}, (writeMembers describe l (depth + 1) es).map
        (l.enclosed "\x7b" "\x7d" depth) = .ok s →
          HasOutline s.toList (.object (memberOutlines es)) := by
      intro s h
      obtain ⟨items, hitems, rfl⟩ := exists_of_map_eq_ok h
      exact hasOutline_enclosed_mapping depth (ih _ _ hitems)
    cases kind with
    | plain =>
      rw [outline]
      exact hmembers (by rwa [writeAt] at h)
    | ordered =>
      rw [outline]
      exact hmembers (by rwa [writeAt] at h)
    | custom =>
      obtain ⟨text, -, rfl⟩ := exists_of_map_eq_ok (f := quoted) h
      exact hasOutline_quoted text
  case scalar =>
    intro v hv depth s h
    cases v with
    | list xs => cases hv
    | tuple xs => cases hv
    | mapping kind es => cases hv
    | null => cases h; exact .word (by decide)
    | bool b => cases h; cases b <;> exact .word (by decide)
    | int n => exact .number (isNumber_intText (by rwa [writeAt] at h))
    | float x =>
      cases h
      rcases floatText_mem_words_or_isNumber x with hword | hnumber
      · exact .word hword
      · exact .number hnumber
    | text | bytes | date | moment =>
      rw [writeAt] at h
      rw [← Except.ok.inj h]
      exact hasOutline_quoted _
    | _ =>
      obtain ⟨text, -, rfl⟩ := exists_of_map_eq_ok (f := quoted) h
      exact hasOutline_quoted text
  case noItem =>
    intro depth ss h
    cases h
    exact ⟨[], rfl, rfl, nofun⟩
  case item =>
    intro x xs ihx ihxs depth ss h
    rw [writeItems] at h
    obtain ⟨s, hs, h⟩ := exists_of_bind_eq_ok h
    obtain ⟨rest, hrest, h⟩ := exists_of_bind_eq_ok h
    cases h
    obtain ⟨is, hitems, houtlines, his⟩ := ihxs _ _ hrest
    refine ⟨(s.toList, outline x) :: is, ?_, ?_, List.forall_mem_cons.2 ⟨ihx _ _ hs, his⟩⟩
    · rw [List.map_cons, List.map_cons, hitems]
    · rw [itemOutlines, houtlines, List.map_cons]
  case noEntry =>
    intro depth ss h
    cases h
    exact ⟨[], rfl, rfl, nofun, nofun⟩
  case entry =>
    intro k v es ihv ihes depth ss h
    rw [writeMembers] at h
    obtain ⟨name, hname, h⟩ := exists_of_bind_eq_ok h
    obtain ⟨s, hs, h⟩ := exists_of_bind_eq_ok h
    obtain ⟨rest, hrest, h⟩ := exists_of_bind_eq_ok h
    cases h
    obtain ⟨ms, hitems, houtlines, hnames, hvalues⟩ := ihes _ _ hrest
    obtain ⟨cs, hcs, hquoted⟩ := exists_quoted_spells name
    refine ⟨⟨cs, nameUnits name, s.toList, outline v⟩ :: ms, ?_, ?_,
      List.forall_mem_cons.2 ⟨hcs, hnames⟩, List.forall_mem_cons.2 ⟨ihv _ _ hs, hvalues⟩⟩
    · rw [List.map_cons, List.map_cons, hitems, String.toList_append, String.toList_append, hquoted]
      simp [member]
    · rw [memberOutlines, houtlines, List.map_cons, keyUnits_eq hname]

/-- **What is written has the outline of the value.** -/
theorem hasOutline_writeWith {v : Value} {text : String} (h : writeWith describe l v = .ok text) :
    HasOutline text.toList (outline v) :=
  hasOutline_writeAt_all.1 v 0 text h

/-- A document with an outline is a document. -/
theorem HasOutline.isDocument {cs : List Char} {o : Outline} (h : HasOutline cs o) :
    IsDocument cs := by
  induction h with
  | word hcs => exact .word hcs
  | number hcs => exact .number hcs
  | text hcs => exact .text hcs.inQuotes
  | list hfirst hbetween hlast hitems ih =>
    refine .list hfirst hbetween hlast fun s hs => ?_
    obtain ⟨i, hi, rfl⟩ := List.mem_map.1 hs
    exact ih i hi
  | @mapping members first between last hfirst hbetween hlast hnames hvalues ih =>
    have hmembers : (members.map fun m => member (m.name, m.value)) =
        (members.map fun m => (m.name, m.value)).map member := by rw [List.map_map]; rfl
    rw [hmembers]
    refine .mapping hfirst hbetween hlast (fun p hp => ?_) fun p hp => ?_
    · obtain ⟨m, hm, rfl⟩ := List.mem_map.1 hp
      exact (hnames m hm).inQuotes
    · obtain ⟨m, hm, rfl⟩ := List.mem_map.1 hp
      exact ih m hm

/-- **What is written is a document.** -/
theorem isDocument_writeWith {v : Value} {text : String} (h : writeWith describe l v = .ok text) :
    IsDocument text.toList := (hasOutline_writeWith h).isDocument

/-! ### What can be written -/

/-- A key that becomes a name. -/
def IsKey (k : Value) : Prop := IsLeaf k ∨ ∃ s, k = .text s

/-- A part of a value can be written: an object, as the text that is made of it. -/
def IsWritten (describe : Value → Except Error String) : Value → Prop
  | .int n => IsShort n
  | .mapping _ es => ∀ k ∈ Entries.keys es, IsKey k
  | .null | .bool _ | .float _ | .text _ | .bytes _ | .date _ | .moment _ => True
  | .list _ | .tuple _ => True
  | v => ∃ s, describe v = .ok s

/-- The errors of writing. -/
inductive IsWriteError (describe : Value → Except Error String) : Error → Prop
  | key (typeName : String) : IsWriteError describe (.keyNotWritable typeName)
  | int : IsWriteError describe .tooLargeToWrite
  | text {v : Value} {e : Error} (h : describe v = .error e) : IsWriteError describe e

/-- There is a result if the condition holds, and otherwise an error of writing. -/
def WritesIf (describe : Value → Except Error String) {α : Type} (c : Prop) (r : Except Error α) :
    Prop :=
  (∃ a, r = .ok a ∧ c) ∨ ∃ e, r = .error e ∧ IsWriteError describe e ∧ ¬ c

namespace WritesIf

variable {α β : Type} {c d : Prop} {r : Except Error α}

theorem ok (hc : c) (a : α) : WritesIf describe c (.ok a) := .inl ⟨a, rfl, hc⟩

theorem error {e : Error} (he : IsWriteError describe e) (hc : ¬ c) :
    WritesIf describe c (.error e : Except Error α) := .inr ⟨e, rfl, he, hc⟩

theorem congr (h : WritesIf describe c r) (hcd : c ↔ d) : WritesIf describe d r :=
  propext hcd ▸ h

theorem map (h : WritesIf describe c r) (f : α → β) : WritesIf describe c (r.map f) := by
  rcases h with ⟨a, rfl, hc⟩ | ⟨e, rfl, he, hc⟩
  · exact .ok hc (f a)
  · exact .error he hc

theorem bind {f : α → Except Error β} (h : WritesIf describe c r)
    (hf : ∀ a, WritesIf describe d (f a)) : WritesIf describe (c ∧ d) (r >>= f) := by
  rcases h with ⟨a, rfl, hc⟩ | ⟨e, rfl, he, hc⟩
  · exact (hf a).congr ⟨fun hd => ⟨hc, hd⟩, And.right⟩
  · exact .error he fun h => hc h.1

end WritesIf

theorem writesIf_intText (n : Int) : WritesIf describe (IsShort n) (intText n) := by
  unfold intText
  by_cases hlong : Error.digitLimit < (toString n.natAbs).length
  · simp only [hlong, if_true]
    exact .error .int (Nat.not_le.2 hlong)
  · simp only [hlong, if_false]
    exact .ok (Nat.not_lt.1 hlong) _

theorem writesIf_nameOf (l : Layout) (k : Value) :
    WritesIf describe (IsKey k) (nameOf l k) := by
  cases k with
  | null => exact .ok (.inl .null) _
  | bool b => exact .ok (.inl (.bool b)) _
  | float x => exact .ok (.inl (.float x)) _
  | text s => exact .ok (.inr ⟨s, rfl⟩) _
  | int n =>
    refine (writesIf_intText n).congr ⟨fun h => .inl (.int h), fun h => ?_⟩
    rcases h with h | ⟨s, hs⟩
    · cases h with
      | int hshort => exact hshort
    · cases hs
  | _ =>
    refine .error (.key _) ?_
    rintro (h | ⟨s, hs⟩)
    · cases h
    · cases hs

theorem writesIf_describe (v : Value) :
    WritesIf describe (∃ s, describe v = .ok s) ((describe v).map quoted) := by
  cases h : describe v with
  | ok s => exact .ok ⟨s, rfl⟩ _
  | error e =>
    refine .error (.text h) ?_
    rintro ⟨s, hs⟩
    cases hs

/-- **What can be written**: a collection without integers that are too long, without keys that
become no names and without values that no text can be made of. -/
theorem writesIf_writeAt :
    (∀ v : Value, v.Everywhere Value.IsUsual → ∀ depth,
      WritesIf describe (v.Everywhere (IsWritten describe)) (writeAt describe l depth v)) ∧
    (∀ xs : List Value, (∀ x ∈ xs, x.Everywhere Value.IsUsual) → ∀ depth,
      WritesIf describe (∀ x ∈ xs, x.Everywhere (IsWritten describe))
        (writeItems describe l depth xs)) ∧
    ∀ es : List (Value × Value), (∀ e ∈ es, e.2.Everywhere Value.IsUsual) → ∀ depth,
      WritesIf describe
        ((∀ k ∈ Entries.keys es, IsKey k) ∧ ∀ e ∈ es, e.2.Everywhere (IsWritten describe))
        (writeMembers describe l depth es) := by
  apply Value.walk_induction
  case list =>
    intro xs ih h depth
    rw [writeAt]
    refine ((ih h.of_list _).map _).congr ?_
    rw [Everywhere.list_iff]
    exact ⟨fun h => ⟨trivial, h⟩, And.right⟩
  case tuple =>
    intro xs ih h depth
    rw [writeAt]
    refine ((ih h.of_tuple _).map _).congr ?_
    rw [Everywhere.tuple_iff]
    exact ⟨fun h => ⟨trivial, h⟩, And.right⟩
  case mapping =>
    intro kind es ih h depth
    obtain ⟨rfl, -⟩ := h.here
    rw [writeAt]
    refine ((ih h.of_mapping _).map _).congr ?_
    rw [Everywhere.mapping_iff]
    rfl
  case scalar =>
    intro v hv h depth
    rw [Everywhere.scalar_iff hv]
    cases v with
    | list xs => cases hv
    | tuple xs => cases hv
    | mapping kind es => cases hv
    | int n =>
      rw [writeAt]
      exact writesIf_intText n
    | null | bool | float | text | bytes | date | moment => exact .ok trivial _
    | _ => exact writesIf_describe _
  case noItem => exact fun _ _ => .ok nofun _
  case item =>
    intro x xs ihx ihxs h depth
    obtain ⟨hx, hxs⟩ := List.forall_mem_cons.1 h
    rw [writeItems]
    refine ((ihx hx depth).bind fun s => (ihxs hxs depth).bind fun ss => .ok trivial _).congr ?_
    rw [List.forall_mem_cons, and_true]
  case noEntry => exact fun _ _ => .ok ⟨nofun, nofun⟩ _
  case entry =>
    intro k v es ihv ihes h depth
    obtain ⟨hv, hes⟩ := List.forall_mem_cons.1 h
    rw [writeMembers]
    refine ((writesIf_nameOf l k).bind fun name => (ihv hv depth).bind fun s =>
      (ihes hes depth).bind fun ss => .ok trivial _).congr ?_
    have hkeys : Entries.keys ((k, v) :: es) = k :: Entries.keys es := rfl
    rw [hkeys, List.forall_mem_cons, List.forall_mem_cons, and_true]
    exact ⟨fun ⟨hk, hv, hks, hvs⟩ => ⟨⟨hk, hks⟩, hv, hvs⟩,
      fun ⟨⟨hk, hks⟩, hv, hvs⟩ => ⟨hk, hv, hks, hvs⟩⟩

/-- A tuple is written as a list. -/
theorem writeAt_listed :
    (∀ v : Value, v.Everywhere Value.IsUsual → ∀ depth,
      writeAt describe l depth v.listed = writeAt describe l depth v) ∧
    (∀ xs : List Value, (∀ x ∈ xs, x.Everywhere Value.IsUsual) → ∀ depth,
      writeItems describe l depth (Value.listedItems xs) = writeItems describe l depth xs) ∧
    ∀ es : List (Value × Value), (∀ e ∈ es, e.2.Everywhere Value.IsUsual) → ∀ depth,
      writeMembers describe l depth (Value.listedEntries es) =
        writeMembers describe l depth es := by
  apply Value.walk_induction
  case list =>
    intro xs ih h depth
    rw [Value.listed, writeAt, writeAt, ih h.of_list]
  case tuple =>
    intro xs ih h depth
    rw [Value.listed, writeAt, writeAt, ih h.of_tuple]
  case mapping =>
    intro kind es ih h depth
    obtain ⟨rfl, -⟩ := h.here
    rw [Value.listed, writeAt, writeAt, ih h.of_mapping]
  case scalar =>
    intro v hv _ depth
    rw [Value.listed_of_scalar hv]
  case noItem => exact fun _ _ => rfl
  case item =>
    intro x xs ihx ihxs h depth
    obtain ⟨hx, hxs⟩ := List.forall_mem_cons.1 h
    rw [Value.listedItems, writeItems, writeItems, ihx hx, ihxs hxs]
  case noEntry => exact fun _ _ => rfl
  case entry =>
    intro k v es ihv ihes h depth
    obtain ⟨hv, hes⟩ := List.forall_mem_cons.1 h
    rw [Value.listedEntries, writeMembers, writeMembers, ihv hv, ihes hes]

/-! ### Names that differ -/

/-- No two keys of a mapping become the same name. -/
def KeysTold : Value → Prop
  | .mapping _ es => ((Entries.keys es).map keyUnits).Nodup
  | _ => True

theorem Outline.distinct_list_iff {os : List Outline} :
    (Outline.list os).Distinct ↔ ∀ o ∈ os, o.Distinct := by
  refine ⟨fun h => ?_, .list⟩
  cases h with
  | list items => exact items

theorem Outline.distinct_object_iff {ms : List (List Nat × Outline)} :
    (Outline.object ms).Distinct ↔ (ms.map Prod.fst).Nodup ∧ ∀ m ∈ ms, m.2.Distinct := by
  refine ⟨fun h => ?_, fun h => .object h.1 h.2⟩
  cases h with
  | object names values => exact ⟨names, values⟩

/-- **Members differ in their names where keys do.** -/
theorem distinct_outline_iff :
    (∀ v : Value, v.Everywhere Value.IsUsual →
      ((outline v).Distinct ↔ v.Everywhere KeysTold)) ∧
    (∀ xs : List Value, (∀ x ∈ xs, x.Everywhere Value.IsUsual) →
      ((∀ o ∈ itemOutlines xs, o.Distinct) ↔ ∀ x ∈ xs, x.Everywhere KeysTold)) ∧
    ∀ es : List (Value × Value), (∀ e ∈ es, e.2.Everywhere Value.IsUsual) →
      (memberOutlines es).map Prod.fst = (Entries.keys es).map keyUnits ∧
      ((∀ m ∈ memberOutlines es, m.2.Distinct) ↔ ∀ e ∈ es, e.2.Everywhere KeysTold) := by
  apply Value.walk_induction
  case list =>
    intro xs ih h
    rw [outline, Outline.distinct_list_iff, Everywhere.list_iff, ih h.of_list]
    exact ⟨fun h => ⟨trivial, h⟩, And.right⟩
  case tuple =>
    intro xs ih h
    rw [outline, Outline.distinct_list_iff, Everywhere.tuple_iff, ih h.of_tuple]
    exact ⟨fun h => ⟨trivial, h⟩, And.right⟩
  case mapping =>
    intro kind es ih h
    obtain ⟨rfl, -⟩ := h.here
    obtain ⟨hnames, hvalues⟩ := ih h.of_mapping
    rw [outline, Outline.distinct_object_iff, Everywhere.mapping_iff, hnames, hvalues]
    rfl
  case scalar =>
    intro v hv h
    rw [Everywhere.scalar_iff hv]
    cases v with
    | list xs => cases hv
    | tuple xs => cases hv
    | mapping kind es => cases hv
    | _ => exact iff_of_true .leaf trivial
  case noItem => exact fun _ => iff_of_true nofun nofun
  case item =>
    intro x xs ihx ihxs h
    obtain ⟨hx, hxs⟩ := List.forall_mem_cons.1 h
    rw [itemOutlines, List.forall_mem_cons, List.forall_mem_cons, ihx hx, ihxs hxs]
  case noEntry => exact fun _ => ⟨rfl, iff_of_true nofun nofun⟩
  case entry =>
    intro k v es ihv ihes h
    obtain ⟨hv, hes⟩ := List.forall_mem_cons.1 h
    obtain ⟨hnames, hvalues⟩ := ihes hes
    rw [memberOutlines, List.forall_mem_cons, List.forall_mem_cons, ihv hv, hvalues, List.map_cons,
      hnames]
    exact ⟨rfl, Iff.rfl⟩

end Json
end KeyCall
