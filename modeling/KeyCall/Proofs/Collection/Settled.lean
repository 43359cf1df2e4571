import Mathlib
import KeyCall.Proofs.Collection.Meaning
import KeyCall.Proofs.Template.Reading

/-!
# Processed collections

A collection is settled if there is nothing left in it to process: its lists and mappings are of the
usual kinds, no mapping holds a key twice, and a key that looks like a template is over a nested
collection, where it is not read.  Whoever walks over a settled collection gives it back, makes no
call and records nothing.

Processing settles a collection unless a call answers with a collection of its own, which is taken as
it is.  Of what else comes out, only a key that was over a nested collection can start with the
sentinel: an output key is a word.  Since such a key is over nothing else, it stays over a collection
however entries overwrite each other.

## Main definitions

* `KeysRead` — the templates among the keys of entries can be read.
* `Value.SettledEntry` — a key that looks like a template is over a collection.
* `Value.Settled` — there is nothing left to process.

## Main results

* `Value.settled_filled` — what scalar answers make of a collection is settled.
* `Handler.processNested_of_settled` — a settled collection is given back.
* `processCollection_settles` — **what comes out of a collection has no templates, and is given back
  by every dispatcher.**
-/

namespace KeyCall

/-! ### Keys that are read -/

/-- An output key is no template. -/
theorem isTemplateKey_outkey {s : String} {t : Template} (ht : Template.match? s = some t) :
    isTemplateKey (.text t.outkey) = false := by
  obtain ⟨c, hwf, -, rfl⟩ := Template.match?_eq_some_iff.1 ht
  have hout : c.template.outkey.toList = c.outkey := String.toList_ofList
  rw [isTemplateKey, isTemplateText, hout]
  cases hc : c.outkey with
  | nil => rfl
  | cons d l =>
    -- The sentinel is no word character.
    have hd : Text.isWord d = true := hwf.outkey.2 d (by rw [hc]; exact List.mem_cons_self)
    have hne : d ≠ sentinel := by
      rintro rfl
      exact absurd hd (by decide)
    simpa using hne

/-- The templates among the keys of entries can be read. -/
def KeysRead (es : List (Value × Value)) : Prop :=
  ∀ text ∈ templateTexts es, ∃ t, Template.match? text = some t

theorem keysRead_append {es fs : List (Value × Value)} :
    KeysRead (es ++ fs) ↔ KeysRead es ∧ KeysRead fs := by
  simp only [KeysRead, templateTexts_append, List.mem_append, or_imp, forall_and]

/-- The key that a readable scalar entry resolves to is no template. -/
theorem isTemplateKey_resolvedKey {k v : Value} (hv : v.isCollection = false)
    (hk : KeysRead [(k, v)]) : isTemplateKey (resolvedKey k v) = false := by
  rw [resolvedKey, hv]
  cases htext : templateText? k with
  | none => exact templateText?_eq_none_iff.1 htext
  | some text =>
    have hmem : text ∈ templateTexts [(k, v)] := by
      rw [templateTexts_singleton, htext]
      exact List.mem_singleton_self text
    obtain ⟨t, ht⟩ := hk text hmem
    rw [Option.bind_some, ht]
    exact isTemplateKey_outkey ht

namespace Value

/-! ### Settled collections -/

/-- A key that looks like a template is over a collection. -/
def SettledEntry (e : Value × Value) : Prop := isTemplateKey e.1 = true → e.2.isCollection = true

mutual

/-- There is nothing left to process. -/
def Settled : Value → Prop
  | .list xs => SettledItems xs
  | .tuple _ => False
  | .mapping kind es => kind = .plain ∧ Entries.KeysApart sameKey es ∧ SettledEntries es
  | _ => True

/-- There is nothing left to process under the items. -/
def SettledItems : List Value → Prop
  | [] => True
  | x :: xs => Settled x ∧ SettledItems xs

/-- There is nothing left to process among and under the entries. -/
def SettledEntries : List (Value × Value) → Prop
  | [] => True
  | (k, v) :: es => SettledEntry (k, v) ∧ Settled v ∧ SettledEntries es

end

theorem SettledEntry.isTemplateKey_eq_false {k v : Value} (h : SettledEntry (k, v))
    (hv : v.isCollection = false) : isTemplateKey k = false := by
  rw [← Bool.not_eq_true]
  intro hk
  rw [h hk] at hv
  cases hv

theorem settled_of_scalar {v : Value} (hv : v.isCollection = false) : v.Settled := by
  cases v with
  | list xs => exact Bool.noConfusion hv
  | tuple xs => exact Bool.noConfusion hv
  | mapping kind es => exact Bool.noConfusion hv
  | _ => trivial

theorem settledEntries_iff {es : List (Value × Value)} :
    SettledEntries es ↔ ∀ e ∈ es, SettledEntry e ∧ e.2.Settled := by
  induction es with
  | nil => exact iff_of_true trivial fun e he => absurd he List.not_mem_nil
  | cons e es ih =>
    obtain ⟨k, v⟩ := e
    rw [SettledEntries, ih, List.forall_mem_cons, and_assoc]

/-! ### What processing gives -/

theorem isCollection_filled (v : Value) (answers : List Value) :
    (v.filled answers).isCollection = v.isCollection := by
  cases v with
  | _ => rfl

/-- Of entries merged by their keys, a template-like key takes the value of an entry of its own. -/
theorem settledEntries_merged {es : List (Value × Value)} (h : SettledEntries es) :
    SettledEntries (Entries.merged sameKey es) := by
  rw [settledEntries_iff] at h ⊢
  rintro ⟨k, v⟩ hmem
  obtain ⟨-, k', hk', hsame⟩ := Entries.mem_merged hmem
  refine ⟨fun hk => ?_, (h _ hk').2⟩
  cases k with
  | text s =>
    have heq : k' = .text s := hsame.elim id sameKey_text_left.1
    subst heq
    exact (h _ hk').1 hk
  | _ => exact Bool.noConfusion hk

/-- **What scalar answers make of a collection is settled.** -/
theorem settled_filled :
    (∀ v : Value, KeysRead v.scalarEntries → ∀ answers : List Value,
      (∀ a ∈ answers, a.isCollection = false) → (v.filled answers).Settled) ∧
    (∀ xs, KeysRead (scalarEntriesOfItems xs) → ∀ answers : List Value,
      (∀ a ∈ answers, a.isCollection = false) → SettledItems (filledItems xs answers)) ∧
    ∀ es, KeysRead (scalarEntriesOfEntries es) → ∀ answers : List Value,
      (∀ a ∈ answers, a.isCollection = false) → SettledEntries (filledEntries es answers) := by
  have htake : ∀ {answers : List Value} (n : Nat), (∀ a ∈ answers, a.isCollection = false) →
      ∀ a ∈ answers.take n, a.isCollection = false :=
    fun n h a ha => h a (List.mem_of_mem_take ha)
  have hdrop : ∀ {answers : List Value} (n : Nat), (∀ a ∈ answers, a.isCollection = false) →
      ∀ a ∈ answers.drop n, a.isCollection = false :=
    fun n h a ha => h a (List.mem_of_mem_drop ha)
  refine walk_induction
    (P := fun v => KeysRead v.scalarEntries → ∀ answers : List Value,
      (∀ a ∈ answers, a.isCollection = false) → (v.filled answers).Settled)
    (Q := fun xs => KeysRead (scalarEntriesOfItems xs) → ∀ answers : List Value,
      (∀ a ∈ answers, a.isCollection = false) → SettledItems (filledItems xs answers))
    (R := fun es => KeysRead (scalarEntriesOfEntries es) → ∀ answers : List Value,
      (∀ a ∈ answers, a.isCollection = false) → SettledEntries (filledEntries es answers))
    ?list ?tuple ?mapping ?scalar ?noItem ?item ?noEntry ?entry
  case list => exact fun xs ih hread answers ha => ih hread answers ha
  case tuple => exact fun xs ih hread answers ha => ih hread answers ha
  case mapping =>
    intro kind es ih hread answers ha
    exact ⟨rfl, Entries.keysApart_merged _, settledEntries_merged (ih hread answers ha)⟩
  case scalar =>
    intro v hv _ answers _
    rw [filled_of_scalar hv]
    exact settled_of_scalar hv
  case noItem => exact fun _ _ _ => trivial
  case item =>
    intro x xs hx hxs hread answers ha
    obtain ⟨hreadx, hreadxs⟩ := keysRead_append.1 hread
    exact ⟨hx hreadx _ (htake _ ha), hxs hreadxs _ (hdrop _ ha)⟩
  case noEntry => exact fun _ _ _ => trivial
  case entry =>
    intro k v es hv hes hread answers ha
    rw [scalarEntriesOfEntries_cons, keysRead_append] at hread
    obtain ⟨hreadv, hreades⟩ := hread
    rw [filledEntries]
    by_cases hc : v.isCollection = true
    · rw [scalarEntriesOfEntry_of_collection k hc] at hreadv ⊢
      rw [if_pos hc]
      refine ⟨fun _ => ?_, hv hreadv _ (htake _ ha), hes hreades _ (hdrop _ ha)⟩
      rw [isCollection_filled]
      exact hc
    · have hs : v.isCollection = false := by simpa using hc
      rw [scalarEntriesOfEntry_of_scalar k hs] at hreadv ⊢
      rw [if_neg hc]
      -- The entry holds the answer to it, or else its own value.
      have hvalue : ((answers.take (templateCount [(k, v)])).headD v).isCollection = false := by
        cases htaken : answers.take (templateCount [(k, v)]) with
        | nil => exact hs
        | cons a own =>
          have hmem : a ∈ answers.take (templateCount [(k, v)]) := by
            rw [htaken]
            exact List.mem_cons_self
          exact ha a (List.mem_of_mem_take hmem)
      refine ⟨fun hk => ?_, settled_of_scalar hvalue, hes hreades _ (hdrop _ ha)⟩
      rw [isTemplateKey_resolvedKey hs hreadv] at hk
      cases hk

/-! ### Walking over a settled collection -/

/-- There is no template among the scalar entries of a settled collection. -/
theorem templateTexts_of_settled :
    (∀ v : Value, v.Settled → templateTexts v.scalarEntries = []) ∧
    (∀ xs, SettledItems xs → templateTexts (scalarEntriesOfItems xs) = []) ∧
    ∀ es, SettledEntries es → templateTexts (scalarEntriesOfEntries es) = [] := by
  refine walk_induction
    (P := fun v => v.Settled → templateTexts v.scalarEntries = [])
    (Q := fun xs => SettledItems xs → templateTexts (scalarEntriesOfItems xs) = [])
    (R := fun es => SettledEntries es → templateTexts (scalarEntriesOfEntries es) = [])
    ?list ?tuple ?mapping ?scalar ?noItem ?item ?noEntry ?entry
  case list => exact fun xs ih hx => ih hx
  case tuple => exact fun xs ih hx => hx.elim
  case mapping => exact fun kind es ih hx => ih hx.2.2
  case scalar =>
    intro v hv _
    rw [scalarEntries_of_scalar hv]
    rfl
  case noItem => exact fun _ => rfl
  case item =>
    intro x xs hx hxs hset
    rw [scalarEntriesOfItems, templateTexts_append, hx hset.1, hxs hset.2, List.append_nil]
  case noEntry => exact fun _ => rfl
  case entry =>
    intro k v es hv hes hset
    obtain ⟨hentry, hsetv, hsetes⟩ := hset
    rw [scalarEntriesOfEntries_cons, templateTexts_append, hes hsetes, List.append_nil]
    by_cases hc : v.isCollection = true
    · rw [scalarEntriesOfEntry_of_collection k hc, hv hsetv]
    · have hs : v.isCollection = false := by simpa using hc
      have hk : templateText? k = none :=
        templateText?_eq_none_iff.2 (hentry.isTemplateKey_eq_false hs)
      rw [scalarEntriesOfEntry_of_scalar k hs, templateTexts_singleton, hk]
      rfl

/-- Validation finds nothing in a settled collection. -/
theorem validateCollection_of_settled {v : Value} (hc : v.isCollection = true) (hv : v.Settled) :
    validateCollection v = .ok [] := by
  have hnone := templateTexts_of_settled.1 v hv
  refine validateCollection_eq_ok_iff.2 ⟨isIterable_of_isCollection hc, ?_, hnone.symm⟩
  rw [hnone]
  exact fun s hs => absurd hs List.not_mem_nil

end Value

/-- **A settled collection is given back**, without a call and without a record. -/
theorem Handler.processNested_of_settled {σ : Type} (h : Handler σ) :
    (∀ v : Value, v.Settled → h.processNested v = pure v) ∧
    (∀ xs, Value.SettledItems xs → h.processItems xs = pure xs) ∧
    ∀ es, Value.SettledEntries es → ∀ out, Entries.KeysApart Value.sameKey (out ++ es) →
      h.processEntries out es = pure (out ++ es) := by
  refine Value.walk_induction
    (P := fun v => v.Settled → h.processNested v = pure v)
    (Q := fun xs => Value.SettledItems xs → h.processItems xs = pure xs)
    (R := fun es => Value.SettledEntries es → ∀ out,
      Entries.KeysApart Value.sameKey (out ++ es) → h.processEntries out es = pure (out ++ es))
    ?list ?tuple ?mapping ?scalar ?noItem ?item ?noEntry ?entry
  case list =>
    intro xs ih hset
    rw [Handler.processNested, ih hset, pure_bind]
  case tuple => exact fun xs ih hset => hset.elim
  case mapping =>
    intro kind es ih hset
    obtain ⟨rfl, hapart, hes⟩ := hset
    rw [Handler.processNested, ih hes [] hapart, pure_bind]
    rfl
  case scalar => exact fun v hv _ => Handler.processNested_of_scalar h hv
  case noItem => exact fun _ => rfl
  case item =>
    intro x xs hx hxs hset
    rw [Handler.processItems, hx hset.1, pure_bind, hxs hset.2, pure_bind]
  case noEntry =>
    intro _ out _
    rw [List.append_nil]
    rfl
  case entry =>
    intro k v es hv hes hset out hapart
    obtain ⟨hentry, hsetv, hsetes⟩ := hset
    have hmove : out ++ (k, v) :: es = out ++ [(k, v)] ++ es := by simp
    -- No key of the output is that of the entry, so the entry is appended and nothing overwritten.
    have hnew : Entries.has Value.sameKey out k = false :=
      Entries.has_eq_false_iff.2 fun e he =>
        (Entries.keysApart_append.1 hapart).2.2 e he (k, v) List.mem_cons_self
    have hput : Value.putEntry out k v = out ++ [(k, v)] := Entries.put_of_has_eq_false hnew v
    rw [hmove] at hapart
    rw [Handler.processEntries, hmove]
    by_cases hc : v.isCollection = true
    · rw [if_pos hc, hv hsetv, pure_bind, hput]
      exact hes hsetes _ hapart
    · have hs : v.isCollection = false := by simpa using hc
      have hk : isTemplateKey k = false := hentry.isTemplateKey_eq_false hs
      rw [if_neg hc, Handler.process_of_not_template h v hk, pure_bind]
      simp only [hnew, hput]
      exact hes hsetes _ hapart

theorem Handler.processCollection_of_settled {σ : Type} (h : Handler σ) {v : Value}
    (hc : v.isCollection = true) (hv : v.Settled) : h.processCollection v = pure v := by
  rw [Handler.processCollection_eq_processNested h hc]
  exact h.processNested_of_settled.1 v hv

/-! ### Processing -/

/-- **Processing leaves no template behind.**  If no dispatched call answers with a collection, then
validation finds nothing in what comes out, and every dispatcher gives it back as it is, dispatches
nothing and leaves the host and the log alone. -/
theorem processCollection_settles {σ : Type} (d : Dispatcher σ) {c o : Value}
    (hc : c.isCollection = true) (s : Stage σ)
    (ho : ((d.processCollection c).run s).1 = .ok o)
    (hscalar : ∀ x ∈ d.handler.dispatches c s, ∀ w, x.outcome = .ok w → w.isCollection = false) :
    validateCollection o = .ok [] ∧
      ∀ {τ : Type} (d' : Dispatcher τ) (s' : Stage τ),
        (d'.processCollection o).run s' = (.ok o, s') ∧ d'.handler.dispatches o s' = [] := by
  change ((d.handler.processCollection c).run s).1 = .ok o at ho
  have htrail := (d.handler.watched_processCollection (Value.isIterable_of_isCollection hc) s).2
  rw [ho] at htrail
  obtain ⟨answers, hout, rfl⟩ := d.handler.exists_answers hc ho
  have hanswers : ∀ a ∈ answers, a.isCollection = false := by
    intro a ha
    have hmem : Except.ok a ∈ answers.map (Except.ok (ε := Error)) := List.mem_map_of_mem ha
    rw [← hout] at hmem
    obtain ⟨x, hx, hxa⟩ := List.mem_map.1 hmem
    exact hscalar x hx a hxa
  -- Every template has been dispatched, and so it has been read.
  have hread : KeysRead c.scalarEntries := by
    intro text htext
    rw [templateTexts, ← htrail.entries_eq, List.map_map] at htext
    obtain ⟨x, hx, rfl⟩ := List.mem_map.1 htext
    have hparse := (htrail.genuine x hx).1
    cases hm : Template.match? x.key with
    | none =>
      rw [Template.parse, hm] at hparse
      cases hparse
    | some t => exact ⟨t, hm⟩
  have hsettled : (c.filled answers).Settled := Value.settled_filled.1 c hread answers hanswers
  have hcoll : (c.filled answers).isCollection = true := by rw [Value.isCollection_filled, hc]
  refine ⟨Value.validateCollection_of_settled hcoll hsettled, fun d' s' => ⟨?_, ?_⟩⟩
  · rw [Dispatcher.processCollection, d'.handler.processCollection_of_settled hcoll hsettled]
    rfl
  · rw [Handler.dispatches, d'.handler.watched.processCollection_of_settled hcoll hsettled]
    rfl

/-- Rows in which a plain entry and a template go to one key, and a key that is a template is over a
tuple. -/
def unsettledRow : Value :=
  .mapping .ordered
    [(.text "$\x7bgo(?)\x7d:a", .int 7), (.text "a", .list []),
      (.text "$\x7bgo()\x7d:b", .tuple [.mapping .custom [(.text "$\x7bgo(?)\x7d:c", .null)]]),
      (.text "b", .int 1), (.text "$\x7bgo( )\x7d:b", .text "$")]

/-- What comes out has a key that looks like a template, and is given back even so. -/
theorem processCollection_settles_of_collision :
    let o : Value := .mapping .plain
      [(.text "a", .list []),
        (.text "$\x7bgo()\x7d:b", .list [.mapping .plain [(.text "c", .int 1)]]),
        (.text "b", .int 2)]
    unsettledRow.isCollection = true ∧
      ((countingDispatcher.processCollection unsettledRow).run ⟨0, []⟩).1 = .ok o ∧
      (∀ x ∈ countingDispatcher.handler.dispatches unsettledRow ⟨0, []⟩,
        ∀ w, x.outcome = .ok w → w.isCollection = false) ∧
      validateCollection o = .ok [] ∧
      (countingDispatcher.processCollection o).run ⟨3, []⟩ = (.ok o, ⟨3, []⟩) := by
  intro o
  have ho : ((countingDispatcher.processCollection unsettledRow).run ⟨0, []⟩).1 = .ok o := by cbv
  have houtcomes : (countingDispatcher.handler.dispatches unsettledRow ⟨0, []⟩).map
      Dispatch.outcome = [Value.int 0, .int 1, .int 2].map .ok := by cbv
  have hscalar : ∀ x ∈ countingDispatcher.handler.dispatches unsettledRow ⟨0, []⟩,
      ∀ w, x.outcome = .ok w → w.isCollection = false := by
    intro x hx w hw
    have hmem := List.mem_map_of_mem (f := Dispatch.outcome) hx
    rw [houtcomes, hw] at hmem
    obtain ⟨n, hn, heq⟩ := List.mem_map.1 hmem
    cases heq
    simp only [List.mem_cons, List.not_mem_nil, or_false] at hn
    rcases hn with rfl | rfl | rfl <;> rfl
  obtain ⟨hvalid, hback⟩ :=
    processCollection_settles countingDispatcher (c := unsettledRow) rfl ⟨0, []⟩ ho hscalar
  exact ⟨rfl, ho, hscalar, hvalid, (hback countingDispatcher ⟨3, []⟩).1⟩

end KeyCall
