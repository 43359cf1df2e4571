import KeyCall.Proofs.Dispatch.SideBySide
import KeyCall.Proofs.Template.Property
import KeyCall.Proofs.Template.Spacing
import KeyCall.Proofs.Template.Unambiguous

/-!
# Trimmed pieces and what is bound

A key is cut into pieces, and the pieces are trimmed before a template is made of them; a parameter
list of blanks is dropped altogether.  Both lists are cut at their commas later, and there each
entry is trimmed for itself.  The first trimming only does in advance what the second would do to
the first entry and to the last one.  What is dropped has no arguments.  So the binder may as well
be handed the pieces as they were cut.

## Main definitions

* `Cut.untrimmed` — the template of a cut with its lists as they were cut.

## Main results

* `Cut.bind_params_untrimmed`, `Cut.pairs_untrimmed` — the two lists of a cut.
* `Dispatcher.invoke_untrimmed` — the call of a cut.
* `Template.trimming_keeps_bound` — **trimming does not change what is bound.**
-/

namespace KeyCall

open Text

/-- A text may be trimmed before it is read as a property list. -/
theorem Property.ofText_trimmed (s : String) : ofText (trimmed s) = ofText s := by
  rw [trimmed, ofText_trim, String.ofList_toList]

namespace Cut

variable (c : Cut)

/-- The template of a cut with its two lists as they were cut. -/
def untrimmed : Template :=
  { c.template with
    properties := (c.owner.bind Owner.block).map fun b => String.ofList b.properties
    params := some (String.ofList c.params) }

theorem bind_params_untrimmed (value : Value) :
    Argument.bind c.untrimmed.params value = Argument.bind c.template.params value := by
  show Argument.ofChars (String.ofList c.params).toList value = _
  rw [String.toList_ofList]
  exact (Argument.bind_cleaned? c.params value).symm

theorem pairs_untrimmed : c.untrimmed.pairs = c.template.pairs := by
  cases hb : c.owner.bind Owner.block with
  | none =>
    have hnone : c.template.properties = none := by rw [template, hb]; rfl
    have hnone' : c.untrimmed.properties = none := by rw [untrimmed, hb]; rfl
    rw [Template.pairs, Template.pairs, hnone, hnone']
  | some b =>
    have hsome : c.template.properties = some (String.ofList (trim b.properties)) := by
      rw [template, hb]
      rfl
    have hsome' : c.untrimmed.properties = some (String.ofList b.properties) := by
      rw [untrimmed, hb]
      rfl
    rw [Template.pairs_eq_ofText hsome, Template.pairs_eq_ofText hsome', Property.ofText_trim]

/-- A property list is there whether it is trimmed or not, and that is all that the way to call
depends on. -/
theorem bare_invocation_untrimmed : c.untrimmed.invocation.bare = c.template.invocation.bare := by
  have hclass : c.untrimmed.className = c.template.className := rfl
  unfold Template.invocation
  rw [hclass]
  cases c.template.className with
  | none => rfl
  | some name =>
    by_cases hname : name.isEmpty = true
    · simp only [hname, if_true]
    · simp only [hname]
      cases hb : c.owner.bind Owner.block <;> simp [untrimmed, template, hb, Invocation.bare]

end Cut

/-- The call of a cut does not depend on its lists being trimmed. -/
theorem Dispatcher.invoke_untrimmed {σ : Type} (d : Dispatcher σ) (c : Cut) (value : Value) :
    d.invoke c.untrimmed value = d.invoke c.template value := by
  have hmethod : c.untrimmed.method = c.template.method := rfl
  have houtkey : c.untrimmed.outkey = c.template.outkey := rfl
  rw [invoke_eq_bare, invoke_eq_bare, c.bare_invocation_untrimmed]
  simp only [callFunction, callStatic, callPresenter, hmethod, houtkey, c.bind_params_untrimmed,
    c.pairs_untrimmed]

/-- **Trimming does not change what is bound.**  A parameter list has the same arguments before and
after, and a property list the same properties or the same error, whether it is read as a text or as
that of a template.  Hence so has every key: its template binds what the pieces of its cut bind. -/
theorem Template.trimming_keeps_bound (s : String) (value : Value) :
    Argument.bind (Cut.cleaned? s.toList) value = Argument.bind (some s) value ∧
      Property.ofText (trimmed s) = Property.ofText s ∧
      (∀ t : Template, { t with properties := some s }.pairs = Property.ofText s) ∧
      ∀ (key : String) (c : Cut), c.Cuts key → ∃ t, match? key = some t ∧
        Argument.bind t.params value = Argument.bind (some (String.ofList c.params)) value ∧
        (∀ b, c.owner.bind Cut.Owner.block = some b →
          t.pairs = Property.ofText (String.ofList b.properties)) ∧
        ∀ (σ : Type) (d : Dispatcher σ), d.invoke t value = d.invoke c.untrimmed value := by
  refine ⟨Argument.bind_cleaned? s.toList value, Property.ofText_trimmed s, fun t => ?_,
    fun key c hc => ⟨c.template, ?_, ?_, fun b hb => ?_, fun σ d => ?_⟩⟩
  · exact pairs_eq_ofText rfl
  · exact match?_eq_some_iff.2 ⟨c, hc.1, hc.2, rfl⟩
  · exact (c.bind_params_untrimmed value).symm
  · rw [← c.pairs_untrimmed]
    exact pairs_eq_ofText (by rw [Cut.untrimmed, hb]; rfl)
  · exact (d.invoke_untrimmed c value).symm

/-- The parameter list has blanks at both ends and an empty last token, and the property list starts
with an empty entry. -/
theorem Template.trimming_keeps_bound_of_blanks :
    let key := "$\x7bCar(\x7b , name: ? \x7d).slug( ?, a ,\t)\x7d:k"
    let c : Cut :=
      ⟨[], some ⟨"Car".toList, [], some ⟨[], " , name: ? ".toList, [], []⟩, []⟩, "slug".toList, [],
        " ?, a ,\t".toList, [], [], [], ['k'], []⟩
    c.Cuts key ∧ ∃ t, match? key = some t ∧
      Argument.bind t.params (.int 7) = [.int 7, .text "a", .text ""] ∧
      t.pairs = .ok [⟨"name", "?"⟩] := by
  intro key c
  have hc : c.Cuts key := Cut.read?_eq_some (by decide : Cut.read? key.toList = some c)
  obtain ⟨t, ht, hparams, hpairs, -⟩ := (trimming_keeps_bound "" (.int 7)).2.2.2 key c hc
  have hlist : String.ofList c.params = " ?, a ,\t" := String.ofList_toList
  rw [hlist] at hparams
  exact ⟨hc, t, ht, hparams.trans (by rfl), (hpairs _ rfl).trans (by rfl)⟩

end KeyCall
