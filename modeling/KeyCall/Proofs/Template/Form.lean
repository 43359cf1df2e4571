import KeyCall.Dispatch
import KeyCall.Proofs.Template.Unambiguous

/-!
# Written form and shape

The form of a key is what is written in it: no class, a class, or a class with a property list.  The
shape of a template is read off its pieces, once the class is trimmed and a class of blanks counts
as absent.

The grammar and the trimming do not mean the same blanks.  Between the tokens of a key only the
ASCII blanks may stand, so a class may well consist of others, such as the no-break space; trimming
leaves nothing of it.  The key of a class so written is dispatched as that of a function, be there a
property list or not.  Every other key has the shape of its form.

## Main definitions

* `Cut.IsNameless` — a class is written, and holds blanks only.

## Main results

* `Cut.shape_template_of_isNameless`, `Cut.shape_template_of_not_isNameless` — the two cases.
* `Template.shape_follows_form` — **the shape is the form, unless a class of blanks is written.**
-/

namespace KeyCall

open Text

namespace Cut

/-- A class is written, and it holds blanks only. -/
def IsNameless (c : Cut) : Prop := ∃ o ∈ c.owner, allBlank o.name = true

instance : DecidablePred IsNameless := fun c =>
  inferInstanceAs (Decidable (∃ o ∈ c.owner, allBlank o.name = true))

variable {c : Cut}

/-- Trimming leaves something of a piece unless it holds blanks only. -/
theorem cleaned?_of_not_allBlank {l : List Char} (h : allBlank l = false) :
    cleaned? l = some (String.ofList (trim l)) ∧ String.ofList (trim l) ≠ "" := by
  have hne : trim l ≠ [] := by
    intro hnil
    rw [trim_eq_nil_iff, h] at hnil
    cases hnil
  have hempty : (trim l).isEmpty = false := by simpa using hne
  refine ⟨?_, by simpa using hne⟩
  unfold cleaned?
  simp only [hempty, Bool.false_eq_true, if_false]

theorem cleaned?_of_allBlank {l : List Char} (h : allBlank l = true) : cleaned? l = none := by
  unfold cleaned?
  simp only [trim_eq_nil_iff.2 h, List.isEmpty_nil, if_true]

/-- A class that holds blanks only is a written class. -/
theorem IsNameless.form_ne (h : c.IsNameless) : c.form ≠ .function := by
  obtain ⟨o, ho, -⟩ := h
  unfold form
  rw [ho]
  cases hb : o.block <;> simp [hb]

/-- Without its class, a template is that of a function. -/
theorem shape_template_of_isNameless (h : c.IsNameless) : c.template.shape = .function := by
  obtain ⟨o, ho, hblank⟩ := h
  refine (Template.shape_eq_function_iff _).2 (Or.inl ?_)
  show (c.owner.bind fun o => cleaned? o.name) = none
  rw [ho]
  exact cleaned?_of_allBlank hblank

/-- With something left of its class, a template has the shape of its form. -/
theorem shape_template_of_not_isNameless (h : ¬ c.IsNameless) : c.template.shape = c.form := by
  have hproperties : c.template.properties =
      (c.owner.bind Owner.block).map fun b => String.ofList (trim b.properties) := rfl
  have hclass : c.template.className = c.owner.bind fun o => cleaned? o.name := rfl
  unfold form
  cases ho : c.owner with
  | none =>
    rw [ho] at hclass
    exact (Template.shape_eq_function_iff _).2 (Or.inl hclass)
  | some o =>
    have hname : allBlank o.name = false := Bool.eq_false_iff.2 fun hb => h ⟨o, ho, hb⟩
    obtain ⟨hsome, hne⟩ := cleaned?_of_not_allBlank hname
    rw [ho] at hclass hproperties
    have hnamed : ∃ n, c.template.className = some n ∧ n ≠ "" := ⟨_, hclass.trans hsome, hne⟩
    cases hb : o.block with
    | none =>
      have hnone : c.template.properties = none := by
        rw [hproperties, Option.bind_some, hb]
        rfl
      simpa only [hb] using (Template.shape_eq_static_iff _).2 ⟨hnamed, hnone⟩
    | some b =>
      have hsome : ∃ ps, c.template.properties = some ps := by
        rw [hproperties, Option.bind_some, hb]
        exact ⟨_, rfl⟩
      simpa only [hb] using (Template.shape_eq_presenter_iff _).2 ⟨hnamed, hsome⟩

end Cut

namespace Template

/-- **The shape is the form, unless a class of blanks is written**; such a key is dispatched as that
of a function. -/
theorem shape_follows_form {s : String} {t : Template} {c : Cut} (h : match? s = some t)
    (hc : c.Cuts s) :
    (t.shape = .function ↔ c.form = .function ∨ c.IsNameless) ∧
      (t.shape = .static ↔ c.form = .static ∧ ¬ c.IsNameless) ∧
      (t.shape = .presenter ↔ c.form = .presenter ∧ ¬ c.IsNameless) ∧
      (t.shape = c.form ↔ ¬ c.IsNameless) ∧
      ∀ (σ : Type) (d : Dispatcher σ) (value : Value),
        c.IsNameless → d.invoke t value = d.callFunction t value := by
  have ht : t = c.template := ((match?_eq_some_iff_yields hc t).1 h).eq_template
  subst ht
  by_cases hblank : c.IsNameless
  · have hform := hblank.form_ne
    have hshape := Cut.shape_template_of_isNameless hblank
    have hinvocation : c.template.invocation = .function := by
      unfold shape at hshape
      cases hi : c.template.invocation with
      | function => rfl
      | static n => rw [hi] at hshape; cases hshape
      | presenter n ps => rw [hi] at hshape; cases hshape
    rw [hshape]
    refine ⟨by simp [hblank], by simp [hblank], by simp [hblank], ?_, fun σ d value _ => ?_⟩
    · simp [hblank, hform.symm]
    · rw [Dispatcher.invoke, hinvocation]
  · rw [Cut.shape_template_of_not_isNameless hblank]
    simp [hblank]

/-- The class of the key is a no-break space.  The key has a property list all the same, and is
dispatched as that of a function. -/
theorem shape_follows_form_of_noBreakSpace :
    let s := "$\x7b\u00a0(\x7bname: ?\x7d).f(?)\x7d:k"
    let c : Cut :=
      ⟨[], some ⟨['\u00a0'], [], some ⟨[], "name: ?".toList, [], []⟩, []⟩, ['f'], [], ['?'], [], [],
        [], ['k'], []⟩
    let t : Template := ⟨"f", "k", none, some "name: ?", some "?"⟩
    match? s = some t ∧ c.Cuts s ∧ c.form = .presenter ∧ c.IsNameless ∧ t.shape = .function ∧
      t.shape ≠ c.form := by
  intro s c t
  have hs : match? s = some t := by decide
  have hc : c.Cuts s := Cut.read?_eq_some (by decide : Cut.read? s.toList = some c)
  have hnameless : c.IsNameless := by decide
  obtain ⟨hfunction, -, -, hform, -⟩ := shape_follows_form hs hc
  exact ⟨hs, hc, rfl, hnameless, hfunction.2 (Or.inr hnameless), fun heq => hform.1 heq hnameless⟩

end Template
end KeyCall
