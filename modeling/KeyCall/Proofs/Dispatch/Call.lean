import KeyCall.Kit.Catalogue
import KeyCall.Proofs.Dispatch.SideBySide
import KeyCall.Proofs.Dispatch.Support
import KeyCall.Proofs.Template.Spacing

/-!
# The call of a key

A key that names a function or a static method comes to one call.  Its arguments are those of the
tokens in the key, however the key is spaced; what the call answers is given under the output key,
and what it fails with is passed on.

That there is one call and no other is said with a host that notes what it is asked to call.

## Main definitions

* `Dispatcher.CallsOnce` — processing an entry comes to one call.

## Main results

* `Dispatcher.callsOnce_of_invoke` — an entry comes to one call if its template does.
* `Dispatcher.process_calls` — **a key that is written from tokens comes to one call with an argument
  for each of them.**
-/

namespace KeyCall

theorem Host.resolveMethod_eq_ok {σ : Type} {h : Host σ} {owner f : Value} {method : String}
    (hf : h.attribute? owner method = some f) (hcall : f.isCallable = true) :
    h.resolveMethod owner method = .ok f := by
  rw [Host.resolveMethod, hf]
  simp only [hcall, if_true]

namespace Dispatcher

variable {σ : Type}

/-- Processing an entry comes to one call, which is recorded as the event.  The answer is given under
the output key, an error is passed on, and the host is left as the call leaves it. -/
structure CallsOnce (d : Dispatcher σ) (key : String) (value : Value) (outkey : String) (f : Value)
    (args : List Value) (event : Event) (s : Stage σ) : Prop where
  result : ((d.process (.text key) value).run s).1 =
    (d.host.call f args s.state).1.map fun w => (.text outkey, w)
  stage : ((d.process (.text key) value).run s).2 =
    ⟨(d.host.call f args s.state).2, s.log ++ [event]⟩
  calls : ((d.noting.process (.text key) value).run ⟨(s.state, []), s.log⟩).2.state.2 = [(f, args)]

/-! ### One call -/

theorem run_process_of_invoke {d : Dispatcher σ} {key : String} {t : Template} {value f : Value}
    {args : List Value} {event : Event} (hkey : Template.parse key = .ok t)
    (ht : d.invoke t value = do Run.record event; Run.call d.host f args) (s : Stage σ) :
    (d.process (.text key) value).run s =
      ((d.host.call f args s.state).1.map fun w => (.text t.outkey, w),
        ⟨(d.host.call f args s.state).2, s.log ++ [event]⟩) := by
  have hinvoke : (d.invoke t value).run s =
      ((d.host.call f args s.state).1, ⟨(d.host.call f args s.state).2, s.log ++ [event]⟩) := by
    rw [ht]
    rfl
  rw [process, Handler.process_of_template _ _ (isTemplateText_of_parse hkey), hkey,
    Run.lift_ok_bind, Run.run_bind, handler, hinvoke]
  cases (d.host.call f args s.state).1 <;> rfl

/-- An entry comes to one call if its template does, with the noting host as well. -/
theorem callsOnce_of_invoke {d : Dispatcher σ} {key : String} {t : Template} {value f : Value}
    {args : List Value} {event : Event} (hkey : Template.parse key = .ok t)
    (ht : d.invoke t value = do Run.record event; Run.call d.host f args)
    (hnoting : d.noting.invoke t value = do Run.record event; Run.call d.noting.host f args)
    (s : Stage σ) : d.CallsOnce key value t.outkey f args event s where
  result := by rw [run_process_of_invoke hkey ht]
  stage := by rw [run_process_of_invoke hkey ht]
  calls := by
    rw [run_process_of_invoke hkey hnoting]
    rfl

theorem invoke_of_function {d : Dispatcher σ} {t : Template} (ht : t.invocation = .function)
    {f : Value} (hf : d.registry.get? t.method = some f) (value : Value) :
    d.invoke t value = (do
      Run.record (.callingFunction t.method (Argument.bind t.params value).length t.outkey)
      Run.call d.host f (Argument.bind t.params value)) := by
  rw [invoke, ht]
  exact lift_resolve_bind hf _

theorem invoke_of_static {d : Dispatcher σ} {t : Template} {className : String}
    (ht : t.invocation = .static className) {owner f : Value}
    (howner : d.registry.get? className = some owner)
    (hf : d.host.resolveMethod owner t.method = .ok f) (value : Value) :
    d.invoke t value = (do
      Run.record
        (.callingStatic className t.method (Argument.bind t.params value).length t.outkey)
      Run.call d.host f (Argument.bind t.params value)) := by
  rw [invoke, ht]
  show Run.lift (d.registry.resolve "class" className) >>= _ = _
  rw [lift_resolve_bind howner, hf, Run.lift_ok_bind]

/-! ### Keys written from tokens -/

/-- **A key that is written from tokens comes to one call with an argument for each of them**: the
value for a placeholder, and any other token as it is.  A function is called by the name it is
registered under, and a static method is what the registered class has under its name. -/
theorem process_calls (d : Dispatcher σ) (sp : Key.Spacing) {ts : List Argument.Token}
    (hts : ts.map Argument.Token.text ≠ [""]) {method outkey : String}
    (hmethod : Cut.Word method.toList) (houtkey : Cut.Word outkey.toList) (value : Value)
    (s : Stage σ) :
    let args : List Value := ts.map fun t => if t.text = "?" then value else .text t.text
    (∀ f, d.registry.get? method = some f →
      d.CallsOnce (sp.ofFunction ts method outkey) value outkey f args
        (.callingFunction method args.length outkey) s) ∧
      ∀ className owner f, IsClassName className → d.registry.get? className = some owner →
        d.host.attribute? owner method = some f → f.isCallable = true →
        d.CallsOnce (sp.ofStatic ts className method outkey) value outkey f args
          (.callingStatic className method args.length outkey) s := by
  intro args
  have hargs : Argument.bind (Cut.cleaned? (Argument.listWritten sp.afterOpen ts).toList) value =
      args := Argument.bind_listWritten sp.afterOpen hts value
  rw [← hargs]
  refine ⟨fun f hf => ?_, fun className owner f hc howner hf hcall => ?_⟩
  · have hnoting : d.noting.registry.get? method = some f := hf
    refine callsOnce_of_invoke (sp.parse_ofFunction hmethod houtkey) ?_ ?_ s
    · exact invoke_of_function rfl hf value
    · exact invoke_of_function rfl hnoting value
  · have hstatic : Template.invocation
        { method, outkey
          className := some className
          params := Cut.cleaned? (Argument.listWritten sp.afterOpen ts).toList } =
        .static className := by
      have hne : className.isEmpty = false := by simpa using hc.ne
      simp only [Template.invocation, hne]
      rfl
    have hresolve : d.host.resolveMethod owner method = .ok f := Host.resolveMethod_eq_ok hf hcall
    -- Noting changes neither what is registered nor what is looked up.
    have hnoting : d.noting.registry.get? className = some owner := howner
    refine callsOnce_of_invoke (sp.parse_ofStatic hc hmethod houtkey) ?_ ?_ s
    · exact invoke_of_static hstatic howner hresolve value
    · exact invoke_of_static hstatic hnoting hresolve value

/-- Of four tokens only the first is the placeholder; the third is empty, and the last holds a blank. -/
theorem process_calls_of_kit :
    let d : Dispatcher Kit.State := ⟨Kit.host, ⟨Kit.targets⟩, {}⟩
    let ts : List Argument.Token :=
      [{ before := { text := " " }, text := "?", trimmed := isTrimmed_of_trim_eq (by decide) },
        { text := "a?", after := { text := "\t" }, trimmed := isTrimmed_of_trim_eq (by decide) },
        { text := "", trimmed := isTrimmed_of_trim_eq (by decide) },
        { text := "b c", trimmed := isTrimmed_of_trim_eq (by decide) }]
    let sp : Key.Spacing := { lead := { text := " " }, afterDot := { text := " " } }
    let args : List Value := [.int 7, .text "a?", .text "", .text "b c"]
    let function := "$\x7b echo( ?,a?\t,,b c)\x7d:k"
    let static := "$\x7b MyDecorator. presentStatic( ?,a?\t,,b c)\x7d:k"
    function = sp.ofFunction ts "echo" "k" ∧
      static = sp.ofStatic ts "MyDecorator" "presentStatic" "k" ∧
      ((d.process (.text function) (.int 7)).run ⟨{}, []⟩).1 = .ok (.text "k", .list args) ∧
      ((d.process (.text static) (.int 7)).run ⟨{}, []⟩).1 =
        .ok (.text "k", .list (.text "presentStatic" :: args)) := by
  intro d ts sp args function static
  have hfunction : function = sp.ofFunction ts "echo" "k" := by decide
  have hstatic : static = sp.ofStatic ts "MyDecorator" "presentStatic" "k" := by decide
  have hword : ∀ s : String, s ≠ "" → s.toList.all Text.isWord = true → Cut.Word s.toList :=
    fun s hne hs => ⟨by simpa using hne, List.all_eq_true.1 hs⟩
  have hk : Cut.Word "k".toList := hword "k" (by decide) (by decide)
  have hc : IsClassName "MyDecorator" :=
    ⟨by decide, List.all_eq_true.1 (by decide), isTrimmed_of_trim_eq (by decide)⟩
  have hts : ts.map Argument.Token.text ≠ [""] := by decide
  have hecho := (process_calls d sp hts (hword "echo" (by decide) (by decide)) hk (.int 7)
    ⟨{}, []⟩).1 _ rfl
  have hpresent := (process_calls d sp hts (hword "presentStatic" (by decide) (by decide)) hk
    (.int 7) ⟨{}, []⟩).2 "MyDecorator" _ _ hc rfl rfl rfl
  refine ⟨hfunction, hstatic, ?_, ?_⟩
  · rw [hfunction, hecho.result]
    rfl
  · rw [hstatic, hpresent.result]
    rfl

end Dispatcher
end KeyCall
