import KeyCall.Proofs.Template.Property
import KeyCall.Proofs.Template.Reading

/-!
# Writing keys

The plainest spelling of each of the three forms of a key: no blanks but one behind every colon and
comma of a property list.  Parsing a key so written gives back what it was written from, however
much the class and the values of the properties look like other parts of a key.

## Main definitions

* `Key.ofFunction`, `Key.ofStatic`, `Key.ofPresenter` — the three forms of a key.
* `IsClassName`, `Property.IsPlain` — what a class name and a property may be for that.
* `Template.Calls` — the pieces that all three forms have.

## Main results

* `Property.ofText_written` — a property list is read back.
* `Template.parse_key` — **all three forms of a key are read back.**
-/

namespace KeyCall

open Text

/-- A text neither starts nor ends in a blank. -/
def IsTrimmed (s : String) : Prop :=
  StartsOutside isBlank s.toList ∧ EndsOutside isBlank s.toList

theorem IsTrimmed.trim_eq {s : String} (h : IsTrimmed s) : trim s.toList = s.toList :=
  trim_eq_self h.1 h.2

theorem isTrimmed_of_trim_eq {s : String} (h : trim s.toList = s.toList) : IsTrimmed s :=
  ⟨h ▸ startsOutside_trim s.toList, h ▸ endsOutside_trim s.toList⟩

/-! ### Property lists -/

namespace Property

/-- A property whose name and value can be written as they are.  Of the delimiters of a key a value
may hold all but the comma. -/
structure IsPlain (p : Property) : Prop where
  name_ne : p.name ≠ ""
  name_trimmed : IsTrimmed p.name
  name_chars : ∀ c ∈ p.name.toList, c ≠ ',' ∧ c ≠ ':' ∧ c ≠ '\n'
  value_trimmed : IsTrimmed p.value
  value_chars : ∀ c ∈ p.value.toList, c ≠ ',' ∧ c ≠ '\n'

/-- A property as it is written. -/
def written (p : Property) : String := p.name ++ ": " ++ p.value

/-- A property list as it is written. -/
def listWritten (ps : List Property) : String := ", ".intercalate (ps.map written)

theorem toList_written (p : Property) :
    p.written.toList = p.name.toList ++ ':' :: ' ' :: p.value.toList := by
  simp [written]

theorem toList_listWritten (ps : List Property) :
    (listWritten ps).toList = [',', ' '].intercalate (ps.map fun p => p.written.toList) := by
  simp [listWritten, Function.comp_def]

theorem ofEntry_written {p : Property} (h : p.IsPlain) : ofEntry p.written.toList = .ok p := by
  have hname : ':' ∉ p.name.toList := fun hm => (h.name_chars ':' hm).2.1 rfl
  have hne : trim p.name.toList ≠ [] := by
    rw [h.name_trimmed.trim_eq]
    simpa using h.name_ne
  have hvalue : trim (' ' :: p.value.toList) = p.value.toList :=
    (trim_pad_left (a := [' ']) (List.forall_mem_singleton.2 rfl)).trans h.value_trimmed.trim_eq
  rw [toList_written, ofEntry_append_cons hname hne, h.name_trimmed.trim_eq, hvalue]
  simp

theorem allBlank_written (p : Property) : allBlank p.written.toList = false := by
  rw [← Bool.not_eq_true, allBlank_iff]
  intro hall
  have hb := hall ':' (by simp [toList_written])
  exact absurd hb (by decide)

theorem comma_notMem_written {p : Property} (h : p.IsPlain) : ',' ∉ p.written.toList := by
  have hname : ',' ∉ p.name.toList := fun hm => (h.name_chars ',' hm).1 rfl
  have hvalue : ',' ∉ p.value.toList := fun hm => (h.value_chars ',' hm).1 rfl
  simp [toList_written, hname, hvalue]

theorem ofEntries_written {ps : List Property} (h : ∀ p ∈ ps, p.IsPlain) :
    ofEntries (ps.map fun p => p.written.toList) = .ok ps := by
  induction ps with
  | nil => rfl
  | cons p ps ih =>
    have hp := h p List.mem_cons_self
    have hps := ih fun q hq => h q (List.mem_cons_of_mem _ hq)
    simp only [List.map_cons, ofEntries, allBlank_written p, Bool.false_eq_true, if_false,
      ofEntry_written hp, hps]
    rfl

/-- **A property list is read back**, the empty one included. -/
theorem ofText_written {ps : List Property} (h : ∀ p ∈ ps, p.IsPlain) :
    ofText (listWritten ps) = .ok ps := by
  cases ps with
  | nil => rfl
  | cons p ps =>
    have hcomma : ∀ l ∈ (p :: ps).map (fun p => p.written.toList), ',' ∉ l := by
      intro l hl
      obtain ⟨q, hq, rfl⟩ := List.mem_map.1 hl
      exact comma_notMem_written (h q hq)
    -- The blank behind each comma is trimmed away, and trimming the entries changes nothing.
    have hspace : ∀ c ∈ [' '], isBlank c = true := List.forall_mem_singleton.2 rfl
    rw [ofText, toList_listWritten, ← ofEntries_map_trim,
      map_trim_pieces_intercalate rfl hspace (by simp) hcomma,
      ofEntries_map_trim, ofEntries_written h]

/-- A written property list stays on one line. -/
theorem isPropertyChar_listWritten {ps : List Property} (h : ∀ p ∈ ps, p.IsPlain) :
    ∀ c ∈ (listWritten ps).toList, isPropertyChar c = true := by
  rw [toList_listWritten]
  refine forall_mem_intercalate (by simp [isPropertyChar]) fun l hl c hc => ?_
  obtain ⟨p, hp, rfl⟩ := List.mem_map.1 hl
  -- A line feed would have to come from the name, the colon, the blank or the value.
  have hne : c ≠ '\n' := by
    rintro rfl
    simp only [toList_written, List.mem_append, List.mem_cons] at hc
    rcases hc with hc | hc | hc | hc
    · exact ((h p hp).name_chars _ hc).2.2 rfl
    · exact absurd hc (by decide)
    · exact absurd hc (by decide)
    · exact ((h p hp).value_chars _ hc).2 rfl
  simpa [isPropertyChar] using hne

end Property

/-! ### Keys -/

/-- A class name that can be written as it is; dots may stand anywhere in it. -/
structure IsClassName (s : String) : Prop where
  ne : s ≠ ""
  chars : ∀ c ∈ s.toList, isClassChar c = true
  trimmed : IsTrimmed s

namespace Key

/-- The key of a function. -/
def ofFunction (method params outkey : String) : String :=
  "$\x7b" ++ method ++ "(" ++ params ++ ")\x7d:" ++ outkey

/-- The key of a static method. -/
def ofStatic (className method params outkey : String) : String :=
  "$\x7b" ++ className ++ "." ++ method ++ "(" ++ params ++ ")\x7d:" ++ outkey

/-- The key of a presenter's method. -/
def ofPresenter (className : String) (ps : List Property) (method params outkey : String) :
    String :=
  "$\x7b" ++ className ++ "(\x7b" ++ Property.listWritten ps ++ "\x7d)." ++ method ++
    "(" ++ params ++ ")\x7d:" ++ outkey

end Key

namespace Cut

/-- A cut without blanks. -/
def tight (owner : Option Owner) (method params outkey : List Char) : Cut :=
  ⟨[], owner, method, [], params, [], [], [], outkey, []⟩

theorem wellFormed_tight {owner : Option Owner} {method params outkey : List Char}
    (ho : ∀ o ∈ owner, o.WellFormed) (hm : Word method)
    (hp : ∀ c ∈ params, isParamChar c = true) (hk : Word outkey) :
    (tight owner method params outkey).WellFormed := by
  have hnil : Blanks [] := by simp [Blanks]
  exact ⟨hnil, ho, hm, hnil, hp, hnil, hnil, hnil, hk, hnil⟩

/-- A class without blanks. -/
def tightOwner (className : String) (block : Option Block) : Owner :=
  ⟨className.toList, [], block, []⟩

theorem wellFormed_tightOwner {className : String} {block : Option Block}
    (hc : IsClassName className) (hb : ∀ b ∈ block, b.WellFormed) :
    (tightOwner className block).WellFormed := by
  have hnil : Blanks [] := by simp [Blanks]
  exact ⟨by simpa [tightOwner] using hc.ne, hc.chars, hnil, hb, hnil⟩

/-- A property list without blanks around it. -/
def tightBlock (ps : List Property) : Block := ⟨[], (Property.listWritten ps).toList, [], []⟩

theorem wellFormed_tightBlock {ps : List Property} (h : ∀ p ∈ ps, p.IsPlain) :
    (tightBlock ps).WellFormed := by
  have hnil : Blanks [] := by simp [Blanks]
  exact ⟨hnil, Property.isPropertyChar_listWritten h, hnil, hnil⟩

theorem chars_tight_function (method params outkey : String) :
    (tight none method.toList params.toList outkey.toList).chars =
      (Key.ofFunction method params outkey).toList := by
  simp [tight, chars, headChars, Key.ofFunction]

theorem chars_tight_static (className method params outkey : String) :
    (tight (some (tightOwner className none)) method.toList params.toList outkey.toList).chars =
      (Key.ofStatic className method params outkey).toList := by
  simp [tight, tightOwner, chars, headChars, Owner.chars, Key.ofStatic]

theorem chars_tight_presenter (className : String) (ps : List Property)
    (method params outkey : String) :
    (tight (some (tightOwner className (some (tightBlock ps)))) method.toList params.toList
        outkey.toList).chars =
      (Key.ofPresenter className ps method params outkey).toList := by
  simp [tight, tightOwner, tightBlock, chars, headChars, Owner.chars, Block.chars, Key.ofPresenter]

end Cut

namespace Template

/-- The method, the output key and the parameter list of a template, the last one trimmed and
absent if it is blank. -/
structure Calls (t : Template) (method params outkey : String) : Prop where
  method : t.method = method
  outkey : t.outkey = outkey
  params : Cut.Cleaned (some params.toList) t.params

theorem calls_tight (owner : Option Cut.Owner) (method params outkey : String) :
    (Cut.tight owner method.toList params.toList outkey.toList).template.Calls
      method params outkey :=
  ⟨String.ofList_toList, String.ofList_toList, Cut.cleaned_cleaned? params.toList⟩

theorem parse_eq_ok {s : String} {c : Cut} (hwf : c.WellFormed) (hc : c.chars = s.toList) :
    parse s = .ok c.template := by
  rw [parse, match?_eq_some_iff.2 ⟨c, hwf, hc, rfl⟩]

theorem className_tight {className : String} (hc : IsClassName className)
    (block : Option Cut.Block) (method params outkey : List Char) :
    (Cut.tight (some (Cut.tightOwner className block)) method params outkey).template.className =
      some className := by
  simp [Cut.template, Cut.tight, Cut.tightOwner, Cut.cleaned?, hc.trimmed.trim_eq, hc.ne]

/-- **All three forms of a key are read back**: the form as the shape, the class with its dots, the
properties in order, and the method, the parameters and the output key. -/
theorem parse_key {className method params outkey : String} {ps : List Property}
    (hc : IsClassName className) (hps : ∀ p ∈ ps, p.IsPlain) (hm : Cut.Word method.toList)
    (hp : ∀ c ∈ params.toList, isParamChar c = true) (hk : Cut.Word outkey.toList) :
    (∃ t, parse (Key.ofPresenter className ps method params outkey) = .ok t ∧
        t.shape = .presenter ∧ t.className = some className ∧ t.Calls method params outkey ∧
        t.pairs = .ok ps) ∧
      (∃ t, parse (Key.ofStatic className method params outkey) = .ok t ∧
        t.shape = .static ∧ t.className = some className ∧ t.Calls method params outkey ∧
        t.properties = none) ∧
      ∃ t, parse (Key.ofFunction method params outkey) = .ok t ∧
        t.shape = .function ∧ t.className = none ∧ t.Calls method params outkey ∧
        t.properties = none := by
  -- Each form is what a cut without blanks writes, so it is read as that cut.
  refine ⟨?_, ?_, ?_⟩
  · have howner : ∀ o ∈ some (Cut.tightOwner className (some (Cut.tightBlock ps))),
        o.WellFormed := by
      simpa using Cut.wellFormed_tightOwner hc (by simpa using Cut.wellFormed_tightBlock hps)
    have hname := className_tight hc (some (Cut.tightBlock ps)) method.toList params.toList
      outkey.toList
    have hprops : (Cut.tight (some (Cut.tightOwner className (some (Cut.tightBlock ps))))
        method.toList params.toList outkey.toList).template.properties =
        some (String.ofList (trim (Property.listWritten ps).toList)) := rfl
    refine ⟨_, parse_eq_ok (Cut.wellFormed_tight howner hm hp hk)
      (Cut.chars_tight_presenter className ps method params outkey), ?_, hname,
      calls_tight _ method params outkey, ?_⟩
    · exact (shape_eq_presenter_iff _).2 ⟨⟨className, hname, hc.ne⟩, _, hprops⟩
    · rw [pairs_eq_ofText hprops, Property.ofText_trim, String.ofList_toList,
        Property.ofText_written hps]
  · have howner : ∀ o ∈ some (Cut.tightOwner className none), o.WellFormed := by
      simpa using Cut.wellFormed_tightOwner hc (by simp)
    have hname := className_tight hc none method.toList params.toList outkey.toList
    refine ⟨_, parse_eq_ok (Cut.wellFormed_tight howner hm hp hk)
      (Cut.chars_tight_static className method params outkey), ?_, hname,
      calls_tight _ method params outkey, rfl⟩
    exact (shape_eq_static_iff _).2 ⟨⟨className, hname, hc.ne⟩, rfl⟩
  · refine ⟨_, parse_eq_ok (Cut.wellFormed_tight (by simp) hm hp hk)
      (Cut.chars_tight_function method params outkey), ?_, rfl,
      calls_tight none method params outkey, rfl⟩
    exact (shape_eq_function_iff _).2 (.inl rfl)

/-- A class that ends in a dot, and values that are empty or look like the end of a key. -/
theorem parse_key_of_lookalike :
    let ps : List Property := [⟨"x", "\x7d).m()\x7d:k"⟩, ⟨"y->z", ""⟩, ⟨"w", "?: (\x7b"⟩]
    Key.ofPresenter "a..b." ps "m" " ?, s " "k" =
        "$\x7ba..b.(\x7bx: \x7d).m()\x7d:k, y->z: , w: ?: (\x7b\x7d).m( ?, s )\x7d:k" ∧
      (∀ p ∈ ps, p.IsPlain) ∧ IsClassName "a..b." ∧
      ∃ t, parse (Key.ofPresenter "a..b." ps "m" " ?, s " "k") = .ok t ∧ t.shape = .presenter ∧
        t.className = some "a..b." ∧ t.Calls "m" " ?, s " "k" ∧ t.pairs = .ok ps := by
  intro ps
  have hps : ∀ p ∈ ps, p.IsPlain := by
    intro p hp
    simp only [ps, List.mem_cons, List.not_mem_nil, or_false] at hp
    rcases hp with rfl | rfl | rfl <;>
      exact ⟨by decide, isTrimmed_of_trim_eq (by decide), by simp,
        isTrimmed_of_trim_eq (by decide), by simp⟩
  have hc : IsClassName "a..b." :=
    ⟨by decide, List.all_eq_true.1 (by decide), isTrimmed_of_trim_eq (by decide)⟩
  have hm : Cut.Word "m".toList := ⟨by decide, List.all_eq_true.1 (by decide)⟩
  have hp : ∀ c ∈ " ?, s ".toList, isParamChar c = true := List.all_eq_true.1 (by decide)
  have hk : Cut.Word "k".toList := ⟨by decide, List.all_eq_true.1 (by decide)⟩
  exact ⟨by decide, hps, hc, (parse_key hc hps hm hp hk).1⟩

end Template
end KeyCall
