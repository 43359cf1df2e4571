import KeyCall.Proofs.Template.Writing
import KeyCall.Template.Argument

/-!
# Blanks in keys and parameter lists

Between the tokens of a key there may be blanks, and in a parameter list also around every token and
every comma.  None of them matters: a key so spaced is read as the template that it would be without
them, and its parameter list stands for one argument for each token.

One list of tokens cannot be written.  A single empty token leaves nothing between the parentheses,
which is how no token at all is written.

## Main definitions

* `Gap` — a run of blanks.
* `Argument.Token`, `Argument.listWritten` — a token with the blanks around it, and a list of them.
* `Key.Spacing` — the blanks in a key, and the keys of functions and static methods that have them.

## Main results

* `Argument.bind_listWritten` — **the arguments of a parameter list are those of its tokens.**
* `Key.Spacing.parse_ofFunction`, `Key.Spacing.parse_ofStatic` — a spaced key is read as if it had no
  blanks.
-/

namespace KeyCall

open Text

/-- A run of ASCII blanks, be it empty. -/
structure Gap where
  text : String := ""
  blank : text.toList.all isAsciiBlank = true := by decide

theorem Gap.blanks (g : Gap) : Cut.Blanks g.text.toList := List.all_eq_true.1 g.blank

theorem Gap.forall_isBlank (g : Gap) : ∀ c ∈ g.text.toList, isBlank c = true :=
  fun c hc => isBlank_of_isAsciiBlank (g.blanks c hc)

theorem Gap.forall_isParamChar (g : Gap) : ∀ c ∈ g.text.toList, isParamChar c = true := by
  intro c hc
  simp [isParamChar, g.blanks c hc]

/-! ### Parameter lists -/

namespace Argument

/-- A token may hold what a parameter list holds, but for commas. -/
def isTokenChar (c : Char) : Bool := isWord c || c == '?' || isAsciiBlank c

/-- A token of a parameter list with the blanks around it. -/
structure Token where
  before : Gap := {}
  text : String
  after : Gap := {}
  chars : text.toList.all isTokenChar = true := by decide
  trimmed : IsTrimmed text

namespace Token

/-- A token as it is written. -/
def written (t : Token) : String := t.before.text ++ t.text ++ t.after.text

theorem toList_written (t : Token) :
    t.written.toList = t.before.text.toList ++ t.text.toList ++ t.after.text.toList := by
  simp [written]

theorem trim_written (t : Token) : trim t.written.toList = t.text.toList := by
  rw [toList_written, trim_pad t.before.forall_isBlank t.after.forall_isBlank, t.trimmed.trim_eq]

theorem isTokenChar_written (t : Token) : ∀ c ∈ t.written.toList, isTokenChar c = true := by
  have hgap : ∀ g : Gap, ∀ c ∈ g.text.toList, isTokenChar c = true := by
    intro g c hc
    simp [isTokenChar, g.blanks c hc]
  intro c hc
  rw [toList_written, List.mem_append, List.mem_append] at hc
  rcases hc with (hc | hc) | hc
  · exact hgap t.before c hc
  · exact List.all_eq_true.1 t.chars c hc
  · exact hgap t.after c hc

theorem comma_notMem_written (t : Token) : ',' ∉ t.written.toList :=
  notMem_of_forall t.isTokenChar_written rfl

end Token

/-- Tokens between commas, behind the blanks at the start. -/
def listWritten (start : Gap) (ts : List Token) : String :=
  start.text ++ ",".intercalate (ts.map Token.written)

theorem toList_listWritten (start : Gap) (ts : List Token) :
    (listWritten start ts).toList =
      start.text.toList ++ [','].intercalate (ts.map fun t => t.written.toList) := by
  simp [listWritten, Function.comp_def]

theorem isParamChar_listWritten (start : Gap) (ts : List Token) :
    ∀ c ∈ (listWritten start ts).toList, isParamChar c = true := by
  have htoken : ∀ c, isTokenChar c = true → isParamChar c = true := by
    intro c hc
    simp only [isTokenChar, Bool.or_eq_true] at hc
    simp only [isParamChar, Bool.or_eq_true]
    rcases hc with (hc | hc) | hc
    · exact Or.inl (Or.inl (Or.inl hc))
    · exact Or.inl (Or.inl (Or.inr hc))
    · exact Or.inr hc
  intro c hc
  rw [toList_listWritten, List.mem_append] at hc
  rcases hc with hc | hc
  · exact start.forall_isParamChar c hc
  · refine forall_mem_intercalate (P := fun c => isParamChar c = true)
      (List.forall_mem_singleton.2 rfl) (fun l hl d hd => ?_) c hc
    obtain ⟨t, -, rfl⟩ := List.mem_map.1 hl
    exact htoken d (t.isTokenChar_written d hd)

/-- The trimmed pieces of a parameter list are its tokens. -/
theorem map_trim_pieces_listWritten (start : Gap) {ts : List Token} (hts : ts ≠ []) :
    (pieces ',' (listWritten start ts).toList).map trim = ts.map fun t => t.text.toList := by
  have hcomma : ∀ l ∈ ts.map (fun t => t.written.toList), ',' ∉ l := by
    intro l hl
    obtain ⟨t, -, rfl⟩ := List.mem_map.1 hl
    exact t.comma_notMem_written
  have hsep : isBlank ',' = false := rfl
  have hnil : ∀ c ∈ ([] : List Char), isBlank c = true := by simp
  have hpad := map_trim_pieces_pad hsep start.forall_isBlank hnil
    ([','].intercalate (ts.map fun t => t.written.toList))
  rw [List.append_nil] at hpad
  rw [toList_listWritten, hpad,
    map_trim_pieces_intercalate hsep hnil (by simpa using hts) hcomma, List.map_map]
  exact List.map_congr_left fun t _ => t.trim_written

/-- A parameter list is blank only without tokens, or with a single empty one. -/
theorem allBlank_listWritten (start : Gap) {ts : List Token} (hts : ts ≠ [])
    (hempty : ts.map Token.text ≠ [""]) : allBlank (listWritten start ts).toList = false := by
  rw [← Bool.not_eq_true]
  intro hblank
  -- Without a comma there is a single token, and nothing is left of it when it is trimmed.
  have hcomma : ',' ∉ (listWritten start ts).toList := notMem_of_forall (allBlank_iff.1 hblank) rfl
  have hone := map_trim_pieces_listWritten start hts
  rw [pieces_of_notMem hcomma, List.map_singleton, trim_eq_nil_iff.2 hblank] at hone
  refine hempty ?_
  have htext : (ts.map Token.text).map String.toList = [""].map String.toList := by
    rw [List.map_map]
    exact hone.symm
  exact (List.map_inj_right fun a b hab => String.toList_inj.1 hab).1 htext

/-- What trimming a parameter list takes away does not change its arguments. -/
theorem bind_cleaned? (params : List Char) (value : Value) :
    bind (Cut.cleaned? params) value = ofChars params value := by
  unfold Cut.cleaned?
  by_cases hblank : allBlank params = true
  · have hnil : trim params = [] := trim_eq_nil_iff.2 hblank
    rw [ofChars, if_pos hblank]
    simp only [hnil, List.isEmpty_nil, if_true]
    rfl
  · have hne : (trim params).isEmpty = false := by simpa [trim_eq_nil_iff] using hblank
    have hsep : isBlank ',' = false := rfl
    have htokens := congrArg (List.map (ofToken value)) (map_trim_pieces_trim hsep params)
    rw [List.map_map, List.map_map] at htokens
    simp only [hne, Bool.false_eq_true, if_false]
    rw [bind, String.toList_ofList, ofChars, ofChars, allBlank_trim]
    simp only [hblank]
    exact htokens

theorem ofToken_toList (value : Value) (s : String) :
    ofToken value s.toList = if s = "?" then value else .text s := by
  have hiff : s.toList = placeholder ↔ s = "?" := by
    rw [← String.toList_inj]
    rfl
  simp only [ofToken, beq_iff_eq, hiff, String.ofList_toList]

/-- **The arguments of a parameter list are those of its tokens**, in their order: the value for the
placeholder, and the token itself for any other. -/
theorem bind_listWritten (start : Gap) {ts : List Token} (hempty : ts.map Token.text ≠ [""])
    (value : Value) :
    bind (Cut.cleaned? (listWritten start ts).toList) value =
      ts.map fun t => if t.text = "?" then value else .text t.text := by
  rw [bind_cleaned?]
  by_cases hts : ts = []
  · subst hts
    have hblank : allBlank (listWritten start []).toList = true := by
      rw [toList_listWritten, allBlank_iff]
      simpa using start.forall_isBlank
    rw [ofChars, if_pos hblank]
    rfl
  · have hpieces := congrArg (List.map (ofToken value)) (map_trim_pieces_listWritten start hts)
    rw [List.map_map, List.map_map] at hpieces
    rw [ofChars, allBlank_listWritten start hts hempty]
    refine Eq.trans hpieces ?_
    exact List.map_congr_left fun t _ => ofToken_toList value t.text

end Argument

/-! ### Keys -/

namespace Key

/-- The blanks in a key, from the left to the right:

    $ { lead [ class beforeDot . afterDot ] method beforeOpen ( afterOpen tokens ) afterClose }
      beforeColon : afterColon outkey trail -/
structure Spacing where
  lead : Gap := {}
  beforeDot : Gap := {}
  afterDot : Gap := {}
  beforeOpen : Gap := {}
  afterOpen : Gap := {}
  afterClose : Gap := {}
  beforeColon : Gap := {}
  afterColon : Gap := {}
  trail : Gap := {}

namespace Spacing

variable (sp : Spacing) (ts : List Argument.Token)

/-- A key from the method on. -/
def tail (method outkey : String) : String :=
  method ++ sp.beforeOpen.text ++ "(" ++ Argument.listWritten sp.afterOpen ts ++ ")" ++
    sp.afterClose.text ++ "\x7d" ++ sp.beforeColon.text ++ ":" ++ sp.afterColon.text ++ outkey ++
    sp.trail.text

/-- The key of a function. -/
def ofFunction (method outkey : String) : String :=
  "$\x7b" ++ sp.lead.text ++ sp.tail ts method outkey

/-- The key of a static method. -/
def ofStatic (className method outkey : String) : String :=
  "$\x7b" ++ sp.lead.text ++ className ++ sp.beforeDot.text ++ "." ++ sp.afterDot.text ++
    sp.tail ts method outkey

/-- The pieces of a key. -/
def cut (owner : Option Cut.Owner) (method outkey : String) : Cut where
  lead := sp.lead.text.toList
  owner := owner
  method := method.toList
  afterMethod := sp.beforeOpen.text.toList
  params := (Argument.listWritten sp.afterOpen ts).toList
  afterParams := sp.afterClose.text.toList
  afterBrace := sp.beforeColon.text.toList
  afterColon := sp.afterColon.text.toList
  outkey := outkey.toList
  trail := sp.trail.text.toList

/-- The class of a static method. -/
def owner (className : String) : Cut.Owner :=
  ⟨className.toList, sp.beforeDot.text.toList, none, sp.afterDot.text.toList⟩

variable {ts} {className method outkey : String}

theorem wellFormed_cut {owner : Option Cut.Owner} (ho : ∀ o ∈ owner, o.WellFormed)
    (hm : Cut.Word method.toList) (hk : Cut.Word outkey.toList) :
    (sp.cut ts owner method outkey).WellFormed where
  lead := sp.lead.blanks
  owner := ho
  method := hm
  afterMethod := sp.beforeOpen.blanks
  params := Argument.isParamChar_listWritten sp.afterOpen ts
  afterParams := sp.afterClose.blanks
  afterBrace := sp.beforeColon.blanks
  afterColon := sp.afterColon.blanks
  outkey := hk
  trail := sp.trail.blanks

theorem wellFormed_owner (hc : IsClassName className) : (sp.owner className).WellFormed where
  name_ne := by simpa [owner] using hc.ne
  name := hc.chars
  afterName := sp.beforeDot.blanks
  block := by simp [owner]
  afterDot := sp.afterDot.blanks

theorem chars_cut_none :
    (sp.cut ts none method outkey).chars = (sp.ofFunction ts method outkey).toList := by
  simp [cut, Cut.chars, Cut.headChars, ofFunction, tail]

theorem chars_cut_owner :
    (sp.cut ts (some (sp.owner className)) method outkey).chars =
      (sp.ofStatic ts className method outkey).toList := by
  simp [cut, owner, Cut.chars, Cut.headChars, Cut.Owner.chars, ofStatic, tail]

/-- The key of a function is read without its blanks. -/
theorem parse_ofFunction (hm : Cut.Word method.toList) (hk : Cut.Word outkey.toList) :
    Template.parse (sp.ofFunction ts method outkey) =
      .ok { method, outkey
            params := Cut.cleaned? (Argument.listWritten sp.afterOpen ts).toList } := by
  have hwf : (sp.cut ts none method outkey).WellFormed := sp.wellFormed_cut (by simp) hm hk
  rw [Template.parse_eq_ok hwf sp.chars_cut_none]
  simp [Cut.template, cut]

/-- The key of a static method is read without its blanks. -/
theorem parse_ofStatic (hc : IsClassName className) (hm : Cut.Word method.toList)
    (hk : Cut.Word outkey.toList) :
    Template.parse (sp.ofStatic ts className method outkey) =
      .ok { method, outkey
            className := some className
            params := Cut.cleaned? (Argument.listWritten sp.afterOpen ts).toList } := by
  have howner : ∀ o ∈ some (sp.owner className), o.WellFormed := by
    simpa using sp.wellFormed_owner hc
  have hwf : (sp.cut ts (some (sp.owner className)) method outkey).WellFormed :=
    sp.wellFormed_cut howner hm hk
  rw [Template.parse_eq_ok hwf sp.chars_cut_owner]
  simp [Cut.template, cut, owner, Cut.cleaned?, hc.trimmed.trim_eq, hc.ne]

end Spacing
end Key

/-- What can be read is a template by its first character. -/
theorem isTemplateText_of_parse {s : String} {t : Template} (h : Template.parse s = .ok t) :
    isTemplateText s = true := by
  cases hm : Template.match? s with
  | none =>
    rw [Template.parse, hm] at h
    cases h
  | some t' =>
    obtain ⟨c, -, hchars, -⟩ := Template.match?_eq_some_iff.1 hm
    rw [isTemplateText, ← hchars]
    rfl

end KeyCall
