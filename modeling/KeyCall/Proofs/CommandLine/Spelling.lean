import KeyCall.CommandLine.Request
import KeyCall.Proofs.Text.Run

/-!
# Spelling requests

Whatever is to be processed can be asked for.  The values of options are attached to them by equals
signs, so that they may start with hyphens; and the file comes behind two hyphens, so that it may do
the same.

The overview is read first, and it stops at the command.  Until then it has taken all words for its
own, and has put up with those that it knows nothing of.

## Main definitions

* `attached` — the value that is attached to an option.
* `processLine` — a command line for a collection to process.

## Main results

* `Word.ofText_attached` — an option with a value attached to it.
* `Request.ofArguments_processLine` — **everything that can be processed can be asked for.**
-/

namespace KeyCall
namespace CommandLine

open Text

/-! ### Options -/

/-- The value that is attached to an option; two hyphens count for none. -/
def attached (text : String) : Option String := if text = dividerText then none else some text

/-- The name of a layout. -/
def layoutName : Json.Layout → String
  | .line => "json"
  | .pretty => "pretty"

/-- No option has an equals sign in its name. -/
theorem equals_notMem_of_useOf? {p : Page} {name : String} {u : Use} (h : p.useOf? name = some u) :
    '=' ∉ name.toList := by
  have hname : name ∈ u.names := by simpa using List.find?_some h
  cases u <;> simp only [Use.names, List.mem_cons, List.not_mem_nil, or_false] at hname <;>
    rcases hname with rfl | rfl <;> decide

theorem atEquals_append {front value : List Char} (h : '=' ∉ front) :
    atEquals (front ++ '=' :: value) = (front, some value) := by
  have hall : ∀ c ∈ front, (c != '=') = true := by
    intro c hc
    have hne : c ≠ '=' := fun heq => h (heq ▸ hc)
    simpa using hne
  have hstart : StartsOutside (· != '=') ('=' :: value) := startsOutside_cons.2 rfl
  rw [atEquals, takeWhile_append_eq hall hstart, dropWhile_append_eq hall hstart]
  rfl

/-- A word with an equals sign is no option's name. -/
theorem useOf?_append_equals (p : Page) (name value : String) :
    p.useOf? (name ++ "=" ++ value) = none := by
  cases h : p.useOf? (name ++ "=" ++ value) with
  | none => rfl
  | some u => exact absurd (equals_notMem_of_useOf? h) (by simp)

/-- A word that starts with two hyphens and has more to it is read as an option with a value. -/
theorem Word.ofText_eq_ofHyphen (p : Page) {name : String} (value : String)
    (hname : ['-', '-'] <+: name.toList) :
    Word.ofText p (name ++ "=" ++ value) = Word.ofHyphen p (name ++ "=" ++ value) := by
  obtain ⟨rest, hrest⟩ := hname
  have htext : (name ++ "=" ++ value).toList = '-' :: '-' :: (rest ++ '=' :: value.toList) := by
    simp [← hrest]
  rw [Word.ofText, htext, useOf?_append_equals]
  rfl

theorem cluster_of_takesValue {u : Use} (h : u.takesValue = true) (p : Page) (flags : List Use)
    (isShort : Bool) (text : List Char) :
    cluster p flags u isShort text = Word.ofValue flags u (String.ofList text) := by
  unfold cluster
  rw [if_pos h]

/-- **An option with a value attached to it.** -/
theorem Word.ofText_attached {p : Page} {u : Use} {name : String} (hu : p.useOf? name = some u)
    (htakes : u.takesValue = true) (hname : ['-', '-'] <+: name.toList) (value : String) :
    Word.ofText p (name ++ "=" ++ value) = .ok (.options [] (.value u (attached value))) := by
  have htext : (name ++ "=" ++ value).toList = name.toList ++ '=' :: value.toList := by simp
  rw [Word.ofText_eq_ofHyphen p value hname, Word.ofHyphen, htext,
    atEquals_append (equals_notMem_of_useOf? hu)]
  simp only [String.ofList_toList, hu, cluster_of_takesValue htakes, Word.ofValue, attached,
    beq_iff_eq]

/-- An option of another page is a word that nothing is known of, or an operand. -/
theorem Word.exists_ofText_of_unknown {p : Page} {name : String} (value : String)
    (hname : ['-', '-'] <+: name.toList) (hequals : '=' ∉ name.toList)
    (hunknown : (p.optionNames.filter fun n => name.toList.isPrefixOf n.toList) = []) :
    ∃ w, Word.ofText p (name ++ "=" ++ value) = .ok w := by
  have htext : (name ++ "=" ++ value).toList = name.toList ++ '=' :: value.toList := by simp
  have htwo : (name.toList ++ '=' :: value.toList).take 2 = ['-', '-'] := by
    obtain ⟨rest, hrest⟩ := hname
    rw [← hrest]
    rfl
  rw [Word.ofText_eq_ofHyphen p value hname, Word.ofHyphen, htext, atEquals_append hequals]
  simp only [String.ofList_toList, htwo, hunknown]
  split
  · exact ⟨_, rfl⟩
  · exact ⟨_, rfl⟩

/-! ### Words -/

/-- The words of a page keep their texts. -/
theorem map_fst_of_wordsOf {p : Page} {texts : List String} {ws : List (String × Word)}
    (h : wordsOf p texts = .ok ws) : ws.map Prod.fst = texts := by
  induction texts generalizing ws with
  | nil =>
    cases h
    rfl
  | cons t ts ih =>
    rw [wordsOf] at h
    split at h
    · cases h
      simp [Function.comp_def]
    · cases hw : Word.ofText p t with
      | error m => rw [hw] at h; cases h
      | ok w =>
        cases hws : wordsOf p ts with
        | error m => rw [hw, hws] at h; cases h
        | ok ws' =>
          rw [hw, hws] at h
          cases h
          rw [List.map_cons, ih hws]

theorem wordsOf_cons {p : Page} {t : String} {ts : List String} {w : Word}
    {ws : List (String × Word)} (ht : t ≠ dividerText) (hw : Word.ofText p t = .ok w)
    (hws : wordsOf p ts = .ok ws) : wordsOf p (t :: ts) = .ok ((t, w) :: ws) := by
  rw [wordsOf, if_neg (by simpa using ht), hw, hws]
  rfl

/-- A word with an equals sign is not the two hyphens. -/
theorem append_equals_ne (name value : String) : name ++ "=" ++ value ≠ dividerText := by
  intro h
  have hmem : '=' ∈ (name ++ "=" ++ value).toList := by simp
  rw [h] at hmem
  exact absurd hmem (by decide)

/-! ### A command line -/

/-- The words behind the command: the modules, the layout and the file. -/
def processWords (options : List String) (layout : Json.Layout) (file : String) : List String :=
  options.map ("--registry" ++ "=" ++ ·) ++
    ["--output" ++ "=" ++ layoutName layout, dividerText, file]

/-- A command line for a collection to process. -/
def processLine (verbose : Bool) (options : List String) (layout : Json.Layout) (file : String) :
    List String :=
  (if verbose then ["-v"] else []) ++ "process" :: processWords options layout file

variable (verbose : Bool) (options : List String) (layout : Json.Layout) (file : String)

/-- The overview puts up with what is behind the command. -/
theorem exists_wordsOf_overview :
    ∃ ws, wordsOf .overview (processWords options layout file) = .ok ws := by
  have hoption : ∀ name value, name = "--registry" ∨ name = "--output" →
      ∃ w, Word.ofText .overview (name ++ "=" ++ value) = .ok w := by
    rintro name value (rfl | rfl)
    · exact Word.exists_ofText_of_unknown value (by decide) (by decide) (by decide)
    · exact Word.exists_ofText_of_unknown value (by decide) (by decide) (by decide)
  unfold processWords
  induction options with
  | nil =>
    obtain ⟨w, hw⟩ := hoption "--output" (layoutName layout) (.inr rfl)
    exact ⟨_, wordsOf_cons (append_equals_ne _ _) hw rfl⟩
  | cons t ts ih =>
    obtain ⟨w, hw⟩ := hoption "--registry" t (.inl rfl)
    obtain ⟨ws, hws⟩ := ih
    exact ⟨_, wordsOf_cons (append_equals_ne _ _) hw hws⟩

/-- A module to load, as a word. -/
def moduleWord (text : String) : String × Word :=
  ("--registry" ++ "=" ++ text, .options [] (.value .registry (attached text)))

/-- The words of the command. -/
theorem wordsOf_process :
    wordsOf .process (processWords options layout file) =
      .ok (options.map moduleWord ++
        [("--output" ++ "=" ++ layoutName layout,
            .options [] (.value .output (some (layoutName layout)))),
          (dividerText, .divider), (file, .operand file)]) := by
  unfold processWords
  induction options with
  | nil =>
    have huse : Page.process.useOf? "--output" = some .output := rfl
    have houtput := Word.ofText_attached huse rfl (by decide) (layoutName layout)
    have hvalue : attached (layoutName layout) = some (layoutName layout) := by
      cases layout <;> rfl
    rw [hvalue] at houtput
    exact wordsOf_cons (append_equals_ne _ _) houtput rfl
  | cons t ts ih =>
    have huse : Page.process.useOf? "--registry" = some .registry := rfl
    have hmodule := Word.ofText_attached huse rfl (by decide) t
    exact wordsOf_cons (append_equals_ne _ _) hmodule ih

/-- The modules are taken in one after the other. -/
theorem readWords_modules (f : Found) (ws : List (String × Word)) :
    Found.readWords .process f (options.map moduleWord ++ ws) =
      Found.readWords .process { f with modules := f.modules ++ options.map attached } ws := by
  induction options generalizing f with
  | nil => simp
  | cons t ts ih =>
    have hfirst : Found.readWords .process f (moduleWord t :: (ts.map moduleWord ++ ws)) =
        Found.readWords .process { f with modules := f.modules ++ [attached t] }
          (ts.map moduleWord ++ ws) := rfl
    rw [List.map_cons, List.cons_append, hfirst, ih]
    simp

/-- What the words of the command say. -/
theorem read_process :
    Page.process.read (processWords options layout file) =
      .ok { modules := options.map attached, layout, operand := some file } := by
  rw [Page.read, wordsOf_process]
  simp only [readWords_modules]
  cases layout <;> rfl

/-- The overview ends at the command, and hands on the words behind it. -/
theorem readWords_command (f : Found) (name : String) (ws : List (String × Word)) :
    Found.readWords .overview f ((name, .operand name) :: ws) =
      .ok { f with operand := some name, behind := ws.map Prod.fst } := by
  unfold Found.readWords
  rw [if_pos rfl]

/-- What the words of the overview say. -/
theorem read_overview :
    Page.overview.read (processLine verbose options layout file) =
      .ok { verbose, operand := some "process", behind := processWords options layout file } := by
  obtain ⟨ws, hws⟩ := exists_wordsOf_overview options layout file
  have hcommand : wordsOf .overview ("process" :: processWords options layout file) =
      .ok (("process", .operand "process") :: ws) := wordsOf_cons (by decide) rfl hws
  rw [← map_fst_of_wordsOf hws, Page.read, processLine]
  cases verbose with
  | false =>
    have hline : [] ++ "process" :: processWords options layout file =
        "process" :: processWords options layout file := rfl
    simp only [Bool.false_eq_true, if_false, hline, hcommand, readWords_command]
  | true =>
    have hflag : wordsOf .overview ("-v" :: "process" :: processWords options layout file) =
        .ok (("-v", .options [.verbose] .nothing) :: ("process", .operand "process") :: ws) :=
      wordsOf_cons (by decide) rfl hcommand
    have hline : ["-v"] ++ "process" :: processWords options layout file =
        "-v" :: "process" :: processWords options layout file := rfl
    simp only [if_true, hline, hflag]
    exact readWords_command { verbose := true } "process" ws

/-- **Everything that can be processed can be asked for.** -/
theorem Request.ofArguments_processLine :
    Request.ofArguments (processLine verbose options layout file) =
      .ok ⟨verbose, .process file (options.map attached) layout⟩ := by
  rw [Request.ofArguments, read_overview]
  show (do let found ← Page.process.read (processWords options layout file); _) = _
  rw [read_process]
  rfl

end CommandLine
end KeyCall
