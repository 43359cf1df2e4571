import KeyCall.Proofs.Json.Token

/-!
# What keeps a JSON text from being read

A text that is no JSON is at fault, and says where.  Besides, a text may be JSON and go beyond what
can be read: it has more containers open at once than there is room for, or an integer of too many
digits.  Nothing else keeps a text from being read, and either excess can be seen in the text without
reading it.

## Main definitions

* `Json.Begins`, `Json.Moves` — how a value begins, and what a token does to a state.
* `Json.openings` — how many characters of a text open a container.
* `Json.Overflows` — a text goes beyond what can be read, and with which error.
* `Json.opened` — how many containers are open in a state.

## Main results

* `Json.moves_of_step` — what a step can do.
* `Json.overflows_of_read` — **a text that is not at fault goes beyond what can be read.**
-/

namespace KeyCall
namespace Json

variable {room : Nat}

/-! ### Steps -/

/-- A value begins with a token: it is the token, or the token opens a container, for which there
has to be room. -/
inductive Begins (room : Nat) (t : Token) (stack : List Frame) : State → Prop
  | scalar {v : Value} (ht : t = .scalar v) : Begins room t stack (stack, .next v)
  | text {s : String} (ht : t = .text s) : Begins room t stack (stack, .next (.text s))
  | list (ht : t = .openBracket) (hroom : stack.length < room) :
      Begins room t stack (stack, .firstValue)
  | mapping (ht : t = .openBrace) (hroom : stack.length < room) :
      Begins room t stack (stack, .firstName)

/-- A token leads from a state to another one or to a value. -/
inductive Moves (room : Nat) (t : Token) : State → State ⊕ Value → Prop
  | value {stack : List Frame} {s : State} (h : Begins room t stack s) :
      Moves room t (stack, .value) (.inl s)
  | firstItem {stack : List Frame} {s : State} (h : Begins room t (openList stack) s) :
      Moves room t (stack, .firstValue) (.inl s)
  | noItem {stack : List Frame} (ht : t = .closeBracket) :
      Moves room t (stack, .firstValue) (.inl (stack, .next (.list [])))
  | nextItem {stack : List Frame} {done : List Value} {v : Value} (ht : t = .comma) :
      Moves room t (.list done :: stack, .next v) (.inl (.list (v :: done) :: stack, .value))
  | listEnd {stack : List Frame} {done : List Value} {v : Value} (ht : t = .closeBracket) :
      Moves room t (.list done :: stack, .next v) (.inl (stack, .next (.list (v :: done).reverse)))
  | firstName {stack : List Frame} {key : String} (ht : t = .text key) :
      Moves room t (stack, .firstName) (.inl (stack, .colon [] key))
  | noMember {stack : List Frame} (ht : t = .closeBrace) :
      Moves room t (stack, .firstName) (.inl (stack, .next (.mapping .plain [])))
  | name {stack : List Frame} {done : List (Value × Value)} {key : String} (ht : t = .text key) :
      Moves room t (stack, .name done) (.inl (stack, .colon done key))
  | colon {stack : List Frame} {done : List (Value × Value)} {key : String} (ht : t = .colon) :
      Moves room t (stack, .colon done key) (.inl (.mapping done key :: stack, .value))
  | nextMember {stack : List Frame} {done : List (Value × Value)} {key : String} {v : Value}
      (ht : t = .comma) :
      Moves room t (.mapping done key :: stack, .next v)
        (.inl (stack, .name (Value.putEntry done (.text key) v)))
  | mappingEnd {stack : List Frame} {done : List (Value × Value)} {key : String} {v : Value}
      (ht : t = .closeBrace) :
      Moves room t (.mapping done key :: stack, .next v)
        (.inl (stack, .next (.mapping .plain (Value.putEntry done (.text key) v))))
  | finish {v : Value} (ht : t = .finish) : Moves room t ([], .next v) (.inr v)

theorem begins_of_start {stack : List Frame} {l : Lexeme} {s : State}
    (h : start room stack l = .ok s) : Begins room l.token stack s := by
  obtain ⟨token, rest⟩ := l
  have hroom : ∀ {c : String} {s' : State},
      (if room ≤ stack.length then .error ⟨.other (.tooDeep c), rest⟩ else .ok s' :
        Except Fault State) = .ok s → s' = s ∧ stack.length < room := by
    intro c s' h
    split at h
    · cases h
    · next hroom => exact ⟨Except.ok.inj h, Nat.not_le.1 hroom⟩
  cases token with
  | openBracket =>
    obtain ⟨rfl, hlength⟩ := hroom h
    exact .list rfl hlength
  | openBrace =>
    obtain ⟨rfl, hlength⟩ := hroom h
    exact .mapping rfl hlength
  | text s =>
    cases h
    exact .text rfl
  | scalar v =>
    cases h
    exact .scalar rfl
  | _ => cases h

theorem startName_eq_ok {stack : List Frame} {done : List (Value × Value)} {l : Lexeme} {s : State}
    (h : startName stack done l = .ok s) : ∃ key, l.token = .text key ∧ s = (stack, .colon done key)
    := by
  unfold startName at h
  split at h
  · next key hkey =>
    cases h
    exact ⟨key, hkey, rfl⟩
  · cases h
  · cases h

/-- **What a step can do.** -/
theorem moves_of_step {s : State} {l : Lexeme} {r : State ⊕ Value} (h : step room s l = .ok r) :
    Moves room l.token s r := by
  have hinl : ∀ {x : Except Fault State}, x.map .inl = .ok r → ∃ s', x = .ok s' ∧ r = .inl s' := by
    intro x hx
    cases x with
    | error f => cases hx
    | ok s' => exact ⟨s', rfl, (Except.ok.inj hx).symm⟩
  unfold step at h
  dsimp only at h
  split at h
  · obtain ⟨s', hs', rfl⟩ := hinl h
    exact .value (begins_of_start hs')
  · split at h
    · next ht =>
      cases h
      exact .noItem ht
    · obtain ⟨s', hs', rfl⟩ := hinl h
      exact .firstItem (begins_of_start hs')
  · obtain ⟨s', hs', rfl⟩ := hinl h
    obtain ⟨key, ht, rfl⟩ := startName_eq_ok hs'
    exact .name ht
  · split at h
    · next ht =>
      cases h
      exact .noMember ht
    · obtain ⟨s', hs', rfl⟩ := hinl h
      obtain ⟨key, ht, rfl⟩ := startName_eq_ok hs'
      exact .firstName ht
  · split at h
    · next ht =>
      cases h
      exact .colon ht
    · cases h
  · split at h
    · next ht =>
      cases h
      exact .finish ht
    · cases h
  · split at h
    · next ht =>
      cases h
      exact .nextItem ht
    · next ht =>
      cases h
      exact .listEnd ht
    · cases h
  · split at h
    · next ht =>
      cases h
      exact .nextMember ht
    · next ht =>
      cases h
      exact .mappingEnd ht
    · cases h

/-! ### Open containers -/

/-- How many containers are open in a state. -/
def opened : State → Nat
  | (stack, .value) => stack.length
  | (stack, .next _) => stack.length
  | (stack, _) => stack.length + 1

/-- How many containers a token opens. -/
def Token.openings (t : Token) : Nat := if (container? t).isSome then 1 else 0

theorem Begins.opened_le {t : Token} {stack : List Frame} {s : State} (h : Begins room t stack s) :
    opened s ≤ stack.length + t.openings := by
  cases h with
  | scalar ht => exact Nat.le_add_right _ _
  | text ht => exact Nat.le_add_right _ _
  | list ht => rw [ht]; exact Nat.le_refl _
  | mapping ht => rw [ht]; exact Nat.le_refl _

theorem Moves.opened_le {t : Token} {s s' : State} (h : Moves room t s (.inl s')) :
    opened s' ≤ opened s + t.openings := by
  cases h with
  | value hbegins => exact hbegins.opened_le
  | firstItem hbegins => exact hbegins.opened_le
  | noItem ht | listEnd ht | noMember ht | mappingEnd ht =>
    refine Nat.le_trans ?_ (Nat.le_add_right _ _)
    exact Nat.le_succ _
  | _ => exact Nat.le_add_right _ _

/-! ### Going beyond what can be read -/

/-- How many characters of a text open a container; those in quotes count as well. -/
def openings (cs : List Char) : Nat := cs.countP fun c => (containerOf? c).isSome

/-- A text goes beyond what can be read: it opens a container behind as many as may be open at once,
or it has too many digits in a row. -/
inductive Overflows (room : Nat) (text : List Char) : Error → Prop
  | deep {before rest : List Char} {c : Char} {container : String}
      (htext : text = before ++ c :: rest) (hc : containerOf? c = some container)
      (hdeep : room ≤ openings before) : Overflows room text (.tooDeep container)
  | long {before digits rest : List Char} (htext : text = before ++ digits ++ rest)
      (hdigits : ∀ d ∈ digits, d.isDigit = true) (hlong : Error.digitLimit < digits.length) :
      Overflows room text (.tooLargeToRead digits.length)

/-- What is wrong with a token that no value begins with is a fault of the text, unless the token is
an integer of too many digits, or there is no room for a container. -/
theorem error?_of_start {stack : List Frame} {l : Lexeme} {f : Fault} {e : Error}
    (h : start room stack l = .error f) (he : f.reason.error? = some e) :
    (∃ c, container? l.token = some c ∧ e = .tooDeep c ∧ room ≤ stack.length) ∨
      (∃ n, l.token = .tooLong n ∧ e = .tooLargeToRead n) ∨ l.token = .badText f := by
  obtain ⟨token, rest⟩ := l
  have hroom : ∀ {c : String} {s' : State}, container? token = some c →
      (if room ≤ stack.length then .error ⟨.other (.tooDeep c), rest⟩ else .ok s' :
        Except Fault State) = .error f →
      ∃ c, container? token = some c ∧ e = .tooDeep c ∧ room ≤ stack.length := by
    intro c s' hc h
    split at h
    · next hfull =>
      cases h
      exact ⟨c, hc, (Option.some.inj he).symm, hfull⟩
    · cases h
  cases token with
  | openBracket => exact .inl (hroom rfl h)
  | openBrace => exact .inl (hroom rfl h)
  | text s => cases h
  | scalar v => cases h
  | badText f' =>
    cases h
    exact .inr (.inr rfl)
  | tooLong n =>
    cases h
    exact .inr (.inl ⟨n, rfl, (Option.some.inj he).symm⟩)
  | _ =>
    cases h
    cases he

theorem error?_of_startName {stack : List Frame} {done : List (Value × Value)} {l : Lexeme}
    {f : Fault} {e : Error} (h : startName stack done l = .error f)
    (he : f.reason.error? = some e) : l.token = .badText f := by
  unfold startName at h
  split at h
  · cases h
  · next ht =>
    cases h
    exact ht
  · cases h
    cases he

theorem error?_of_step {s : State} {l : Lexeme} {f : Fault} {e : Error}
    (h : step room s l = .error f) (he : f.reason.error? = some e) :
    (∃ c, container? l.token = some c ∧ e = .tooDeep c ∧ room ≤ opened s) ∨
      (∃ n, l.token = .tooLong n ∧ e = .tooLargeToRead n) ∨ l.token = .badText f := by
  have hinl : ∀ {x : Except Fault State},
      x.map (Sum.inl (β := Value)) = .error f → x = .error f := by
    intro x hx
    cases x with
    | error f' => exact congrArg _ (Except.error.inj hx)
    | ok s' => cases hx
  unfold step at h
  dsimp only at h
  split at h
  · exact error?_of_start (hinl h) he
  · split at h
    · cases h
    · exact error?_of_start (hinl h) he
  · exact .inr (.inr (error?_of_startName (hinl h) he))
  · split at h
    · cases h
    · exact .inr (.inr (error?_of_startName (hinl h) he))
  · split at h
    · cases h
    · cases h
      cases he
  · split at h
    · cases h
    · cases h
      cases he
  · split at h
    · cases h
    · cases h
    · cases h
      cases he
  · split at h
    · cases h
    · cases h
    · cases h
      cases he

/-- A step that fails for another reason than a fault of the text goes beyond what can be read. -/
theorem overflows_of_step {s : State} {before rest : List Char} {f : Fault} {e : Error}
    (hopened : opened s ≤ openings before) (h : step room s ⟨(lex rest).1, rest⟩ = .error f)
    (he : f.reason.error? = some e) : Overflows room (before ++ rest) e := by
  have hstarts : Starts rest ((lex rest).1, (lex rest).2) := starts_lex rest
  rcases error?_of_step h he with ⟨container, ht, rfl, hdeep⟩ | ⟨n, ht, rfl⟩ | ht
  · obtain ⟨c, back, rfl, hc, -⟩ := hstarts.exists_of_container? ht
    exact .deep rfl hc (Nat.le_trans hdeep hopened)
  · dsimp only at ht
    rw [ht] at hstarts
    obtain ⟨front, digits, back, rfl, hdigits, rfl, hlong⟩ := hstarts.exists_of_tooLong
    have htext : before ++ (front ++ (digits ++ back)) = before ++ front ++ digits ++ back := by
      rw [List.append_assoc, List.append_assoc]
    exact .long htext hdigits hlong
  · dsimp only at ht
    rw [ht] at hstarts
    have hf := hstarts.error?_of_badText
    rw [he] at hf
    cases hf

/-- A token opens no more containers than the characters that it takes. -/
theorem openings_lex_le (c : Char) (cs : List Char) :
    (lex (c :: cs)).1.openings ≤ openings ((c :: cs).take (lex (c :: cs)).2) := by
  have hstarts : Starts (c :: cs) ((lex (c :: cs)).1, (lex (c :: cs)).2) := starts_lex _
  unfold Token.openings
  cases hopen : container? (lex (c :: cs)).1 with
  | none => exact Nat.zero_le _
  | some container =>
    obtain ⟨c', rest, heq, hc, htaken⟩ := hstarts.exists_of_container? hopen
    cases heq
    rw [htaken, List.take_succ_cons, List.take_zero, openings, List.countP_cons, hc]
    exact Nat.le_refl _

/-- Reading fails in its first step, or behind it. -/
theorem readFrom_cons_eq_error {s : State} {l : Lexeme} {ls : List Lexeme} {f : Fault}
    (h : readFrom room s (l :: ls) = .error f) :
    step room s l = .error f ∨
      ∃ s', step room s l = .ok (.inl s') ∧ readFrom room s' ls = .error f := by
  rw [readFrom] at h
  cases hstep : step room s l with
  | error f' =>
    rw [hstep] at h
    exact .inl (congrArg _ (Except.error.inj h))
  | ok r =>
    rw [hstep] at h
    cases r with
    | inl s' => exact .inr ⟨s', rfl, h⟩
    | inr v => cases h

/-- There is nothing behind the last token, which is a fault of the text. -/
theorem error?_of_readFrom_nil {s : State} {f : Fault} (h : readFrom room s [] = .error f) :
    f.reason.error? = none := by
  cases h
  rfl

/-- Where what is in front of a text opens the containers of a state, the text is at fault, or the
whole goes beyond what can be read. -/
theorem overflows_of_readFrom {s : State} {before rest : List Char} {f : Fault} {e : Error}
    (hopened : opened s ≤ openings before) (h : readFrom room s (lexemes rest) = .error f)
    (he : f.reason.error? = some e) : Overflows room (before ++ rest) e := by
  have hlast : ∀ {s : State}, readFrom room s [] = .error f → False := by
    intro s h
    rw [error?_of_readFrom_nil h] at he
    cases he
  -- Along the tokens: what a step takes moves in front of what is left.
  induction rest using lexemes.induct generalizing s before with
  | case1 =>
    rw [lexemes] at h
    rcases readFrom_cons_eq_error h with hstep | ⟨s', -, hrest⟩
    · exact overflows_of_step hopened hstep he
    · exact (hlast hrest).elim
  | case2 c cs hblank ih =>
    rw [lexemes, if_pos hblank] at h
    have hmore : openings (before ++ [c]) = openings before + openings [c] := List.countP_append
    rw [← List.singleton_append, ← List.append_assoc]
    exact ih (by omega) h
  | case3 c cs hblank token hlex =>
    rw [lexemes, if_neg hblank, hlex] at h
    rcases readFrom_cons_eq_error h with hstep | ⟨s', -, hrest⟩
    · refine overflows_of_step hopened ?_ he
      rw [hlex]
      exact hstep
    · exact (hlast hrest).elim
  | case4 c cs hblank token taken hlex htaken ih =>
    rw [lexemes, if_neg hblank, hlex] at h
    simp only [htaken, if_false] at h
    rcases readFrom_cons_eq_error h with hstep | ⟨s', hstep, hrest⟩
    · refine overflows_of_step hopened ?_ he
      rw [hlex]
      exact hstep
    · have htoken := openings_lex_le c cs
      have hopened' := (moves_of_step hstep).opened_le
      have hmore : openings (before ++ (c :: cs).take taken) =
          openings before + openings ((c :: cs).take taken) := List.countP_append
      have hsplit : before ++ c :: cs = before ++ (c :: cs).take taken ++ cs.drop (taken - 1) := by
        obtain ⟨n, rfl⟩ := Nat.exists_eq_succ_of_ne_zero htaken
        rw [List.take_succ_cons, List.append_assoc, List.cons_append, Nat.succ_sub_one,
          List.take_append_drop]
      rw [hlex] at htoken
      dsimp only at htoken hopened'
      rw [hsplit]
      exact ih (by omega) hrest

/-- **A text that is not at fault goes beyond what can be read.** -/
theorem overflows_of_read {text : List Char} {f : Fault} {e : Error} (h : read text room = .error f)
    (he : f.reason.error? = some e) : Overflows room text e := by
  unfold read at h
  split at h
  · cases h
    cases he
  · have hnone : opened ([], .value) ≤ openings [] := Nat.le_refl 0
    exact overflows_of_readFrom hnone h he

end Json
end KeyCall
