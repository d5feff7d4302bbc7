import Lisp.Proofs.Reader.Agreement

/-!
# Reading ends

A reader that is asked for one top-level form after another gives those that the automaton finds in
the whole text, in order, then the fault if there is one, and then nothing, however often it is
asked. Every form and the fault take at least one character of the text, so there are no more of
them than characters.

## Main definitions

* `Reader.Iter.after`, `Reader.Iter.item` — the reader after some questions, and the next answer
* `Reader.Iter.Gives` — a reader gives forms, a fault, and then nothing

## Main results

* `Reader.Iter.gives_of_readFrom` — the answers are those of the automaton
* `Reader.reader_progresses` — every loop advances, forms within forms are read where less is left,
  and every text comes to an end
-/

namespace Lisp.Reader

open Text (Cursor Position)

variable {rep : Representation} {n : Nat}

/-! ### The end of the text -/

theorem skipBlank_of_end {t : Taken n Unit} (h : t.cursor.peek = none) : skipBlank t = t :=
  loop_of_done (by rw [blankRound, h])

theorem nextRound_of_end [Tables] {t : Taken n Unit} (h : (skipBlank t).cursor.peek = none) :
    nextRound rep t = .inr (.ending (skipBlank t)) := by
  unfold nextRound
  dsimp only
  split
  · rfl
  · next c hc => simp [h] at hc

theorem readNext_of_end [Tables] (rep : Representation) {t : Taken n Unit}
    (h : t.cursor.peek = none) :
    readNext rep t = .ending t := by
  have same := skipBlank_of_end h
  refine loop_of_done ((nextRound_of_end ?_).trans ?_)
  · rw [same, h]
  · rw [same]

/-- The search for a form ends without one only at the end of the text. -/
theorem peek_of_ending [Tables] (rep : Representation) (t : Taken n Unit) :
    ∀ b, readNext rep t = .ending b → b.cursor.peek = none := by
  refine loop_induction (P := fun _ (r : Found n) => ∀ b, r = .ending b → b.cursor.peek = none)
    (advances_next rep) (fun t r h b hr => ?_) (fun _ _ _ _ hb => hb) t
  subst hr
  unfold nextRound at h
  dsimp only at h
  split at h
  · next none =>
    cases h
    exact none
  · split at h <;> cases h

/-- A form takes a character, and so does a fault, which comes of the beginning of a form. -/
theorem leftBehind_form [Tables] (rep : Representation) (t : Taken n Unit) :
    ∀ start r, readNext rep t = .form start r → leftBehind r < t.cursor.left := by
  refine loop_induction
    (P := fun t (found : Found n) => ∀ start r, found = .form start r →
      leftBehind r < t.cursor.left) (advances_next rep) ?_ ?_ t
  · intro t found h start r hr
    subst hr
    unfold nextRound at h
    dsimp only at h
    split at h
    · cases h
    · next c hc =>
      have here : 0 < (skipBlank t).cursor.left := Nat.zero_lt_of_lt (Cursor.left_next_lt hc)
      refine Nat.lt_of_lt_of_le ?_ (left_skipBlank_le t)
      split at h <;> cases h
      rw [leftBehind_rebound]
      exact leftBehind_lt (readForm rep (skipBlank t).cursor) here
  · intro t t' found h later start r hr
    exact Nat.lt_trans (later start r hr) (advances_next rep t t' h)

namespace Iter

/-- The reader after so many questions. -/
def after [Tables] (rep : Representation) (i : Iter) : Nat → Iter
  | 0 => i
  | k + 1 => (i.next rep).2.after rep k

/-- The answer to a question, counted from zero. -/
def item [Tables] (rep : Representation) (i : Iter) (k : Nat) : Option (Except Fault Value) :=
  ((i.after rep k).next rep).1

/-- A reader gives some forms, then a fault if there is one, and then nothing for ever. -/
structure Gives [Tables] (rep : Representation) (i : Iter) (forms : List Located)
    (fault : Option (Fault × Position)) : Prop where
  reads : ∀ k (h : k < forms.length), i.item rep k = some (.ok forms[k].form) ∧
    (i.after rep (k + 1)).location = forms[k].start
  fails : ∀ f start, fault = some (f, start) → i.item rep forms.length = some (.error f) ∧
    (i.after rep (forms.length + 1)).location = start
  ends : ∀ k, forms.length + fault.toList.length ≤ k → i.item rep k = none

/-- There is nothing left to be given. -/
def Spent (i : Iter) : Prop := i.failed = true ∨ i.cursor.peek = none

theorem Spent.next [Tables] {i : Iter} (h : i.Spent) :
    (i.next rep).1 = none ∧ (i.next rep).2.Spent := by
  unfold Iter.next
  by_cases failed : i.failed = true
  · rw [if_pos failed]
    exact ⟨rfl, .inl failed⟩
  · have ending := h.resolve_left failed
    rw [if_neg failed, readNext_of_end rep ending]
    exact ⟨rfl, .inr ending⟩

theorem Spent.item [Tables] {i : Iter} (h : i.Spent) (k : Nat) : i.item rep k = none := by
  induction k generalizing i with
  | zero => exact h.next.1
  | succ k ih => exact ih h.next.2

theorem gives_nothing [Tables] {i j : Iter} (h : i.next rep = (none, j)) (spent : j.Spent) :
    i.Gives rep [] none where
  reads k hk := absurd hk (Nat.not_lt_zero k)
  fails f start none := by cases none
  ends k _ := by
    cases k with
    | zero => exact congrArg Prod.fst h
    | succ k =>
      show ((i.next rep).2).item rep k = none
      rw [h]
      exact spent.item k

theorem gives_fault [Tables] {i j : Iter} {f : Fault} (h : i.next rep = (some (.error f), j))
    (spent : j.Spent) : i.Gives rep [] (some (f, j.location)) where
  reads k hk := absurd hk (Nat.not_lt_zero k)
  fails g start same := by
    cases same
    refine ⟨congrArg Prod.fst h, ?_⟩
    show (i.next rep).2.location = _
    rw [h]
  ends k hk := by
    cases k with
    | zero => exact absurd hk (by simp)
    | succ k =>
      show ((i.next rep).2).item rep k = none
      rw [h]
      exact spent.item k

theorem Gives.cons [Tables] {i j : Iter} {v : Value} {forms : List Located}
    {fault : Option (Fault × Position)} (h : i.next rep = (some (.ok v), j))
    (others : j.Gives rep forms fault) : i.Gives rep (⟨v, j.location⟩ :: forms) fault where
  reads k hk := by
    cases k with
    | zero =>
      refine ⟨congrArg Prod.fst h, ?_⟩
      show (i.next rep).2.location = _
      rw [h]
      rfl
    | succ k =>
      have kth := others.reads k (Nat.lt_of_succ_lt_succ hk)
      rw [show j = (i.next rep).2 by rw [h]] at kth
      exact kth
  fails f start same := by
    have last := others.fails f start same
    rw [show j = (i.next rep).2 by rw [h]] at last
    exact last
  ends k hk := by
    cases k with
    | zero => exact absurd hk (by simp)
    | succ k =>
      have silent := others.ends k (by
        rw [List.length_cons] at hk
        omega)
      rw [show j = (i.next rep).2 by rw [h]] at silent
      exact silent

/-- A reader that has not failed gives what the automaton finds in the rest of the text. -/
theorem gives_of_readFrom [Tables] (rep : Representation) {i : Iter} (live : i.failed = false)
    {s : State} (hs : s.token = .none) (hp : s.pending = []) :
    ∃ forms fault, s.readFrom rep i.cursor = ⟨s.forms.reverse ++ forms, fault⟩ ∧
      i.Gives rep forms fault ∧ forms.length + fault.toList.length ≤ i.cursor.left := by
  induction hn : i.cursor.left using Nat.strongRecOn generalizing i s with
  | ind n ih =>
    let t : Taken (i.cursor.left + 1) Unit := ⟨(), i.cursor, Nat.lt_succ_self _⟩
    have top : s.readFrom rep i.cursor = s.found rep (readNext rep t) :=
      State.readFrom_top hs hp t
    have asked : i.next rep = _ := if_neg (Bool.eq_false_iff.1 live)
    have ending := peek_of_ending rep t
    have fewer := leftBehind_form rep t
    rw [top]
    generalize readNext rep t = answer at asked ending fewer
    cases answer with
    | ending b =>
      exact ⟨[], none, by simp [State.found], gives_nothing asked (.inr (ending b rfl)),
        Nat.zero_le _⟩
    | form start r =>
      have fewer : leftBehind r < n := hn ▸ fewer start r rfl
      cases r with
      | error f =>
        refine ⟨[], some (f, start), ?_, gives_fault asked (.inl rfl), ?_⟩
        · simp [State.found, State.proceed, State.pursue, State.stopped]
        · show 0 + 1 ≤ n
          omega
      | ok b =>
        let j : Iter := ⟨b.cursor, start, i.failed⟩
        -- at the top level the form is one of those read so far
        have finished : ({ s with start := start } : State).finish b.value =
            { s with token := .none, start := start, forms := ⟨b.value, start⟩ :: s.forms } := by
          simp [State.finish, hp, wrapQuotes]
        obtain ⟨forms, fault, reading, gives, few⟩ := ih b.cursor.left fewer (i := j)
          (s := { s with token := .none, start := start, forms := ⟨b.value, start⟩ :: s.forms })
          live rfl hp rfl
        refine ⟨⟨b.value, start⟩ :: forms, fault, ?_, gives.cons asked, ?_⟩
        · show (State.finish _ b.value).readFrom rep b.cursor = _
          rw [finished]
          refine reading.trans ?_
          simp
        · have few : forms.length + fault.toList.length ≤ b.cursor.left := few
          have fewer : b.cursor.left < n := fewer
          rw [List.length_cons]
          omega

end Iter

/-- Reading makes progress and ends. A form that is read takes a character. In every loop a round
that leads to another takes a character: in comments, blanks, words, strings, regular expressions
and numbers, in bracketed forms however the forms within them are read, and between top-level forms.
The forms within a form are read only where fewer characters are left. So every text is read to an
end: whoever asks for one form after another gets those of the whole text, then a fault if there is
one, and then nothing for ever, and there are no more of these answers than characters. -/
theorem reader_progresses [Tables] (rep : Representation) :
    (∀ c t, readForm rep c = .ok t → t.cursor.left < c.left) ∧
      (∀ n, Advances (commentRound (n := n)) ∧ Advances (blankRound (n := n)) ∧
        (∀ p, Advances (whileRound (n := n) p)) ∧ Advances (stringRound (n := n)) ∧
        Advances (regexRound (n := n)) ∧ (∀ signed, Advances (numberRound (n := n) signed)) ∧
        (∀ d (form : FormReader n), Advances (groupRound d form)) ∧
        Advances (nextRound (n := n) rep)) ∧
      (∀ c, readForm rep c = formWith rep c fun d _ => readForm rep d) ∧
      ∀ text, (⟨.ofString text, {}, false⟩ : Iter).Gives rep (readAll rep text).forms
          (readAll rep text).fault ∧
        (readAll rep text).forms.length + (readAll rep text).fault.toList.length ≤ text.length := by
  refine ⟨fun c t _ => t.fewer, fun n => ⟨advances_comment, advances_blank, advances_while,
    advances_string, advances_regex, advances_number, advances_group, advances_next rep⟩,
    readForm_eq rep, fun text => ?_⟩
  obtain ⟨forms, fault, reading, gives, few⟩ := Iter.gives_of_readFrom rep
    (i := ⟨.ofString text, {}, false⟩) (s := {}) rfl rfl rfl
  have whole : readAll rep text = ⟨forms, fault⟩ := reading
  rw [whole]
  exact ⟨gives, few⟩

/-- A form, a bracket that closes nothing, and a list that is never closed: one form, one fault, and
then nothing. -/
theorem reader_progresses_unterminated :
    let i : Iter := ⟨.ofString "a) ('b", {}, false⟩
    i.item .native 0 = some (.ok (.symbol (.simple "a"))) ∧
      i.item .native 1 = some (.error ⟨.unterminated .list, ⟨1, 6⟩⟩) ∧
      ∀ k, 2 ≤ k → i.item .native k = none := by
  intro i
  obtain ⟨-, -, -, texts⟩ := reader_progresses .native
  have reading : readAll .native "a) ('b" =
      ⟨[⟨.symbol (.simple "a"), ⟨1, 0⟩⟩], some (⟨.unterminated .list, ⟨1, 6⟩⟩, ⟨1, 3⟩)⟩ := rfl
  obtain ⟨gives, -⟩ := texts "a) ('b"
  rw [reading] at gives
  exact ⟨(gives.reads 0 Nat.zero_lt_one).1, (gives.fails _ _ rfl).1, gives.ends⟩

end Lisp.Reader
