import Lisp.Proofs.Reader.Composition
import Lisp.Proofs.Reader.Step
import Lisp.Proofs.Text.Position

/-!
# Positions that the reader reports

The reader reports two kinds of positions: where a top-level form begins, and where a fault is. Both
are places in the text that has been read. The first kind says more: reading can be taken up again
at the place. A reader that starts there is, step for step, in the state of the one that has come
from the beginning, but for the forms before it.

One character does little to a form at the top level. Something goes on as it was, or a form comes
to its end; and behind that, where nothing is being read, the character may begin the next form. So
the form that begins behind given ones begins at one place throughout, and that is the place at
which nothing was being read when its first character came.

## Main definitions

* `Reader.Begins` — the characters that begin a form
* `Reader.Token.OfForm` — a token that belongs to a form
* `Reader.State.Course` — what can happen to the form being read, up to its end
* `Reader.State.BeganAt` — the form behind given ones begins at a place
* `Reader.Token.PlacesIn` — the places that a token remembers are of a kind
* `Reader.StandsBehind` — a text whose places are those of the whole, header included
* `Reader.ReportsTruly` — all positions reported on a text are places in the text it stands in

## Main results

* `Reader.State.course_take` — what one character does to forms at the top level
* `Reader.State.restart` — reading can be taken up where a form begins
* `Reader.exists_restart` — the forms of a text from one of them on are those of the rest of the
  text
* `Reader.exists_fault_place` — a fault is at a place in the text
* `Reader.positions_are_places` — in a file, the positions are those of the file, interpreter line
  included
-/

namespace Lisp.Reader

open Text (Position)

/-- The characters that begin a form: neither separators nor the start of a comment nor closing
brackets. -/
structure Begins (c : Char) : Prop where
  separator : isSeparator c = false
  comment : c ≠ ';'
  closing : isClosing c = false

/-! ### Tokens of forms -/

namespace Token

variable {t t' : Token} {c : Char} {f : Fault} {p q : Position} {v : Value}

/-- A token that belongs to a form: something is being read, and it is no comment. -/
def OfForm (t : Token) : Prop := t ≠ .none ∧ t ≠ .comment

theorem ofForm_failed (f : Fault) : (failed f).OfForm := by simp [OfForm]

theorem ofForm_hash (start : Position) : (hash start).OfForm := by simp [OfForm]

theorem Means.ofForm (h : t.Means v) : t.OfForm := by
  cases h <;> simp [OfForm]

theorem EndsBadly.ofForm (h : t.EndsBadly p f) : t.OfForm := by
  cases h <;> simp [OfForm]

theorem Refuses.ofForm (h : t.Refuses c p q f) : t.OfForm := by
  cases h <;> simp [OfForm]

theorem IsCut.ofForm (h : t.IsCut p f) : t.OfForm := by
  cases h <;> simp [OfForm]

/-- A token stays one of a form; a comment ends at the end of its line. -/
theorem Becomes.ofForm (h : t.Becomes c t') : t = .comment ∧ t' = .none ∨ t.OfForm ∧ t'.OfForm := by
  cases h with
  | newline => exact .inl ⟨rfl, rfl⟩
  | _ => exact .inr (by simp [OfForm])

end Token

namespace State

variable {rep : Representation} {s t m : State} {c : Char} {base : List Located} {p : Position}

/-! ### What one character does to forms at the top level -/

/-- What can happen to the form being read at the top level: it goes on, or it comes to its end. -/
inductive Course (s s' : State) : Prop where
  | goesOn (forms : s'.forms = s.forms) (start : s'.start = s.start) (idle : s'.IsIdle ↔ s.IsIdle)
  | ends (v : Value) (forms : s'.forms = ⟨v, s.start⟩ :: s.forms) (busy : ¬ s.IsIdle)
    (idle : s'.IsIdle)

theorem Course.refl (s : State) : s.Course s := .goesOn rfl rfl .rfl

theorem Course.trans (h : s.Course t) (h' : t.Course m) : s.Course m := by
  cases h with
  | goesOn forms start idle =>
    cases h' with
    | goesOn forms' start' idle' =>
      exact .goesOn (forms'.trans forms) (start'.trans start) (idle'.trans idle)
    | ends v forms' busy idle' =>
      rw [forms, start] at forms'
      exact .ends v forms' (fun h => busy (idle.2 h)) idle'
  | ends v forms busy idle =>
    cases h' with
    | goesOn forms' _ idle' => exact .ends v (forms'.trans forms) busy (idle'.2 idle)
    -- nothing comes to its end where nothing has begun
    | ends _ _ busy' _ => exact absurd idle busy'

theorem not_isIdle_of_pending (h : s.pending ≠ []) : ¬ s.IsIdle := fun idle => h idle.1

theorem not_isIdle_of_token (h : s.token.OfForm) : ¬ s.IsIdle := fun idle => idle.2.elim h.1 h.2

/-- Reading goes on while something stays begun and no form is added. -/
theorem Course.busy (busy : ¬ s.IsIdle) (busy' : ¬ t.IsIdle) (forms : t.forms = s.forms)
    (start : t.start = s.start) : s.Course t :=
  .goesOn forms start (iff_of_false busy' busy)

theorem wrapQuotes_cases (pending : List Pending) (v : Value) :
    (wrapQuotes pending v).1 = [] ∨
      ∃ d items rest, (wrapQuotes pending v).1 = .group d items :: rest := by
  induction pending generalizing v with
  | nil => exact .inl rfl
  | cons q rest ih =>
    cases q with
    | group d items => exact .inr ⟨d, items, rest, rfl⟩
    | quote => exact ih (.quoted v)

/-- A finished value ends the form being read, or goes to a form that stays open. -/
theorem course_finish (busy : ¬ s.IsIdle) (forms : t.forms = s.forms) (start : t.start = s.start)
    (v : Value) : s.Course (t.finish v) := by
  unfold finish
  have cases := wrapQuotes_cases t.pending v
  generalize wrapQuotes t.pending v = w at cases
  obtain ⟨pending, w⟩ := w
  rcases cases with hpending | ⟨d, items, rest, hpending⟩
  · cases hpending
    exact .ends w (by simp only [forms, start]) busy ⟨rfl, .inl rfl⟩
  · cases hpending
    exact .busy busy (not_isIdle_of_pending (by simp)) forms start

theorem course_failed (busy : ¬ s.IsIdle) (forms : t.forms = s.forms) (start : t.start = s.start)
    (f : Fault) : s.Course { t with token := .failed f } :=
  .busy busy (not_isIdle_of_token (Token.ofForm_failed f)) forms start

theorem course_closing [Tables] (s : State) (c : Char) : s.Course (s.closing rep c) := by
  have closes := closes_closing rep s c
  generalize s.closing rep c = s' at closes
  cases closes with
  | stray => exact .refl s
  | quote hp => exact course_failed (not_isIdle_of_pending (by simp [hp])) rfl rfl _
  | group hp => exact course_finish (not_isIdle_of_pending (by simp [hp])) (by rfl) (by rfl) _
  | oddMap hp =>
    exact course_failed (not_isIdle_of_pending (by simp [hp])) (by rfl) (by rfl) _

/-- A token that begins inside a form leaves the form where it is. -/
theorem course_begin (hpending : s.pending ≠ []) (token : Token) : s.Course (s.begin token) := by
  have start : (s.begin token).start = s.start := by simp [begin, hpending]
  exact .busy (not_isIdle_of_pending hpending) (not_isIdle_of_pending hpending) rfl start

theorem course_open (hpending : s.pending ≠ []) (q : Pending) : s.Course (s.open_ q) := by
  have start : (s.open_ q).start = s.start := by simp [open_, begin, hpending]
  exact .busy (not_isIdle_of_pending hpending) (not_isIdle_of_pending (by simp [open_])) rfl start

/-- A character at which no token is being read goes on with what is being read, or it begins a
top-level form. -/
theorem course_fresh [Tables] (rep : Representation) (h : s.token = .none) (c : Char) :
    s.Course (s.fresh rep c) ∨ s.pending = [] ∧ Begins c := by
  -- inside a form every character belongs to it, while at the top level only those do not begin a
  -- form that are passed over
  by_cases hpending : s.pending = []
  · by_cases hseparator : isSeparator c = true
    · left
      simp only [fresh, hseparator, if_true]
      exact .refl s
    by_cases hcomment : c = ';'
    · left
      have hfresh : s.fresh rep c = { s with token := .comment } := by
        simp only [fresh, if_neg hseparator, if_pos hcomment]
      rw [hfresh]
      exact .goesOn rfl rfl (iff_of_true ⟨hpending, .inr rfl⟩ ⟨hpending, .inl h⟩)
    by_cases hclosing : isClosing c = true
    · left
      rw [fresh_of_isClosing hclosing]
      exact course_closing s c
    · exact .inr ⟨hpending, by simpa using hseparator, hcomment, by simpa using hclosing⟩
  · left
    have busy : ¬ s.IsIdle := not_isIdle_of_pending hpending
    have starts : Starts rep s c (s.fresh rep c) := starts_fresh rep s c
    generalize s.fresh rep c = s' at starts ⊢
    cases starts with
    | separator => exact .refl s
    | comment => exact .busy busy (not_isIdle_of_pending hpending) rfl rfl
    | closing => exact course_closing s c
    | string | number | sign | colon | hash | symbol => exact course_begin hpending _
    | quote | group => exact course_open hpending _
    | stray =>
      have busy' : ¬ (s.begin .none).IsIdle := not_isIdle_of_pending hpending
      exact (course_begin hpending .none).trans (course_failed busy' rfl rfl _)

/-- The form being read goes on or ends, and the character may begin the next one behind it. -/
def Passes [Tables] (rep : Representation) (s : State) (c : Char) (s' : State) : Prop :=
  s.Course s' ∨ ∃ m, s.Course m ∧ m.token = .none ∧ m.pending = [] ∧ m.position = s.position ∧
    Begins c ∧ s' = m.fresh rep c

theorem passes_fresh [Tables] (h : m.token = .none) (course : s.Course m)
    (position : m.position = s.position) : s.Passes rep c (m.fresh rep c) := by
  rcases course_fresh rep h c with h' | ⟨hpending, hc⟩
  · exact .inl (course.trans h')
  · exact .inr ⟨m, course, h, hpending, position, hc, rfl⟩

/-- A token that goes on leaves the form being read where it is. -/
theorem course_becomes {token : Token} (change : s.token.Becomes c token) :
    s.Course { s with token } := by
  rcases change.ofForm with ⟨hcomment, hnone⟩ | ⟨h, h'⟩
  · exact .goesOn rfl rfl ⟨fun idle => ⟨idle.1, .inr hcomment⟩, fun idle => ⟨idle.1, .inl hnone⟩⟩
  · exact .busy (not_isIdle_of_token h) (not_isIdle_of_token h') rfl rfl

/-- What one character does to forms at the top level. -/
theorem course_take [Tables] (rep : Representation) (s : State) (c : Char) :
    s.Passes rep c (s.take rep c) := by
  have takes := takes_take rep s c
  generalize s.take rep c = s' at takes
  cases takes with
  | passes => exact .inl (.refl s)
  | fresh h => exact passes_fresh h (.refl s) rfl
  | becomes change => exact .inl (course_becomes change)
  | opensSet h =>
    have busy : ¬ s.IsIdle := not_isIdle_of_token (h ▸ Token.ofForm_hash _)
    exact .inl (.busy busy (not_isIdle_of_pending (by simp)) rfl rfl)
  | completes hv => exact .inl (course_finish (not_isIdle_of_token hv.ofForm) rfl rfl _)
  | @ends v hv =>
    have course : s.Course (s.finish v) := course_finish (not_isIdle_of_token hv.ofForm) rfl rfl _
    exact passes_fresh finish_token course finish_position
  | endsBadly bad => exact .inl (course_failed (not_isIdle_of_token bad.ofForm) rfl rfl _)
  | refuses refusal => exact .inl (course_failed (not_isIdle_of_token refusal.ofForm) rfl rfl _)

/-- The end of the text ends the form being read, or leaves it unfinished. -/
theorem course_endToken (s : State) : s.Course s.endToken := by
  have ends := ends_endToken s
  generalize s.endToken = s' at ends
  cases ends with
  | stays => exact .refl s
  | means hv => exact course_finish (not_isIdle_of_token hv.ofForm) rfl rfl _
  | endsBadly bad => exact course_failed (not_isIdle_of_token bad.ofForm) rfl rfl _
  | isCut cut => exact course_failed (not_isIdle_of_token cut.ofForm) rfl rfl _

/-! ### Reading can be taken up where a form begins -/

/-- The form behind the given ones begins at a place: it is the one being read, or it has been read
and others may have followed. -/
inductive BeganAt (s : State) (base : List Located) (p : Position) : Prop where
  | reading (forms : s.forms = base) (busy : ¬ s.IsIdle) (start : s.start = p)
  | read (newer : List Located) (v : Value) (forms : s.forms = newer ++ ⟨v, p⟩ :: base)

theorem BeganAt.of_course (h : t.BeganAt base p) (course : s.Course t) : s.BeganAt base p := by
  cases course with
  | goesOn forms start idle =>
    cases h with
    | reading forms' busy start' =>
      exact .reading (forms ▸ forms') (fun h => busy (idle.2 h)) (start ▸ start')
    | read newer v forms' => exact .read newer v (forms ▸ forms')
  | ends w forms busy idle =>
    cases h with
    | reading _ busy' _ => exact absurd idle busy'
    | read newer v forms' =>
      rw [forms] at forms'
      cases newer with
      | nil =>
        -- the form behind the given ones is the one that has just ended
        simp only [List.nil_append, List.cons.injEq, Located.mk.injEq] at forms'
        exact .reading forms'.2 busy forms'.1.2
      | cons l newer => exact .read newer v (List.cons.inj forms').2

/-- Where nothing has been begun, a character that begins a form is taken as at the beginning of a
text, but for where it stands and for the forms before. -/
theorem step_of_begins [Tables] (htoken : m.token = .none) (hpending : m.pending = [])
    (hc : Begins c) :
    m.step rep c = (State.step rep {} c).shift m.position m.forms := by
  -- where the last form began does not matter any more
  have hstart : ∀ start : Position, State.step rep ⟨m.position, .none, [], start, m.forms⟩ c =
      State.step rep ⟨m.position, .none, [], m.position, m.forms⟩ c := by
    intro start
    rw [step_of_none rfl, step_of_none rfl]
    unfold fresh
    rw [hc.separator, hc.closing, if_neg hc.comment, if_neg hc.comment]
    rfl
  calc m.step rep c
      = State.step rep ⟨m.position, .none, [], m.start, m.forms⟩ c := by
        rw [← htoken, ← hpending]
    _ = State.step rep (({} : State).shift m.position m.forms) c := hstart m.start
    _ = (State.step rep {} c).shift m.position m.forms := step_shift (Nat.le_refl 1)

/-- A character that begins a form leaves the forms before as they are, and is itself where the form
begins. -/
theorem fresh_of_begins [Tables] (rep : Representation) (hpending : m.pending = [])
    (hc : Begins c) :
    (m.fresh rep c).forms = m.forms ∧ (m.fresh rep c).start = m.position := by
  have starts : Starts rep m c (m.fresh rep c) := starts_fresh rep m c
  generalize m.fresh rep c = m' at starts ⊢
  cases starts with
  | separator h => exact absurd h (by simp [hc.separator])
  | comment h => exact absurd h hc.comment
  | closing h => exact absurd h (by simp [hc.closing])
  | string | number | sign | colon | hash | symbol => simp [begin, hpending]
  | quote | group => simp [open_, begin, hpending]
  | stray => simp [fail, begin, hpending]

/-- A place in a text at which reading has been taken up, with the given forms before it: from the
character there on, reading leads to the state that reading from the beginning leads to. -/
structure RestartsAt [Tables] (rep : Representation) (cs : List Char) (base : List Located)
    (p : Position) (q : List Char) (c : Char) (rest : List Char) : Prop where
  text : cs = q ++ c :: rest
  begins : Begins c
  place : p = Position.after {} q
  state : State.run rep {} cs = (State.run rep {} (c :: rest)).shift p base

/-- Reading can be taken up where a form begins. -/
theorem restart [Tables] (rep : Representation) (cs : List Char) {base : List Located}
    {p : Position}
    (h : (State.run rep {} cs).BeganAt base p) : ∃ q c rest, RestartsAt rep cs base p q c rest := by
  induction cs using List.reverseRecOn generalizing base p with
  | nil =>
    cases h with
    | reading _ busy _ => exact absurd ⟨rfl, .inl rfl⟩ busy
    | read newer v forms => exact absurd forms.symm (by simp)
  | append_singleton cs d ih =>
    let s : State := State.run rep {} cs
    have hrun : State.run rep {} (cs ++ [d]) = s.step rep d := run_append _ _
    have hposition : s.position = Position.after {} cs := run_position cs
    -- what has begun before the last character goes on where it began
    have goOn : s.BeganAt base p → ∃ q c rest, RestartsAt rep (cs ++ [d]) base p q c rest := by
      intro began
      obtain ⟨q, c, rest, text, begins, place, state⟩ := ih began
      refine ⟨q, c, rest ++ [d], by simp [text], begins, place, ?_⟩
      -- a state can be moved along the text once a line has been counted
      have hline : 1 ≤ (State.run rep {} (c :: rest)).position.line := by
        rw [run_position, (Position.marks_after _).line]
        exact Nat.le_add_right 1 _
      rw [hrun, ← List.cons_append, run_append, ← run_shift hline, ← state]
      rfl
    rw [hrun] at h
    have hstep : (s.take rep d).BeganAt base p := by
      cases h with
      | reading forms busy start => exact .reading forms busy start
      | read newer v forms => exact .read newer v forms
    rcases course_take rep s d with course | ⟨m, course, htoken, hpending, position, hd, htake⟩
    · exact goOn (hstep.of_course course)
    rw [htake] at hstep
    obtain ⟨hforms, hstart⟩ := fresh_of_begins rep hpending hd
    cases hstep with
    | read newer v forms => exact goOn ((BeganAt.read newer v (hforms ▸ forms)).of_course course)
    | reading forms busy start =>
      -- the last character has begun the form
      have hbase : base = m.forms := forms.symm.trans hforms
      have hp : p = m.position := start.symm.trans hstart
      refine ⟨cs, d, [], rfl, hd, by rw [hp, position, hposition], ?_⟩
      have same : s.step rep d = m.step rep d := by
        rw [step_of_none htoken]
        simp only [step, htake, position]
      rw [hrun, same, step_of_begins htoken hpending hd, hbase, hp]
      rfl

end State

open State

/-- The forms of a text from one of them on are those of the rest of the text, from the character on
at which it begins, and so is a fault. -/
theorem exists_restart [Tables] {rep : Representation} {cs : List Char} {i : Nat} {l : Located}
    (h : (readChars rep cs).forms[i]? = some l) :
    ∃ q c rest, cs = q ++ c :: rest ∧ Begins c ∧ l.start = Position.after {} q ∧
      readChars rep cs =
        (readChars rep (c :: rest)).behind ((readChars rep cs).forms.take i) l.start := by
  let s : State := State.run rep {} cs
  let forms : List Located := (readChars rep cs).forms
  -- the state has the forms in reverse, so that those before this one are its base
  have hsplit : forms = forms.take i ++ l :: forms.drop (i + 1) := by
    obtain ⟨hi, hl⟩ := List.getElem?_eq_some_iff.1 h
    rw [← hl, List.getElem_cons_drop, List.take_append_drop]
  have hforms : s.endToken.forms = (forms.drop (i + 1)).reverse ++ l :: (forms.take i).reverse := by
    have : s.endToken.forms.reverse = forms := rfl
    rw [← List.reverse_inj, this]
    simpa using hsplit
  have ended : s.endToken.BeganAt (forms.take i).reverse l.start := .read _ l.form hforms
  obtain ⟨q, c, rest, text, begins, place, state⟩ :=
    restart rep cs (ended.of_course (course_endToken s))
  refine ⟨q, c, rest, text, begins, place, ?_⟩
  calc readChars rep cs
      = ((State.run rep {} (c :: rest)).shift l.start (forms.take i).reverse).outcome := by
        rw [readChars_eq, state]
    _ = (readChars rep (c :: rest)).behind (forms.take i) l.start := by
        rw [outcome_shift, List.reverse_reverse]
        rfl

/-- Later forms begin further down. -/
theorem start_before [Tables] {rep : Representation} {cs : List Char} {i j : Nat} {l l' : Located}
    (h : (readChars rep cs).forms[i]? = some l) (h' : (readChars rep cs).forms[j]? = some l')
    (hij : i < j) : l.start.Before l'.start := by
  obtain ⟨q, c, rest, -, -, -, whole⟩ := exists_restart h
  let forms : List Located := (readChars rep (c :: rest)).forms
  -- seen from the earlier form, the later one is a form of the rest of the text
  obtain ⟨m, hm, rfl⟩ : ∃ m, forms[j - i]? = some m ∧ m.shift l.start = l' := by
    have hi : i < (readChars rep cs).forms.length := (List.getElem?_eq_some_iff.1 h).1
    have hlength : ((readChars rep cs).forms.take i).length = i := by simp; omega
    rw [whole] at h'
    simp only [Reading.behind] at h'
    rw [List.getElem?_append_right (by omega), hlength, List.getElem?_map] at h'
    simpa using h'
  obtain ⟨q', c', rest', text', -, place', whole'⟩ := exists_restart hm
  have hq' : q' ≠ [] := by
    rintro rfl
    -- a form of the rest that begins with the rest has no forms before it
    have hlength := congrArg (·.forms.length) whole'
    have hj : j - i < forms.length := (List.getElem?_eq_some_iff.1 hm).1
    rw [List.nil_append] at text'
    simp only [← text', Reading.behind, List.length_append, List.length_take, List.length_map]
      at hlength
    have : (readChars rep (c :: rest)).forms.length = forms.length := rfl
    omega
  have hstart : (m.shift l.start).start = l.start.after q' := by
    rw [Located.shift, place', Position.shift_after]
  rw [hstart]
  exact Position.before_after _ hq'

/-! ### Faults are at places in the text -/

/-- The places that a token remembers are of a kind. -/
def Token.PlacesIn (P : Position → Prop) : Token → Prop
  | .hash start => P start
  | .failed f => P f.position
  | _ => True

/-- A token that ends badly does so where it ends, but for a stray hash sign, which is reported
where it stands. -/
theorem Token.PlacesIn.endsBadly {P : Position → Prop} {t : Token} {here : Position} {f : Fault}
    (ht : t.PlacesIn P) (h : P here) (bad : t.EndsBadly here f) : (Token.failed f).PlacesIn P := by
  cases bad with
  | hash => exact ht
  | number | colon | keyword => exact h

namespace State

variable {rep : Representation} {s : State} {c : Char} {P : Position → Prop}

theorem placesIn_finish (v : Value) : (s.finish v).token.PlacesIn P := by
  rw [finish_token]
  trivial

theorem placesIn_closing [Tables] (h : P s.position) (h' : P (s.position.advance c))
    (ht : s.token.PlacesIn P) : (s.closing rep c).token.PlacesIn P := by
  have closes := closes_closing rep s c
  generalize s.closing rep c = s' at closes
  cases closes with
  | stray => exact ht
  | quote => exact h
  | group => exact placesIn_finish _
  | oddMap => exact h'

theorem placesIn_fresh [Tables] (h : P s.position) (h' : P (s.position.advance c))
    (ht : s.token.PlacesIn P) : (s.fresh rep c).token.PlacesIn P := by
  have starts : Starts rep s c (s.fresh rep c) := starts_fresh rep s c
  generalize s.fresh rep c = s' at starts ⊢
  cases starts with
  | separator => exact ht
  | closing => exact placesIn_closing h h' ht
  | hash | stray => exact h
  | _ => trivial

/-- The place of a fault is the one before or behind the character that leads to it, or one that was
remembered before. -/
theorem placesIn_take [Tables] (h : P s.position) (h' : P (s.position.advance c))
    (ht : s.token.PlacesIn P) : (s.take rep c).token.PlacesIn P := by
  have takes := takes_take rep s c
  generalize s.take rep c = s' at takes
  cases takes with
  | passes => exact ht
  | fresh => exact placesIn_fresh h h' ht
  | becomes change =>
    generalize s.token = t at change
    cases change <;> trivial
  | opensSet => trivial
  | completes => exact placesIn_finish _
  | ends => exact placesIn_fresh (by simpa using h) (by simpa using h') (placesIn_finish _)
  | endsBadly bad => exact ht.endsBadly h bad
  | refuses refusal =>
    generalize s.token = t at refusal
    cases refusal with
    | number => exact h
    | shortUnicode | invalidUnicode | regex => exact h'

theorem placesIn_endToken (h : P s.position) (ht : s.token.PlacesIn P) :
    s.endToken.token.PlacesIn P := by
  have ends := ends_endToken s
  generalize s.endToken = s' at ends
  cases ends with
  | stays => exact ht
  | means => exact placesIn_finish _
  | endsBadly bad => exact ht.endsBadly h bad
  | isCut cut =>
    generalize s.token = t at cut
    cases cut <;> exact h

theorem endToken_position (s : State) : s.endToken.position = s.position := by
  unfold endToken
  split <;> simp [fail]

/-- The places remembered while reading a text are places in it. -/
theorem placesIn_run [Tables] (rep : Representation) (cs : List Char) :
    (State.run rep {} cs).token.PlacesIn fun p => ∃ q, q <+: cs ∧ p = Position.after {} q := by
  induction cs using List.reverseRecOn with
  | nil => trivial
  | append_singleton cs c ih =>
    have hposition : (State.run rep {} cs).position = Position.after {} cs := run_position cs
    rw [run_append]
    refine placesIn_take ⟨cs, List.prefix_append _ _, hposition⟩ ⟨cs ++ [c], List.prefix_rfl, ?_⟩ ?_
    · rw [hposition, Position.after_append]
      rfl
    · generalize (State.run rep {} cs).token = token at ih ⊢
      have longer : ∀ p : Position, (∃ q, q <+: cs ∧ p = Position.after {} q) →
          ∃ q, q <+: cs ++ [c] ∧ p = Position.after {} q := by
        rintro p ⟨q, hq, hp⟩
        exact ⟨q, hq.trans (List.prefix_append _ _), hp⟩
      cases token with
      | hash start => exact longer _ ih
      | failed f => exact longer _ ih
      | _ => trivial

end State

/-- A fault is at a place in the text. -/
theorem exists_fault_place [Tables] {rep : Representation} {cs : List Char} {f : Fault}
    {start : Position} (h : (readChars rep cs).fault = some (f, start)) :
    ∃ q, q <+: cs ∧ f.position = Position.after {} q := by
  let s : State := State.run rep {} cs
  have hposition : ∃ q, q <+: cs ∧ s.position = Position.after {} q :=
    ⟨cs, List.prefix_rfl, run_position cs⟩
  have places := placesIn_endToken hposition (placesIn_run rep cs)
  have ends : s.endToken.position = s.position := endToken_position s
  -- a fault that was not met on the way is found at the end
  rcases fault_outcome_cases (s := s) h with hfailed | rfl | ⟨d, rfl⟩
  · change s.endToken.token.PlacesIn _ at places
    rw [hfailed] at places
    exact places
  · exact ends ▸ hposition
  · exact ends ▸ hposition

/-! ### Texts behind a header -/

/-- What is read behind a newline is read as it is alone, from the second line on. -/
theorem readChars_newline [Tables] (rep : Representation) (rest : List Char) :
    readChars rep ('\n' :: rest) = (readChars rep rest).behind [] ⟨2, 0⟩ := by
  -- behind a newline nothing has been begun, as at the beginning, but on the next line
  have alike : Alike (({} : State).shift ⟨2, 0⟩ []) (State.step rep {} '\n') :=
    .inr ⟨⟨rfl, .inl rfl⟩, rfl⟩
  calc readChars rep ('\n' :: rest)
      = ((State.step rep {} '\n').run rep rest).outcome := rfl
    _ = ((({} : State).shift ⟨2, 0⟩ []).run rep rest).outcome :=
        (outcome_of_alike (alike_run alike rest)).symm
    _ = (readChars rep rest).behind [] ⟨2, 0⟩ := by
        rw [run_shift (Nat.le_refl 1), outcome_shift]
        rfl

/-- All positions reported on a text that stands behind a header are places in the whole. -/
structure ReportsTruly [Tables] (rep : Representation) (header body : List Char) : Prop where
  /-- Before anything is read, the position is the beginning of the whole. -/
  beginning : (State.run rep {} []).position.Marks []
  /-- Behind what has been read of the text, the position is the place there. -/
  reached : ∀ q, q <+: body → q ≠ [] → (State.run rep {} q).position.Marks (header ++ q)
  /-- A fault is at a place in the text. -/
  fault : ∀ f start, (readChars rep body).fault = some (f, start) →
    ∃ q, q <+: body ∧ f.position.Marks (header ++ q)
  /-- A form begins at a character that begins a form, and reading from there on gives that form,
  all later ones and the fault at the end. -/
  form : ∀ (i : Nat) (l : Located), (readChars rep body).forms[i]? = some l →
    ∃ q c rest, body = q ++ c :: rest ∧ Begins c ∧ l.start.Marks (header ++ q) ∧
      (readChars rep (c :: rest)).forms.map (·.form) =
        ((readChars rep body).forms.drop i).map (·.form) ∧
      readChars rep body =
        (readChars rep (c :: rest)).behind ((readChars rep body).forms.take i) l.start
  /-- Later forms begin further down. -/
  increasing : ((readChars rep body).forms.map (·.start)).Pairwise Position.Before

/-- A text stands behind nothing, or behind a line that ends with the first character of the text.
Then its places are those of the whole. -/
def StandsBehind (header body : List Char) : Prop :=
  header = [] ∨ '\n' ∉ header ∧ (body = [] ∨ ∃ rest, body = '\n' :: rest)

namespace StandsBehind

variable {rep : Representation} {header body q : List Char}

/-- From the first newline on, places are the same with the header and without it. -/
theorem marks_after (h : StandsBehind header body) (hq : q <+: body) (hne : q ≠ []) :
    (Position.after {} q).Marks (header ++ q) := by
  have same : Position.after {} q = Position.after {} (header ++ q) := by
    rcases h with rfl | ⟨hheader, rfl | ⟨rest, rfl⟩⟩
    · rfl
    · exact absurd (List.prefix_nil.1 hq) hne
    · rcases List.prefix_cons_iff.1 hq with rfl | ⟨q', rfl, -⟩
      · exact absurd rfl hne
      · exact (Text.after_header hheader q').symm
  rw [same]
  exact Position.marks_after _

/-- A form that begins at the first character has no header before it. -/
theorem header_eq_nil {c : Char} {rest : List Char} (h : StandsBehind header (c :: rest))
    (hc : Begins c) : header = [] := by
  rcases h with rfl | ⟨-, hnil | ⟨rest', hrest⟩⟩
  · rfl
  · cases hnil
  · obtain ⟨rfl, -⟩ := List.cons.inj hrest
    exact absurd hc.separator (by decide)

/-- The newline at which a text begins is read without fault, so that a fault is behind it. -/
theorem exists_marks_fault [Tables] {f : Fault} {start : Position} (h : StandsBehind header body)
    (hf : (readChars rep body).fault = some (f, start)) :
    ∃ q, q <+: body ∧ f.position.Marks (header ++ q) := by
  rcases h with rfl | ⟨hheader, rfl | ⟨rest, rfl⟩⟩
  · obtain ⟨q, hq, hplace⟩ := exists_fault_place hf
    exact ⟨q, hq, hplace ▸ Position.marks_after q⟩
  · simp [readChars_eq, outcome, endToken, fault?] at hf
  · have behind : StandsBehind header ('\n' :: rest) := .inr ⟨hheader, .inr ⟨rest, rfl⟩⟩
    rw [readChars_newline] at hf
    simp only [Reading.behind, Option.map_eq_some_iff, Prod.mk.injEq] at hf
    obtain ⟨⟨f', start'⟩, hf', rfl, -⟩ := hf
    obtain ⟨q, hq, hplace⟩ := exists_fault_place hf'
    have hprefix : '\n' :: q <+: '\n' :: rest := List.cons_prefix_cons.2 ⟨rfl, hq⟩
    have place : (f'.shift ⟨2, 0⟩).position = Position.after {} ('\n' :: q) := by
      rw [Fault.shift, hplace, Position.shift_after]
      rfl
    exact ⟨_, hprefix, place ▸ behind.marks_after hprefix (by simp)⟩

end StandsBehind

/-- The forms of a text from one of them on, read alone. -/
theorem forms_of_behind [Tables] {rep : Representation} {cs ds : List Char} {i : Nat} {p : Position}
    (h : readChars rep cs = (readChars rep ds).behind ((readChars rep cs).forms.take i) p) :
    (readChars rep ds).forms.map (·.form) = ((readChars rep cs).forms.drop i).map (·.form) := by
  have hforms : (readChars rep cs).forms = (readChars rep cs).forms.take i ++
      (readChars rep ds).forms.map (·.shift p) := congrArg (·.forms) h
  have hdrop : (readChars rep cs).forms.drop i = (readChars rep ds).forms.map (·.shift p) := by
    have both := (List.take_append_drop i _).trans hforms
    exact List.append_cancel_left both
  rw [hdrop, List.map_map]
  rfl

/-- A text is read truly behind a header if no place before its first character is reported. -/
theorem StandsBehind.reportsTruly [Tables] {header body : List Char} (h : StandsBehind header body)
    (rep : Representation) : ReportsTruly rep header body where
  beginning := ⟨rfl, rfl⟩
  reached q hq hne := by
    rw [run_position]
    exact h.marks_after hq hne
  fault _ _ hf := h.exists_marks_fault hf
  form i l hl := by
    obtain ⟨q, c, rest, text, begins, hplace, whole⟩ := exists_restart hl
    refine ⟨q, c, rest, text, begins, ?_, forms_of_behind whole, whole⟩
    rw [hplace]
    by_cases hq : q = []
    · subst hq
      obtain rfl : body = c :: rest := text
      rw [h.header_eq_nil begins]
      exact Position.marks_after []
    · exact h.marks_after ⟨c :: rest, text.symm⟩ hq
  increasing := by
    rw [List.pairwise_map, List.pairwise_iff_getElem]
    intro i j hi hj hij
    exact start_before (List.getElem?_eq_getElem hi) (List.getElem?_eq_getElem hj) hij

/-- Positions are true: a cursor over a text stands behind the characters that it has passed; the
reader reports places in the text; and if the text is read as a file, without its interpreter line,
the reader reports places in the text with that line. -/
theorem positions_are_places [Tables] (rep : Representation) (text : String) :
    (∀ n, ((Text.Cursor.ofString text).skip n).rest = text.toList.drop n ∧
      ((Text.Cursor.ofString text).skip n).position.Marks (text.toList.take n)) ∧
    ReportsTruly rep [] text.toList ∧
    ∃ header, text.toList = header ++ (Text.dropShebang text).toList ∧
      (header ≠ [] ↔ ['#', '!'] <+: text.toList) ∧
      ReportsTruly rep header (Text.dropShebang text).toList := by
  refine ⟨Text.Cursor.skip_ofString text, StandsBehind.reportsTruly (.inl rfl) rep, ?_⟩
  obtain ⟨header, whole, newline, body, present⟩ := Text.toList_dropShebang text
  have behind : StandsBehind header (Text.dropShebang text).toList :=
    body.imp_right fun body => ⟨newline, body⟩
  exact ⟨header, whole, present, behind.reportsTruly rep⟩

/-- Forms and a fault behind an interpreter line. -/
example :
    let r := readAll .native (Text.dropShebang "#!lisp\n(a)\n  'b ) :")
    r.forms.map (·.start) = [⟨2, 0⟩, ⟨3, 2⟩] ∧
      r.fault.map (·.1) = some ⟨.emptyKeyword, ⟨3, 8⟩⟩ := by
  decide +kernel

end Lisp.Reader
