import Lisp.Proofs.Reader.Readable
import Lisp.Proofs.Value.Conversion
import Lisp.Proofs.Value.Marking

/-!
# Reading in either representation

The representation of literals is a parameter of the reader. It has no part in where literals begin
and end and what is wrong with them: two readers that differ in it go through states that match in
every token and position and hold the same literals, character by character, and end alike. It only
decides what the literals become. There keys collapse that are found to be equal, so the two may
come apart after all, but not as long as all keys that are written serve as keys on both sides.

## Main definitions

* `Reader.Literal`, `Reader.Literal.value` — what is written, and its value in a representation
* `Reader.Literal.KeysSteady` — what is the same as a key that is written is filed alike
* `Reader.State.Match` — states of two readers that hold the same literals and agree in all else

## Main results

* `Reader.Literal.counterpart` — literals have counterparts as values
* `Reader.State.Match.step`, `Reader.State.Match.run` — states that match go on to match
* `Reader.Literal.KeysFlat.keysSteady` — flat keys serve as keys
* `Reader.readAll_representation` — reading does not depend on the representation of literals
* `Reader.nested_keys_part` — but what keys collapse does
-/

namespace Lisp

namespace Reader

open Value (Counterpart Side Steady WellKeyed)

variable [Tables]

/-! ### Literals -/

/-- What a token stands for. -/
def IsToken : Value → Prop
  | .nil | .bool _ | .number _ | .string _ | .symbol _ | .keyword _ | .regex _ => True
  | _ => False

/-- What is written, before anything is made of it. -/
inductive Literal where
  | token (v : Value) (h : IsToken v)
  | quoted (l : Literal)
  | group (d : Delimiter) (items : List Literal)

namespace Literal

mutual

/-- The value of a literal in a representation. -/
def value (rep : Representation) : Literal → Value
  | token v _ => v
  | quoted l => .quoted (value rep l)
  | group d items => groupValue rep d (values rep items)
termination_by structural l => l

/-- The values of several literals. -/
def values (rep : Representation) : List Literal → List Value
  | [] => []
  | l :: rest => value rep l :: values rep rest
termination_by structural ls => ls

end

end Literal

/-- The elements between brackets that become keys. -/
def Delimiter.keys : Delimiter → List Value → List Value
  | .map, vs => (Value.pairUp vs).map (·.1)
  | .set, vs => vs
  | _, _ => []

omit [Tables] in
theorem Delimiter.mem_of_mem_keys (d : Delimiter) {vs : List Value} {k : Value}
    (h : k ∈ d.keys vs) : k ∈ vs := by
  cases d with
  | map =>
    obtain ⟨p, hp, rfl⟩ := List.mem_map.1 h
    exact (Value.mem_of_mem_pairUp hp).1
  | set => exact h
  | _ => exact absurd h List.not_mem_nil

namespace Literal

variable {rep rep' : Representation} {l : Literal}

theorem values_eq (ls : List Literal) : values rep ls = ls.map (value rep) := by
  induction ls with
  | nil => rfl
  | cons l ls ih => rw [values, ih, List.map_cons]

/-- What is the same as a key that is written in a literal, at any depth, is filed alike. -/
inductive KeysSteady (rep : Representation) : Literal → Prop where
  | token {v : Value} (h : IsToken v) : KeysSteady rep (token v h)
  | quoted {l : Literal} (h : KeysSteady rep l) : KeysSteady rep (quoted l)
  | group {d : Delimiter} {items : List Literal} (inside : ∀ l ∈ items, KeysSteady rep l)
    (keys : ∀ k ∈ d.keys (values rep items), Steady Entity.untold k) :
    KeysSteady rep (group d items)

mutual

/-- Where tables miss no key, nothing is asked of keys. -/
theorem keysSteady_of_exhaustive (finite : Tables.Exhaustive) (rep : Representation) :
    ∀ l : Literal, KeysSteady rep l
  | token _ h => .token h
  | quoted l => .quoted (keysSteady_of_exhaustive finite rep l)
  | group _ items =>
    .group (keysSteady_all_of_exhaustive finite rep items) fun _ _ _ _ _ _ _ _ _ => finite _ _ _

theorem keysSteady_all_of_exhaustive (finite : Tables.Exhaustive) (rep : Representation) :
    ∀ ls : List Literal, ∀ l ∈ ls, KeysSteady rep l
  | [] => by simp
  | l :: ls => List.forall_mem_cons.2
      ⟨keysSteady_of_exhaustive finite rep l, keysSteady_all_of_exhaustive finite rep ls⟩

end

/-! ### Literals as counterparts -/

/-- The sides of two readers. -/
abbrev side (rep : Representation) : Side := ⟨Entity.untold, rep⟩

omit [Tables] in
theorem forall₂_pairUp {R : Value → Value → Prop} {vs ws : List Value} (h : List.Forall₂ R vs ws) :
    List.Forall₂ (fun p q => R p.1 q.1 ∧ R p.2 q.2) (Value.pairUp vs) (Value.pairUp ws) := by
  match h with
  | .nil | .cons _ .nil => exact .nil
  | .cons hk (.cons hv rest) => exact .cons ⟨hk, hv⟩ (forall₂_pairUp rest)

theorem counterpart_groupValue (d : Delimiter) {vs ws : List Value}
    (h : List.Forall₂ (Counterpart (side rep) (side rep')) vs ws)
    (steady : ∀ k ∈ d.keys vs, Steady Entity.untold k)
    (steady' : ∀ k ∈ d.keys ws, Steady Entity.untold k) :
    Counterpart (side rep) (side rep') (groupValue rep d vs) (groupValue rep' d ws) := by
  cases d with
  | list => exact .list h
  | vector => exact .vector h
  | map =>
    exact .mapOf (forall₂_pairUp h) (List.forall_mem_map.1 steady) (List.forall_mem_map.1 steady')
  | set => exact .setOf h steady steady'

theorem counterpart_token {v : Value} (h : IsToken v) :
    Counterpart (side rep) (side rep') v v := by
  cases v with
  | nil => exact .nil
  | bool b => exact .bool b
  | number n => exact .number n
  | string s => exact .string s
  | symbol _ | keyword _ | regex _ =>
    exact ⟨.of_parts trivial trivial trivial (by simp [Value.parts]),
      .of_parts trivial trivial trivial (by simp [Value.parts]),
      by simp [Value.layOut, Value.same]⟩
  | _ => exact h.elim

/-- The values of a literal in two representations stand for each other, if all keys written in it
serve as keys in both. -/
theorem counterpart (h : KeysSteady rep l) (h' : KeysSteady rep' l) :
    Counterpart (side rep) (side rep') (l.value rep) (l.value rep') := by
  induction h with
  | token h => exact counterpart_token h
  | quoted _ ih =>
    cases h' with
    | quoted h' => exact (ih h').quoted
  | @group d items _ keys ih =>
    cases h' with
    | group inside' keys' =>
      refine counterpart_groupValue d ?_ keys keys'
      rw [values_eq, values_eq, List.forall₂_map_left_iff, List.forall₂_map_right_iff]
      exact List.forall₂_same.2 fun l hl => ih l hl (inside' l hl)

/-- The keys that are written in a literal, at any depth, are flat. -/
inductive KeysFlat (rep : Representation) : Literal → Prop where
  | token {v : Value} (h : IsToken v) : KeysFlat rep (token v h)
  | quoted {l : Literal} (h : KeysFlat rep l) : KeysFlat rep (quoted l)
  | group {d : Delimiter} {items : List Literal} (inside : ∀ l ∈ items, KeysFlat rep l)
    (keys : ∀ k ∈ d.keys (values rep items), Value.Flat k) : KeysFlat rep (group d items)

/-- Flat keys serve as keys, whatever the tables do. -/
theorem KeysFlat.keysSteady (h : KeysFlat rep l) : KeysSteady rep l := by
  induction h with
  | token h => exact .token h
  | quoted _ ih => exact .quoted ih
  | @group d items _ keys ih =>
    refine .group ih fun k hk => ?_
    obtain ⟨l, hl, rfl⟩ : ∃ l ∈ items, l.value rep = k := by
      rw [values_eq] at hk
      exact List.mem_map.1 (d.mem_of_mem_keys hk)
    have held := (counterpart (ih l hl) (ih l hl)).left
    exact ((keys _ hk).reliable held.wellKeyed
      (held.keys.mono Value.keysFound_of_keysReliable)).steady

/-- Where keys serve as keys, they differ in what has been read, and all are found. -/
theorem KeysSteady.held (h : KeysSteady rep l) : Value.Held (side rep) (l.value rep) :=
  (counterpart h h).left

end Literal

/-! ### States that match -/

section Match

variable {rep rep' : Representation} {v w : Value}

/-- Values of one literal. -/
def Spelt (rep rep' : Representation) (v w : Value) : Prop :=
  ∃ l : Literal, v = l.value rep ∧ w = l.value rep'

theorem spelt_token (h : IsToken v) : Spelt rep rep' v v := ⟨.token v h, rfl, rfl⟩

theorem spelt_quoted (h : Spelt rep rep' v w) : Spelt rep rep' (.quoted v) (.quoted w) := by
  obtain ⟨l, rfl, rfl⟩ := h
  exact ⟨.quoted l, rfl, rfl⟩

theorem exists_literals {vs ws : List Value} (h : List.Forall₂ (Spelt rep rep') vs ws) :
    ∃ ls, vs = Literal.values rep ls ∧ ws = Literal.values rep' ls := by
  induction h with
  | nil => exact ⟨[], rfl, rfl⟩
  | cons hvw _ ih =>
    obtain ⟨l, rfl, rfl⟩ := hvw
    obtain ⟨ls, rfl, rfl⟩ := ih
    exact ⟨l :: ls, rfl, rfl⟩

theorem spelt_groupValue (d : Delimiter) {vs ws : List Value}
    (h : List.Forall₂ (Spelt rep rep') vs ws) :
    Spelt rep rep' (groupValue rep d vs) (groupValue rep' d ws) := by
  obtain ⟨ls, rfl, rfl⟩ := exists_literals h
  exact ⟨.group d ls, rfl, rfl⟩

theorem spelt_symbolValue (chars : List Char) :
    Spelt rep rep' (symbolValue chars) (symbolValue chars) := by
  refine spelt_token ?_
  rcases symbolValue_cases chars with hv | ⟨b, hv⟩ | hv
  · exact hv ▸ trivial
  · exact hv ▸ trivial
  · exact hv ▸ trivial

/-- Forms that wait for more, with elements of the same literals. -/
inductive Pending.Match (rep rep' : Representation) : Pending → Pending → Prop where
  | group (d : Delimiter) {items items' : List Value}
      (h : List.Forall₂ (Spelt rep rep') items items') :
    Match rep rep' (.group d items) (.group d items')
  | quote : Match rep rep' .quote .quote

/-- Forms of one literal that begin at the same place. -/
structure Located.Match (rep rep' : Representation) (f g : Located) : Prop where
  start : g.start = f.start
  form : Spelt rep rep' f.form g.form

/-- Quote marks that wait go around literals alike. -/
theorem wrapQuotes_match {ps qs : List Pending} (h : List.Forall₂ (Pending.Match rep rep') ps qs)
    (hv : Spelt rep rep' v w) :
    List.Forall₂ (Pending.Match rep rep') (wrapQuotes ps v).1 (wrapQuotes qs w).1 ∧
      Spelt rep rep' (wrapQuotes ps v).2 (wrapQuotes qs w).2 := by
  induction h generalizing v w with
  | nil => exact ⟨.nil, hv⟩
  | cons hp hrest ih =>
    cases hp with
    | quote => exact ih (spelt_quoted hv)
    | group d hitems => exact ⟨.cons (.group d hitems) hrest, hv⟩

namespace State

/-- States of two readers that hold the same literals and agree in all else. -/
structure Match (rep rep' : Representation) (s t : State) : Prop where
  position : t.position = s.position
  token : t.token = s.token
  start : t.start = s.start
  pending : List.Forall₂ (Pending.Match rep rep') s.pending t.pending
  forms : List.Forall₂ (Located.Match rep rep') s.forms t.forms

variable {s t : State} {c : Char}

namespace Match

theorem ite {p : Prop} [Decidable p] {s' t' : State} (h : p → Match rep rep' s t)
    (h' : ¬ p → Match rep rep' s' t') :
    Match rep rep' (if p then s else s') (if p then t else t') := by
  split
  · next hp => exact h hp
  · next hp => exact h' hp

theorem withToken (h : Match rep rep' s t) (token : Token) :
    Match rep rep' { s with token } { t with token } :=
  ⟨h.position, rfl, h.start, h.pending, h.forms⟩

theorem fail (h : Match rep rep' s t) (d : Defect) {place place' : Text.Position}
    (hplace : place' = place) : Match rep rep' (s.fail d place) (t.fail d place') :=
  hplace ▸ h.withToken (.failed ⟨d, place'⟩)

theorem finish (h : Match rep rep' s t) (hv : Spelt rep rep' v w) :
    Match rep rep' (s.finish v) (t.finish w) := by
  obtain ⟨hpending, hvalue⟩ := wrapQuotes_match h.pending hv
  unfold State.finish
  generalize wrapQuotes s.pending v = a at hpending hvalue ⊢
  generalize wrapQuotes t.pending w = b at hpending hvalue ⊢
  obtain ⟨ps, v⟩ := a
  obtain ⟨qs, w⟩ := b
  cases hpending with
  | nil => exact ⟨h.position, rfl, h.start, .nil, .cons ⟨h.start, hvalue⟩ h.forms⟩
  | cons hp hrest =>
    cases hp with
    | quote =>
      exact ⟨h.position, rfl, h.start, .cons .quote hrest, .cons ⟨h.start, hvalue⟩ h.forms⟩
    | group d hitems =>
      exact ⟨h.position, rfl, h.start, .cons (.group d (.cons hvalue hitems)) hrest, h.forms⟩

theorem begin (h : Match rep rep' s t) {token token' : Token} (htoken : token' = token) :
    Match rep rep' (s.begin token) (t.begin token') := by
  have hempty : t.pending.isEmpty = s.pending.isEmpty := by
    rw [Bool.eq_iff_iff, List.isEmpty_iff_length_eq_zero, List.isEmpty_iff_length_eq_zero,
      h.pending.length_eq]
  refine ⟨h.position, htoken, ?_, h.pending, h.forms⟩
  simp only [State.begin, hempty, h.position, h.start]

theorem open_ (h : Match rep rep' s t) {p q : Pending} (hpq : Pending.Match rep rep' p q) :
    Match rep rep' (s.open_ p) (t.open_ q) :=
  have begun : Match rep rep' (s.begin .none) (t.begin .none) := h.begin rfl
  ⟨begun.position, rfl, begun.start, .cons hpq begun.pending, begun.forms⟩

theorem finishNumber (h : Match rep rep' s t) (chars : List Char) :
    Match rep rep' (s.finishNumber chars) (t.finishNumber chars) := by
  unfold State.finishNumber
  split
  · exact h.finish (spelt_token trivial)
  · exact h.fail _ h.position

theorem finishKeyword (h : Match rep rep' s t) (auto : Bool) (chars : List Char) :
    Match rep rep' (s.finishKeyword auto chars) (t.finishKeyword auto chars) :=
  ite (fun _ => h.fail _ h.position) fun _ => h.finish (spelt_token trivial)

theorem finishRegex (h : Match rep rep' s t) (chars : List Char) {after after' : Text.Position}
    (hafter : after' = after) :
    Match rep rep' (s.finishRegex chars after) (t.finishRegex chars after') := by
  unfold State.finishRegex
  dsimp only
  split
  · exact h.finish (spelt_token trivial)
  · exact h.fail _ hafter

theorem finishGroup (h : Match rep rep' s t) (d : Delimiter) {items items' : List Value}
    (hitems : List.Forall₂ (Spelt rep rep') items items') {after after' : Text.Position}
    (hafter : after' = after) :
    Match rep rep' (State.finishGroup rep s d items after)
      (State.finishGroup rep' t d items' after') := by
  have length := hitems.length_eq
  by_cases fits : d.Fits items.length
  · rw [finishGroup_eq fits, finishGroup_eq (length ▸ fits)]
    exact h.finish (spelt_groupValue d (List.forall₂_reverse_iff.2 hitems))
  · -- a map with a key but no value, and this is a matter of length alone
    obtain ⟨rfl, hodd⟩ : d = .map ∧ ¬ items.length % 2 = 0 := by
      simpa [Delimiter.Fits] using fits
    simp only [State.finishGroup, ← length, hodd, if_false]
    exact h.fail _ hafter

theorem closing (h : Match rep rep' s t) (c : Char) :
    Match rep rep' (s.closing rep c) (t.closing rep' c) := by
  have hpending := h.pending
  unfold State.closing
  generalize s.pending = ps at hpending ⊢
  generalize t.pending = qs at hpending ⊢
  cases hpending with
  | nil => exact h
  | @cons _ _ ps qs hp hrest =>
    cases hp with
    | quote => exact h.fail _ h.position
    | group d hitems =>
      refine ite (fun _ => ?_) fun _ => h
      have outer : Match rep rep' { s with pending := ps } { t with pending := qs } :=
        ⟨h.position, h.token, h.start, hrest, h.forms⟩
      exact outer.finishGroup d hitems (congrArg (·.advance c) h.position)

theorem fresh (h : Match rep rep' s t) (c : Char) :
    Match rep rep' (s.fresh rep c) (t.fresh rep' c) :=
  ite (fun _ => h) fun _ => ite (fun _ => h.withToken _) fun _ =>
    ite (fun _ => h.closing c) fun _ => ite (fun _ => h.begin rfl) fun _ =>
    ite (fun _ => h.begin rfl) fun _ => ite (fun _ => h.begin rfl) fun _ =>
    ite (fun _ => h.begin rfl) fun _ => ite (fun _ => h.open_ .quote) fun _ =>
    ite (fun _ => h.open_ (.group .list .nil)) fun _ =>
    ite (fun _ => h.open_ (.group .vector .nil)) fun _ =>
    ite (fun _ => h.open_ (.group .map .nil)) fun _ =>
    ite (fun _ => h.begin (congrArg Token.hash h.position)) fun _ =>
    ite (fun _ => h.begin rfl) fun _ => (h.begin rfl).fail _ h.position

theorem resume (h : Match rep rep' s t) (c : Char) :
    Match rep rep' (s.resume rep c) (t.resume rep' c) := by
  unfold State.resume
  rw [h.token]
  split
  · exact h
  · exact h.fresh c

theorem inSymbol (h : Match rep rep' s t) (chars : List Char) (c : Char) :
    Match rep rep' (s.inSymbol rep chars c) (t.inSymbol rep' chars c) :=
  ite (fun _ => h.withToken _) fun _ => (h.finish (spelt_symbolValue chars)).resume c

theorem inKeyword (h : Match rep rep' s t) (auto : Bool) (chars : List Char) (c : Char) :
    Match rep rep' (s.inKeyword rep auto chars c) (t.inKeyword rep' auto chars c) :=
  ite (fun _ => h.withToken _) fun _ => (h.finishKeyword auto chars).resume c

theorem inNumber (h : Match rep rep' s t) (signed point : Bool) (chars : List Char) (c : Char) :
    Match rep rep' (s.inNumber rep signed point chars c) (t.inNumber rep' signed point chars c) :=
  ite (fun _ => ite (fun _ => h.fail _ h.position) fun _ => h.withToken _) fun _ =>
    ite (fun _ => h.fail _ h.position) fun _ => ite (fun _ => h.withToken _) fun _ =>
    ite (fun _ => h) fun _ => (h.finishNumber chars).resume c

theorem inUnicode (h : Match rep rep' s t) (chars digits : List Char) (c : Char) :
    Match rep rep' (s.inUnicode chars digits c) (t.inUnicode chars digits c) :=
  have hafter := congrArg (·.advance c) h.position
  ite (fun _ => ite (fun _ => h.withToken _) fun _ => ite (fun _ => h.withToken _) fun _ =>
    h.fail _ hafter) fun _ => h.fail _ hafter

theorem take (h : Match rep rep' s t) (c : Char) :
    Match rep rep' (s.take rep c) (t.take rep' c) := by
  unfold State.take
  rw [h.token]
  cases s.token with
  | failed _ => exact h
  | none => exact h.fresh c
  | comment => exact ite (fun _ => h.withToken _) fun _ => h
  | sign sign => exact ite (fun _ => h.withToken _) fun _ => h.inSymbol [sign] c
  | number signed point chars => exact h.inNumber signed point chars c
  | symbol chars => exact h.inSymbol chars c
  | colon => exact ite (fun _ => h.withToken _) fun _ => h.inKeyword false [] c
  | keyword auto chars => exact h.inKeyword auto chars c
  | hash start =>
    refine ite (fun _ => ?_) fun _ => ite (fun _ => h.withToken _) fun _ => h.fail _ rfl
    exact ⟨h.position, rfl, h.start, .cons (.group .set .nil) h.pending, h.forms⟩
  | string chars =>
    exact ite (fun _ => h.finish (spelt_token trivial))
      fun _ => ite (fun _ => h.withToken _) fun _ => h.withToken _
  | escape chars => exact ite (fun _ => h.withToken _) fun _ => h.withToken _
  | unicode chars digits => exact h.inUnicode chars digits c
  | regex chars =>
    exact ite (fun _ => h.finishRegex chars (congrArg (·.advance c) h.position)) fun _ =>
      ite (fun _ => h.withToken _) fun _ => h.withToken _
  | regexEscape chars => exact h.withToken _

/-- One character takes readers that match to readers that match. -/
theorem step (h : Match rep rep' s t) (c : Char) :
    Match rep rep' (s.step rep c) (t.step rep' c) :=
  have next := h.take c
  ⟨congrArg (·.advance c) h.position, next.token, next.start, next.pending, next.forms⟩

theorem run (h : Match rep rep' s t) (cs : List Char) :
    Match rep rep' (s.run rep cs) (t.run rep' cs) := by
  induction cs generalizing s t with
  | nil => exact h
  | cons c cs ih => exact ih (h.step c)

theorem endToken (h : Match rep rep' s t) : Match rep rep' s.endToken t.endToken := by
  unfold State.endToken
  rw [h.token]
  cases s.token with
  | none | comment | failed _ => exact h
  | sign c => exact h.finish (spelt_symbolValue [c])
  | number signed point chars => exact h.finishNumber chars
  | symbol chars => exact h.finish (spelt_symbolValue chars)
  | keyword auto chars => exact h.finishKeyword auto chars
  | hash start => exact h.fail _ rfl
  | colon | string _ | escape _ | unicode _ _ | regex _ | regexEscape _ => exact h.fail _ h.position

theorem fault? (h : Match rep rep' s t) : t.fault? = s.fault? := by
  have hpending := h.pending
  unfold State.fault?
  rw [h.token, h.position]
  generalize s.pending = ps at hpending ⊢
  generalize t.pending = qs at hpending ⊢
  -- only the innermost form that waits tells what is missing
  cases hpending with
  | nil => rfl
  | cons hp _ =>
    cases hp with
    | quote | group d _ => cases s.token <;> rfl

end Match

end State

end Match

/-- Literals that have been read, with the places where they begin. -/
theorem exists_literals_of_located {rep rep' : Representation} {fs gs : List Located}
    (h : List.Forall₂ (Located.Match rep rep') fs gs) :
    ∃ ls : List (Literal × Text.Position),
      fs = ls.map (fun l => ⟨l.1.value rep, l.2⟩) ∧
        gs = ls.map fun l => ⟨l.1.value rep', l.2⟩ := by
  induction h with
  | nil => exact ⟨[], rfl, rfl⟩
  | @cons f g _ _ hfg _ ih =>
    obtain ⟨l, hf, hg⟩ := hfg.form
    obtain ⟨ls, rfl, rfl⟩ := ih
    refine ⟨(l, f.start) :: ls, ?_, ?_⟩
    · rw [List.map_cons, ← hf]
    · rw [List.map_cons, ← hg, ← hfg.start]

/-- A text has the same literals in either representation, at the same places, and the same fault at
the end if it has one. -/
theorem exists_literals_of_readAll (text : String) :
    ∃ (fault : Option (Fault × Text.Position)) (ls : List (Literal × Text.Position)), ∀ rep,
      (readAll rep text).fault = fault ∧
        (readAll rep text).forms = ls.map fun l => ⟨l.1.value rep, l.2⟩ := by
  have start : State.Match .native .persistent {} {} := ⟨rfl, rfl, rfl, .nil, .nil⟩
  have ended := (start.run text.toList).endToken
  have fault : (readAll .persistent text).fault = (readAll .native text).fault := by
    simp only [readAll, readChars_eq, State.outcome, ended.fault?, ended.start]
  obtain ⟨ls, native, persistent⟩ :=
    exists_literals_of_located (List.forall₂_reverse_iff.2 ended.forms)
  -- the two readers stop alike, so the fault of one is that of both
  refine ⟨(readAll .native text).fault, ls, fun rep => ?_⟩
  cases rep with
  | native => exact ⟨rfl, native⟩
  | persistent => exact ⟨fault, persistent⟩

/-- The forms of a text are the values of what is written. -/
theorem exists_literals_of_read {rep : Representation} {text : String} {forms : List Value}
    (h : read rep text = .ok forms) : ∃ ls : List Literal, forms = ls.map (Literal.value rep) := by
  obtain ⟨_, ls, literals⟩ := exists_literals_of_readAll text
  obtain ⟨-, rfl⟩ := read_eq_ok_iff.1 h
  exact ⟨ls.map (·.1), by rw [(literals rep).2, List.map_map, List.map_map]; rfl⟩

/-- Reading does not depend on the representation of literals. It fails for the same reason at the
same place or not at all, and has read the same literals then, at the same places. As values in two
representations they are counterparts if the keys that are written serve as keys in both, as flat
ones do: the one converted equals the other, and maps and sets have as many entries. -/
theorem readAll_representation (text : String) :
    ∃ (fault : Option (Fault × Text.Position)) (ls : List (Literal × Text.Position)),
      (∀ rep, (readAll rep text).fault = fault ∧
        (readAll rep text).forms = ls.map fun l => ⟨l.1.value rep, l.2⟩) ∧
      ∀ l ∈ ls, (∀ rep, l.1.KeysFlat rep → l.1.KeysSteady rep) ∧
        ∀ rep rep', l.1.KeysSteady rep → l.1.KeysSteady rep' →
          Counterpart (Literal.side rep) (Literal.side rep') (l.1.value rep) (l.1.value rep') ∧
          ((l.1.value rep).converted Entity.untold rep').agrees Entity.untold (l.1.value rep') =
            true := by
  obtain ⟨fault, ls, read⟩ := exists_literals_of_readAll text
  refine ⟨fault, ls, read, fun l _ => ⟨fun _ => Literal.KeysFlat.keysSteady, ?_⟩⟩
  intro rep rep' steady steady'
  have related := Literal.counterpart steady steady'
  exact ⟨related, related.agrees.1⟩

end Reader

namespace Reader

open Value (Counterpart)

/-- Two sets are written that hold one set. Tables that miss no key let them collapse. -/
theorem readAll_representation_thorough :
    let _ : Tables := Tables.thorough
    let text := "#\x7b#\x7b#\x7bnil true\x7d\x7d #\x7b#\x7btrue nil\x7d\x7d\x7d"
    ∃ (fault : Option (Fault × Text.Position)) (ls : List (Literal × Text.Position)),
      (∀ rep, (readAll rep text).fault = fault ∧
        (readAll rep text).forms = ls.map fun l => ⟨l.1.value rep, l.2⟩) ∧
      ∀ l ∈ ls, ∀ rep rep',
        Counterpart (Literal.side rep) (Literal.side rep') (l.1.value rep) (l.1.value rep') := by
  intro _ text
  have finite : Tables.Exhaustive := fun _ _ _ => rfl
  obtain ⟨fault, ls, read, related⟩ := readAll_representation text
  exact ⟨fault, ls, read, fun l hl rep rep' =>
    ((related l hl).2 rep rep' (Literal.keysSteady_of_exhaustive finite rep _)
      (Literal.keysSteady_of_exhaustive finite rep' _)).1⟩

/-- Two sets are written that hold one set, with the same elements in different orders. A native
table has them in one order, so they collapse. A persistent one has what came last in front. -/
theorem nested_keys_part :
    let sizes (rep : Representation) : List Nat :=
      (readAll rep "#\x7b#\x7b#\x7bnil true\x7d\x7d #\x7b#\x7btrue nil\x7d\x7d\x7d").forms.map
        (·.form.parts.length)
    sizes .native = [1] ∧ sizes .persistent = [2] := by
  decide +kernel

end Reader

end Lisp
