import Lisp.Proofs.Number.RoundTrip
import Lisp.Proofs.Reader.Step
import Lisp.Proofs.Value.Keyed
import Mathlib.Tactic.SplitIfs

/-!
# What the reader can produce

Not every value has a text: a symbol may have any name, a number may not be one. The forms that come
out of the reader are of a narrower kind. Names consist of the characters of a symbol and do not
begin like a number, collections have the representation that was asked for, and there are no
entities.

## Main definitions

* `Reader.startsNumber` — text that begins like a number
* `Reader.SymbolText` — text that is read as one symbol
* `Reader.Readable` — the values that the reader can produce
* `Reader.State.Sound` — the invariant of the reader

## Main results

* `Reader.State.sound_step` — one character keeps the invariant
* `Reader.readable_of_read` — all forms of a text are readable
-/

namespace Lisp.Reader

/-- Whether a text begins like a number: with a digit, or with a sign and a digit. -/
def startsNumber : List Char → Bool
  | [] => false
  | c :: cs => c.isDigit || ((c = '-' || c = '+') && cs.head?.any Char.isDigit)

/-- Text that is read as one symbol. -/
structure SymbolText (cs : List Char) : Prop where
  ne_nil : cs ≠ []
  isSymbolChar : ∀ c ∈ cs, isSymbolChar c = true
  startsNumber : startsNumber cs = false

/-- Text that is read as one symbol, whatever else of a symbol follows it. -/
def OpenSymbolText (cs : List Char) : Prop :=
  ∀ more, (∀ c ∈ more, isSymbolChar c = true) → SymbolText (cs ++ more)

/-- What the reader has to say about a value without looking inside. -/
def ReadableHere (rep : Representation) : Value → Prop
  | .number n => n.isNaN = false
  | .symbol name => ∃ chars, SymbolText chars.reverse ∧ symbolValue chars = .symbol name
  | .keyword name => ∃ auto chars, chars ≠ [] ∧ (∀ c ∈ chars, isSymbolChar c = true) ∧
      keywordValue auto chars = .keyword name
  | .vector r _ => r = rep
  | .map t _ | .set t _ => t.rep = rep
  | .entity _ => False
  | _ => True

/-- The values that the reader can produce. -/
def Readable (rep : Representation) : Value → Prop := Value.Everywhere (ReadableHere rep)

section Readable

variable {rep : Representation} {v : Value}

theorem readable_quoted (h : Readable rep v) : Readable rep (.quoted v) :=
  ⟨trivial, fun _ hw => List.mem_singleton.1 hw ▸ h⟩

theorem symbolValue_cases (chars : List Char) :
    symbolValue chars = .nil ∨ (∃ b, symbolValue chars = .bool b) ∨
      symbolValue chars = .symbol (.parse (String.ofList chars.reverse)) := by
  unfold symbolValue
  split
  · exact .inr (.inl ⟨true, rfl⟩)
  · exact .inr (.inl ⟨false, rfl⟩)
  · exact .inl rfl
  · exact .inr (.inr rfl)

theorem readable_symbolValue {chars : List Char} (h : SymbolText chars.reverse) :
    Readable rep (symbolValue chars) := by
  rcases symbolValue_cases chars with hv | ⟨b, hv⟩ | hv
  · exact hv ▸ .leaf trivial rfl
  · exact hv ▸ .leaf trivial rfl
  · exact hv ▸ .leaf ⟨chars, h, hv⟩ rfl

theorem readable_keywordValue {auto : Bool} {chars : List Char} (hne : chars ≠ [])
    (h : ∀ c ∈ chars, isSymbolChar c = true) : Readable rep (keywordValue auto chars) :=
  .leaf ⟨auto, chars, hne, h, rfl⟩ rfl

theorem readable_mapOf [Tables] {ps : List (Value × Value)}
    (h : ∀ p ∈ ps, Readable rep p.1 ∧ Readable rep p.2) :
    Readable rep (.mapOf Entity.untold rep ps) := by
  refine Value.everywhere_map (Shelf.insertAll_rep ps) ?_ ?_
  · intro e he
    obtain ⟨⟨p, hp, hkey⟩, -⟩ := Shelf.exists_of_mem_insertAll rfl he
    rw [hkey]
    exact (h p hp).1
  · intro e he
    obtain ⟨-, p, hp, hvalue⟩ := Shelf.exists_of_mem_insertAll rfl he
    rw [hvalue]
    exact (h p hp).2

theorem readable_setOf [Tables] {vs : List Value} (h : ∀ v ∈ vs, Readable rep v) :
    Readable rep (.setOf Entity.untold rep vs) := by
  refine Value.everywhere_set (Shelf.insertAll_rep _) (List.forall_mem_map.2 fun e he => ?_)
  obtain ⟨⟨p, hp, hkey⟩, -⟩ := Shelf.exists_of_mem_insertAll rfl he
  obtain ⟨v, hv, rfl⟩ := List.mem_map.1 hp
  rw [hkey]
  exact h v hv

theorem readable_groupValue [Tables] {d : Delimiter} {vs : List Value}
    (h : ∀ v ∈ vs, Readable rep v) :
    Readable rep (groupValue rep d vs) := by
  cases d with
  | list => exact ⟨trivial, h⟩
  | vector => exact ⟨rfl, h⟩
  | map =>
    refine readable_mapOf fun p hp => ?_
    obtain ⟨hkey, hvalue⟩ := Value.mem_of_mem_pairUp hp
    exact ⟨h _ hkey, h _ hvalue⟩
  | set => exact readable_setOf h

end Readable

/-! ### Numbers that are read are numbers -/

theorem isNaN_pack (negative : Bool) (num den : Nat) :
    (Number.pack negative num den).isNaN = false := by
  have hbits : (Number.pack negative num den).bits.toNat = _ := Number.pack_eq_iff.1 rfl
  have hle := Number.packBits_le num den
  generalize Number.pack negative num den = x at hbits
  unfold Number.isNaN Number.exponentField Number.fractionField
  rw [hbits]
  by_contra h
  simp only [Bool.not_eq_false, Bool.and_eq_true, decide_eq_true_eq, bne_iff_ne] at h
  split_ifs at h <;> omega

theorem isNaN_toNumber (negative : Bool) (d : Number.Decimal) :
    (d.toNumber negative).isNaN = false := by
  unfold Number.Decimal.toNumber
  split_ifs <;> exact isNaN_pack _ _ _

theorem exists_splitSign {cs : List Char} (h : startsNumber cs = true) :
    ∃ negative c rest, Number.splitSign cs = (negative, c :: rest) ∧ c.isDigit = true := by
  cases cs with
  | nil => simp [startsNumber] at h
  | cons c cs =>
    simp only [startsNumber, Bool.or_eq_true, Bool.and_eq_true, decide_eq_true_eq] at h
    rcases h with hc | ⟨hsign, hhead⟩
    · exact ⟨false, c, cs, Number.splitSign_of_isDigit cs hc, hc⟩
    · cases cs with
      | nil => simp at hhead
      | cons d cs =>
        rcases hsign with rfl | rfl
        · exact ⟨true, d, cs, rfl, by simpa using hhead⟩
        · exact ⟨false, d, cs, rfl, by simpa using hhead⟩

theorem isNaN_of_parseChars {cs : List Char} {n : Number} (hcs : startsNumber cs = true)
    (h : Number.parseChars? cs = some n) : n.isNaN = false := by
  obtain ⟨negative, c, rest, split, hc⟩ := exists_splitSign hcs
  rw [Number.parseChars?_of_isDigit split hc] at h
  obtain ⟨d, -, rfl⟩ := Option.map_eq_some_iff.1 h
  exact isNaN_toNumber _ _

/-! ### Symbols and numbers so far -/

section SymbolText

variable {c sign : Char} {cs : List Char}

theorem OpenSymbolText.symbolText (h : OpenSymbolText cs) : SymbolText cs := by
  simpa using h [] (by simp)

theorem OpenSymbolText.snoc (h : OpenSymbolText cs) (hc : isSymbolChar c = true) :
    OpenSymbolText (cs ++ [c]) := by
  intro more hmore
  simpa using h (c :: more) (List.forall_mem_cons.2 ⟨hc, hmore⟩)

/-- A symbol that begins with neither a digit nor a sign stays one. -/
theorem openSymbolText_singleton (h : isSymbolChar c = true) (hd : c.isDigit = false)
    (hs : ¬ (c = '-' ∨ c = '+')) : OpenSymbolText [c] := by
  intro more hmore
  refine ⟨by simp, List.forall_mem_cons.2 ⟨h, hmore⟩, ?_⟩
  simp [startsNumber, hd, hs]

theorem symbolText_sign (h : c = '-' ∨ c = '+') : SymbolText [c] := by
  rcases h with rfl | rfl
  · exact ⟨by simp, List.all_eq_true.1 rfl, rfl⟩
  · exact ⟨by simp, List.all_eq_true.1 rfl, rfl⟩

theorem openSymbolText_sign (h : sign = '-' ∨ sign = '+') (hc : isSymbolChar c = true)
    (hd : c.isDigit = false) : OpenSymbolText [sign, c] := by
  intro more hmore
  have hsign := symbolText_sign h
  refine ⟨by simp, ?_, ?_⟩
  · simp only [List.cons_append, List.nil_append, List.forall_mem_cons]
    exact ⟨hsign.isSymbolChar sign (by simp), hc, hmore⟩
  · have : sign.isDigit = false := by
      simpa [startsNumber] using hsign.startsNumber
    simp [startsNumber, this, hd]

theorem startsNumber_append (h : startsNumber cs = true) (more : List Char) :
    startsNumber (cs ++ more) = true := by
  match cs, h with
  | [c], h => simp_all [startsNumber]
  | c :: d :: cs, h => exact h

end SymbolText

/-! ### The invariant of the reader -/

/-- What holds of the token being read. -/
def Token.Sound : Token → Prop
  | .sign c => c = '-' ∨ c = '+'
  | .number _ _ chars => startsNumber chars.reverse = true
  | .symbol chars => OpenSymbolText chars.reverse
  | .keyword _ chars => ∀ c ∈ chars, isSymbolChar c = true
  | _ => True

section Token

variable {c : Char} {t t' : Token}

/-- A token that goes on keeps what holds of it. -/
theorem Token.Sound.becomes (h : t.Sound) (change : t.Becomes c t') : t'.Sound := by
  cases change with
  -- a digit behind a sign makes a number, anything else leaves the sign to a symbol
  | signed hc => simpa [Token.Sound, startsNumber, hc] using .inr h
  | signSymbol hc hd => exact openSymbolText_sign h hc hd
  | point | digit =>
    have longer := startsNumber_append h [c]
    simpa [Token.Sound] using longer
  | symbol hc =>
    have longer := OpenSymbolText.snoc h hc
    simpa [Token.Sound] using longer
  | firstOfName hc => simpa [Token.Sound] using hc
  | keyword hc => exact List.forall_mem_cons.2 ⟨hc, h⟩
  | secondColon => simp [Token.Sound]
  | _ => trivial

/-- A token that ends stands for a readable value. -/
theorem Token.Sound.readable {rep : Representation} {v : Value} (h : t.Sound) (means : t.Means v) :
    Readable rep v := by
  cases means with
  | sign => exact readable_symbolValue (symbolText_sign h)
  -- a symbol may end where it is, as the invariant speaks of all its continuations
  | symbol => exact readable_symbolValue (OpenSymbolText.symbolText h)
  | number hn => exact .leaf (isNaN_of_parseChars h hn) rfl
  | keyword hne => exact readable_keywordValue hne h
  | string | regex => exact .leaf trivial rfl

end Token

/-- What holds of a form that waits for more. -/
def Pending.Sound (rep : Representation) : Pending → Prop
  | .group _ items => ∀ v ∈ items, Readable rep v
  | .quote => True

/-- What holds of all that waits and all that has been read. -/
structure SoundView (rep : Representation) (w : List Pending × List Value) : Prop where
  pending : ∀ p ∈ w.1, p.Sound rep
  forms : ∀ v ∈ w.2, Readable rep v

theorem SoundView.deliver {rep : Representation} {w : List Pending × List Value} {v : Value}
    (h : SoundView rep w) (hv : Readable rep v) : SoundView rep (deliver w v) := by
  obtain ⟨pending, forms⟩ := w
  induction pending generalizing v with
  | nil => exact ⟨h.pending, List.forall_mem_cons.2 ⟨hv, h.forms⟩⟩
  | cons p rest ih =>
    obtain ⟨hp, hrest⟩ := List.forall_mem_cons.1 h.pending
    cases p with
    | quote => exact ih (readable_quoted hv) ⟨hrest, h.forms⟩
    | group d items =>
      refine ⟨List.forall_mem_cons.2 ⟨?_, hrest⟩, h.forms⟩
      exact List.forall_mem_cons.2 ⟨hv, hp⟩

namespace State

/-- The invariant of the reader. -/
structure Sound (rep : Representation) (s : State) : Prop where
  token : s.token.Sound
  view : SoundView rep s.view

variable {rep : Representation} {s : State} {c : Char} {v : Value}

theorem sound_finish (h : SoundView rep s.view) (hv : Readable rep v) : (s.finish v).Sound rep := by
  refine ⟨?_, ?_⟩
  · simp [Token.Sound]
  · rw [view_finish]
    exact h.deliver hv

theorem sound_failed (h : SoundView rep s.view) (f : Fault) :
    ({ s with token := .failed f } : State).Sound rep := ⟨trivial, h⟩

theorem sound_closing [Tables] (h : s.Sound rep) : (s.closing rep c).Sound rep := by
  have closes := closes_closing rep s c
  generalize s.closing rep c = s' at closes
  cases closes with
  | stray => exact h
  | quote => exact sound_failed h.view _
  | @group d items rest hp =>
    obtain ⟨hitems, hrest⟩ : (∀ v ∈ items, Readable rep v) ∧ ∀ p ∈ rest, p.Sound rep := by
      simpa [view, hp, Pending.Sound] using h.view.pending
    exact sound_finish (s := { s with pending := rest }) ⟨hrest, h.view.forms⟩
      (readable_groupValue (by simpa using hitems))
  | @oddMap items rest hp =>
    have hrest : ∀ p ∈ rest, p.Sound rep := by
      intro p hmem
      exact h.view.pending p (by simp [view, hp, hmem])
    exact sound_failed (s := { s with pending := rest }) ⟨hrest, h.view.forms⟩ _

theorem sound_fresh [Tables] (h : s.Sound rep) : (s.fresh rep c).Sound rep := by
  have starts := starts_fresh rep s c
  generalize s.fresh rep c = s' at starts
  cases starts with
  | separator => exact h
  | closing => exact sound_closing h
  | number hc => exact ⟨by simp [begin, Token.Sound, startsNumber, hc], h.view⟩
  | sign hc => exact ⟨hc, h.view⟩
  | symbol hc hd hs => exact ⟨openSymbolText_singleton hc hd hs, h.view⟩
  | quote => exact ⟨trivial, List.forall_mem_cons.2 ⟨trivial, h.view.pending⟩, h.view.forms⟩
  | group d =>
    refine ⟨trivial, List.forall_mem_cons.2 ⟨?_, h.view.pending⟩, h.view.forms⟩
    exact List.forall_mem_nil _
  | comment | string | colon | hash | stray => exact ⟨trivial, h.view⟩

theorem sound_take [Tables] (h : s.Sound rep) : (s.take rep c).Sound rep := by
  have takes := takes_take rep s c
  generalize s.take rep c = s' at takes
  cases takes with
  | passes => exact h
  | fresh => exact sound_fresh h
  | becomes change => exact ⟨h.token.becomes change, h.view⟩
  | opensSet =>
    refine ⟨trivial, List.forall_mem_cons.2 ⟨?_, h.view.pending⟩, h.view.forms⟩
    exact List.forall_mem_nil _
  | completes hv => exact sound_finish h.view (h.token.readable hv)
  | ends hv => exact sound_fresh (sound_finish h.view (h.token.readable hv))
  | endsBadly | refuses => exact sound_failed h.view _

/-- One character keeps the invariant. -/
theorem sound_step [Tables] (h : s.Sound rep) : (s.step rep c).Sound rep :=
  ⟨(sound_take h).token, (sound_take h).view⟩

theorem sound_run [Tables] (h : s.Sound rep) (cs : List Char) : (s.run rep cs).Sound rep := by
  induction cs generalizing s with
  | nil => exact h
  | cons c cs ih => exact ih (sound_step h)

theorem sound_endToken (h : s.Sound rep) : s.endToken.Sound rep := by
  have ends := ends_endToken s
  generalize s.endToken = s' at ends
  cases ends with
  | stays => exact h
  | means hv => exact sound_finish h.view (h.token.readable hv)
  | endsBadly | isCut => exact sound_failed h.view _

end State

/-- All forms of a text are readable. -/
theorem readable_of_read [Tables] {rep : Representation} {text : String} {forms : List Value}
    (h : read rep text = .ok forms) : ∀ v ∈ forms, Readable rep v := by
  have start : State.Sound rep {} := ⟨trivial, by simp [State.view], by simp [State.view]⟩
  have sound := State.sound_endToken (State.sound_run start text.toList)
  intro v hv
  rw [← List.mem_reverse, ← forms_of_read h] at hv
  exact sound.view.forms v hv

end Lisp.Reader
