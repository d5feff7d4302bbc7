import Lisp.Proofs.Reader.Delivery
import Lisp.Proofs.Reader.Representation

/-!
# Printing and reading

What the reader has produced can be printed and read again, as many forms as there were. Regular
expressions and infinite numbers are left out. Maps and sets may be printed in any order. The forms
that come back are the first ones built once more, so they are the same, one by one, wherever keys
differ; and they are equal if keys are found. A set inside a set inside a set may not be: if it is
read in another order than before, the one around it is hashed by another text.

## Main definitions

* `Reader.Plain` — no regular expression and no infinite number, at any depth
* `Reader.Printable` — what the reader can produce, without these two

## Main results

* `Reader.Printable.reordered` — the order of maps and sets does not matter
* `Reader.Printable.readsBack` — the text of a printable value is read as the value built once more
* `Reader.read_render` — printing all forms of a text and reading them again
* `Reader.nested_set_lost` — but for the order of sets inside keys
-/

namespace Lisp.Reader

open Value (Everywhere Reordered WellKeyed Rebuilt KeysReliable renderAll_eq renderItems_eq
  renderEntries_eq)

/-- What has no text that is read back is left out. -/
def PlainHere : Value → Prop
  | .regex _ => False
  | .number n => ∀ negative, n.exact ≠ .infinite negative
  | _ => True

/-- No regular expression and no infinite number, at any depth. -/
def Plain : Value → Prop := Everywhere PlainHere

/-- What the reader can produce, without regular expressions and infinite numbers. -/
def Printable (rep : Representation) : Value → Prop :=
  Everywhere fun v => ReadableHere rep v ∧ PlainHere v

variable {rep : Representation}

theorem printable_of_readable {v : Value} (readable : Readable rep v) (plain : Plain v) :
    Printable rep v := by
  induction readable with
  | intro here _ ih =>
    exact ⟨⟨here, plain.here⟩, fun w hw => ih w hw (plain.inside hw)⟩

namespace Printable

variable {v w : Value}

/-! ### The order of maps and sets -/

/-- What makes a value printable, apart from its parts, is its kind. -/
theorem here_of_reshaped (h : ReadableHere rep v ∧ PlainHere v) (shape : Value.Reshaped v w) :
    ReadableHere rep w ∧ PlainHere w := by
  unfold Value.Reshaped at shape
  split at shape
  · exact ⟨trivial, trivial⟩
  · exact ⟨trivial, trivial⟩
  · obtain rfl := shape
    exact h
  · exact ⟨shape.trans h.1, trivial⟩
  · exact ⟨shape.trans h.1, trivial⟩
  · cases shape

/-- Maps and sets in another order are just as printable. -/
theorem reordered (h : Reordered v w) (hv : Printable rep v) : Printable rep w :=
  Everywhere.reordered here_of_reshaped h hv

end Printable

/-! ### Names -/

theorem eq_of_splitSlash {cs before after : List Char}
    (h : Name.splitSlash cs = some (before, after)) : cs = before ++ '/' :: after := by
  induction cs generalizing before with
  | nil => simp [Name.splitSlash] at h
  | cons c cs ih =>
    unfold Name.splitSlash at h
    split at h
    · next hc =>
      obtain ⟨rfl, rfl⟩ := Prod.mk.inj (Option.some.inj h)
      rw [hc, List.nil_append]
    · obtain ⟨⟨before', after'⟩, hsplit, heq⟩ := Option.map_eq_some_iff.1 h
      obtain ⟨rfl, rfl⟩ := Prod.mk.inj heq
      rw [ih hsplit, List.cons_append]

/-- Splitting a name does not change its text. -/
theorem text_parse (text : String) : (Name.parse text).text = text := by
  unfold Name.parse
  split
  · next c cs d ds h =>
    have := eq_of_splitSlash h
    rw [← String.toList_inj]
    simp [Name.text, Name.qualified, this]
  · rfl

theorem text_of_symbolValue {chars : List Char} {name : Name}
    (h : symbolValue chars = .symbol name) : name.text.toList = chars.reverse := by
  rcases symbolValue_cases chars with hv | ⟨b, hv⟩ | hv
  · simp [hv] at h
  · simp [hv] at h
  · obtain rfl := Value.symbol.inj (hv.symm.trans h)
    rw [text_parse, String.toList_ofList]

theorem text_of_keywordValue {auto : Bool} {chars : List Char} {name : Name}
    (h : keywordValue auto chars = .keyword name) :
    name.text.toList = if auto then ':' :: chars.reverse else chars.reverse := by
  unfold keywordValue at h
  obtain rfl := Value.keyword.inj h
  cases auto with
  | true => simp [Name.text, Name.simple]
  | false => simp [text_parse]

/-! ### Texts of values -/

variable [Tables]

section Render

attribute [local simp] Value.render

variable (entityText : Entity → String)

/-- A value whose text delivers the value built once more. -/
def ReadsBack (rep : Representation) (v : Value) : Prop :=
  ∃ w, Delivers rep (v.render entityText).toList [w] ∧ Rebuilt Entity.untold v w

variable {entityText}

omit [Tables] in
theorem exists_forall₂ {α β : Type} {R : α → β → Prop} {xs : List α} (h : ∀ x ∈ xs, ∃ y, R x y) :
    ∃ ys, List.Forall₂ R xs ys := by
  induction xs with
  | nil => exact ⟨[], .nil⟩
  | cons x xs ih =>
    rw [List.forall_mem_cons] at h
    obtain ⟨y, hy⟩ := h.1
    obtain ⟨ys, hys⟩ := ih h.2
    exact ⟨y :: ys, .cons hy hys⟩

/-- Values that read back, joined, deliver the values built once more. -/
theorem exists_delivers_joined {gap : List Char} (hgap : IsGap gap) {vs : List Value}
    (h : ∀ v ∈ vs, ReadsBack entityText rep v) :
    ∃ ws, Delivers rep (gap.intercalate (vs.map fun v => (v.render entityText).toList)) ws ∧
      List.Forall₂ (Rebuilt Entity.untold) vs ws := by
  obtain ⟨ws, hws⟩ := exists_forall₂ h
  refine ⟨ws, ?_, hws.imp fun _ _ hw => hw.2⟩
  have texts : List.Forall₂ (Delivers rep) (vs.map fun v => (v.render entityText).toList)
      (ws.map ([·])) := by
    rw [List.forall₂_map_left_iff, List.forall₂_map_right_iff]
    exact hws.imp fun _ _ hw => hw.1
  have delivers := delivers_intercalate hgap texts
  rwa [← List.flatMap_def, List.flatMap_singleton'] at delivers

omit [Tables] in
theorem toList_enclose (opening separator closing : String) (texts : List String) :
    (Value.enclose opening separator closing texts).toList =
      opening.toList ++ separator.toList.intercalate (texts.map String.toList) ++
        closing.toList := by
  simp [Value.enclose, String.toList_intercalate]

theorem readsBack_list {vs : List Value} (h : ∀ v ∈ vs, ReadsBack entityText rep v) :
    ReadsBack entityText rep (.list vs) := by
  obtain ⟨ws, delivers, rebuilt⟩ := exists_delivers_joined (.inl rfl) h
  refine ⟨.list ws, ?_, .list rebuilt⟩
  simp only [Value.render, renderAll_eq, toList_enclose, List.map_map]
  exact delivers_group .list delivers (by simp [Delimiter.Fits])

theorem readsBack_vector {vs : List Value} (h : ∀ v ∈ vs, ReadsBack entityText rep v) :
    ReadsBack entityText rep (.vector rep vs) := by
  obtain ⟨ws, delivers, rebuilt⟩ := exists_delivers_joined (.inl rfl) h
  refine ⟨.vector rep ws, ?_, .vector rebuilt⟩
  simp only [Value.render, renderAll_eq, toList_enclose, List.map_map]
  exact delivers_group .vector delivers (by simp [Delimiter.Fits])

theorem readsBack_quoted {v : Value} (h : ReadsBack entityText rep v) :
    ReadsBack entityText rep (.quoted v) := by
  obtain ⟨w, delivers, rebuilt⟩ := h
  refine ⟨.quoted w, ?_, .quoted rebuilt⟩
  simpa [Value.render] using delivers_quote delivers

theorem readsBack_set {t : Table} {xs : List (Filed Value)} (ht : t.rep = rep)
    (h : ∀ x ∈ xs, ReadsBack entityText rep x.value) : ReadsBack entityText rep (.set t xs) := by
  have values : ∀ v ∈ xs.map (·.value), ReadsBack entityText rep v := List.forall_mem_map.2 h
  obtain ⟨ws, delivers, rebuilt⟩ := exists_delivers_joined (.inl rfl) values
  rw [List.forall₂_map_left_iff] at rebuilt
  refine ⟨groupValue rep .set ws, ?_, .set ht rfl rebuilt⟩
  simp only [Value.render, renderItems_eq, toList_enclose, List.map_map]
  rw [List.map_map] at delivers
  exact delivers_group .set delivers (by simp [Delimiter.Fits])

omit [Tables] in
theorem pairUp_flatMap (ps : List (Value × Value)) :
    Value.pairUp (ps.flatMap fun p => [p.1, p.2]) = ps := by
  induction ps with
  | nil => rfl
  | cons p ps ih => simp [Value.pairUp, ih]

omit [Tables] in
theorem length_flatMap_pair (ps : List (Value × Value)) :
    (ps.flatMap fun p => [p.1, p.2]).length = 2 * ps.length := by
  induction ps with
  | nil => rfl
  | cons p ps ih =>
    simp only [List.flatMap_cons, List.length_append, List.length_cons, List.length_nil, ih]
    omega

theorem readsBack_map {t : Table} {es : List (Filed Value × Value)} (ht : t.rep = rep)
    (keys : ∀ e ∈ es, ReadsBack entityText rep e.1.value)
    (values : ∀ e ∈ es, ReadsBack entityText rep e.2) :
    ReadsBack entityText rep (.map t es) := by
  -- each entry delivers its key and its value
  obtain ⟨ps, hps⟩ : ∃ ps : List (Value × Value), List.Forall₂ (fun e p =>
      Delivers rep (e.1.value.render entityText ++ " " ++ e.2.render entityText).toList
        [p.1, p.2] ∧ Rebuilt Entity.untold e.1.value p.1 ∧
          Rebuilt Entity.untold e.2 p.2) es ps := by
    refine exists_forall₂ fun e he => ?_
    obtain ⟨k, hk, hkey⟩ := keys e he
    obtain ⟨v, hv, hvalue⟩ := values e he
    exact ⟨(k, v), by simpa using hk.append (.inl rfl) hv, hkey, hvalue⟩
  have rebuilt : Rebuilt Entity.untold (.map t es)
      (groupValue rep .map (ps.flatMap fun p => [p.1, p.2])) := by
    rw [groupValue, pairUp_flatMap]
    exact .map ht rfl (hps.imp fun _ _ h => h.2.1) (hps.imp fun _ _ h => h.2.2)
  refine ⟨_, ?_, rebuilt⟩
  have texts : List.Forall₂ (Delivers rep)
      (es.map fun e => (e.1.value.render entityText ++ " " ++ e.2.render entityText).toList)
      (ps.map fun p => [p.1, p.2]) := by
    rw [List.forall₂_map_left_iff, List.forall₂_map_right_iff]
    exact hps.imp fun _ _ hp => hp.1
  have delivers := delivers_intercalate (.inr rfl) texts
  rw [← List.flatMap_def] at delivers
  simp only [Value.render, renderEntries_eq, toList_enclose, List.map_map]
  exact delivers_group .map delivers fun _ => by rw [length_flatMap_pair]; omega

theorem delivers_word (text : String) {v : Value} (h : SymbolText text.toList)
    (hv : symbolValue text.toList.reverse = v) : Delivers rep text.toList [v] :=
  hv ▸ delivers_symbol h

omit [Tables] in
theorem exists_finite {n : Number} (hn : n.isNaN = false)
    (hi : ∀ negative, n.exact ≠ .infinite negative) :
    ∃ negative m q, n.exact = .finite negative m q := by
  cases h : n.exact with
  | finite negative m q => exact ⟨negative, m, q, rfl⟩
  | infinite negative => exact absurd h (hi negative)
  | nan =>
    unfold Number.exact at h
    unfold Number.isNaN at hn
    split_ifs at h
    simp_all

/-- The text of a printable value delivers the value built once more. -/
theorem Printable.readsBack {v : Value} (h : Printable rep v) : ReadsBack entityText rep v := by
  induction h with
  | @intro v here inside ih =>
    obtain ⟨readable, plain⟩ := here
    cases v with
    | nil =>
      refine ⟨.nil, ?_, .atom rfl⟩
      simp only [Value.render]
      exact delivers_word "nil" ⟨by decide, List.all_eq_true.1 rfl, rfl⟩ rfl
    | bool b =>
      refine ⟨.bool b, ?_, .atom rfl⟩
      simp only [Value.render]
      cases b with
      | true => exact delivers_word "true" ⟨by decide, List.all_eq_true.1 rfl, rfl⟩ rfl
      | false => exact delivers_word "false" ⟨by decide, List.all_eq_true.1 rfl, rfl⟩ rfl
    | number n =>
      obtain ⟨negative, m, q, hfinite⟩ := exists_finite readable plain
      obtain ⟨minus, t, htext, hsame⟩ := Number.exists_numeral_renderChars hfinite
      refine ⟨.number (t.decimal.toNumber minus), ?_, .number hsame⟩
      simpa [Value.render, Number.render, htext] using delivers_number minus t
    | string text =>
      exact ⟨.string text, delivers_string text, .atom rfl⟩
    | symbol name =>
      -- the text of a name is the text that it was read from
      obtain ⟨chars, htext, hvalue⟩ := readable
      refine ⟨.symbol name, ?_, .atom rfl⟩
      have delivers : Delivers rep chars.reverse [symbolValue chars.reverse.reverse] :=
        delivers_symbol htext
      rw [List.reverse_reverse, hvalue] at delivers
      simpa [Value.render, text_of_symbolValue hvalue] using delivers
    | keyword name =>
      obtain ⟨auto, chars, hne, hchars, hvalue⟩ := readable
      refine ⟨.keyword name, ?_, .atom rfl⟩
      have delivers : Delivers rep (':' :: if auto then ':' :: chars.reverse else chars.reverse)
          [keywordValue auto chars.reverse.reverse] :=
        delivers_keyword (by simpa using hne) (by simpa using hchars)
      rw [List.reverse_reverse, hvalue] at delivers
      simpa [Value.render, text_of_keywordValue hvalue] using delivers
    | list items => exact readsBack_list ih
    | vector r items =>
      obtain rfl := readable
      exact readsBack_vector ih
    | map t entries =>
      exact readsBack_map readable (fun e he => ih _ (Value.key_mem_parts he))
        fun e he => ih _ (Value.value_mem_parts he)
    | set t items => exact readsBack_set readable fun x hx => ih _ (Value.element_mem_parts hx)
    | quoted form => exact readsBack_quoted (ih form (by simp [Value.parts]))
    | regex pattern => exact plain.elim
    | entity e => exact readable.elim

end Render

theorem read_of_delivers {text : String} {vs : List Value} (h : Delivers rep text.toList vs) :
    read rep text = .ok vs := by
  have rests := h {} rfl
  rw [show State.view {} = ([], []) from rfl, foldl_deliver_nil, List.append_nil] at rests
  obtain ⟨-, htoken, hview⟩ := rests
  obtain ⟨hpending, hforms⟩ := Prod.mk.inj hview
  have hfault : (State.run rep {} text.toList).endToken.fault? = none :=
    State.fault_eq_none_iff.2 ⟨by simp [htoken], hpending⟩
  rw [read_of_fault_eq_none (by simp [readAll, readChars_eq, State.outcome, hfault])]
  simp [readAll, readChars_eq, State.outcome, hforms]

/-- Printing and reading: let a text be read, its forms contain no regular expression and no
infinite number, and let them be printed side by side with their maps and sets in any order. This
text can be read too, and has as many forms. A form in which keys differ is the same when it is read
again, and equal if its keys are found. Both hold if all keys that are written are flat. -/
theorem read_render (rep : Representation) (entityText : Entity → String) (text : String)
    (forms printed : List Value) (h : read rep text = .ok forms) (plain : ∀ v ∈ forms, Plain v)
    (order : List.Forall₂ Reordered forms printed) :
    (∃ ls : List Literal, forms = ls.map (Literal.value rep) ∧ ∀ l ∈ ls, l.KeysFlat rep →
      WellKeyed (l.value rep) ∧ Everywhere (KeysReliable Entity.untold) (l.value rep)) ∧
    ∃ again, read rep (" ".intercalate (printed.map (·.render entityText))) = .ok again ∧
      List.Forall₂ (fun v w => WellKeyed v → v.same w = true ∧
        (Everywhere (KeysReliable Entity.untold) v →
          v.agrees Entity.untold w = true ∧ w.agrees Entity.untold v = true)) forms again := by
  have printable : ∀ v ∈ printed, Printable rep v := Value.forall_right_of_forall₂ order
    fun v hv _ hvw => (printable_of_readable (readable_of_read h v hv) (plain v hv)).reordered hvw
  obtain ⟨again, delivers, rebuilt⟩ :=
    exists_delivers_joined (.inl rfl) fun v hv => (printable v hv).readsBack
  refine ⟨?_, again, read_of_delivers ?_, Value.forall₂_comp ?_ order rebuilt⟩
  · obtain ⟨ls, literals⟩ := exists_literals_of_read h
    refine ⟨ls, literals, fun l _ flat => ?_⟩
    have held := flat.keysSteady.held
    exact ⟨held.wellKeyed, held.keys⟩
  · simpa [String.toList_intercalate, Function.comp_def] using delivers
  · intro v u w hvu huw wv
    obtain ⟨wu, hsame⟩ := wv.reordered hvu
    obtain ⟨ww, hsame'⟩ := huw.same wu
    have same := wv.same_trans wu ww hsame hsame'
    refine ⟨same, fun reliable => ?_⟩
    -- keys of the printed form are filed alike as those of the first one are
    have steady := Value.keysSteady_of_same wv wu hsame
      (reliable.mono Value.keysSteady_of_keysReliable)
    have found := (huw.reliable wu steady).mono Value.keysFound_of_keysReliable
    exact ⟨Value.agrees_of_same wv ww found same,
      Value.agrees_of_same ww wv (reliable.mono Value.keysFound_of_keysReliable)
        (wv.same_symm ww same)⟩

end Lisp.Reader

namespace Lisp.Reader

open Value (Everywhere Lawful Reliable WellKeyed KeysReliable)

/-- A quoted map with a negative number and a qualified name, its entries printed the other way
round. -/
theorem read_render_swapped :
    let s := (Shelf.opened .native 2).insertAll Entity.untold
      [(.kw "a", .number ⟨0xBFE0000000000000⟩), (.symbol ⟨some "n", "b"⟩, .string "\n")]
    let form : Value := .quoted s.toMap
    let printed : Value := .quoted (.map s.table s.entries.reverse)
    read .native "'\x7b:a -0.5, n/b \"\\n\"\x7d" = .ok [form] ∧
      printed.render Entity.untold = "'\x7bn/b \"\\n\", :a -0.5\x7d" ∧
      ∃ again, read .native (" ".intercalate ([printed].map (·.render Entity.untold))) = .ok again ∧
        List.Forall₂ (fun v w => v.same w = true ∧ v.agrees Entity.untold w = true ∧
          w.agrees Entity.untold v = true) [form] again := by
  intro s form printed
  have h : read .native "'\x7b:a -0.5, n/b \"\\n\"\x7d" = .ok [form] := by with_unfolding_all rfl
  have leaf : ∀ v : Value, v.parts = [] → PlainHere v → Plain v :=
    fun v hparts here => ⟨here, by simp [hparts]⟩
  have entries : s.entries = [((Value.kw "a").file Entity.untold, .number ⟨0xBFE0000000000000⟩),
      ((Value.symbol ⟨some "n", "b"⟩).file Entity.untold, .string "\n")] := by
    with_unfolding_all rfl
  have inside : ∀ w ∈ s.toMap.parts, w = .kw "a" ∨ w = .number ⟨0xBFE0000000000000⟩ ∨
      w = .symbol ⟨some "n", "b"⟩ ∨ w = .string "\n" := by
    simp [Shelf.toMap, Value.parts, entries, Value.file]
  have plain : Plain s.toMap := by
    refine ⟨trivial, fun w hw => ?_⟩
    rcases inside w hw with rfl | rfl | rfl | rfl
    · exact leaf _ rfl trivial
    · exact leaf _ rfl fun negative => by cases negative <;> decide
    · exact leaf _ rfl trivial
    · exact leaf _ rfl trivial
  -- names serve as keys, so the keys of the map are found
  have name : Reliable Entity.untold (.kw "a") := Value.reliable_leaf rfl (by rintro _ ⟨⟩)
  have name' : Reliable Entity.untold (.symbol ⟨some "n", "b"⟩) :=
    Value.reliable_leaf rfl (by rintro _ ⟨⟩)
  have lawful : Lawful Entity.untold s.toMap :=
    (Value.settled_nil.insertAll (List.forall_mem_cons.2 ⟨⟨name, Value.wellKeyed_leaf rfl⟩,
      List.forall_mem_singleton.2 ⟨name', Value.wellKeyed_leaf rfl⟩⟩)).lawful
  have found : Everywhere (KeysReliable Entity.untold) s.toMap := by
    refine ⟨lawful.keys, fun w hw => ?_⟩
    rcases inside w hw with rfl | rfl | rfl | rfl
    all_goals exact .leaf trivial rfl
  obtain ⟨-, again, hread, same⟩ := read_render .native Entity.untold _ [form] [printed] h
    (List.forall_mem_singleton.2 ⟨trivial, List.forall_mem_singleton.2 plain⟩)
    (.cons (.quoted (.entries rfl (List.reverse_perm _).symm)) .nil)
  refine ⟨h, by with_unfolding_all rfl, again, hread, forall₂_of_mem ?_ same⟩
  intro v hv w _ hvw
  obtain rfl := List.mem_singleton.1 hv
  obtain ⟨hsame, hagrees⟩ := hvw ⟨trivial, List.forall_mem_singleton.2 lawful.wellKeyed⟩
  exact ⟨hsame, hagrees ⟨trivial, List.forall_mem_singleton.2 found⟩⟩

/-- A set in a set in a set, printed and read once more. A persistent table has what came last in
front, so the innermost set comes back the other way round, and the one around it is hashed by
another text. -/
theorem nested_set_lost :
    let text := "#\x7b#\x7b#\x7btrue nil\x7d\x7d\x7d"
    let forms := (readAll .persistent text).forms.map (·.form)
    let printed := " ".intercalate (forms.map (·.render Entity.untold))
    let again := (readAll .persistent printed).forms.map (·.form)
    (forms.zip again).map (fun p => p.1.agrees Entity.untold p.2) = [false] := by
  decide +kernel

end Lisp.Reader
