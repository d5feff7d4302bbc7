import Lisp.Eval.Step
import Lisp.Library.Procedure
import Lisp.Proofs.Collection.Congruence
import Lisp.Proofs.Machine.Change
import Lisp.Proofs.Reader.Representation

/-!
# Keys stay apart

However a map or set is built, no two of its keys or elements are equal: by a literal in a text or
in code, by the procedures that make or change collections, or from a document. With this, key
equality is an equivalence on all values that come up, and the operations respect it. This takes
tables that are finite maps keyed by key equality, in which every look-up comes past every key.

## Main definitions

* `Library.builders` — the procedures that build maps and sets
* `Shelf.Filled` — a table in which entries have been set at several moments
* `Collection.Respects` — operations answer alike on values that are equal

## Main results

* `Value.lawful_mapOf`, `Value.lawful_setOf` — literals
* `Engine.wellKeyed_evalExpanded_map`, `Engine.wellKeyed_evalExpanded_set` — literals in code
* `Library.wellKeyed_compute` — procedures
* `Collection.same_congruence` — key equality is an equivalence that all operations respect
-/

namespace Lisp

/-- What every step of a fold keeps, the whole fold keeps. -/
theorem foldlM_invariant {α β ε : Type} {f : β → α → Except ε β} {P : β → Prop} {xs : List α}
    {b r : β} (step : ∀ a ∈ xs, ∀ b b', P b → f b a = .ok b' → P b') (start : P b)
    (h : xs.foldlM f b = .ok r) : P r := by
  induction xs generalizing b with
  | nil =>
    cases h
    exact start
  | cons a xs ih =>
    rw [List.forall_mem_cons] at step
    rw [List.foldlM_cons] at h
    cases hb : f b a with
    | error e =>
      rw [hb] at h
      cases h
    | ok b' =>
      rw [hb] at h
      exact ih step.2 (step.1 b b' start hb) h

variable [Tables]

namespace Value

variable {text : Entity → String} {rep : Representation} {v : Value}

theorem lawful_vector {xs : List Value} (h : ∀ x ∈ xs, WellKeyed x) :
    Lawful text (vector rep xs) :=
  ⟨⟨trivial, h⟩, trivial⟩

theorem lawful_mapOf {ps : List (Value × Value)}
    (h : ∀ p ∈ ps, Reliable text p.1 ∧ WellKeyed p.2) : Lawful text (mapOf text rep ps) :=
  (settled_nil.insertAll h).lawful

theorem lawful_setOf {xs : List Value} (h : ∀ x ∈ xs, Reliable text x) :
    Lawful text (setOf text rep xs) := by
  have settled : Settled text
      ((Shelf.opened rep xs.length).insertAll text (xs.map (·, nil))).entries :=
    settled_nil.insertAll (List.forall_mem_map.2 fun x hx => ⟨h x hx, wellKeyed_nil⟩)
  exact settled.lawful_toSet (Shelf.Bare.insertAll (by simp [Shelf.Bare, Shelf.opened]) xs)

end Value

open Value

namespace Collection

variable {h : Heap} {mode : Representation} {m k v r : Value}

theorem lawful_assoc (lm : Lawful h.text m) (hk : Reliable h.text k) (wv : WellKeyed v)
    (hr : assoc h mode m k v = .ok r) : Lawful h.text r := by
  cases m with
  | nil =>
    cases hr
    exact lawful_mapOf (List.forall_mem_singleton.2 ⟨hk, wv⟩)
  | map t es =>
    cases hr
    have settled : Settled h.text (Shelf.mk t es).entries := lm.settled
    exact (settled.insert hk wv).lawful
  | vector rep xs =>
    -- the element at an index is replaced, or one is added right behind the last
    have wxs : ∀ x ∈ xs, WellKeyed x := fun x hx => lm.wellKeyed.inside hx
    simp only [assoc] at hr
    split at hr
    · cases hr
    · split at hr
      · cases hr
        refine lawful_vector fun x hx => ?_
        rcases List.mem_or_eq_of_mem_set hx with hx | rfl
        · exact wxs x hx
        · exact wv
      · split at hr
        · cases hr
          exact lawful_vector (List.forall_mem_append.2 ⟨wxs, by simpa using wv⟩)
        · cases hr
  | _ => cases hr

theorem lawful_dissoc (lm : Lawful h.text m) (hr : dissoc h m k = .ok r) : Lawful h.text r := by
  cases m with
  | nil =>
    cases hr
    exact lm
  | map t es =>
    cases hr
    have settled : Settled h.text (Shelf.mk t es).entries := lm.settled
    exact (settled.erase k).lawful
  | _ => cases hr

theorem lawful_mergeInto (lm : Lawful h.text m) (lv : Lawful h.text v)
    (hr : mergeInto h mode m v = .ok r) : Lawful h.text r := by
  cases v with
  | nil =>
    cases hr
    exact lm
  | map t es =>
    simp only [mergeInto] at hr
    split at hr
    · cases hr
      exact lv
    · -- each entry is set in what the earlier ones have left
      refine foldlM_invariant (fun e he a b la hb => ?_) lm hr
      exact lawful_assoc la (lv.settled.keys e he).value (lv.wellKeyed.value he) hb
  | _ => cases hr

theorem wellKeyed_get (objects : ∀ r name v, (h.object r).fields.get? name = some v → WellKeyed v)
    (wm : WellKeyed m) (wk : WellKeyed k) : WellKeyed (get h m k) := by
  have orNil {o : Option Value} (ho : ∀ v, o = some v → WellKeyed v) : WellKeyed (o.getD .nil) := by
    cases o with
    | none => exact wellKeyed_nil
    | some v => exact ho v rfl
  cases m with
  | map t es =>
    refine orNil fun v hv => ?_
    obtain ⟨e, he, rfl⟩ := Option.map_eq_some_iff.1 hv
    exact wm.value (List.mem_of_find?_eq_some he)
  | set t xs =>
    simp only [get]
    split
    · exact wk
    · exact wellKeyed_nil
  | vector rep xs =>
    refine orNil fun v hv => ?_
    obtain ⟨i, -, hi⟩ := Option.bind_eq_some_iff.1 hv
    exact wm.inside (List.mem_of_getElem? hi)
  | string s =>
    simp only [get]
    cases (indexOf? k).bind ((Text.graphemes s)[·]?) with
    | none => exact wellKeyed_nil
    | some g => exact .leaf trivial rfl
  | entity e =>
    cases e with
    | object r =>
      cases k with
      | keyword name => exact orNil fun v hv => objects r _ v hv
      | string s => exact orNil fun v hv => objects r _ v hv
      | _ => exact wellKeyed_nil
    | _ => exact wellKeyed_nil
  | _ => exact wellKeyed_nil

section Exhaustive

variable (finite : Tables.Exhaustive)

include finite

theorem wellKeyed_assoc (wm : WellKeyed m) (wk : WellKeyed k) (wv : WellKeyed v)
    (hr : assoc h mode m k v = .ok r) : WellKeyed r :=
  (lawful_assoc (finite.lawful wm) (finite.reliable wk) wv hr).wellKeyed

theorem wellKeyed_dissoc (wm : WellKeyed m) (hr : dissoc h m k = .ok r) : WellKeyed r :=
  (lawful_dissoc (finite.lawful wm) hr).wellKeyed

theorem wellKeyed_mergeInto (wm : WellKeyed m) (wv : WellKeyed v)
    (hr : mergeInto h mode m v = .ok r) : WellKeyed r :=
  (lawful_mergeInto (finite.lawful wm) (finite.lawful wv) hr).wellKeyed

theorem wellKeyed_conj (wm : WellKeyed m) (wv : WellKeyed v) (hr : conj h mode m v = .ok r) :
    WellKeyed r := by
  cases m with
  | nil =>
    cases hr
    exact ⟨trivial, List.forall_mem_singleton.2 wv⟩
  | list xs =>
    cases hr
    exact ⟨trivial, List.forall_mem_cons.2 ⟨wv, fun x hx => wm.inside hx⟩⟩
  | vector rep xs =>
    cases hr
    exact ⟨trivial, List.forall_mem_append.2 ⟨fun x hx => wm.inside hx,
      List.forall_mem_singleton.2 wv⟩⟩
  | set t xs =>
    cases hr
    have settled : Settled h.text (Shelf.ofSet t xs).entries := (finite.lawful wm).settled_set
    have inserted := settled.insert (finite.reliable wv) wellKeyed_nil
    exact (inserted.lawful_toSet (Shelf.bare_ofSet xs).insert).wellKeyed
  | map t es =>
    simp only [conj] at hr
    split at hr
    · next a b hab =>
      have wab := wellKeyed_of_sequence? wv hab
      exact wellKeyed_assoc finite wm (wab a (by simp)) (wab b (by simp)) hr
    · cases hr
  | _ => cases hr

end Exhaustive

end Collection

/-! ### Documents -/

namespace Json

variable {rep : Representation}

omit [Tables] in
theorem wellKeyed_stringForm (s : String) : WellKeyed (stringForm s) := by
  unfold stringForm
  split
  · exact .leaf trivial rfl
  · split
    · exact .leaf trivial rfl
    · exact .leaf trivial rfl
  · exact .leaf trivial rfl

/-- The keys of a map of fields are keywords, which are always found. -/
theorem wellKeyed_object {ps : List (Value × Value)}
    (h : ∀ p ∈ ps, (∃ name, p.1 = .keyword name) ∧ WellKeyed p.2) :
    WellKeyed (mapOf Entity.untold rep ps) := by
  refine (lawful_mapOf fun p hp => ?_).wellKeyed
  obtain ⟨⟨name, hname⟩, wv⟩ := h p hp
  have flat : Flat (.keyword name) := .atom rfl nofun
  exact ⟨hname ▸ flat.reliable (.leaf trivial rfl) (.leaf trivial rfl), wv⟩

mutual

theorem wellKeyed_toForm : ∀ j : Json, WellKeyed (toForm rep j)
  | null | bool _ | number _ => .leaf trivial rfl
  | string s => wellKeyed_stringForm s
  | array items => ⟨trivial, wellKeyed_toForms items⟩
  | object fields => wellKeyed_object (wellKeyed_toEntries fields)

theorem wellKeyed_toForms : ∀ js : List Json, ∀ v ∈ toForms rep js, WellKeyed v
  | [] => by simp [toForms]
  | j :: js => List.forall_mem_cons.2 ⟨wellKeyed_toForm j, wellKeyed_toForms js⟩

theorem wellKeyed_toEntries : ∀ fs : List (String × Json), ∀ p ∈ toEntries rep fs,
    (∃ name, p.1 = .keyword name) ∧ WellKeyed p.2
  | [] => by simp [toEntries]
  | (_, j) :: fs => List.forall_mem_cons.2
      ⟨⟨⟨_, rfl⟩, wellKeyed_toForm j⟩, wellKeyed_toEntries fs⟩

end

theorem wellKeyed_readForm {source : String} {v : Value} (hv : readForm rep source = .ok v) :
    WellKeyed v := by
  unfold readForm at hv
  split at hv
  · cases hv
    exact wellKeyed_toForm _
  · cases hv

end Json

/-! ### Procedures -/

namespace Library

variable {h : Heap} {mode : Representation} {args : List Value} {r : Value}

/-- The procedures that build maps and sets. -/
def builders : List Procedure := [.hashMap, .hashSet, .assoc, .dissoc, .merge, .conj, .readJson]

/-- What a procedure builds of values in which keys differ is such a value. -/
theorem wellKeyed_compute (finite : Tables.Exhaustive) {proc : Procedure} (hp : proc ∈ builders)
    (wargs : ∀ a ∈ args, WellKeyed a) (hr : compute h mode proc args = .ok r) : WellKeyed r := by
  simp only [builders, List.mem_cons, List.not_mem_nil, or_false] at hp
  rcases hp with rfl | rfl | rfl | rfl | rfl | rfl | rfl
  · -- hash-map
    change (if _ then _ else _) = _ at hr
    split at hr
    · cases hr
      refine (lawful_mapOf fun p hp => ?_).wellKeyed
      obtain ⟨hkey, hvalue⟩ := mem_of_mem_pairUp hp
      exact ⟨finite.reliable (wargs _ hkey), wargs _ hvalue⟩
    · cases hr
  · cases hr
    exact (lawful_setOf fun x hx => finite.reliable (wargs x hx)).wellKeyed
  · -- assoc
    match args, hr with
    | coll :: k :: v :: rest, hr =>
      rw [List.forall_mem_cons] at wargs
      change (if _ then _ else _) = _ at hr
      split at hr
      · refine foldlM_invariant (fun p hp b b' wb hb => ?_) wargs.1 hr
        obtain ⟨hkey, hvalue⟩ := mem_of_mem_pairUp hp
        exact Collection.wellKeyed_assoc finite wb (wargs.2 _ hkey) (wargs.2 _ hvalue) hb
      · cases hr
    | [], hr | [_], hr | [_, _], hr => cases hr
  · -- dissoc
    match args, hr with
    | coll :: keys, hr =>
      rw [List.forall_mem_cons] at wargs
      exact foldlM_invariant (fun k _ b b' wb hb => Collection.wellKeyed_dissoc finite wb hb)
        wargs.1 hr
    | [], hr => cases hr
  · -- merge
    exact foldlM_invariant (fun a ha b b' wb hb =>
      Collection.wellKeyed_mergeInto finite wb (wargs a ha) hb) wellKeyed_nil hr
  · -- conj
    match args, hr with
    | coll :: items, hr =>
      rw [List.forall_mem_cons] at wargs
      exact foldlM_invariant (fun x hx b b' wb hb =>
        Collection.wellKeyed_conj finite wb (wargs.2 x hx) hb) wargs.1 hr
    | [], hr => cases hr
  · -- read-json
    cases args with
    | nil => cases hr
    | cons text rest =>
      cases rest with
      | cons _ _ => cases text <;> cases hr
      | nil =>
        cases text with
        | string source => exact Json.wellKeyed_readForm hr
        | _ => cases hr

end Library

/-! ### Literals in code -/

namespace Shelf

variable {s s' : Shelf} {ps : List (Value × Value)}

/-- A table in which some entries have been set one after the other, as entities printed at
different moments. -/
inductive Filled : Shelf → List (Value × Value) → Shelf → Prop where
  | nil (s : Shelf) : Filled s [] s
  | cons {s s' : Shelf} {k v : Value} {ps : List (Value × Value)} (text : Entity → String)
    (rest : Filled (s.insert text k v) ps s') : Filled s ((k, v) :: ps) s'

theorem Filled.wellKeyed (h : Filled s ps s') (finite : Tables.Exhaustive)
    (ws : WellKeyed s.toMap) (wps : ∀ p ∈ ps, WellKeyed p.1 ∧ WellKeyed p.2) :
    WellKeyed s'.toMap := by
  induction h with
  | nil => exact ws
  | cons text _ ih =>
    rw [List.forall_mem_cons] at wps
    -- each entry finds the keys set before it, whatever entities printed as then
    have settled : Settled text _ := (finite.lawful ws).settled
    exact ih (settled.insert (finite.reliable wps.1.1) wps.1.2).wellKeyed wps.2

end Shelf

namespace Engine

open Eval (bind_eq_ok_iff)

variable {E : Engine} {scope : ScopeRef} {t : Table} {s s' : Shelf} {m m' : Machine} {v : Value}

omit [Tables] in
theorem evalAll_cons (E : Engine) (scope : ScopeRef) (form : Value) (forms : List Value) :
    E.evalAll scope (form :: forms) = do
      let v ← E.eval scope form
      let vs ← E.evalAll scope forms
      return v :: vs :=
  List.mapM_cons

/-- The keys and values of a literal map are evaluated in their order, and set one by one. -/
theorem exists_of_evalEntries {es : List (Filed Value × Value)}
    (h : E.evalEntries scope es s m = .ok s' m') :
    ∃ vs, E.evalAll scope (Value.map t es).parts m = .ok vs m' ∧ s.Filled (pairUp vs) s' := by
  induction es generalizing s m with
  | nil =>
    cases h
    exact ⟨[], rfl, .nil _⟩
  | cons e es ih =>
    obtain ⟨_, _, first, rest⟩ := bind_eq_ok_iff.1 h
    obtain ⟨k, _, key, first⟩ := bind_eq_ok_iff.1 first
    obtain ⟨v, _, value, first⟩ := bind_eq_ok_iff.1 first
    cases first
    obtain ⟨vs, all, filled⟩ := ih rest
    refine ⟨k :: v :: vs, ?_, .cons _ filled⟩
    rw [show (Value.map t (e :: es)).parts = e.1.value :: e.2 :: (Value.map t es).parts from rfl,
      evalAll_cons, evalAll_cons]
    exact bind_eq_ok_iff.2 ⟨k, _, key, bind_eq_ok_iff.2 ⟨v :: vs, _,
      bind_eq_ok_iff.2 ⟨v, _, value, bind_eq_ok_iff.2 ⟨vs, _, all, rfl⟩⟩, rfl⟩⟩

theorem exists_of_evalItems {xs : List (Filed Value)}
    (h : E.evalItems scope xs s m = .ok s' m') :
    ∃ vs, E.evalAll scope (Value.set t xs).parts m = .ok vs m' ∧
      s.Filled (vs.map (·, .nil)) s' := by
  induction xs generalizing s m with
  | nil =>
    cases h
    exact ⟨[], rfl, .nil _⟩
  | cons x xs ih =>
    obtain ⟨_, _, first, rest⟩ := bind_eq_ok_iff.1 h
    obtain ⟨v, _, element, first⟩ := bind_eq_ok_iff.1 first
    cases first
    obtain ⟨vs, all, filled⟩ := ih rest
    refine ⟨v :: vs, ?_, .cons _ filled⟩
    rw [show (Value.set t (x :: xs)).parts = x.value :: (Value.set t xs).parts from rfl,
      evalAll_cons]
    exact bind_eq_ok_iff.2 ⟨v, _, element, bind_eq_ok_iff.2 ⟨vs, _, all, rfl⟩⟩

theorem wellKeyed_opened (rep : Representation) (room : Nat) :
    WellKeyed (Shelf.opened rep room).toMap :=
  wellKeyed_map .nil (List.forall_mem_nil _) (List.forall_mem_nil _)

section Exhaustive

variable (finite : Tables.Exhaustive)

include finite

/-- Keys differ in what a literal map evaluates to if they do in its evaluated keys and values. -/
theorem wellKeyed_evalExpanded_map {es : List (Filed Value × Value)}
    (contents : ∀ vs, E.evalAll scope (Value.map t es).parts m = .ok vs m' →
      ∀ x ∈ vs, WellKeyed x)
    (hv : E.evalExpanded scope (.map t es) m = .ok v m') : WellKeyed v := by
  obtain ⟨s, _, evaluated, made⟩ := bind_eq_ok_iff.1 hv
  cases made
  obtain ⟨vs, all, filled⟩ := exists_of_evalEntries evaluated
  refine filled.wellKeyed finite (wellKeyed_opened _ _) fun p hp => ?_
  obtain ⟨hkey, hvalue⟩ := mem_of_mem_pairUp hp
  exact ⟨contents vs all _ hkey, contents vs all _ hvalue⟩

theorem wellKeyed_evalExpanded_set {xs : List (Filed Value)}
    (contents : ∀ vs, E.evalAll scope (Value.set t xs).parts m = .ok vs m' →
      ∀ x ∈ vs, WellKeyed x)
    (hv : E.evalExpanded scope (.set t xs) m = .ok v m') : WellKeyed v := by
  obtain ⟨s, _, evaluated, made⟩ := bind_eq_ok_iff.1 hv
  cases made
  obtain ⟨vs, all, filled⟩ := exists_of_evalItems evaluated
  refine wellKeyed_toSet (filled.wellKeyed finite (wellKeyed_opened _ _) ?_)
  exact List.forall_mem_map.2 fun x hx => ⟨contents vs all x hx, wellKeyed_nil⟩

end Exhaustive

end Engine

/-! ### Key equality as a congruence -/

namespace Collection

/-- Values that are equal at a moment. -/
def Equal (h : Heap) (a b : Value) : Prop := a.agrees h.text b = true

/-- Operations answer alike on a collection, a key and a value and on others. -/
structure Respects (h : Heap) (mode : Representation) (m k v m' k' v' : Value) : Prop where
  get : Equal h (get h m k) (get h m' k')
  contains : contains h m k = contains h m' k'
  count : count m = count m'
  assoc : Agree (Equal h) h m m' (assoc h mode m k v) (assoc h mode m' k' v')
  dissoc : Agree (Equal h) h m m' (dissoc h m k) (dissoc h m' k')
  conj : Agree (Equal h) h m m' (conj h mode m v) (conj h mode m' v')

/-- Let tables be finite maps keyed by key equality. Then values in which keys differ are equal if
and only if they are the same. Key equality is an equivalence on them, every operation respects it,
and maps and sets have keys that differ however they are built. -/
theorem same_congruence (finite : Tables.Exhaustive) (h : Heap) (mode : Representation)
    (objects : ∀ r name v, (h.object r).fields.get? name = some v → WellKeyed v) :
    (∀ a b, WellKeyed a → WellKeyed b → (Equal h a b ↔ a.same b = true)) ∧
    Equivalence (fun a b : { v : Value // WellKeyed v } => Equal h a.1 b.1) ∧
    (∀ m k v m' k' v', WellKeyed m → WellKeyed m' → WellKeyed k → WellKeyed k' → WellKeyed v →
      WellKeyed v' → Equal h m m' → Equal h k k' → Equal h v v' → Respects h mode m k v m' k' v') ∧
    (∀ text rep ps, (∀ p ∈ ps, WellKeyed p.1 ∧ WellKeyed p.2) → WellKeyed (mapOf text rep ps)) ∧
    (∀ text rep xs, (∀ x ∈ xs, WellKeyed x) → WellKeyed (setOf text rep xs)) ∧
    (∀ rep source forms, Reader.read rep source = .ok forms → ∀ v ∈ forms, WellKeyed v) ∧
    (∀ (E : Engine) scope t es m m' v,
      (∀ vs, E.evalAll scope (Value.map t es).parts m = .ok vs m' → ∀ x ∈ vs, WellKeyed x) →
      E.evalExpanded scope (.map t es) m = .ok v m' → WellKeyed v) ∧
    (∀ (E : Engine) scope t xs m m' v,
      (∀ vs, E.evalAll scope (Value.set t xs).parts m = .ok vs m' → ∀ x ∈ vs, WellKeyed x) →
      E.evalExpanded scope (.set t xs) m = .ok v m' → WellKeyed v) ∧
    ∀ proc ∈ Library.builders, ∀ args r, (∀ a ∈ args, WellKeyed a) →
      Library.compute h mode proc args = .ok r → WellKeyed r := by
  have equal_iff {a b : Value} (wa : WellKeyed a) (wb : WellKeyed b) :
      Equal h a b ↔ a.same b = true := by
    rw [Equal, finite.agrees_eq_same wa wb]
  refine ⟨fun _ _ => equal_iff, ⟨fun a => ?_, fun {a b} hab => ?_, fun {a b c} hab hbc => ?_⟩, ?_,
    fun _ _ _ hps => ?_, fun _ _ _ hxs => ?_, fun rep source forms hread v hv => ?_,
    fun _ _ _ _ _ _ _ => Engine.wellKeyed_evalExpanded_map finite,
    fun _ _ _ _ _ _ _ => Engine.wellKeyed_evalExpanded_set finite,
    fun _ hp _ _ => Library.wellKeyed_compute finite hp⟩
  · exact (equal_iff a.2 a.2).2 a.2.same_refl
  · exact (equal_iff b.2 a.2).2 (a.2.same_symm b.2 ((equal_iff a.2 b.2).1 hab))
  · exact (equal_iff a.2 c.2).2 (a.2.same_trans b.2 c.2 ((equal_iff a.2 b.2).1 hab)
      ((equal_iff b.2 c.2).1 hbc))
  · intro m k v m' k' v' wm wm' wk wk' wv wv' hm hk hv
    replace hm := (equal_iff wm wm').1 hm
    replace hk := (equal_iff wk wk').1 hk
    replace hv := (equal_iff wv wv').1 hv
    exact {
      get := (equal_iff (wellKeyed_get objects wm wk) (wellKeyed_get objects wm' wk')).2
        (get_congr finite objects wm wm' wk wk' hm hk)
      contains := contains_congr finite wm wm' wk wk' hm hk
      count := count_congr hm
      assoc := (assoc_congr finite wm wm' wk wk' wv wv' hm hk hv).imp fun _ _ ha hb =>
        (equal_iff (wellKeyed_assoc finite wm wk wv ha) (wellKeyed_assoc finite wm' wk' wv' hb)).2
      dissoc := (dissoc_congr finite wm wm' wk wk' hm hk).imp fun _ _ ha hb =>
        (equal_iff (wellKeyed_dissoc finite wm ha) (wellKeyed_dissoc finite wm' hb)).2
      conj := (conj_congr finite wm wm' wv wv' hm hv).imp fun _ _ ha hb =>
        (equal_iff (wellKeyed_conj finite wm wv ha) (wellKeyed_conj finite wm' wv' hb)).2 }
  · exact (lawful_mapOf fun p hp => ⟨finite.reliable (hps p hp).1, (hps p hp).2⟩).wellKeyed
  · exact (lawful_setOf fun x hx => finite.reliable (hxs x hx)).wellKeyed
  · -- what is read are literals
    obtain ⟨ls, rfl⟩ := Reader.exists_literals_of_read hread
    obtain ⟨l, -, rfl⟩ := List.mem_map.1 hv
    exact (Reader.Literal.keysSteady_of_exhaustive finite rep l).held.wellKeyed

end Collection

end Lisp

namespace Lisp.Collection

open Value

/-- Maps filled in different orders, one under each of the two zeros. -/
theorem same_congruence_zeros :
    let _ : Tables := Tables.thorough
    let h : Heap := {}
    let m := mapOf h.text .native [(.number .zero, .kw "a"), (.kw "k", .nil)]
    let m' := mapOf h.text .native [(.kw "k", .nil), (.number .negZero, .kw "a")]
    WellKeyed m ∧ WellKeyed m' ∧ Equal h m m' ∧
      Respects h .persistent m (.number .negZero) .nil m' (.number .zero) .nil := by
  intro _ h m m'
  have finite : Tables.Exhaustive := fun _ _ _ => rfl
  have objects : ∀ r name v, (h.object r).fields.get? name = some v → WellKeyed v := by
    intro r name v hv
    have hempty : (h.object r).fields.get? name = none := by
      simp only [h, Heap.object, Array.getD_eq_getD_getElem?, Array.getElem?_empty]
      rfl
    cases hempty.symm.trans hv
  obtain ⟨equal, -, respects, maps, -⟩ := same_congruence finite h .persistent objects
  have number (n : Number) : WellKeyed (.number n) := .leaf trivial rfl
  have word (s : String) : WellKeyed (.kw s) := .leaf trivial rfl
  have wm : WellKeyed m := maps _ _ _ (List.forall_mem_cons.2
    ⟨⟨number _, word _⟩, List.forall_mem_singleton.2 ⟨word _, wellKeyed_nil⟩⟩)
  have wm' : WellKeyed m' := maps _ _ _ (List.forall_mem_cons.2
    ⟨⟨word _, wellKeyed_nil⟩, List.forall_mem_singleton.2 ⟨number _, word _⟩⟩)
  have hm : Equal h m m' := (equal m m' wm wm').2 (by decide)
  have hk : Equal h (.number .negZero) (.number .zero) := (equal _ _ (number _) (number _)).2 rfl
  exact ⟨wm, wm', hm, respects _ _ _ _ _ _ wm wm' (number .negZero) (number .zero) wellKeyed_nil
    wellKeyed_nil hm hk ((equal _ _ wellKeyed_nil wellKeyed_nil).2 rfl)⟩

end Lisp.Collection
