import Lisp.Proofs.Forest
import Lisp.Scope

/-!
# Lexical scoping

Scopes are shared: a name that is defined or gets a new value in one scope is seen from all scopes
within it, as far as none in between binds the name itself. What every scope sees after a change is
said here for all scopes at once. It follows from two things: what a scope itself binds after the
change, and that the way out of a scope never changes.

## Main definitions

* `Scopes.Grown` — the collections that come from one root
* `Scopes.path` — a scope and those around it
* `Scopes.WayOut` — what is known of the way out of a scope
* `Scopes.Child` — a new scope
* `Scopes.defineAll` — several definitions in one scope
* `Scopes.Extended`, `Scopes.Assigned`, `Scopes.Defined` — what a change does, as all scopes see it

## Main results

* `Scopes.binding?_eq_bind` — the nearest binding is the own one of the nearest scope with one
* `Scopes.extended_extendBy`, `Scopes.assigned_of_assign`, `Scopes.defined_define` — the changes
* `Scopes.lexical_scoping` — all of it, for every collection that comes from one root
-/

namespace Lisp

/-- The first answer is the answer of the first element that has one. -/
theorem findSome?_eq_bind_find? {α β : Type} (answer : α → Option β) (xs : List α) :
    xs.findSome? answer = (xs.find? fun x => (answer x).isSome).bind answer := by
  induction xs with
  | nil => rfl
  | cons x xs ih =>
    cases h : answer x with
    | none => simp [h, ih]
    | some b => simp [h]

theorem findSome?_congr {α β : Type} {f g : α → Option β} {xs : List α}
    (h : ∀ x ∈ xs, f x = g x) : xs.findSome? f = xs.findSome? g := by
  induction xs with
  | nil => rfl
  | cons x xs ih =>
    rw [List.forall_mem_cons] at h
    rw [List.findSome?_cons, List.findSome?_cons, h.1, ih h.2]

/-- A weaker test finds the same element if the element passes the stronger one. -/
theorem find?_of_imp {α : Type} {p q : α → Bool} {xs : List α} {x : α}
    (imp : ∀ y, p y = true → q y = true) (h : xs.find? q = some x) (hx : p x = true) :
    xs.find? p = some x := by
  obtain ⟨-, before, after, rfl, hbefore⟩ := List.find?_eq_some_iff_append.1 h
  refine List.find?_eq_some_iff_append.2 ⟨hx, before, after, rfl, fun y hy => ?_⟩
  by_contra hp
  have := hbefore y hy
  simp [imp y (by simpa using hp)] at this

namespace Scopes

variable {s s' : Scopes} {e r : ScopeRef} {n : String}

/-- A scope of the collection. -/
def Has (s : Scopes) (e : ScopeRef) : Prop := e.index < s.size

/-- The collections that come from one root, by making scopes within others, defining names and
giving them new values. -/
inductive Grown : Scopes → Prop
  | root : Grown (root {}).2
  | extend {s : Scopes} {e : ScopeRef} (h : Grown s) (he : s.Has e) : Grown (s.extend e).2
  | extendWith {s : Scopes} {e : ScopeRef} (h : Grown s) (he : s.Has e) (names : List String)
      (values : List Value) : Grown (s.extendWith e names values).2
  | define {s : Scopes} {e : ScopeRef} (h : Grown s) (he : s.Has e) (name : String)
      (value : Option Value) (metadata : Option Metadata) :
      Grown (s.define e name value metadata)
  | assign {s s' : Scopes} {e : ScopeRef} {name : String} {value : Value} (h : Grown s)
      (he : s.Has e) (done : s.assign? e name value = .ok s') : Grown s'

/-! ### The way out -/

/-- A scope and those around it, innermost first. -/
def path (s : Scopes) (e : ScopeRef) : List ScopeRef := (s.chain e.index).map ScopeRef.mk

theorem path_of_outer (h : s.parent? e.index = some r.index) : s.path e = e :: s.path r := by
  rw [path, Forest.chain_of_parent h, List.map_cons, path]

theorem path_of_outermost (h : s.parent? e.index = none) : s.path e = [e] := by
  rw [path, Forest.chain_of_root h, List.map_singleton]

/-- The way out of a scope leads from each scope to the one around it, comes to none twice, and ends
at the root. -/
structure WayOut (s : Scopes) (e : ScopeRef) (path : List ScopeRef) : Prop where
  starts : path.head? = some e
  steps : path.IsChain fun inner outer => s.outer? inner = some outer
  ends : ∃ root, path.getLast? = some root ∧ root = ⟨0⟩ ∧ s.outer? root = none
  nodup : path.Nodup
  within : ∀ r ∈ path, s.Has r

/-- Every scope but the first is within another. -/
def Rooted (s : Scopes) : Prop := ∀ i, 0 < i → i < s.size → ∃ p, s.parent? i = some p

theorem Rooted.push (h : s.Rooted) (he : s.Has e) (f : Frame) :
    Rooted (Forest.push s (some e.index) f) := by
  intro i hpos hi
  rw [Forest.size_push] at hi
  by_cases hnew : i = s.size
  · exact ⟨e.index, hnew ▸ Forest.parent?_push_self he f⟩
  · rw [Forest.parent?_push, if_neg hnew]
    exact h i hpos (by omega)

theorem Rooted.update (h : s.Rooted) (i : Nat) (g : Frame → Frame) :
    Rooted (Forest.update s i g) := by
  intro j hpos hj
  rw [Forest.size_update] at hj
  rw [Forest.parent?_update]
  exact h j hpos hj

theorem Grown.rooted (h : s.Grown) : s.Rooted := by
  induction h with
  | root =>
    intro i hpos hi
    change i < 1 at hi
    omega
  | extend _ he ih => exact ih.push he _
  | extendWith _ he names values ih => exact ih.push he _
  | define _ _ name value metadata ih => exact ih.update _ _
  | assign _ _ done ih =>
    unfold assign? at done
    split at done
    · obtain rfl := Except.ok.inj done
      exact ih.update _ _
    · cases done

theorem Rooted.wayOut (h : s.Rooted) (he : s.Has e) : s.WayOut e (s.path e) := by
  have below := (s.pairwise_chain e.index).2
  refine ⟨?_, ?_, ?_, ?_, ?_⟩
  · rw [path, List.head?_map, Forest.head?_chain, Option.map_some]
  · rw [path, List.isChain_map]
    refine (s.isChain_chain e.index).imp fun i p hp => ?_
    rw [outer?, hp, Option.map_some]
  · obtain ⟨root, hlast, hroot⟩ := s.outermost_chain e.index
    refine ⟨⟨root⟩, by rw [path, List.getLast?_map, hlast, Option.map_some], ?_, ?_⟩
    · -- nothing but the first scope is within no other
      have hmem : root ∈ s.chain e.index := List.mem_of_getLast? hlast
      by_contra hne
      have hpos : 0 < root := Nat.pos_of_ne_zero fun hzero => hne (congrArg ScopeRef.mk hzero)
      obtain ⟨p, hp⟩ := h root hpos (Nat.lt_of_le_of_lt (below root hmem) he)
      simp [hroot] at hp
    · rw [outer?, hroot, Option.map_none]
  · refine List.Pairwise.map ScopeRef.mk ?_ (s.pairwise_chain e.index).1
    intro i j hij heq
    exact Nat.ne_of_gt hij (ScopeRef.mk.inj heq)
  · intro r hr
    obtain ⟨i, hi, rfl⟩ := List.mem_map.1 hr
    exact Nat.lt_of_le_of_lt (below i hi) he

/-! ### Looking up -/

theorem bind_get?_eq_own? (s : Scopes) (i : Nat) (n : String) :
    ((s.get? i).bind fun f => f.bindings.get? n) = s.own? ⟨i⟩ n := by
  unfold own? frame
  cases s.get? i with
  | none => rfl
  | some f => rfl

theorem has_of_own {b : Binding} (h : s.own? e n = some b) : s.Has e := by
  by_contra hout
  have : s.get? e.index = none := by
    rw [Forest.get?, Array.getElem?_eq_none (Nat.not_lt.1 hout), Option.map_none]
  rw [own?, frame, this] at h
  cases h

theorem binding?_eq (s : Scopes) (e : ScopeRef) (n : String) :
    s.binding? e n = (s.path e).findSome? (s.own? · n) := by
  rw [binding?, Forest.findUp?_eq, path, List.findSome?_map]
  congr 1
  funext i
  exact bind_get?_eq_own? s i n

/-- A name that a scope does not bind means what it means around the scope. -/
theorem binding?_of_free (outer : s.outer? e = some r) (free : s.own? e n = none) :
    s.binding? e n = s.binding? r n := by
  obtain ⟨p, hp, rfl⟩ := Option.map_eq_some_iff.1 outer
  have hpath : s.path e = e :: s.path ⟨p⟩ := path_of_outer hp
  rw [binding?_eq, binding?_eq, hpath, List.findSome?_cons, free]

theorem lookup?_eq (s : Scopes) (e : ScopeRef) (n : String) :
    s.lookup? e n = (s.path e).find? fun r => (s.own? r n).isSome := by
  rw [lookup?, Forest.findUp?_eq, path, ← List.findSome?_guard, List.findSome?_map]
  congr 1
  funext i
  rw [Function.comp_apply, Option.guard, ← bind_get?_eq_own?]
  cases s.get? i with
  | none => rfl
  | some f => rfl

theorem trace_eq (s : Scopes) (e : ScopeRef) :
    s.trace e = (s.path e).filterMap fun r =>
      (s.frame r).ident.map fun ident => ⟨ident, (s.frame r).source, (s.frame r).position⟩ := by
  rw [trace, path, List.filterMap_map]
  rfl

/-- The nearest binding is the own one of the nearest scope that has one. -/
theorem binding?_eq_bind (s : Scopes) (e : ScopeRef) (n : String) :
    s.binding? e n = (s.lookup? e n).bind (s.own? · n) := by
  rw [binding?_eq, lookup?_eq, findSome?_eq_bind_find?]

theorem exists_own_of_lookup (h : s.lookup? e n = some r) : ∃ b, s.own? r n = some b := by
  rw [lookup?_eq] at h
  have hsome := List.find?_some h
  exact Option.isSome_iff_exists.1 hsome

theorem binding?_of_lookup (h : s.lookup? e n = some r) : s.binding? e n = s.own? r n := by
  rw [binding?_eq_bind, h, Option.bind_some]

theorem value?_eq_some_iff {v : Value} :
    s.value? e n = some v ↔
      ∃ r b, s.lookup? e n = some r ∧ s.own? r n = some b ∧ b.value = v := by
  rw [value?, binding?_eq_bind, Option.map_eq_some_iff]
  constructor
  · rintro ⟨b, hb, hv⟩
    obtain ⟨r, hr, hown⟩ := Option.bind_eq_some_iff.1 hb
    exact ⟨r, b, hr, hown, hv⟩
  · rintro ⟨r, b, hr, hown, hv⟩
    exact ⟨b, Option.bind_eq_some_iff.2 ⟨r, hr, hown⟩, hv⟩

/-! ### Changes of bindings -/

theorem path_modifyBindings (s : Scopes) (r e : ScopeRef) (g : Dict Binding → Dict Binding) :
    (s.modifyBindings r g).path e = s.path e := by
  rw [path, path, modifyBindings, Forest.chain_update]

theorem own?_modifyBindings (hr : s.Has r) (g : Dict Binding → Dict Binding) :
    (s.modifyBindings r g).own? e n =
      if e = r then (g (s.frame r).bindings).get? n else s.own? e n := by
  obtain ⟨f, hf⟩ : ∃ f, s.get? r.index = some f :=
    ⟨_, by rw [Forest.get?, Array.getElem?_eq_getElem hr, Option.map_some]⟩
  unfold own? frame modifyBindings
  rw [Forest.get?_update]
  by_cases he : e = r
  · rw [if_pos he, if_pos (congrArg ScopeRef.index he.symm), he, hf]
    rfl
  · rw [if_neg he, if_neg]
    intro hindex
    exact he (congrArg ScopeRef.mk hindex.symm)

/-- A binding that is put in among those of a scope. -/
theorem own?_insert {name : String} {b : Binding} {g : Dict Binding → Dict Binding} (hr : s.Has r)
    (hg : g (s.frame r).bindings = (s.frame r).bindings.insert name b) :
    (s.modifyBindings r g).own? e n = if e = r ∧ n = name then some b else s.own? e n := by
  rw [own?_modifyBindings hr, hg]
  by_cases he : e = r
  · rw [if_pos he, Dict.get?_insert, he]
    by_cases hn : n = name
    · rw [if_pos hn, if_pos ⟨rfl, hn⟩]
    · rw [if_neg hn, if_neg fun h => hn h.2, own?]
  · rw [if_neg he, if_neg fun h => he h.1]

theorem own?_define (hr : s.Has r) (name : String) (value : Option Value)
    (metadata : Option Metadata) :
    (s.define r name value metadata).own? e n =
      if e = r ∧ n = name then some (redefine (s.own? r name) value metadata) else s.own? e n := by
  rw [define]
  exact own?_insert hr rfl

theorem own?_store {name : String} {b : Binding} (h : s.own? r name = some b) (v : Value) :
    (s.store r name v).own? e n =
      if e = r ∧ n = name then some { b with value := v } else s.own? e n := by
  have hget : (s.frame r).bindings.get? name = some b := h
  rw [store]
  exact own?_insert (has_of_own h) (by rw [hget])

/-- What a scope binds does not depend on what else is said of scopes. -/
theorem own?_update (i : Nat) (g : Frame → Frame) (hg : ∀ f, (g f).bindings = f.bindings) :
    own? (Forest.update s i g) e n = s.own? e n := by
  unfold own? frame
  rw [Forest.get?_update]
  split
  · cases s.get? e.index with
    | none => rfl
    | some f => exact congrArg (·.get? n) (hg f)
  · rfl

/-- A change of bindings that leaves those of a name in a scope as they are. -/
theorem own?_modifyBindings_of_get? {g : Dict Binding → Dict Binding}
    (h : e = r → ∀ d, (g d).get? n = d.get? n) : (s.modifyBindings r g).own? e n = s.own? e n := by
  unfold own? frame modifyBindings
  rw [Forest.get?_update]
  split
  next same =>
    cases s.get? e.index with
    | none => rfl
    | some f => exact h (congrArg ScopeRef.mk same.symm) f.bindings
  · rfl

/-- A definition changes one binding of one scope, if the scope is there at all. -/
theorem own?_define_of_ne {name : String} (h : (e, n) ≠ (r, name)) (value : Option Value)
    (metadata : Option Metadata) : (s.define r name value metadata).own? e n = s.own? e n :=
  own?_modifyBindings_of_get? fun he d => by
    rw [Dict.get?_insert, if_neg fun hn => h (by rw [he, hn])]

theorem own?_store_of_ne {name : String} (h : (e, n) ≠ (r, name)) (v : Value) :
    (s.store r name v).own? e n = s.own? e n :=
  own?_modifyBindings_of_get? fun he d => by
    split
    · rw [Dict.get?_insert, if_neg fun hn => h (by rw [he, hn])]
    · rfl

/-- A new scope binds what it is made with; the scopes that were there bind what they have bound. -/
theorem own?_newScope (outer : ScopeRef) (ident : String) (bindings : Dict Binding) :
    ((s.extendBy outer bindings).2.setIdent s.next ident).own? e n =
      if e = s.next then bindings.get? n else s.own? e n := by
  refine (own?_update s.next.index (fun f => { f with ident := some ident }) fun _ => rfl).trans ?_
  unfold own? frame extendBy
  rw [Forest.get?_push]
  by_cases he : e = s.next
  · have same : e.index = Forest.size s := congrArg ScopeRef.index he
    rw [if_pos he, if_pos same, Option.getD_some]
  · have other : e.index ≠ Forest.size s := fun h => he (congrArg ScopeRef.mk h)
    rw [if_neg he, if_neg other]

/-- One collection is another with a new scope within one of it, which binds names in some way. The
scopes that were there hang where they have hung and bind what they have bound. -/
structure Child (s : Scopes) (outer : ScopeRef) (bound : String → Option Binding) (s' : Scopes) :
    Prop where
  fresh : ¬ s.Has s.next
  outer : s'.outer? s.next = some outer
  own : s'.own? s.next = bound
  kept : ∀ e, s.Has e → s'.outer? e = s.outer? e ∧ s'.own? e = s.own? e

theorem child_newScope {outer : ScopeRef} (houter : s.Has outer) (ident : String)
    (bindings : Dict Binding) :
    s.Child outer bindings.get? ((s.extendBy outer bindings).2.setIdent s.next ident) := by
  have parent (i : Nat) : ((s.extendBy outer bindings).2.setIdent s.next ident).parent? i =
      if i = s.size then some outer.index else s.parent? i := by
    have hlt : outer.index < s.size := houter
    refine (Forest.parent?_update _ _ _ _).trans ((Forest.parent?_push _ _ _ _).trans ?_)
    rw [Option.filter_some, if_pos (decide_eq_true hlt)]
  constructor
  · exact Nat.lt_irrefl _
  · exact congrArg (Option.map ScopeRef.mk) ((parent _).trans (if_pos rfl))
  · funext name
    exact (own?_newScope outer ident bindings).trans (if_pos rfl)
  · intro e he
    have old : e.index ≠ s.size := Nat.ne_of_lt he
    refine ⟨congrArg (Option.map ScopeRef.mk) ((parent _).trans (if_neg old)), funext fun _ => ?_⟩
    exact (own?_newScope outer ident bindings).trans
      (if_neg fun hnew => old (congrArg ScopeRef.index hnew))

/-- Several names are defined in one scope. -/
def defineAll (s : Scopes) (r : ScopeRef) (entries : List (String × Value)) : Scopes :=
  entries.foldl (fun s entry => s.define r entry.1 (some entry.2) none) s

theorem size_defineAll (r : ScopeRef) (entries : List (String × Value)) :
    (s.defineAll r entries).size = s.size := by
  induction entries generalizing s with
  | nil => rfl
  | cons entry entries ih => exact ih.trans (Forest.size_update ..)

theorem own?_defineAll_of_notMem {entries : List (String × Value)}
    (h : e = r → n ∉ entries.map (·.1)) : (s.defineAll r entries).own? e n = s.own? e n := by
  induction entries generalizing s with
  | nil => rfl
  | cons entry entries ih =>
    refine (ih fun he hn => h he (List.mem_cons_of_mem _ hn)).trans ?_
    refine own?_define_of_ne (fun same => ?_) _ _
    obtain ⟨rfl, rfl⟩ := Prod.mk.inj same
    exact h rfl (List.mem_cons_self ..)

/-- If the names are new and differ from each other, each of them is bound to its value. -/
theorem own?_defineAll_of_mem {entries : List (String × Value)} (hr : s.Has r)
    (unbound : ∀ entry ∈ entries, s.own? r entry.1 = none) (distinct : (entries.map (·.1)).Nodup)
    {entry : String × Value} (h : entry ∈ entries) :
    (s.defineAll r entries).own? r entry.1 = some ⟨entry.2, none⟩ := by
  induction entries generalizing s with
  | nil => cases h
  | cons first entries ih =>
    obtain ⟨fresh, distinct⟩ := List.nodup_cons.1 distinct
    have there : (s.define r first.1 (some first.2) none).Has r :=
      Nat.lt_of_lt_of_eq hr (Forest.size_update ..).symm
    obtain rfl | h := List.mem_cons.1 h
    · -- the names that follow are others
      refine (own?_defineAll_of_notMem fun _ => fresh).trans ?_
      rw [own?_define hr, if_pos ⟨rfl, rfl⟩, unbound _ (List.mem_cons_self ..)]
      rfl
    · refine ih there (fun other hother => ?_) distinct h
      rw [own?_define hr, if_neg fun same => fresh ?_]
      · exact unbound other (List.mem_cons_of_mem _ hother)
      · exact List.mem_map.2 ⟨other, hother, same.2⟩

/-! ### What every scope sees -/

/-- What a new value for a name does: those who have seen the binding see the new value, and all
else is as it was. -/
structure Assigned (s : Scopes) (e : ScopeRef) (n : String) (v : Value) (s' : Scopes) : Prop where
  value : ∀ e' n', s'.value? e' n' =
    if n' = n ∧ s.lookup? e' n = s.lookup? e n then some v else s.value? e' n'
  lookup : ∀ e' n', s'.lookup? e' n' = s.lookup? e' n'
  metadata : ∀ e' n', (s'.own? e' n').map (·.metadata) = (s.own? e' n').map (·.metadata)

theorem assign?_eq_error_iff {v : Value} :
    (∃ c, s.assign? e n v = .error c) ↔ s.lookup? e n = none := by
  unfold assign?
  split
  · next r hr => simp [hr]
  · next hr => simp [hr]

/-- A new value for a bound name leaves every scope that is nearest to bind a name as it was. -/
theorem lookup?_store {name : String} {b : Binding} (h : s.own? r name = some b) (v : Value) :
    (s.store r name v).lookup? e n = s.lookup? e n := by
  rw [lookup?_eq, lookup?_eq, store, path_modifyBindings, ← store]
  congr 1
  funext q
  rw [own?_store h]
  split
  · next hq => rw [hq.1, hq.2, h, Option.isSome_some, Option.isSome_some]
  · rfl

theorem assigned_of_assign {v : Value} (h : s.assign? e n v = .ok s') : s.Assigned e n v s' := by
  unfold assign? at h
  split at h
  case h_2 => cases h
  case h_1 r hr =>
    obtain rfl := Except.ok.inj h
    obtain ⟨b, hb⟩ := exists_own_of_lookup hr
    refine ⟨fun e' n' => ?_, fun e' n' => lookup?_store hb v, fun e' n' => ?_⟩
    · rw [value?, value?, binding?_eq_bind, binding?_eq_bind, lookup?_store hb, hr]
      by_cases hn : n' = n
      · subst hn
        by_cases hsame : s.lookup? e' n' = some r
        · rw [if_pos ⟨rfl, hsame⟩, hsame, Option.bind_some, own?_store hb, if_pos ⟨rfl, rfl⟩,
            Option.map_some]
        · -- `e'` sees the name in another scope or nowhere, and neither has changed
          rw [if_neg fun h => hsame h.2]
          cases hq : s.lookup? e' n' with
          | none => rfl
          | some q =>
            have hne : q ≠ r := fun h => hsame (hq.trans (congrArg some h))
            rw [Option.bind_some, Option.bind_some, own?_store hb, if_neg fun h => hne h.1]
      · rw [if_neg fun h => hn h.1]
        congr 2
        funext q
        rw [own?_store hb, if_neg fun h => hn h.2]
    · rw [own?_store hb]
      split
      · next hq => rw [hq.1, hq.2, hb, Option.map_some, Option.map_some]
      · rfl

/-- What a definition does: only those who see the scope's own binding of the name see a change,
and what the definition leaves open stays as it was. -/
structure Defined (s : Scopes) (e : ScopeRef) (n : String) (value : Option Value)
    (metadata : Option Metadata) (s' : Scopes) : Prop where
  binding : ∀ e' n', s'.binding? e' n' =
    if n' = n ∧ s'.lookup? e' n = some e then s'.own? e n else s.binding? e' n'
  own : ∃ b, s'.own? e n = some b ∧
    (∀ v, value = some v → b.value = v) ∧
    (∀ old, value = none → s.own? e n = some old → b.value = old.value) ∧
    (value = none → s.own? e n = none → b.value = .nil) ∧
    (∀ m, metadata = some m → b.metadata = some m) ∧
    (metadata = none → b.metadata = (s.own? e n).bind (·.metadata))

/-- Unless the defining scope has become the nearest to bind the name, the nearest is as before. -/
theorem lookup?_of_define {e' : ScopeRef} {value : Option Value} {metadata : Option Metadata}
    (he : s.Has e) (hnear : (s.define e n value metadata).lookup? e' n ≠ some e) :
    s.lookup? e' n = (s.define e n value metadata).lookup? e' n := by
  have paths : (s.define e n value metadata).path e' = s.path e' := path_modifyBindings s e e' _
  -- whoever has bound the name still does
  have kept : ∀ q, (s.own? q n).isSome = true →
      ((s.define e n value metadata).own? q n).isSome = true := by
    intro q hq
    rw [own?_define he]
    split
    · rfl
    · exact hq
  cases hq : (s.define e n value metadata).lookup? e' n with
  | none =>
    rw [lookup?_eq, paths, List.find?_eq_none] at hq
    rw [lookup?_eq, List.find?_eq_none]
    exact fun q hmem hown => hq q hmem (kept q hown)
  | some q =>
    have hne : q ≠ e := fun h => hnear (hq.trans (congrArg some h))
    obtain ⟨b, hb⟩ := exists_own_of_lookup hq
    have hown : s.own? q n = some b := by
      rw [own?_define he, if_neg fun h => hne h.1] at hb
      exact hb
    rw [lookup?_eq, paths] at hq
    rw [lookup?_eq]
    exact find?_of_imp kept hq (by rw [hown]; rfl)

theorem defined_define (he : s.Has e) (n : String) (value : Option Value)
    (metadata : Option Metadata) :
    s.Defined e n value metadata (s.define e n value metadata) := by
  have own := fun e' n' => own?_define (e := e') (n := n') he n value metadata
  refine ⟨fun e' n' => ?_, _, (own e n).trans (if_pos ⟨rfl, rfl⟩), ?_, ?_, ?_, ?_, ?_⟩
  · by_cases hn : n' = n
    · subst hn
      by_cases hnear : (s.define e n' value metadata).lookup? e' n' = some e
      · rw [if_pos ⟨rfl, hnear⟩, binding?_of_lookup hnear]
      · rw [if_neg fun h => hnear h.2, binding?_eq_bind, binding?_eq_bind,
          lookup?_of_define he hnear]
        cases hq : (s.define e n' value metadata).lookup? e' n' with
        | none => rfl
        | some q =>
          have hne : q ≠ e := fun h => hnear (hq.trans (congrArg some h))
          rw [Option.bind_some, Option.bind_some, own, if_neg fun h => hne h.1]
    · have paths : (s.define e n value metadata).path e' = s.path e' :=
        path_modifyBindings s e e' _
      rw [if_neg fun h => hn h.1, binding?_eq, binding?_eq, paths]
      congr 1
      funext q
      rw [own, if_neg fun h => hn h.2]
  · rintro v rfl
    rfl
  · rintro old rfl hold
    rw [redefine, hold]
    rfl
  · rintro rfl hnone
    rw [redefine, hnone]
    rfl
  · rintro m rfl
    rfl
  · rintro rfl
    rw [redefine, Option.none_or]

/-- What a new scope within another one does: it sees its own bindings, and beyond them what the
outer scope sees; nobody else sees a change. -/
structure Extended (s : Scopes) (e : ScopeRef) (bindings : Dict Binding) (new : ScopeRef)
    (s' : Scopes) : Prop where
  fresh : ¬ s.Has new
  outer : s'.outer? new = some e
  new : ∀ n, s'.binding? new n = (bindings.get? n).or (s.binding? e n)
  old : ∀ e' n, s.Has e' → s'.binding? e' n = s.binding? e' n

theorem extended_extendBy (he : s.Has e) (bindings : Dict Binding) :
    s.Extended e bindings (s.extendBy e bindings).1 (s.extendBy e bindings).2 := by
  have hparent : Forest.parent? (s.extendBy e bindings).2 s.size = some e.index :=
    Forest.parent?_push_self he _
  have own : ∀ r n, (s.extendBy e bindings).2.own? r n =
      if r = s.next then bindings.get? n else s.own? r n := by
    intro r n
    rw [← bind_get?_eq_own?, ← bind_get?_eq_own?, extendBy, Forest.get?_push]
    by_cases hr : r = s.next
    · rw [if_pos hr, hr, next, if_pos rfl, Option.bind_some]
    · rw [if_neg hr, if_neg fun h => hr (congrArg ScopeRef.mk h)]
  have old : ∀ e' n, s.Has e' →
      (s.extendBy e bindings).2.binding? e' n = s.binding? e' n := by
    intro e' n he'
    have hpath : (s.extendBy e bindings).2.path e' = s.path e' := by
      rw [path, path, extendBy, Forest.chain_push_of_lt he']
    rw [binding?_eq, binding?_eq, hpath]
    refine findSome?_congr fun r hr => ?_
    obtain ⟨i, hi, rfl⟩ := List.mem_map.1 hr
    -- the way out of an old scope leads to older ones only
    have hne : (⟨i⟩ : ScopeRef) ≠ s.next := by
      rintro ⟨⟩
      exact Nat.not_le_of_lt he' ((s.pairwise_chain e'.index).2 _ hi)
    rw [own, if_neg hne]
  refine ⟨Nat.lt_irrefl s.size, ?_, fun n => ?_, old⟩
  · exact congrArg (Option.map ScopeRef.mk) hparent
  · have hpath : (s.extendBy e bindings).2.path s.next =
        s.next :: (s.extendBy e bindings).2.path e := path_of_outer hparent
    have hnew : (s.extendBy e bindings).1 = s.next := rfl
    rw [hnew, binding?_eq, hpath, List.findSome?_cons, ← binding?_eq, old e n he, own, if_pos rfl]
    cases bindings.get? n with
    | none => rfl
    | some b => rfl

/-- Lexical scoping: in every collection of scopes that comes from one root by making scopes within
others, defining names and giving them new values,

* the way out of every scope is finite, and all look-ups and traces go along it;
* a value is seen exactly as the nearest scope that binds the name has it;
* giving a name a new value fails exactly where nobody binds the name, without new scopes to go on
  with, and is otherwise seen by those and only those who saw the same binding;
* a definition is seen by those and only those for whom the scope is then the nearest to bind the
  name;
* a new scope sees its own bindings and beyond them what the scope around it sees. -/
theorem lexical_scoping (h : s.Grown) :
    (∀ e, s.Has e → s.WayOut e (s.path e)) ∧
    (∀ e n, s.lookup? e n = ((s.path e).find? fun r => (s.own? r n).isSome) ∧
      s.binding? e n = (s.path e).findSome? (s.own? · n)) ∧
    (∀ e, s.trace e = (s.path e).filterMap fun r =>
      (s.frame r).ident.map fun ident => ⟨ident, (s.frame r).source, (s.frame r).position⟩) ∧
    (∀ e n v, s.value? e n = some v ↔
      ∃ r b, s.lookup? e n = some r ∧ s.own? r n = some b ∧ b.value = v) ∧
    (∀ e n v, ((∃ c, s.assign? e n v = .error c) ↔ s.lookup? e n = none) ∧
      ∀ s', s.assign? e n v = .ok s' → s.Assigned e n v s') ∧
    (∀ e n value metadata, s.Has e →
      s.Defined e n value metadata (s.define e n value metadata)) ∧
    (∀ e names values, s.Has e → s.Extended e (bindAll names values)
      (s.extendWith e names values).1 (s.extendWith e names values).2) := by
  refine ⟨fun e he => h.rooted.wayOut he, fun e n => ⟨lookup?_eq s e n, binding?_eq s e n⟩,
    trace_eq s, fun e n v => value?_eq_some_iff, fun e n v => ⟨assign?_eq_error_iff, ?_⟩,
    fun e n value metadata he => defined_define he n value metadata, ?_⟩
  · intro s' hs'
    exact assigned_of_assign hs'
  · intro e names values he
    exact extended_extendBy he (bindAll names values)

/-- A name is bound by the root and again two scopes further in. Given a new value in between, it
changes for the root and not for the innermost scope. -/
theorem lexical_scoping_shadowed :
    let root := (root {}).2.define ⟨0⟩ "x" (some (.bool true)) none
    let s := ((root.extend ⟨0⟩).2.extendWith ⟨1⟩ ["x"] [.bool false]).2
    s.Grown ∧ s.WayOut ⟨2⟩ [⟨2⟩, ⟨1⟩, ⟨0⟩] ∧
      ∃ s', s.assign? ⟨1⟩ "x" .nil = .ok s' ∧ s'.value? ⟨0⟩ "x" = some .nil ∧
        s'.value? ⟨2⟩ "x" = some (.bool false) := by
  intro root s
  have grown : s.Grown :=
    ((Grown.root.define (Nat.zero_lt_one) "x" _ none).extend (Nat.zero_lt_one)).extendWith
      (Nat.lt_succ_self 1) _ _
  have path₀ : s.path ⟨0⟩ = [⟨0⟩] := path_of_outermost rfl
  have path₁ : s.path ⟨1⟩ = [⟨1⟩, ⟨0⟩] := (path_of_outer rfl).trans (congrArg _ path₀)
  have path₂ : s.path ⟨2⟩ = [⟨2⟩, ⟨1⟩, ⟨0⟩] := (path_of_outer rfl).trans (congrArg _ path₁)
  obtain ⟨wayOut, search, -, value, assign, -⟩ := lexical_scoping grown
  have lookup : s.lookup? ⟨0⟩ "x" = some ⟨0⟩ ∧ s.lookup? ⟨1⟩ "x" = some ⟨0⟩ ∧
      s.lookup? ⟨2⟩ "x" = some ⟨2⟩ := by
    rw [(search _ _).1, (search _ _).1, (search _ _).1, path₀, path₁, path₂]
    exact ⟨rfl, rfl, rfl⟩
  refine ⟨grown, path₂ ▸ wayOut ⟨2⟩ (Nat.lt_succ_self 2), s.store ⟨0⟩ "x" .nil, ?_⟩
  have done : s.assign? ⟨1⟩ "x" .nil = .ok (s.store ⟨0⟩ "x" .nil) := by
    rw [assign?, lookup.2.1]
  have assigned := (assign ⟨1⟩ "x" .nil).2 _ done
  refine ⟨done, ?_, ?_⟩
  · rw [assigned.value, if_pos ⟨rfl, lookup.1.trans lookup.2.1.symm⟩]
  · rw [assigned.value, if_neg (by simp [lookup]), value]
    exact ⟨⟨2⟩, _, lookup.2.2, rfl, rfl⟩

end Scopes

end Lisp
