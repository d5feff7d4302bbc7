import Lisp.Interpreter
import Mathlib.Tactic.ByContra

/-!
# Looking up with a default

A key is looked up in a collection by the procedure for it, by calling a map or vector with the key,
or by calling a keyword or symbol with the collection. Each way takes a default for keys that have
nothing. Whether there is something is not seen from the value, since that may be `nil`: it is asked
for separately. The two answers fit together for maps, sets and vectors. For strings and objects,
which have values under keys too, the answer is always that there is nothing, and so a default hides
what they have.

## Main definitions

* `Engine.LooksUp` — the ways to look a key up in a collection

## Main results

* `Engine.LooksUp.callValue_eq` — all ways give the same, and leave the machine as it is
* `Engine.default_only_if_absent` — a default does not hide what maps, sets and vectors have
* `Engine.default_hides_grapheme` — but it hides what strings have
-/

namespace Lisp

namespace Collection

variable {h : Heap} {coll key : Value}

/-- A vector has something at the positions below its length. -/
theorem any_indexOf?_eq (xs : List Value) :
    (indexOf? key).any (· < xs.length) = ((indexOf? key).bind (xs[·]?)).isSome := by
  cases indexOf? key with
  | none => rfl
  | some i =>
    rw [Option.any_some, Option.bind_some]
    by_cases below : i < xs.length
    · rw [List.getElem?_eq_getElem below, decide_eq_true below, Option.isSome_some]
    · rw [List.getElem?_eq_none (Nat.not_lt.1 below), decide_eq_false below, Option.isSome_none]

/-- Where maps, sets and vectors have something other than `nil`, they are said to have
something. -/
theorem contains_of_get_ne_nil [Tables] (notString : ∀ s, coll ≠ .string s)
    (notObject : ∀ o, coll ≠ .entity (.object o)) (found : get h coll key ≠ .nil) :
    contains h coll key = true := by
  cases coll with
  | map t es =>
    dsimp only [get, contains, Shelf.has] at found ⊢
    cases entry : (Shelf.mk t es).find? h.text key with
    | none => simp [entry] at found
    | some v => rfl
  | set t xs =>
    by_contra absent
    dsimp only [get, contains] at found absent
    exact found (if_neg absent)
  | vector rep xs =>
    dsimp only [get, contains] at found ⊢
    rw [any_indexOf?_eq]
    cases entry : (indexOf? key).bind (xs[·]?) with
    | none => simp [entry] at found
    | some v => rfl
  | string s => exact absurd rfl (notString s)
  | entity e =>
    cases e with
    | object o => exact absurd rfl (notObject o)
    | _ => exact absurd rfl found
  | _ => exact absurd rfl found

end Collection

namespace Engine

variable {E : Engine} {coll key f form d : Value} {args : List Value} {m : Machine}

/-- The calls that look a key up in a collection: of the procedure for it, of a map or vector with
the key, and of a keyword or symbol, quoted or not, with the collection. -/
inductive LooksUp (coll key : Value) : Value → List Value → Prop
  | procedure : LooksUp coll key (.entity (.builtin (.procedure .get))) [coll, key]
  | map {t : Table} {entries : List (Filed Value × Value)} (callee : coll = .map t entries) :
      LooksUp coll key coll [key]
  | vector {rep : Representation} {items : List Value} (callee : coll = .vector rep items) :
      LooksUp coll key coll [key]
  | keyword {name : Name} (callee : key = .keyword name) : LooksUp coll key key [coll]
  | symbol {name : Name} (callee : key = .symbol name) : LooksUp coll key key [coll]
  | quoted {name : Name} (callee : key = .symbol name) : LooksUp coll key (.quoted key) [coll]

/-- All ways to look up give the same, with a default and without, and leave the machine alone. -/
theorem LooksUp.callValue_eq [Tables] (way : LooksUp coll key f args) (default : Option Value) :
    E.callValue f (args ++ default.toList) form m =
      .ok (Library.getOr m.heap coll key default) m := by
  cases way with
  | procedure => cases default <;> rfl
  | map callee => cases default <;> subst callee <;> rfl
  | vector callee => cases default <;> subst callee <;> rfl
  | keyword callee => cases default <;> subst callee <;> rfl
  | symbol callee => cases default <;> subst callee <;> rfl
  | quoted callee => cases default <;> subst callee <;> rfl

/-- Without a default a look-up gives a value. With a default it gives the same value or the
default, depending on whether the collection is said to have something under the key, and where a
map, a set or a vector gives a value other than `nil`, it gives the same value with any default. -/
theorem default_only_if_absent [Tables] (way : LooksUp coll key f args)
    (notString : ∀ s, coll ≠ .string s) (notObject : ∀ o, coll ≠ .entity (.object o))
    (E : Engine) (m : Machine) (form d : Value) :
    ∃ v, E.callValue f args form m = .ok v m ∧
      (v ≠ .nil → E.callValue f (args ++ [d]) form m = .ok v m) ∧
      E.callValue f (args ++ [d]) form m =
        .ok (if Collection.contains m.heap coll key then v else d) m := by
  have without : E.callValue f args form m = .ok (Library.getOr m.heap coll key none) m := by
    simpa using way.callValue_eq none
  have withDefault : E.callValue f (args ++ [d]) form m =
      .ok (Library.getOr m.heap coll key (some d)) m := way.callValue_eq (some d)
  refine ⟨Collection.get m.heap coll key, without, fun found => ?_, withDefault⟩
  rw [withDefault, Library.getOr]
  exact congrArg (EStateM.Result.ok · m)
    (if_pos (Collection.contains_of_get_ne_nil notString notObject found))

/-- A keyword under which a map has `false` is called with the map. -/
theorem default_only_if_absent_false :
    let E := ofFuel ⟨{}, fun _ => none⟩ 1
    let m := Start.machine {}
    let coll : Value := .mapOf m.heap.text .persistent [(.kw "a", .bool false)]
    LooksUp coll (.kw "a") (.kw "a") [coll] ∧ (∀ s, coll ≠ .string s) ∧
      (∀ o, coll ≠ .entity (.object o)) ∧
      E.callValue (.kw "a") [coll, .number .one] .nil m = .ok (.bool false) m := by
  intro E m coll
  have way : LooksUp coll (.kw "a") (.kw "a") [coll] := .keyword rfl
  have notString : ∀ s, coll ≠ .string s := fun s => Value.noConfusion
  have notObject : ∀ o, coll ≠ .entity (.object o) := fun o => Value.noConfusion
  obtain ⟨v, without, found, -⟩ :=
    default_only_if_absent way notString notObject E m .nil (.number .one)
  have plain : E.callValue (.kw "a") [coll] .nil m = .ok (.bool false) m := rfl
  rw [plain] at without
  cases without
  exact ⟨way, notString, notObject, found nofun⟩

/-- The text of a string. -/
def stringText? : Value → Option String
  | .string s => some s
  | _ => none

/-- A string has a grapheme at a position. Looked up with a default, it has the default. -/
theorem default_hides_grapheme :
    let E := ofFuel ⟨{}, fun _ => none⟩ 1
    let m := Start.machine {}
    let get : Value := .entity (.builtin (.procedure .get))
    let args : List Value := [.string "abc", .number .zero]
    LooksUp (.string "abc") (.number .zero) get args ∧
      ∃ v, E.callValue get args get m = .ok v m ∧ v ≠ .nil ∧
        E.callValue get (args ++ [.kw "d"]) get m = .ok (.kw "d") m ∧ v ≠ .kw "d" := by
  intro E m get args
  have way : LooksUp (.string "abc") (.number .zero) get args := .procedure
  have grapheme :
      stringText? (Collection.get m.heap (.string "abc") (.number .zero)) = some "a" := by
    decide +kernel
  refine ⟨way, _, way.callValue_eq none, ?_, way.callValue_eq (some (.kw "d")), ?_⟩
  · intro nothing
    rw [Library.getOr] at nothing
    rw [nothing] at grapheme
    cases grapheme
  · intro default
    rw [Library.getOr] at default
    rw [default] at grapheme
    cases grapheme

end Engine

end Lisp
