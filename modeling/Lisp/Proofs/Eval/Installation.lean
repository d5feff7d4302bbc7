import Lisp.Proofs.Eval.Definition
import Lisp.Proofs.Machine.Installation

/-!
# The ways in which types get methods

There are three: the body of a type has a method, it names a protocol, or a protocol is called with
the type or with one of its instances. Here it is said of each which installations it makes. The
body of a type makes one for each of its parts, in their order, while a name in it means throughout
what it means when the body is begun.

## Main definitions

* `Heap.classOf?` — the type that a protocol is mixed into when it is called with a value
* `Machine.Specifies` — the installation that a part of the body of a type is for

## Main results

* `Eval.applyMixin_becomes` — calling a protocol
* `Engine.extendType_becomes`, `Engine.evalDefineType_becomes` — the body of a type
-/

namespace Lisp

/-- The type that a protocol is mixed into when it is called with a value. -/
def Heap.classOf? (h : Heap) : Value → Option TypeRef
  | .entity (.type t) => some t
  | .entity (.object o) => some (h.object o).type
  | _ => none

namespace Machine

/-- A part of the body of a type is for an installation: a symbol for the protocol that it refers
to, and a list for a method with the name in front. -/
inductive Specifies (m : Machine) (scope : ScopeRef) (t : TypeRef) : Value → Installation → Prop
  | protocol {name : Name} {p : ProtocolRef} (content : Protocol)
      (found : m.valueOf scope name = .ok (.entity (.protocol p))) :
      Specifies m scope t (.symbol name) (.protocol t p content)
  | method (name : Name) (clauses : List Value) (f : LambdaRef) :
      Specifies m scope t (.list (.symbol name :: clauses))
        (.method t name.base (.entity (.lambda f)))

theorem Specifies.of_valueOf_eq {m m' : Machine} {scope : ScopeRef} {t : TypeRef} {spec : Value}
    {e : Installation} (h : m.Specifies scope t spec e)
    (same : ∀ name, m'.valueOf scope name = m.valueOf scope name) :
    m'.Specifies scope t spec e := by
  cases h with
  | protocol content found => exact .protocol content ((same _).trans found)
  | method name clauses f => exact .method name clauses f

end Machine

namespace Eval

variable {α β : Type} {m m' : Machine}

theorem ofCause_eq_ok {x : Except Cause α} {a : α} (h : ofCause x m = .ok a m') :
    x = .ok a ∧ m' = m := by
  cases x with
  | error c => cases h
  | ok b =>
    cases h
    exact ⟨rfl, rfl⟩

/-! ### Calling a protocol -/

/-- A protocol that is called with a type or an object is mixed into the type or the type of the
object. It cannot be called with anything else. -/
theorem applyMixin_becomes {p : ProtocolRef} {target v : Value}
    (run : applyMixin p [target] m = .ok v m') :
    v = target ∧ ∃ t, m.heap.classOf? target = some t ∧
      m'.heap = m.heap.put (.protocol t p (m.heap.protocol p)) := by
  cases target with
  | entity e =>
    cases e with
    | type t =>
      cases run
      exact ⟨rfl, t, rfl, rfl⟩
    | object o =>
      cases run
      exact ⟨rfl, _, rfl, rfl⟩
    | _ => cases run
  | _ => cases run

theorem makeNamed_eq_ok {scope : ScopeRef} {operands : List Value} {name : Name} {v : Value}
    (run : makeNamed scope operands name m = .ok v m') :
    ∃ r l, v = .entity (.lambda r) ∧
      m' = { m with counter := m.counter + 1, heap.lambdas := m.heap.lambdas.push l } := by
  obtain ⟨r, m₁, made, done⟩ := bind_eq_ok_iff.1 run
  rw [makeLambda_eq] at made
  cases table : Lambda.clauseTable m.heap operands (.list (.sym "lambda" :: operands)) with
  | error c =>
    rw [table] at made
    cases made
  | ok clauses =>
    rw [table] at made
    cases made
    cases done
    exact ⟨_, _, rfl, rfl⟩

end Eval

theorem Heap.methodSpec_eq_ok {h : Heap} {spec : Value} {name : Name} {clauses : List Value}
    (parsed : h.methodSpec spec = .ok (name, clauses)) :
    spec = .list (.symbol name :: clauses) := by
  unfold methodSpec at parsed
  split at parsed
  · next target first more =>
    cases named : expectSymbol h "method" target with
    | error c =>
      rw [named] at parsed
      cases parsed
    | ok name' =>
      rw [named] at parsed
      cases parsed
      rw [expectSymbol_eq_ok_iff.1 named]
  · cases parsed

/-! ### The body of a type -/

namespace Engine

variable {E : Engine} {scope : ScopeRef} {m m' : Machine} {t : TypeRef}

/-- Symbols are looked up. -/
def ReadsSymbols (E : Engine) (scope : ScopeRef) : Prop :=
  ∀ name m v m', E.eval scope (.symbol name) m = .ok v m' → m.valueOf scope name = .ok v ∧ m' = m

theorem readsSymbols_ofFuel [Tables] (setting : Setting) (fuel : Nat) (scope : ScopeRef) :
    (ofFuel setting fuel).ReadsSymbols scope := by
  intro name m v m' run
  match fuel with
  | 0 => cases run
  | 1 => cases run
  | fuel + 2 =>
    have looked : Eval.ofCause (m.valueOf scope name) m = .ok v m' :=
      (step_symbol (E := ofFuel setting (fuel + 1)) fuel.succ_pos scope name m).symm.trans run
    exact Eval.ofCause_eq_ok looked

/-- An installation keeps what symbols refer to, and the types that are there. -/
theorem body_put (scope : ScopeRef) {e : Installation} (admits : m.heap.Admits e)
    (target : e.target = t) :
    let m₁ := { m with heap := m.heap.put e }
    (∀ name, m₁.valueOf scope name = m.valueOf scope name) ∧
      (m₁.heap.types.get? t.index).isSome ∧ m.heap.Becomes [e] m₁.heap := by
  intro m₁
  refine ⟨fun _ => rfl, ?_, .put .start admits⟩
  have there := admits.there
  rw [target] at there
  show ((m.heap.types.update _ _).get? t.index).isSome
  rw [Forest.get?_update]
  split <;> simpa using there

/-- One part of the body of a type makes one installation. -/
theorem extendType_cons (reads : E.ReadsSymbols scope) (there : (m.heap.types.get? t.index).isSome)
    {spec : Value} {specs : List Value} (run : E.extendType scope t (spec :: specs) m = .ok () m') :
    ∃ e m₁, m.Specifies scope t spec e ∧
      (∀ name, m₁.valueOf scope name = m.valueOf scope name) ∧
      (m₁.heap.types.get? t.index).isSome ∧ m.heap.Becomes [e] m₁.heap ∧
      E.extendType scope t specs m₁ = .ok () m' := by
  unfold extendType at run
  cases spec with
  | symbol name =>
    -- a protocol is what the symbol refers to when its turn comes
    dsimp only at run
    obtain ⟨v, m₀, value, rest⟩ := Eval.bind_eq_ok_iff.1 run
    obtain ⟨found, rfl⟩ := reads name m v m₀ value
    split at rest
    · next p =>
      have admits : m₀.heap.Admits (.protocol t p (m₀.heap.protocol p)) :=
        ⟨there, by rintro _ _ _ ⟨⟩; rfl⟩
      obtain ⟨same, there', becomes⟩ := body_put scope admits rfl
      exact ⟨_, _, .protocol _ found, same, there', becomes, rest⟩
    · cases rest
  | list items =>
    dsimp only at run
    rw [Eval.heap_bind] at run
    obtain ⟨⟨name, clauses⟩, m₀, parsed, named⟩ := Eval.bind_eq_ok_iff.1 run
    obtain ⟨parsed, rfl⟩ := Eval.ofCause_eq_ok parsed
    cases Heap.methodSpec_eq_ok parsed
    obtain ⟨f, m₁, made, rest⟩ := Eval.bind_eq_ok_iff.1 named
    obtain ⟨r, l, rfl, rfl⟩ := Eval.makeNamed_eq_ok made
    -- making the lambda is no installation
    let m₁ : Machine :=
      { m₀ with counter := m₀.counter + 1, heap.lambdas := m₀.heap.lambdas.push l }
    have quiet : m₀.heap.Quiet m₁.heap := ⟨.inl rfl, .refl (fun _ => rfl) _⟩
    have admits : m₁.heap.Admits (.method t name.base (.entity (.lambda r))) :=
      ⟨there, by rintro _ _ _ ⟨⟩⟩
    obtain ⟨same, there', becomes⟩ := body_put scope admits rfl
    exact ⟨_, _, .method name clauses r, same, there',
      (Heap.Becomes.quiet .start quiet).trans becomes, rest⟩
  | _ => cases run

/-- The parts of the body of a type make one installation each, in their order. -/
theorem extendType_becomes (reads : E.ReadsSymbols scope)
    (there : (m.heap.types.get? t.index).isSome) {specs : List Value}
    (run : E.extendType scope t specs m = .ok () m') :
    ∃ new, List.Forall₂ (m.Specifies scope t) specs new ∧ m.heap.Becomes new m'.heap := by
  induction specs generalizing m with
  | nil =>
    cases run
    exact ⟨[], .nil, .start⟩
  | cons spec specs ih =>
    obtain ⟨e, m₁, specifies, same, there₁, first, run⟩ := extendType_cons reads there run
    obtain ⟨new, specified, rest⟩ := ih there₁ run
    -- the first part has changed no variable, so the others mean what they meant at the beginning
    refine ⟨e :: new, .cons specifies ?_, first.trans rest⟩
    exact specified.imp fun _ _ h => h.of_valueOf_eq fun name => (same name).symm

/-- A type is made and its name bound, which is no installation, and then its body makes one for
each of its parts, all of them on the new type. -/
theorem evalDefineType_becomes (reads : E.ReadsSymbols scope) {target fields v : Value}
    {specs : List Value} (run : E.evalDefineType scope (target :: fields :: specs) m = .ok v m') :
    ∃ (begun : Machine) (new : List Installation), m.heap.Becomes [] begun.heap ∧
      List.Forall₂ (begun.Specifies scope ⟨m.heap.types.size⟩) specs new ∧
      begun.heap.Becomes new m'.heap := by
  rw [evalDefineType, Eval.heap_bind] at run
  obtain ⟨name, m₀, parsed, body⟩ := Eval.bind_eq_ok_iff.1 run
  obtain ⟨-, rfl⟩ := Eval.ofCause_eq_ok parsed
  split at body
  · next rep items =>
    obtain ⟨names, m₁, listed, made⟩ := Eval.bind_eq_ok_iff.1 body
    obtain ⟨-, rfl⟩ := Eval.ofCause_eq_ok listed
    obtain ⟨t, m₂, newType, defined⟩ := Eval.bind_eq_ok_iff.1 made
    cases newType
    obtain ⟨_, begun, bound, rest⟩ := Eval.bind_eq_ok_iff.1 defined
    obtain ⟨_, m₃, extended, done⟩ := Eval.bind_eq_ok_iff.1 rest
    cases done
    -- binding the name changes the scopes of the heap alone
    have types : begun.heap.types =
        m₁.heap.types.push none { name, fields := names.map (·.base) } ∧
        begun.heap.protocols = m₁.heap.protocols := by
      rw [Eval.defineVariable_eq] at bound
      split at bound
      · cases bound
      · cases bound
        exact ⟨rfl, rfl⟩
    have quiet : m₁.heap.Quiet begun.heap :=
      ⟨.inr ⟨_, _, types.1⟩, types.2 ▸ .refl (fun _ => rfl) _⟩
    have there : (begun.heap.types.get? m₁.heap.types.size).isSome := by
      rw [types.1, Forest.get?_push, if_pos rfl]
      rfl
    obtain ⟨new, specified, becomes⟩ := extendType_becomes (t := ⟨m₁.heap.types.size⟩) reads there
      extended
    exact ⟨begun, new, .quiet .start quiet, specified, becomes⟩
  · cases body

end Engine

end Lisp
