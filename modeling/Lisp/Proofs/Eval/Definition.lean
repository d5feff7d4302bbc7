import Lisp.Proofs.Eval.Assignment
import Lisp.Proofs.Eval.Dispatch

/-!
# Definitions that fail

The definition of an expander or of a protocol makes all it needs before it binds the name, so that
one that fails has bound nothing. The other two bind the name early: a variable is visible while its
value is computed, and a type while its body is looked at, since its methods may make instances.
Nothing takes this back. A variable whose value fails is left as it was if it had a binding, and is
`nil` otherwise. A type whose body fails is left bound, to the type as far as it has been made.

## Main definitions

* `Definition.Declares` — the name that a definition form defines
* `Machine.Undeclared` — there is no such name, or no scope for it
* `Machine.remains` — the binding that a failed definition leaves behind
* `Eval.KeepsScopes`, `Eval.Atomic` — touching no scope, and touching none in failing

## Main results

* `Eval.atomic_evalDefineMacro`, `Eval.atomic_evalDefineProtocol`
* `Engine.failed_definition` — what a failed definition leaves behind
* `Engine.early_binding_stays` — names that were unbound can be bound by it
-/

namespace Lisp

namespace Eval

variable {α β : Type}

/-! ### Evaluations that touch no scope -/

/-- An evaluation leaves all scopes as they are. -/
def KeepsScopes (act : Eval α) : Prop := ∀ m, (act.after m).heap.scopes = m.heap.scopes

/-- An evaluation leaves a name of a scope bound as it is. -/
def KeepsOwn (act : Eval α) (t : ScopeRef) (base : String) (m : Machine) : Prop :=
  (act.after m).heap.scopes.own? t base = m.heap.scopes.own? t base

/-- An evaluation that fails has left all scopes as they were. -/
def Atomic (act : Eval α) : Prop :=
  ∀ m s m', act m = .error s m' → m'.heap.scopes = m.heap.scopes

theorem keepsScopes_ofCause (x : Except Cause α) : (ofCause x).KeepsScopes := by
  cases x with
  | ok a => exact fun _ => rfl
  | error c => exact fun _ => rfl

theorem KeepsScopes.bind {act : Eval α} {f : α → Eval β} (h : act.KeepsScopes)
    (hf : ∀ a, (f a).KeepsScopes) : (act >>= f).KeepsScopes := by
  intro m
  have first := h m
  simp only [after, Bind.bind, EStateM.bind] at first ⊢
  cases outcome : act m with
  | ok a m' =>
    rw [outcome] at first
    exact (hf a m').trans first
  | error s m' =>
    rw [outcome] at first
    exact first

theorem KeepsScopes.atomic {act : Eval α} (h : act.KeepsScopes) : act.Atomic := by
  intro m s m' failed
  have kept := h m
  rwa [after, failed] at kept

/-- If what comes last is atomic, a failure leaves the scopes as they were before it. -/
theorem scopes_of_bind_error {act : Eval α} {f : α → Eval β} {m m' : Machine} {s : Signal}
    (hf : ∀ a, (f a).Atomic) (failed : (act >>= f) m = .error s m') :
    m'.heap.scopes = (act.after m).heap.scopes := by
  simp only [Bind.bind, EStateM.bind] at failed
  rw [after]
  cases outcome : act m with
  | ok a m₁ =>
    rw [outcome] at failed
    exact hf a m₁ s m' failed
  | error s₁ m₁ =>
    rw [outcome] at failed
    cases failed
    rfl

theorem KeepsScopes.atomic_bind {act : Eval α} {f : α → Eval β} (h : act.KeepsScopes)
    (hf : ∀ a, (f a).Atomic) : (act >>= f).Atomic :=
  fun m _ _ failed => (scopes_of_bind_error hf failed).trans (h m)

/-- What cannot fail can go after what is atomic. -/
theorem Atomic.bind {act : Eval α} {f : α → Eval β} (h : act.Atomic)
    (succeeds : ∀ a m, ∃ b m', f a m = .ok b m') : (act >>= f).Atomic := by
  intro m s m' failed
  simp only [Bind.bind, EStateM.bind] at failed
  cases outcome : act m with
  | ok a m₁ =>
    obtain ⟨b, m₂, hf⟩ := succeeds a m₁
    rw [outcome] at failed
    cases hf.symm.trans failed
  | error s₁ m₁ =>
    rw [outcome] at failed
    cases failed
    exact h m _ _ outcome

theorem heap_bind (f : Heap → Eval α) (m : Machine) : (heap >>= f) m = f m.heap m := rfl

theorem get_bind (f : Machine → Eval α) (m : Machine) : (get >>= f) m = f m m := rfl

/-- A failure behind a computation that may fail for a cause is for that cause or comes later. -/
theorem ofCause_bind_eq_error {x : Except Cause α} {f : α → Eval β} {m m' : Machine} {s : Signal}
    (failed : (ofCause x >>= f) m = .error s m') :
    (∃ c, x = .error c ∧ m' = m) ∨ ∃ a, x = .ok a ∧ f a m = .error s m' := by
  cases x with
  | error c =>
    cases failed
    exact .inl ⟨c, rfl, rfl⟩
  | ok a => exact .inr ⟨a, rfl, failed⟩

theorem atomic_fail (c : Cause) : (fail c : Eval α).Atomic := by
  intro m s m' failed
  cases failed
  rfl

theorem keepsScopes_makeNamed (scope : ScopeRef) (operands : List Value) (name : Name) :
    (makeNamed scope operands name).KeepsScopes := by
  refine KeepsScopes.bind (fun m => ?_) fun r _ => rfl
  rw [after, makeLambda_eq]
  cases Lambda.clauseTable m.heap operands (.list (.sym "lambda" :: operands)) with
  | error c => rfl
  | ok clauses => rfl

theorem keepsScopes_makeMethods (scope : ScopeRef) (specs : List Value) :
    (makeMethods scope specs).KeepsScopes := by
  induction specs with
  | nil => exact fun _ => rfl
  | cons spec specs ih =>
    refine KeepsScopes.bind (fun _ => rfl) fun h => ?_
    refine (keepsScopes_ofCause _).bind fun (name, clauses) => ?_
    refine (keepsScopes_makeNamed scope clauses name).bind fun method => ?_
    exact ih.bind fun methods _ => rfl

end Eval

/-! ### Names and their bindings -/

namespace Definition

/-- The forms that define a name. -/
def forms : List SpecialForm := [.define, .defineMacro, .defineProtocol, .defineType]

/-- A definition form defines a name, with some annotations in front of it. The form of the value,
if there is one, is evaluated while the name is bound already. Fields of a type are symbols. -/
inductive Declares (h : Heap) :
    SpecialForm → List Value → Name → Metadata → Option Value → Prop
  | value {operands : List Value} {parts : Parts} (parsed : parse h operands = .ok parts) :
      Declares h .define operands parts.name (parts.metadata.getD {}) parts.init
  | expander (name : Name) (rest : List Value) :
      Declares h .defineMacro (.symbol name :: rest) name {} none
  | protocol (name : Name) (specs : List Value) :
      Declares h .defineProtocol (.symbol name :: specs) name {} none
  | type (name : Name) (rep : Representation) (fields : List Name) (specs : List Value) :
      Declares h .defineType (.symbol name :: .vector rep (fields.map .symbol) :: specs) name {}
        none

/-- A symbol and a form after it define a name without annotations. -/
theorem declares_symbol (h : Heap) (name : Name) (form : Value) :
    Declares h .define [.symbol name, form] name {} (some form) :=
  @Declares.value h [.symbol name, form] ⟨none, name, some form⟩ rfl

/-- A form defines one name. -/
theorem Declares.unique {h : Heap} {special : SpecialForm} {operands : List Value}
    {name name' : Name} {metadata metadata' : Metadata} {init init' : Option Value}
    (declares : Declares h special operands name metadata init)
    (declares' : Declares h special operands name' metadata' init') :
    name = name' ∧ metadata = metadata' ∧ init = init' := by
  cases declares with
  | value parsed =>
    cases declares' with
    | value parsed' =>
      cases parsed.symm.trans parsed'
      exact ⟨rfl, rfl, rfl⟩
  | expander =>
    cases declares' with
    | expander => exact ⟨rfl, rfl, rfl⟩
  | protocol =>
    cases declares' with
    | protocol => exact ⟨rfl, rfl, rfl⟩
  | type name rep fields specs =>
    -- the fields need not be told from their symbols here
    generalize fields.map Value.symbol = items at declares'
    cases declares' with
    | type => exact ⟨rfl, rfl, rfl⟩

end Definition

theorem expectSymbol_eq_ok_iff {h : Heap} {context : String} {v : Value} {name : Name} :
    expectSymbol h context v = .ok name ↔ v = .symbol name := by
  cases v with
  | symbol other => simp [expectSymbol]
  | _ => simp [expectSymbol]

theorem mapM_expectSymbol_eq_ok_iff {h : Heap} {context : String} {items : List Value}
    {names : List Name} :
    items.mapM (expectSymbol h context) = .ok names ↔ items = names.map .symbol := by
  rw [Lambda.mapM_eq_ok_iff]
  simp only [expectSymbol_eq_ok_iff]
  rw [← List.forall₂_map_right_iff, List.forall₂_eq_eq_eq]

namespace Machine

/-- The annotations that a public definition adds the name of its module to. -/
def annotated (m : Machine) (q : Option ModuleRef) (metadata : Metadata) : Metadata :=
  match q with
  | some r => metadata.insert "module" (.symbol (m.heap.module r).name)
  | none => metadata

/-- The binding that a failed definition of a name leaves in the scope that the name belongs to. -/
def remains (m : Machine) (special : SpecialForm) (t : ScopeRef) (q : Option ModuleRef)
    (base : String) : Option Binding :=
  match special with
  | .define => some ((m.heap.scopes.own? t base).getD ⟨.nil, none⟩)
  | .defineType => some ⟨.entity (.type ⟨m.heap.types.size⟩),
      some (m.annotated q (.ofPairs [("type", .bool true)]))⟩
  | _ => m.heap.scopes.own? t base

/-- A definition form defines no name, or one in a module that is not there. -/
def Undeclared (m : Machine) (scope : ScopeRef) (special : SpecialForm) (operands : List Value) :
    Prop :=
  ∀ name metadata init t q, Definition.Declares m.heap special operands name metadata init →
    m.target scope name metadata ≠ .ok (t, q)

/-- A name is bound in advance: to what it is bound to already or, if it is not, to `nil`. -/
def reserved (m : Machine) (t : ScopeRef) (base : String) : Machine :=
  (Eval.define t base none).after m

theorem own?_reserved {m : Machine} {t : ScopeRef} (there : m.heap.scopes.Has t) (base : String) :
    (m.reserved t base).heap.scopes.own? t base =
      some ((m.heap.scopes.own? t base).getD ⟨.nil, none⟩) := by
  refine (Scopes.own?_define there base none none).trans ?_
  rw [if_pos ⟨rfl, rfl⟩]
  cases m.heap.scopes.own? t base with
  | none => rfl
  | some b => rfl

end Machine

namespace Eval

/-- A definition is made if there is a scope for it. -/
theorem defineVariable_eq (scope : ScopeRef) (name : Name) (value : Value) (metadata : Metadata)
    (m : Machine) :
    defineVariable scope name value metadata m =
      match m.target scope name metadata with
      | .error cause => .error (.fault { cause }) m
      | .ok (t, q) => define t name.base (some value) (some (m.annotated q metadata)) m := by
  simp only [defineVariable, bind, EStateM.bind, get_apply]
  cases m.target scope name metadata with
  | error cause => rfl
  | ok target => rfl

theorem defineVariable_bind_eq_error {scope : ScopeRef} {name : Name} {value : Value}
    {metadata : Metadata} {f : Unit → Eval α} {m m' : Machine} {s : Signal}
    (failed : (defineVariable scope name value metadata >>= f) m = .error s m') :
    (∃ c, m.target scope name metadata = .error c ∧ m' = m) ∨
      ∃ t q, m.target scope name metadata = .ok (t, q) ∧
        f () ((define t name.base (some value) (some (m.annotated q metadata))).after m) =
          .error s m' := by
  simp only [bind, EStateM.bind, defineVariable_eq] at failed
  cases target : m.target scope name metadata with
  | error c =>
    rw [target] at failed
    cases failed
    exact .inl ⟨c, rfl, rfl⟩
  | ok there =>
    rw [target] at failed
    exact .inr ⟨there.1, there.2, rfl, failed⟩

theorem atomic_defineVariable (scope : ScopeRef) (name : Name) (value : Value)
    (metadata : Metadata) : (defineVariable scope name value metadata).Atomic := by
  intro m s m' failed
  rw [defineVariable_eq] at failed
  cases target : m.target scope name metadata with
  | error cause =>
    rw [target] at failed
    cases failed
    rfl
  | ok there =>
    rw [target] at failed
    cases failed

/-- A protocol has its methods before it has its name. -/
theorem atomic_evalDefineProtocol (scope : ScopeRef) (operands : List Value) :
    (Engine.evalDefineProtocol scope operands).Atomic := by
  cases operands with
  | nil => exact atomic_fail _
  | cons target specs =>
    refine KeepsScopes.atomic_bind (fun _ => rfl) fun h => ?_
    refine (keepsScopes_ofCause _).atomic_bind fun name => ?_
    refine (keepsScopes_makeMethods scope specs).atomic_bind fun methods => ?_
    refine KeepsScopes.atomic_bind (fun _ => rfl) fun p => ?_
    exact (atomic_defineVariable scope name _ _).bind fun _ m => ⟨_, m, rfl⟩

/-- An expander is made before it has its name. -/
theorem atomic_evalDefineMacro (scope : ScopeRef) (operands : List Value) :
    (Engine.evalDefineMacro scope operands).Atomic := by
  fun_cases Engine.evalDefineMacro scope operands with
  | case1 => exact atomic_fail _
  | case2 target rest =>
    refine KeepsScopes.atomic_bind (fun _ => rfl) fun h => ?_
    refine (keepsScopes_ofCause _).atomic_bind fun name => ?_
    -- whether there is a docstring or not, clauses must follow
    have hclauses (metadata : Metadata) (clauses : List Value) : Atomic (do
        if clauses.isEmpty then failForm (.macroWithoutBody name.text)
        else
          let f ← makeNamed scope clauses name
          defineVariable scope name f metadata
          return Value.symbol name) := by
      by_cases h : clauses.isEmpty
      · rw [if_pos h]
        exact atomic_fail _
      · rw [if_neg h]
        refine (keepsScopes_makeNamed scope clauses name).atomic_bind fun f => ?_
        exact (atomic_defineVariable scope name f metadata).bind fun _ m => ⟨_, m, rfl⟩
    split
    · exact hclauses _ _
    · exact hclauses _ _

theorem nameValue_ok (name : Name) (v : Value) (m : Machine) :
    ∃ m', nameValue name v m = .ok () m' := by
  fun_cases nameValue name v with
  | case1 r =>
    simp only [bind, EStateM.bind, get_apply]
    by_cases unnamed : (m.heap.lambda r).ident.isNone
    · rw [if_pos unnamed]
      exact ⟨_, rfl⟩
    · rw [if_neg unnamed]
      exact ⟨_, rfl⟩
  | case2 => exact ⟨m, rfl⟩

end Eval

namespace Engine

variable {E : Engine} {scope t : ScopeRef} {q : Option ModuleRef} {operands : List Value}
  {m m' : Machine} {s : Signal}

/-! ### Variables -/

/-- Once the scope of a variable is known, the definition fails only if the evaluation of the value
does, which begins with the name bound in advance. -/
theorem evalDefine_fails (failed : E.evalDefine scope operands m = .error s m') :
    m' = m ∧ m.Undeclared scope .define operands ∨
      ∃ name metadata init t q, Definition.Declares m.heap .define operands name metadata init ∧
        m.target scope name metadata = .ok (t, q) ∧
        m'.heap.scopes = match init with
          | none => (m.reserved t name.base).heap.scopes
          | some form => ((E.eval scope form).after (m.reserved t name.base)).heap.scopes := by
  rw [evalDefine, Eval.heap_bind] at failed
  obtain ⟨c, misread, rfl⟩ | ⟨parts, parsed, failed⟩ := Eval.ofCause_bind_eq_error failed
  · refine .inl ⟨rfl, fun name metadata init t q declares _ => ?_⟩
    cases declares with
    | value parsed => cases misread.symm.trans parsed
  dsimp only at failed
  rw [Eval.get_bind] at failed
  obtain ⟨c, missing, rfl⟩ | ⟨⟨t, q⟩, target, failed⟩ := Eval.ofCause_bind_eq_error failed
  · refine .inl ⟨rfl, fun name metadata init t q declares found => ?_⟩
    cases declares with
    | value parsed' =>
      cases parsed.symm.trans parsed'
      cases missing.symm.trans found
  refine .inr ⟨_, _, _, t, q, .value parsed, target, ?_⟩
  have binds (v : Value) : Eval.Atomic (do
      Eval.defineVariable scope parts.name v (parts.metadata.getD {})
      Eval.nameValue parts.name v
      return v) := by
    refine (Eval.atomic_defineVariable scope _ v _).bind fun _ m => ?_
    obtain ⟨m₁, named⟩ := Eval.nameValue_ok parts.name v m
    exact ⟨v, m₁, by simp only [bind, EStateM.bind, named, Eval.pure_apply]⟩
  cases init : parts.init with
  | none =>
    rw [init] at failed
    exact binds .nil (m.reserved t parts.name.base) s m' failed
  | some form =>
    rw [init] at failed
    exact Eval.scopes_of_bind_error binds failed

/-- If the evaluation of its value leaves the name alone, a variable whose definition fails has the
binding that it had. If it had none it is `nil`. -/
theorem own?_of_evalDefine_fails {name : Name} {metadata : Metadata} {init : Option Value}
    (declares : Definition.Declares m.heap .define operands name metadata init)
    (target : m.target scope name metadata = .ok (t, q)) (there : m.heap.scopes.Has t)
    (spared : ∀ form ∈ init, (E.eval scope form).KeepsOwn t name.base (m.reserved t name.base))
    (failed : E.evalDefine scope operands m = .error s m') :
    m'.heap.scopes.own? t name.base =
      some ((m.heap.scopes.own? t name.base).getD ⟨.nil, none⟩) := by
  obtain ⟨-, undeclared⟩ | ⟨name', metadata', init', t', q', declares', target', scopes⟩ :=
    evalDefine_fails failed
  · exact absurd target (undeclared name metadata init t q declares)
  · obtain ⟨rfl, rfl, rfl⟩ := declares.unique declares'
    cases target.symm.trans target'
    rw [scopes, ← Machine.own?_reserved there]
    cases init with
    | none => rfl
    | some form => exact spared form rfl

/-! ### Types -/

theorem keepsScopes_extendType (hE : ∀ name, (E.eval scope (.symbol name)).KeepsScopes)
    (t : TypeRef) (specs : List Value) : (E.extendType scope t specs).KeepsScopes := by
  induction specs with
  | nil => exact fun _ => rfl
  | cons spec specs ih =>
    unfold extendType
    cases spec with
    | symbol name =>
      refine (hE name).bind fun v => ?_
      split
      · refine Eval.KeepsScopes.bind (fun _ => rfl) fun _ => ih
      · refine Eval.KeepsScopes.bind (fun _ => rfl) fun text => ?_
        exact Eval.KeepsScopes.bind (fun _ => rfl) fun _ => ih
    | _ =>
      refine Eval.KeepsScopes.bind (fun _ => rfl) fun h => ?_
      refine (Eval.keepsScopes_ofCause _).bind fun parts => ?_
      refine (Eval.keepsScopes_makeNamed scope parts.2 parts.1).bind fun method => ?_
      exact Eval.KeepsScopes.bind (fun _ => rfl) fun _ => ih

/-- The type of a definition is bound before its body is looked at, which touches no scope. -/
theorem evalDefineType_fails (hE : ∀ name, (E.eval scope (.symbol name)).KeepsScopes)
    (failed : E.evalDefineType scope operands m = .error s m') :
    m'.heap.scopes = m.heap.scopes ∧ m.Undeclared scope .defineType operands ∨
      ∃ name t q, Definition.Declares m.heap .defineType operands name {} none ∧
        m.target scope name {} = .ok (t, q) ∧
        m'.heap.scopes = m.heap.scopes.define t name.base
          (some (.entity (.type ⟨m.heap.types.size⟩)))
          (some (m.annotated q (.ofPairs [("type", .bool true)]))) := by
  match operands with
  | [] =>
    cases failed
    exact .inl ⟨rfl, fun name metadata init t q declares => nomatch declares⟩
  | [target] =>
    cases failed
    exact .inl ⟨rfl, fun name metadata init t q declares => nomatch declares⟩
  | target :: fields :: specs =>
    rw [evalDefineType, Eval.heap_bind] at failed
    obtain ⟨c, unnamed, rfl⟩ | ⟨name, named, begun⟩ := Eval.ofCause_bind_eq_error failed
    · refine .inl ⟨rfl, fun name metadata init t q declares _ => ?_⟩
      cases declares with
      | type => cases unnamed
    obtain rfl := expectSymbol_eq_ok_iff.1 named
    cases fields with
    | vector rep items =>
      obtain ⟨c, unlisted, rfl⟩ | ⟨names, listed, run⟩ := Eval.ofCause_bind_eq_error begun
      · refine .inl ⟨rfl, fun name metadata init t q declares _ => ?_⟩
        cases declares with
        | type => cases unlisted.symm.trans (mapM_expectSymbol_eq_ok_iff.2 rfl)
      obtain rfl := mapM_expectSymbol_eq_ok_iff.1 listed
      -- neither the scope of the name nor the annotations depend on the types that there are
      let m₁ := (Eval.newType { name, fields := names.map (·.base) }).after m
      have same : m₁.target scope name (.ofPairs [("type", .bool true)]) = m.target scope name {} :=
        rfl
      have begun : (Eval.defineVariable scope name (.entity (.type ⟨m.heap.types.size⟩))
          (.ofPairs [("type", .bool true)]) >>= fun _ =>
            E.extendType scope ⟨m.heap.types.size⟩ specs >>= fun _ => pure (Value.symbol name)) m₁ =
          .error s m' := run
      obtain ⟨c, missing, rfl⟩ | ⟨t, q, target, failed⟩ := Eval.defineVariable_bind_eq_error begun
      · refine .inl ⟨rfl, fun name' metadata init t q declares found => ?_⟩
        obtain ⟨rfl, rfl, -⟩ := declares.unique (.type name rep names specs)
        cases (same.symm.trans missing).symm.trans found
      · refine .inr ⟨name, t, q, .type name rep names specs, same.symm.trans target, ?_⟩
        have body := (keepsScopes_extendType hE ⟨m.heap.types.size⟩ specs).bind fun _ =>
          (fun _ => rfl : (pure (Value.symbol name) : Eval Value).KeepsScopes)
        exact body.atomic _ _ _ failed
    | _ =>
      cases begun
      exact .inl ⟨rfl, fun name metadata init t q declares => nomatch declares⟩

/-- A type whose body fails is bound all the same. -/
theorem own?_of_evalDefineType_fails {name : Name} {metadata : Metadata} {init : Option Value}
    (hE : ∀ name, (E.eval scope (.symbol name)).KeepsScopes)
    (declares : Definition.Declares m.heap .defineType operands name metadata init)
    (target : m.target scope name metadata = .ok (t, q)) (there : m.heap.scopes.Has t)
    (failed : E.evalDefineType scope operands m = .error s m') :
    m'.heap.scopes.own? t name.base = some ⟨.entity (.type ⟨m.heap.types.size⟩),
      some (m.annotated q (.ofPairs [("type", .bool true)]))⟩ := by
  obtain ⟨-, undeclared⟩ | ⟨name', t', q', declares', target', scopes⟩ :=
    evalDefineType_fails hE failed
  · exact absurd target (undeclared name metadata init t q declares)
  · obtain ⟨rfl, rfl, -⟩ := declares.unique declares'
    cases target.symm.trans target'
    rw [scopes, Scopes.own?_define there, if_pos ⟨rfl, rfl⟩]
    rfl

/-! ### Any definition -/

/-- A symbol is looked up, which touches no scope. -/
theorem keepsScopes_symbol [Tables] (setting : Setting) (fuel : Nat) (scope : ScopeRef)
    (name : Name) :
    ((ofFuel setting fuel).eval scope (.symbol name)).KeepsScopes := by
  match fuel with
  | 0 => exact fun _ => rfl
  | 1 => exact fun _ => rfl
  | fuel + 2 =>
    intro m
    have run : (ofFuel setting (fuel + 2)).eval scope (.symbol name) m =
        Eval.ofCause (m.valueOf scope name) m :=
      step_symbol (E := ofFuel setting (fuel + 1)) fuel.succ_pos scope name m
    rw [Eval.after, run]
    exact Eval.keepsScopes_ofCause (m.valueOf scope name) m

theorem keepsOwn_symbol [Tables] (setting : Setting) (fuel : Nat) (scope : ScopeRef) (name : Name)
    (t : ScopeRef) (base : String) (m : Machine) :
    ∀ form ∈ some (Value.symbol name),
      ((ofFuel setting fuel).eval scope form).KeepsOwn t base m := by
  rintro _ ⟨⟩
  rw [Eval.KeepsOwn, keepsScopes_symbol setting fuel scope name m]

/-- What a definition form that fails leaves behind. If it defines a name that belongs to some
scope, and the evaluation of the value, if there is one, leaves the binding of this name alone, then
the binding is afterwards what it was before, except that an unbound variable is `nil` and that the
name of a type is bound to the new type. If the form defines no name, or none that belongs to a
scope, then all scopes are what they were. -/
theorem failed_definition [Tables] (setting : Setting) (fuel : Nat) {special : SpecialForm}
    {e : Error} (defines : special ∈ Definition.forms)
    (failed : (ofFuel setting (fuel + 1)).eval scope (.list (.sym special.text :: operands)) m =
      .error (.fault e) m') :
    (∀ name metadata init t q, Definition.Declares m.heap special operands name metadata init →
      m.target scope name metadata = .ok (t, q) → m.heap.scopes.Has t →
      (∀ form ∈ init, ((ofFuel setting fuel).eval scope form).KeepsOwn t name.base
        (m.reserved t name.base)) →
      m'.heap.scopes.own? t name.base = m.remains special t q name.base) ∧
    (m.Undeclared scope special operands → m'.heap.scopes = m.heap.scopes) := by
  have rounds : 0 < fuel := by
    -- without fuel the form is not even found to be a special one
    cases fuel with
    | zero => cases failed
    | succ fuel => exact fuel.succ_pos
  have run := (step_special (E := ofFuel setting fuel) rounds scope special operands m).symm.trans
    failed
  simp only [Definition.forms, List.mem_cons, List.not_mem_nil, or_false] at defines
  obtain rfl | rfl | rfl | rfl := defines
  · refine ⟨fun name metadata init t q declares target there spared => ?_, fun undeclared => ?_⟩
    · exact own?_of_evalDefine_fails declares target there spared run
    · obtain ⟨rfl, -⟩ | ⟨name, metadata, init, t, q, declares, target, -⟩ := evalDefine_fails run
      · rfl
      · exact absurd target (undeclared name metadata init t q declares)
  · have kept : m'.heap.scopes = m.heap.scopes := Eval.atomic_evalDefineMacro _ _ m _ m' run
    exact ⟨fun name _ _ t _ _ _ _ _ => congrArg (Scopes.own? · t name.base) kept, fun _ => kept⟩
  · have kept : m'.heap.scopes = m.heap.scopes := Eval.atomic_evalDefineProtocol _ _ m _ m' run
    exact ⟨fun name _ _ t _ _ _ _ _ => congrArg (Scopes.own? · t name.base) kept, fun _ => kept⟩
  · have symbols := keepsScopes_symbol setting fuel scope
    refine ⟨fun name metadata init t q declares target there _ => ?_, fun undeclared => ?_⟩
    · exact own?_of_evalDefineType_fails symbols declares target there run
    · obtain ⟨kept, -⟩ | ⟨name, t, q, declares, target, -⟩ := evalDefineType_fails symbols run
      · exact kept
      · exact absurd target (undeclared name {} none t q declares)

/-! ### Definitions of a session -/

/-- An evaluation ends in an error. -/
def faults (act : Eval Value) (m : Machine) : Bool :=
  match act m with
  | .error (.fault _) _ => true
  | _ => false

theorem exists_of_faults {act : Eval Value} (h : faults act m) :
    ∃ e, act m = .error (.fault e) (act.after m) := by
  unfold faults at h
  split at h
  · next e m' failed => exact ⟨e, by rw [Eval.after, failed]⟩
  · cases h

/-- A variable that has a binding, defined again with a value that fails. -/
theorem failed_definition_bound :
    let E := ofFuel ⟨{}, fun _ => none⟩
    let m := Start.machine {}
    let form : Value := .list [.sym "define", .sym "list", .sym "y"]
    let m' := ((E 3).eval globalScope form).after m
    SpecialForm.define ∈ Definition.forms ∧
      (∃ e, (E 3).eval globalScope form m = .error (.fault e) m') ∧
      Definition.Declares m.heap .define [.sym "list", .sym "y"] (.simple "list") {}
        (some (.sym "y")) ∧
      m.target globalScope (.simple "list") {} = .ok (m.activeScope, some m.context.module) ∧
      m.heap.scopes.Has m.activeScope ∧
      ((E 2).eval globalScope (.sym "y")).KeepsOwn m.activeScope "list"
        (m.reserved m.activeScope "list") ∧
      ∃ b, m.heap.scopes.own? m.activeScope "list" = some b ∧
        m'.heap.scopes.own? m.activeScope "list" = some b := by
  intro E m form m'
  obtain ⟨fails, bound⟩ : faults ((E 3).eval globalScope form) m = true ∧
      (m.heap.scopes.own? m.activeScope "list").isSome = true := by decide +kernel
  obtain ⟨e, failed⟩ := exists_of_faults fails
  obtain ⟨b, own⟩ := Option.isSome_iff_exists.1 bound
  have defines : SpecialForm.define ∈ Definition.forms := by decide
  have declares := Definition.declares_symbol m.heap (.simple "list") (.sym "y")
  have there : m.heap.scopes.Has m.activeScope := Nat.zero_lt_succ _
  have spared := keepsOwn_symbol ⟨{}, fun _ => none⟩ 2 globalScope (.simple "y") m.activeScope
    "list" (m.reserved m.activeScope "list")
  refine ⟨defines, ⟨e, failed⟩, declares, rfl, there, spared _ rfl, b, own, ?_⟩
  have remains := (failed_definition ⟨{}, fun _ => none⟩ 2 defines failed).1 _ _ _ _ _ declares rfl
    there spared
  exact remains.trans (congrArg (fun old : Option Binding => some (old.getD ⟨.nil, none⟩)) own)

/-- A variable and a type that have no binding, defined in vain: the variable is `nil` then, and the
type is there. -/
theorem early_binding_stays :
    let E := ofFuel ⟨{}, fun _ => none⟩
    let m := Start.machine {}
    let form : Value := .list [.sym "define", .sym "x", .sym "y"]
    let type : Value := .list [.sym "define-type", .sym "P", .vector .native [], .sym "Q"]
    (∃ e m', (E 3).eval globalScope form m = .error (.fault e) m' ∧
        ((E 2).eval globalScope (.sym "y")).KeepsOwn m.activeScope "x"
          (m.reserved m.activeScope "x") ∧
        m.heap.scopes.own? m.activeScope "x" = none ∧
        m'.heap.scopes.own? m.activeScope "x" = some ⟨.nil, none⟩) ∧
      ∃ e m' metadata, (E 3).eval globalScope type m = .error (.fault e) m' ∧
        m.heap.scopes.own? m.activeScope "P" = none ∧
        m'.heap.scopes.own? m.activeScope "P" =
          some ⟨.entity (.type ⟨m.heap.types.size⟩), some metadata⟩ := by
  intro E m form type
  obtain ⟨fails, fails', unbound, unbound'⟩ :
      faults ((E 3).eval globalScope form) m = true ∧
      faults ((E 3).eval globalScope type) m = true ∧
      (m.heap.scopes.own? m.activeScope "x").isNone = true ∧
      (m.heap.scopes.own? m.activeScope "P").isNone = true := by decide +kernel
  obtain ⟨e, failed⟩ := exists_of_faults fails
  obtain ⟨e', failed'⟩ := exists_of_faults fails'
  rw [Option.isNone_iff_eq_none] at unbound unbound'
  have there : m.heap.scopes.Has m.activeScope := Nat.zero_lt_succ _
  have spared := keepsOwn_symbol ⟨{}, fun _ => none⟩ 2 globalScope (.simple "y") m.activeScope
    "x" (m.reserved m.activeScope "x")
  have run := (step_special (E := E 2) (by decide) globalScope .define _ m).symm.trans failed
  have run' := (step_special (E := E 2) (by decide) globalScope .defineType _ m).symm.trans failed'
  have left := own?_of_evalDefine_fails
    (Definition.declares_symbol m.heap (.simple "x") (.sym "y")) rfl there spared run
  have left' := own?_of_evalDefineType_fails (keepsScopes_symbol _ 2 _)
    (.type (.simple "P") .native [] [.sym "Q"]) rfl there run'
  refine ⟨⟨e, _, failed, spared _ rfl, unbound, ?_⟩, e', _, _, failed', unbound', left'⟩
  exact left.trans (congrArg (fun old : Option Binding => some (old.getD ⟨.nil, none⟩)) unbound)

end Engine

end Lisp
