import Lisp.Eval.Step
import Lisp.Proofs.Eval.Comparison

/-!
# Going through the rules

Every rule of evaluation is gone through once, with two engines that compare, for forms in the
scopes of a realm. Where a rule writes to a scope that may be one of any kind, goes on in another
context or has to do with the session, a way to compare evaluations has to say something of its own;
everything else follows from how rules are put together.

## Main definitions

* `Engine.Related` — two engines that compare
* `Engine.Special` — the rules that a comparison has to look at itself

## Main results

* `Engine.relates_evalTop` — a top-level form
* `Engine.rel_evalDefine`, `Engine.rel_evalAssign`, `Engine.relates_evalRequire`, … — rules around
  effects that a comparison looks at itself
* `Engine.relates_callValue`, `Engine.rel_evalExpanded` — calls, and forms that have been expanded
-/

namespace Lisp

open Eval Comparison

namespace Engine

/-- Two engines have the same setting and the same number of rounds, and what they evaluate, in a
scope of the realm, and call compares. -/
structure Related {S : Comparison} (A : S.Realm) (W E : Engine) : Prop where
  setting : W.setting = E.setting
  rounds : W.rounds = E.rounds
  eval : ∀ {scope}, A.Allows scope → ∀ form, S.Relates (W.eval scope form) (E.eval scope form)
  call : ∀ f args form, S.Relates (W.call f args form) (E.call f args form)

variable {S : Comparison} {A : S.Realm} {W E : Engine} (rel : Related A W E)

include rel

theorem Related.mode : W.mode = E.mode := by rw [Engine.mode, Engine.mode, rel.setting]

/-! ### Sequences -/

theorem relates_evalAll {scope : ScopeRef} (hs : A.Allows scope) (forms : List Value) :
    S.Relates (W.evalAll scope forms) (E.evalAll scope forms) :=
  .mapM (rel.eval hs) forms

theorem relates_evalBody {scope : ScopeRef} (hs : A.Allows scope) (forms : List Value) :
    S.Relates (W.evalBody scope forms) (E.evalBody scope forms) := by
  induction forms with
  | nil => exact relates_pure _
  | cons form rest ih =>
    cases rest with
    | nil => exact rel.eval hs form
    | cons next rest => exact (rel.eval hs form).bind fun _ => ih

/-! ### Lambdas and loops -/

theorem relates_runClauses (r : LambdaRef) (rounds : Nat) (args : List Value) :
    S.Relates (W.runClauses r rounds args) (E.runClauses r rounds args) := by
  -- one round each time the body asks for the lambda to be run again
  induction rounds generalizing args with
  | zero => exact relates_throw _
  | succ rounds ih =>
    unfold runClauses
    refine relates_get.bind fun m => ?_
    refine (relates_ofCause _).bind fun clause => ?_
    refine A.relates_newScope_bind fun scope hs => ?_
    refine (relates_evalBody rel hs clause.body).attempt stops_throw fun outcome => ?_
    match outcome with
    | .ok v => exact relates_pure v
    | .error (.again args) => exact ih args
    | .error (.fault e) => exact relates_failIn scope e
    | .error .exhausted => exact relates_throw _
    | .error (.unknownFile path) => exact relates_throw _

theorem relates_runLoop (base : ScopeRef) (names : List String) (body : List Value) (rounds : Nat)
    {scope : ScopeRef} (hs : A.Allows scope) :
    S.Relates (W.runLoop base names body rounds scope)
      (E.runLoop base names body rounds scope) := by
  induction rounds generalizing scope with
  | zero => exact relates_throw _
  | succ rounds ih =>
    unfold runLoop
    refine (relates_evalBody rel hs body).attempt stops_throw fun outcome => ?_
    match outcome with
    | .error (.again values) =>
      by_cases hlength : values.length = names.length
      · simp only [if_pos hlength]
        exact A.relates_newScope_bind fun next hnext => ih hnext
      · simp only [if_neg hlength]
        exact relates_failArity _ _ _
    | .ok v => exact relates_pure v
    | .error (.fault e) => exact relates_throw _
    | .error .exhausted => exact relates_throw _
    | .error (.unknownFile path) => exact relates_throw _

theorem relates_evalAgain {scope : ScopeRef} (hs : A.Allows scope) (operands : List Value) :
    S.Relates (W.evalAgain scope operands) (E.evalAgain scope operands) :=
  (relates_evalAll rel hs operands).bind fun _ => relates_throw _

omit rel in
theorem relates_evalLambda (scope : ScopeRef) (operands : List Value) (source : Value) :
    S.Relates (evalLambda scope operands source) (evalLambda scope operands source) :=
  (relates_effect (.makeLambda scope operands source none)).bind fun _ => relates_pure _

omit rel in
theorem relates_makeNamed (scope : ScopeRef) (operands : List Value) (name : Name) :
    S.Relates (Eval.makeNamed scope operands name) (Eval.makeNamed scope operands name) :=
  (relates_effect (.makeLambda scope operands _ _)).bind fun _ => relates_pure _

/-! ### Definitions -/

omit rel in
/-- The annotations of an expander do not make it private. -/
theorem relates_evalDefineMacro (scope : ScopeRef) (operands : List Value) :
    S.Relates (evalDefineMacro scope operands) (evalDefineMacro scope operands) := by
  fun_cases evalDefineMacro scope operands with
  | case1 => exact relates_failArity _ _ _
  | case2 target rest =>
    refine relates_heap.bind fun h => ?_
    refine (relates_ofCause _).bind fun name => ?_
    -- whether there is a docstring or not, clauses must follow
    have hclauses {metadata : Metadata} (isPublic : metadata.flag "private" = false)
        (clauses : List Value) :
        let act : Eval Value := do
          if clauses.isEmpty then Eval.failForm (.macroWithoutBody name.text)
          else
            let f ← Eval.makeNamed scope clauses name
            Eval.defineVariable scope name f metadata
            return .symbol name
        S.Relates act act := by
      by_cases h : clauses.isEmpty
      · simp only [if_pos h]
        exact relates_failForm _
      · simp only [if_neg h]
        refine (relates_makeNamed scope clauses name).bind fun f => ?_
        exact (relates_effect (.define scope name f isPublic)).bind fun _ => relates_pure _
    split
    · exact hclauses rfl _
    · exact hclauses rfl _

/-! ### Expansion -/

theorem relates_expandFrom (scope : ScopeRef) (rounds : Nat) (form : Value) :
    S.Relates (W.expandFrom scope rounds form) (E.expandFrom scope rounds form) := by
  induction rounds generalizing form with
  | zero => exact relates_throw _
  | succ rounds ih =>
    unfold expandFrom
    refine relates_get.bind fun m => ?_
    cases m.expander? scope form with
    | none => exact relates_pure form
    -- what a macro gives may be the call of a macro again
    | some expander => exact (rel.call _ _ _).bind fun form => ih form

theorem relates_expand (scope : ScopeRef) (form : Value) :
    S.Relates (W.expand scope form) (E.expand scope form) := by
  unfold expand
  rw [rel.rounds]
  exact relates_expandFrom rel scope E.rounds form

/-! ### Top-level forms -/

theorem relates_evalTop {scope : ScopeRef} (hs : A.Allows scope) (form : Value) :
    S.Relates (W.evalTop scope form) (E.evalTop scope form) := by
  unfold evalTop
  refine (rel.eval hs form).attempt stops_throw fun outcome => ?_
  match outcome with
  | .error (.again _) => exact relates_failIn _ _
  | .error (.fault e) => exact relates_failIn _ _
  | .ok v => exact relates_ofOutcome _
  | .error .exhausted => exact relates_ofOutcome _
  | .error (.unknownFile path) => exact relates_ofOutcome _

theorem relates_apply (f : Value) (args : List Value) :
    S.Relates (W.apply f args) (E.apply f args) :=
  rel.call f args f

/-! ### Protocols and types -/

omit rel in
theorem relates_applyMixin (p : ProtocolRef) (args : List Value) :
    S.Relates (Eval.applyMixin p args) (Eval.applyMixin p args) := by
  fun_cases Eval.applyMixin p args with
  | case1 t => exact (relates_effect (.install t p)).bind fun _ => relates_pure _
  | case2 o =>
    refine relates_get.bind fun m => ?_
    exact (relates_effect (.install _ p)).bind fun _ => relates_pure _
  | case3 other =>
    refine relates_get.bind fun m => ?_
    refine (relates_print other).bind fun text => ?_
    exact (relates_failMismatch _).bind fun _ => relates_pure _
  | case4 => exact relates_get.bind fun m => relates_failArity _ _ _

omit rel in
theorem relates_reify (e : Error) : S.Relates (Eval.reify e) (Eval.reify e) := by
  unfold Eval.reify
  cases e.cause with
  | thrown v => exact relates_pure _
  | _ => exact relates_heap.bind fun h => relates_effect (.makeError _ _ _)

omit rel in
theorem relates_makeMethods (scope : ScopeRef) (specs : List Value) :
    S.Relates (Eval.makeMethods scope specs) (Eval.makeMethods scope specs) := by
  induction specs with
  | nil => exact relates_pure []
  | cons spec rest ih =>
    unfold Eval.makeMethods
    refine relates_heap.bind fun h => ?_
    refine (relates_ofCause _).bind fun parts => ?_
    refine (relates_makeNamed scope parts.2 parts.1).bind fun method => ?_
    exact ih.bind fun methods => relates_pure _

omit rel in
theorem relates_evalDefineProtocol (scope : ScopeRef) (operands : List Value) :
    S.Relates (evalDefineProtocol scope operands) (evalDefineProtocol scope operands) := by
  fun_cases evalDefineProtocol scope operands with
  | case1 => exact relates_failArity _ _ _
  | case2 target specs =>
    refine relates_heap.bind fun h => ?_
    refine (relates_ofCause _).bind fun name => ?_
    refine (relates_makeMethods scope specs).bind fun methods => ?_
    refine (relates_effect (.newProtocol _)).bind fun p => ?_
    exact (relates_effect (.define _ _ _ rfl)).bind fun _ => relates_pure _

theorem relates_extendType {scope : ScopeRef} (hs : A.Allows scope) (t : TypeRef)
    (specs : List Value) :
    S.Relates (W.extendType scope t specs) (E.extendType scope t specs) := by
  induction specs with
  | nil => exact relates_pure ()
  | cons spec rest ih =>
    unfold extendType
    cases spec with
    | symbol name =>
      refine (rel.eval hs _).bind fun v => ?_
      split
      · exact (relates_effect (.install t _)).bind fun _ => ih
      · refine (relates_print _).bind fun text => ?_
        exact (relates_failMismatch _).bind fun _ => ih
    | _ =>
      refine relates_heap.bind fun h => ?_
      refine (relates_ofCause _).bind fun parts => ?_
      refine (relates_makeNamed scope parts.2 parts.1).bind fun method => ?_
      exact (relates_effect (.installMethod t _ method)).bind fun _ => ih

theorem relates_evalDefineType {scope : ScopeRef} (hs : A.Allows scope) (operands : List Value) :
    S.Relates (W.evalDefineType scope operands) (E.evalDefineType scope operands) := by
  match operands with
  | target :: fields :: specs =>
    refine relates_heap.bind fun h => ?_
    refine (relates_ofCause _).bind fun name => ?_
    split
    · refine (relates_ofCause _).bind fun names => ?_
      refine (relates_effect (.newType name _)).bind fun t => ?_
      refine (relates_effect (.define _ _ _ rfl)).bind fun _ => ?_
      exact (relates_extendType rel hs t specs).bind fun _ => relates_pure _
    · exact relates_failForm _
  | [] => exact relates_failArity _ _ _
  | [_] => exact relates_failArity _ _ _

/-! ### Control -/

theorem relates_evalCases {scope : ScopeRef} (hs : A.Allows scope) (cases : List (Value × Value)) :
    S.Relates (W.evalCases scope cases) (E.evalCases scope cases) := by
  induction cases with
  | nil => exact relates_pure _
  | cons first rest ih =>
    obtain ⟨test, form⟩ := first
    unfold evalCases
    split
    · exact rel.eval hs form
    · refine (rel.eval hs test).bind fun v => ?_
      cases v.isTruthy with
      | true => exact rel.eval hs form
      | false => exact ih

theorem relates_evalCond {scope : ScopeRef} (hs : A.Allows scope) (operands : List Value) :
    S.Relates (W.evalCond scope operands) (E.evalCond scope operands) := by
  unfold evalCond
  split
  · exact relates_evalCases rel hs _
  · exact relates_failForm _

theorem relates_evalDo (scope : ScopeRef) (operands : List Value) :
    S.Relates (W.evalDo scope operands) (E.evalDo scope operands) :=
  A.relates_newScope_bind fun _ hinner => relates_evalBody rel hinner operands

theorem relates_evalCatches {scope : ScopeRef} (hs : A.Allows scope) (e : Error) (thrown : Value)
    (catches : List CatchClause) :
    S.Relates (W.evalCatches scope e thrown catches) (E.evalCatches scope e thrown catches) := by
  induction catches with
  | nil => exact relates_throw _
  | cons c rest ih =>
    unfold evalCatches
    refine (rel.eval hs c.cls).bind fun cls => ?_
    refine relates_heap.bind fun h => ?_
    refine (relates_ofCause _).bind fun fits => ?_
    cases fits with
    | true =>
      refine A.relates_newScope_bind fun handler hhandler => ?_
      exact relates_evalBody rel hhandler c.body
    | false => exact ih

theorem relates_handle {scope : ScopeRef} (hs : A.Allows scope) (catches : List CatchClause)
    (e : Error) :
    S.Relates (W.handle scope catches e) (E.handle scope catches e) :=
  (relates_reify e).bind fun thrown => relates_evalCatches rel hs e thrown catches

/-- What goes on with the outcome of a guarded body stops if that has. -/
theorem relates_evalGuarded_bind {scope : ScopeRef} (hs : A.Allows scope) (parts : TryParts)
    {f g : Except Signal Value → Eval Value} (stop : ∀ m, (f (.error .exhausted)).Stops m)
    (rest : ∀ o, S.Relates (f o) (g o)) :
    S.Relates (W.evalGuarded scope parts >>= f) (E.evalGuarded scope parts >>= g) := by
  unfold evalGuarded
  rw [bind_assoc, bind_assoc]
  refine (relates_evalBody rel hs parts.body).attempt (fun m => ?_) fun outcome => ?_
  · rw [pure_bind]
    exact stop m
  · match outcome with
    | .error (.fault e) =>
      cases parts.catches.isEmpty with
      | true => exact (relates_pure _).bind rest
      | false => exact (relates_handle rel hs parts.catches e).attempt stop rest
    | .ok v => exact (relates_pure _).bind rest
    | .error (.again args) => exact (relates_pure _).bind rest
    | .error .exhausted => exact (relates_pure _).bind rest
    | .error (.unknownFile path) => exact (relates_pure _).bind rest

theorem relates_cleanUp (scope : ScopeRef) (body : List Value) (outcome : Except Signal Value) :
    S.Relates (W.cleanUp scope body outcome) (E.cleanUp scope body outcome) := by
  unfold cleanUp
  refine A.relates_newScope_bind fun inner hinner => ?_
  refine (relates_evalBody rel hinner body).bind fun value => ?_
  cases outcome with
  | ok v => exact relates_pure _
  | error s => exact relates_throw s

theorem relates_evalTry (scope : ScopeRef) (operands : List Value) :
    S.Relates (W.evalTry scope operands) (E.evalTry scope operands) := by
  unfold evalTry
  refine relates_heap.bind fun h => ?_
  refine (relates_ofCause _).bind fun parts => ?_
  refine A.relates_newScope_bind fun inner hinner => ?_
  refine relates_evalGuarded_bind rel hinner parts (fun m => ?_) fun outcome => ?_
  -- what no program can handle is passed on without cleaning up
  · cases parts.finally? with
    | none => exact stops_throw m
    | some body => exact stops_throw m
  · split
    · split
      · exact relates_throw _
      · exact relates_cleanUp rel inner _ _
    · exact relates_cleanUp rel inner _ _
    · exact relates_ofOutcome _

omit rel in
theorem relates_raise (scope : ScopeRef) (v : Value) :
    S.Relates (raise scope v) (raise scope v) := by
  fun_cases raise scope v with
  | case1 message => exact (relates_trace scope).bind fun _ => relates_effect (.makeError _ _ _)
  | case2 r =>
    refine relates_get.bind fun m => ?_
    split
    · exact relates_pure _
    · refine (relates_trace scope).bind fun trace => ?_
      exact (relates_effect (.setField r _ _)).bind fun _ => relates_pure _
  | case3 => exact relates_pure v

theorem relates_evalThrow {scope : ScopeRef} (hs : A.Allows scope) (operands : List Value) :
    S.Relates (W.evalThrow scope operands) (E.evalThrow scope operands) := by
  unfold evalThrow
  split
  · refine (rel.eval hs _).bind fun v => ?_
    exact (relates_raise scope v).bind fun thrown => relates_failIn _ _
  · exact relates_failArity _ _ _

/-! ### Properties and methods -/

theorem relates_evalKey {scope : ScopeRef} (hs : A.Allows scope) (form : Value) :
    S.Relates (W.evalKey scope form) (E.evalKey scope form) := by
  unfold evalKey
  split
  · exact relates_pure _
  · exact rel.eval hs _

theorem relates_evalPropertyGet [Tables] {scope : ScopeRef} (hs : A.Allows scope) (source : Value)
    (operands : List Value) :
    S.Relates (W.evalPropertyGet scope source operands)
      (E.evalPropertyGet scope source operands) := by
  unfold evalPropertyGet
  split
  · refine (rel.eval hs _).bind fun target => ?_
    split
    · exact (relates_print source).bind fun _ => relates_failMismatch _
    · refine (relates_evalKey rel hs _).bind fun key => ?_
      exact relates_ofHeap _
  · exact relates_failArity _ _ _

theorem relates_evalPropertySet {scope : ScopeRef} (hs : A.Allows scope) (operands : List Value) :
    S.Relates (W.evalPropertySet scope operands) (E.evalPropertySet scope operands) := by
  unfold evalPropertySet
  split
  · refine (rel.eval hs _).bind fun target => ?_
    refine (relates_evalKey rel hs _).bind fun key => ?_
    refine (rel.eval hs _).bind fun value => ?_
    refine relates_heap.bind fun h => ?_
    split
    · exact (relates_effect (.setField _ _ value)).bind fun _ => relates_pure value
    · exact (relates_print _).bind fun _ => relates_failMismatch _
  · exact relates_failArity _ _ _

theorem relates_callObjectMethod (r : ObjectRef) (method : String) (args : List Value)
    (source : Value) :
    S.Relates (W.callObjectMethod r method args source)
      (E.callObjectMethod r method args source) := by
  unfold callObjectMethod
  refine relates_heap.bind fun h => ?_
  dsimp only
  cases h.method? (h.object r).type method with
  | some f => exact rel.call f _ source
  | none =>
    cases (h.object r).fields.get? method with
    | some f => exact rel.call f args source
    | none => exact relates_failMismatch _

theorem relates_callMethod [Tables] (receiver : Value) (method : String) (args : List Value)
    (source : Value) :
    S.Relates (W.callMethod receiver method args source)
      (E.callMethod receiver method args source) := by
  unfold callMethod
  split
  · exact relates_callObjectMethod rel _ method args source
  · split
    · exact relates_ofHeap _
    · exact relates_failMismatch _
  · exact (relates_print source).bind fun _ => relates_failMismatch _
  · refine relates_heap.bind fun h => ?_
    refine (relates_ofCause _).bind fun f => ?_
    split
    · exact relates_failMismatch _
    · exact rel.call _ args source

theorem relates_evalMethodCall [Tables] {scope : ScopeRef} (hs : A.Allows scope) (source : Value)
    (operands : List Value) :
    S.Relates (W.evalMethodCall scope source operands)
      (E.evalMethodCall scope source operands) := by
  unfold evalMethodCall
  split
  · refine (rel.eval hs _).bind fun receiver => ?_
    refine (relates_evalAll rel hs _).bind fun args => ?_
    exact relates_callMethod rel receiver _ args source
  · exact (relates_print source).bind fun _ => relates_failForm _
  · exact relates_failArity _ _ _

theorem relates_evalNew {scope : ScopeRef} (hs : A.Allows scope) (operands : List Value) :
    S.Relates (W.evalNew scope operands) (E.evalNew scope operands) := by
  unfold evalNew
  split
  · exact relates_failArity _ _ _
  · refine (rel.eval hs _).bind fun cls => ?_
    refine (relates_evalAll rel hs _).bind fun args => ?_
    split
    · exact relates_effect (.construct _ args)
    · exact (relates_print _).bind fun _ => relates_failMismatch _

/-! ### Calls and names of modules -/

omit rel in
theorem relates_moduleName (context : String) (operands : List Value) :
    S.Relates (Eval.moduleName context operands) (Eval.moduleName context operands) := by
  fun_cases Eval.moduleName context operands with
  | case1 name => exact relates_ofHeap _
  | case2 => exact relates_failArity _ _ _

omit rel in
theorem relates_printValues (args : List Value) :
    S.Relates (printValues args) (printValues args) :=
  relates_heap.bind fun _ => (relates_effect (.printLine _)).bind fun _ => relates_pure _

omit rel in
theorem relates_printText (v : Value) : S.Relates (printText v) (printText v) :=
  (relates_print v).bind fun _ => (relates_effect (.printLine _)).bind fun _ => relates_pure _

omit rel in
theorem relates_makeSymbol (start : String) : S.Relates (makeSymbol start) (makeSymbol start) :=
  (relates_effect .fresh).bind fun _ => relates_pure _

theorem relates_items (coll : Value) : S.Relates (W.items coll) (E.items coll) := by
  unfold items
  rw [rel.mode]
  exact relates_ofHeap _

theorem relates_map (f : Value) (xs : List Value) :
    S.Relates (Collection.map (W.apply f) xs) (Collection.map (E.apply f) xs) :=
  (Relates.mapM (fun x => relates_apply rel f [x]) xs).bind fun _ => relates_pure _

theorem relates_filter (f : Value) (xs : List Value) :
    S.Relates (Collection.filter (W.apply f) xs) (Collection.filter (E.apply f) xs) := by
  unfold Collection.filter
  refine (Relates.foldlM (fun kept x => ?_) xs _).bind fun _ => relates_pure _
  exact (relates_apply rel f [x]).bind fun _ => relates_pure _

theorem relates_reduce (f : Value) (start : Option Value) (xs : List Value) :
    S.Relates (Collection.reduce (W.apply f) start xs)
      (Collection.reduce (E.apply f) start xs) := by
  have hfold := Relates.foldlM fun acc x => relates_apply rel f [acc, x]
  unfold Collection.reduce
  split
  · exact hfold _ _
  · exact hfold _ _
  · exact relates_apply rel f []

omit rel in
theorem relates_lookupArguments (callee : Value) (args : List Value) :
    S.Relates (lookupArguments callee args) (lookupArguments callee args) := by
  fun_cases lookupArguments callee args with
  | case1 x => exact relates_pure _
  | case2 x default => exact relates_pure _
  | case3 => exact (relates_print callee).bind fun _ => relates_fail _

omit rel in
theorem relates_callCollection [Tables] (coll : Value) (args : List Value) :
    S.Relates (callCollection coll args) (callCollection coll args) :=
  (relates_lookupArguments coll args).bind fun _ => relates_heap.bind fun _ => relates_pure _

omit rel in
theorem relates_callKey [Tables] (key : Value) (args : List Value) :
    S.Relates (callKey key args) (callKey key args) :=
  (relates_lookupArguments key args).bind fun _ => relates_heap.bind fun _ => relates_pure _

omit rel in
theorem relates_variable (scope : ScopeRef) (name : Name) :
    S.Relates (Eval.variable scope name) (Eval.variable scope name) :=
  relates_get.bind fun _ => relates_ofCause _

/-- A call of the procedure that evaluates a form in the session: with any other number of arguments
it fails. -/
theorem relates_callEval [Tables]
    (evalForm : ∀ form, S.Relates (W.evalForm form) (E.evalForm form)) (args : List Value)
    (form : Value) :
    S.Relates (W.callValue (.entity (.builtin (.procedure .eval))) args form)
      (E.callValue (.entity (.builtin (.procedure .eval))) args form) := by
  have other : S.Relates (do Eval.ofCause (Library.compute (← Eval.heap) W.mode .eval args))
      (do Eval.ofCause (Library.compute (← Eval.heap) E.mode .eval args)) := by
    rw [rel.mode]
    exact relates_ofHeap _
  match args with
  | [form] => exact evalForm form
  | [] => exact other
  | _ :: _ :: _ => exact other

/-! ### Rules around effects

What an effect does to a module, a place or a scope is for a comparison to say; the rules around it
are the same for all. -/

/-- The names of a loop are bound in its own scope. -/
theorem relates_bindLoop {base : ScopeRef} (hs : A.Allows base)
    (defined : ∀ name value, S.Relates (Eval.define base name (some value))
      (Eval.define base name (some value))) (bindings : List (Value × Value)) :
    S.Relates (W.bindLoop base bindings) (E.bindLoop base bindings) := by
  induction bindings with
  | nil => exact relates_pure []
  | cons binding rest ih =>
    obtain ⟨target, form⟩ := binding
    unfold bindLoop
    refine relates_heap.bind fun h => ?_
    refine (relates_ofCause _).bind fun name => ?_
    refine (rel.eval hs form).bind fun value => ?_
    refine (defined name.base value).bind fun _ => ?_
    exact ih.bind fun names => relates_pure _

/-- A definition binds its name before its value is known, and once more when it is. -/
theorem rel_evalDefine {scope : ScopeRef} (hs : A.Allows scope) {operands : List Value}
    {m : Machine}
    (bound : ∀ parts target, Definition.parse m.heap operands = .ok parts →
      m.target scope parts.name (parts.metadata.getD {}) = .ok target →
      S.Rel m (Eval.define target.1 parts.name.base none)
        (Eval.define target.1 parts.name.base none))
    (defined : ∀ parts, Definition.parse m.heap operands = .ok parts → ∀ value,
      S.Relates (Eval.defineVariable scope parts.name value (parts.metadata.getD {}))
        (Eval.defineVariable scope parts.name value (parts.metadata.getD {}))) :
    S.Rel m (W.evalDefine scope operands) (E.evalDefine scope operands) := by
  unfold evalDefine
  refine rel_heap_bind (rel_ofCause_bind fun parts hparse => ?_)
  refine rel_get_bind (rel_ofCause_bind fun target htarget => ?_)
  refine S.rel_bind (bound parts target hparse htarget) fun _ m' _ => ?_
  have rest (value : Value) := (defined parts hparse value).bind fun _ =>
    (relates_effect (.nameValue parts.name value)).bind fun _ => relates_pure value
  cases parts.init with
  | none => exact (relates_pure _).bind rest m'
  | some form => exact (rel.eval hs form).bind rest m'

/-- An assignment writes to the scope that the name belongs to before its value is known. -/
theorem rel_evalAssign {scope : ScopeRef} (hs : A.Allows scope) {operands : List Value}
    {m : Machine}
    (stored : ∀ name form owner, operands = [.symbol name, form] →
      m.owner? scope name = .ok (some owner) → ∀ value,
      S.Relates (Eval.modifyScopes fun s => s.store owner name.base value)
        (Eval.modifyScopes fun s => s.store owner name.base value)) :
    S.Rel m (W.evalAssign scope operands) (E.evalAssign scope operands) := by
  unfold evalAssign
  split
  next target form =>
    refine rel_heap_bind (rel_ofCause_bind fun name hname => ?_)
    refine rel_get_bind (rel_ofCause_bind fun owner howner => ?_)
    cases owner with
    | none => exact relates_fail _ m
    | some owner =>
      -- nothing but a symbol has been taken for a name
      cases target with
      | symbol other =>
        obtain rfl := Except.ok.inj hname
        refine ((rel.eval hs form).bind fun value => ?_) m
        exact (stored other form owner rfl howner value).bind fun _ => relates_pure value
      | _ => cases hname
  · exact relates_failArity _ _ _ m

omit rel in
theorem relates_evalModule
    (opened : ∀ name, S.Relates (Eval.openModule name) (Eval.openModule name))
    (entered : ∀ r, S.Relates (Eval.enter r) (Eval.enter r)) (operands : List Value) :
    S.Relates (evalModule operands) (evalModule operands) := by
  refine (relates_moduleName _ operands).bind fun name => ?_
  refine (opened name).bind fun r => ?_
  exact (entered r).bind fun _ => relates_pure _

omit rel in
theorem relates_evalUse (entered : ∀ r, S.Relates (Eval.enter r) (Eval.enter r))
    (operands : List Value) : S.Relates (evalUse operands) (evalUse operands) := by
  refine (relates_moduleName _ operands).bind fun name => ?_
  refine relates_get.bind fun m => ?_
  cases m.module? name.text with
  | none => exact relates_fail _
  | some r => exact (entered r).bind fun _ => relates_pure _

omit rel in
theorem relates_follow
    (opened : ∀ c locals, S.Relates (Eval.openToplevel c locals) (Eval.openToplevel c locals))
    (moved : ∀ r source, S.Relates (Eval.modifyScopes fun s => s.setSource r source)
      (Eval.modifyScopes fun s => s.setSource r source)) (top : Toplevel) :
    S.Relates (Eval.follow top) (Eval.follow top) := by
  unfold Eval.follow
  by_cases same : top.module = top.context.module
  · simp only [if_pos same]
    exact relates_pure top
  · simp only [if_neg same]
    refine relates_get.bind fun m => ?_
    refine (opened _ _).bind fun next => ?_
    cases (m.heap.scopes.frame top.scope).source with
    | some source => exact (moved _ _).bind fun _ => relates_pure next
    | none => exact relates_pure next

theorem relates_directory : S.Relates W.directory E.directory := by
  unfold directory
  rw [rel.setting]
  exact relates_get.bind fun _ => relates_pure _

/-- A file is required from the context that is active, and loaded from that of the session. -/
theorem relates_evalRequire [Tables]
    (file : ∀ c path, S.Relates (W.evalFile c path) (E.evalFile c path))
    (operands : List Value) : S.Relates (W.evalRequire operands) (E.evalRequire operands) := by
  unfold evalRequire
  rw [rel.setting]
  split
  · refine relates_context.bind fun c => ?_
    refine (relates_directory rel).bind fun dir => ?_
    exact (file c _).bind fun _ => relates_pure _
  · refine (relates_directory rel).bind fun dir => ?_
    refine relates_context.bind fun c => ?_
    refine (file c _).bind fun _ => ?_
    refine relates_get.bind fun m => ?_
    split
    · exact (relates_fail _).bind fun _ => relates_pure _
    · exact relates_pure _
  · exact (relates_print _).bind fun _ => relates_failForm _
  · exact relates_failArity _ _ _

/-! ### All rules together -/

/-- The rules that go on in another context, have to do with modules and the session, or write to a
scope that they have made themselves. -/
structure Special [Tables] (S : Comparison) (W E : Engine) : Prop where
  lambda : ∀ r args, S.Relates (W.callLambda r args) (E.callLambda r args)
  loop : ∀ scope operands, S.Relates (W.evalLoop scope operands) (E.evalLoop scope operands)
  module : ∀ operands, S.Relates (evalModule operands) (evalModule operands)
  use : ∀ operands, S.Relates (evalUse operands) (evalUse operands)
  require : ∀ operands, S.Relates (W.evalRequire operands) (E.evalRequire operands)
  file : ∀ path, S.Relates (W.loadFile path) (E.loadFile path)
  expand : ∀ form, S.Relates (W.expandForm form) (E.expandForm form)

variable [Tables] (special : Special S W E)

include special

theorem relates_callProcedure {proc : Procedure} (other : proc ≠ .eval) (args : List Value) :
    S.Relates (W.callProcedure proc args) (E.callProcedure proc args) := by
  unfold callProcedure
  split
  · exact (relates_items rel _).bind fun xs => relates_map rel _ xs
  · exact (relates_items rel _).bind fun xs => relates_filter rel _ xs
  · exact (relates_items rel _).bind fun xs => relates_reduce rel _ none xs
  · exact (relates_items rel _).bind fun xs => relates_reduce rel _ _ xs
  · exact (relates_items rel _).bind fun xs => relates_apply rel _ _
  · exact relates_makeSymbol _
  · exact relates_heap.bind fun h => (relates_ofCause _).bind fun text => relates_makeSymbol text
  · exact absurd rfl other
  · exact special.expand _
  · exact relates_heap.bind fun h => (relates_ofCause _).bind fun path => special.file path
  · exact relates_printValues _
  · exact relates_printText _
  · exact relates_printText _
  · rw [rel.mode]
    exact relates_ofHeap _

theorem relates_callBuiltin {b : Builtin} (other : b ≠ .procedure .eval) (args : List Value) :
    S.Relates (W.callBuiltin b args) (E.callBuiltin b args) := by
  unfold callBuiltin
  cases b with
  | operator op => exact relates_ofHeap fun h => op.run h args
  | procedure proc =>
    exact relates_callProcedure rel special (fun h => other (congrArg Builtin.procedure h)) args
  | math f => exact relates_ofHeap fun h => f.run h args
  | consoleLog =>
    cases args with
    | nil => exact relates_fail _
    | cons receiver args => exact relates_printValues args
  | parseFloat => exact relates_ofHeap fun h => Host.parseFloat h args
  | parseInt => exact relates_ofHeap fun h => Host.parseInt h args

/-- A call of anything but the procedure that evaluates a form in the session. -/
theorem relates_callValue {f : Value} (other : f ≠ .entity (.builtin (.procedure .eval)))
    (args : List Value) (form : Value) :
    S.Relates (W.callValue f args form) (E.callValue f args form) := by
  unfold callValue
  split
  · exact special.lambda _ args
  · exact relates_callBuiltin rel special (fun h => other (h ▸ rfl)) args
  · exact relates_applyMixin _ args
  · exact relates_effect (.construct _ args)
  · exact relates_callCollection _ args
  · exact relates_callCollection _ args
  · exact relates_callKey _ args
  · exact relates_callKey _ args
  · exact relates_callKey _ args
  · split
    · exact relates_heap.bind fun h => relates_pure _
    · exact (relates_print _).bind fun _ => relates_fail _
  · exact (relates_print form).bind fun _ => relates_fail _

/-- A special form, unless it writes to a scope that is there. -/
theorem relates_evalSpecial {form : SpecialForm} (other : form ≠ .define ∧ form ≠ .assign)
    {scope : ScopeRef} (hs : A.Allows scope) (operands : List Value) (source : Value) :
    S.Relates (W.evalSpecial scope form operands source)
      (E.evalSpecial scope form operands source) := by
  unfold evalSpecial
  cases form with
  | quote =>
    dsimp only
    split
    · exact relates_pure _
    · exact relates_failArity _ _ _
  | define => exact absurd rfl other.1
  | assign => exact absurd rfl other.2
  | cond => exact relates_evalCond rel hs operands
  | lambda => exact relates_evalLambda scope operands source
  | do_ => exact relates_evalDo rel scope operands
  | try_ => exact relates_evalTry rel scope operands
  | catch_ => exact (relates_print source).bind fun _ => relates_failForm _
  | finally_ => exact (relates_print source).bind fun _ => relates_failForm _
  | loop => exact special.loop scope operands
  | again => exact relates_evalAgain rel hs operands
  | defineProtocol => exact relates_evalDefineProtocol scope operands
  | defineType => exact relates_evalDefineType rel hs operands
  | defineMacro => exact relates_evalDefineMacro scope operands
  | throw_ => exact relates_evalThrow rel hs operands
  | propertyGet => exact relates_evalPropertyGet rel hs source operands
  | propertySet => exact relates_evalPropertySet rel hs operands
  | methodCall => exact relates_evalMethodCall rel hs source operands
  | new => exact relates_evalNew rel hs operands
  | module_ => exact special.module operands
  | require => exact special.require operands
  | use => exact special.use operands

omit [Tables] special in
theorem relates_evalOperation {scope : ScopeRef} (hs : A.Allows scope) (head : Value)
    (operands : List Value) :
    S.Relates (W.evalOperation scope head operands) (E.evalOperation scope head operands) := by
  unfold evalOperation
  refine (relates_evalAll rel hs operands).bind fun args => ?_
  dsimp only
  split
  · exact relates_ofHeap _
  · exact (rel.eval hs head).bind fun f => rel.call f args head

omit [Tables] special in
theorem relates_evalCall {scope : ScopeRef} (hs : A.Allows scope) (head : Value)
    (operands : List Value) :
    S.Relates (W.evalCall scope head operands) (E.evalCall scope head operands) := by
  unfold evalCall
  split
  · split
    · exact rel.eval hs _
    · exact relates_evalOperation rel hs _ operands
  · exact relates_evalOperation rel hs head operands

omit special in
theorem relates_evalEntries {scope : ScopeRef} (hs : A.Allows scope)
    (entries : List (Filed Value × Value)) (s : Shelf) :
    S.Relates (W.evalEntries scope entries s) (E.evalEntries scope entries s) := by
  refine .foldlM (fun s e => ?_) entries s
  refine (rel.eval hs e.1.value).bind fun key => ?_
  exact (rel.eval hs e.2).bind fun value => relates_heap.bind fun _ => relates_pure _

omit special in
theorem relates_evalItems {scope : ScopeRef} (hs : A.Allows scope) (items : List (Filed Value))
    (s : Shelf) : S.Relates (W.evalItems scope items s) (E.evalItems scope items s) := by
  refine .foldlM (fun s x => ?_) items s
  exact (rel.eval hs x.value).bind fun element => relates_heap.bind fun _ => relates_pure _

variable {scope : ScopeRef} {m : Machine}

/-- A list, given that what writes to a scope compares. -/
theorem rel_evalList (hs : A.Allows scope) {items : List Value}
    (writes : ∀ name operands form, items = .symbol name :: operands →
      SpecialForm.ofName? name = some form → form = .define ∨ form = .assign →
      S.Rel m (W.evalSpecial scope form operands (.list items))
        (E.evalSpecial scope form operands (.list items))) :
    S.Rel m (W.evalList scope items) (E.evalList scope items) := by
  unfold evalList
  match items with
  | [] => exact relates_pure _ m
  | head :: operands =>
    dsimp only
    split
    next name =>
      split
      next form hname =>
        by_cases h : form = .define ∨ form = .assign
        · exact writes name operands form rfl hname h
        · exact relates_evalSpecial rel special (not_or.1 h) hs operands _ m
      · exact relates_evalCall rel hs _ _ m
    · exact relates_evalCall rel hs _ _ m

/-- A form that has been expanded, given that what writes to a scope compares. -/
theorem rel_evalExpanded (hs : A.Allows scope) {form : Value}
    (writes : ∀ name operands sf, form = .list (.symbol name :: operands) →
      SpecialForm.ofName? name = some sf → sf = .define ∨ sf = .assign →
      S.Rel m (W.evalSpecial scope sf operands form) (E.evalSpecial scope sf operands form)) :
    S.Rel m (W.evalExpanded scope form) (E.evalExpanded scope form) := by
  unfold evalExpanded
  cases form with
  | nil => exact relates_pure _ m
  | bool b => exact relates_pure _ m
  | number n => exact relates_pure _ m
  | string s => exact relates_pure _ m
  | regex text => exact relates_pure _ m
  | entity e => exact relates_pure _ m
  | keyword name => exact relates_get.bind (fun m => relates_pure _) m
  | symbol name => exact relates_variable scope name m
  | quoted inner => exact relates_pure inner m
  | list items =>
    exact rel_evalList rel special hs fun name operands sf h => writes name operands sf (h ▸ rfl)
  | vector rep items => exact (relates_evalAll rel hs items).bind (fun _ => relates_pure _) m
  | map table entries =>
    exact (relates_evalEntries rel hs entries _).bind (fun _ => relates_pure _) m
  | set table items => exact (relates_evalItems rel hs items _).bind (fun _ => relates_pure _) m

end Engine

end Lisp
