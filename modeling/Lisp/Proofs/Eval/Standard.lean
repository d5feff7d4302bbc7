import Lisp.Proofs.Eval.Confinement
import Lisp.Proofs.Library.Standard

/-!
# Lambdas, definitions and sources keep to a standard

If the forms, the arguments and the machine meet a standard whose representation is that of the
session, so does everything that comes of evaluating and calling: the value or the signal that it
ends with, and the machine that it leaves behind. Rules are gone through one by one, with an engine
that keeps to the standard: those that bind names, those that read forms from a source, and the ways
into a session.

## Main definitions

* `Engine.Keeps` — an engine that keeps to a standard

## Main results

* `Engine.ensures_callLambda`, `Engine.ensures_evalLoop` — lambdas and loops
* `Engine.ensures_evalDefine`, `Engine.ensures_evalAssign` — definitions and assignments
* `Engine.ensures_evalFile` — files
* `Engine.ensures_evalText`, `Engine.ensures_evalForm`, … — the ways into a session
-/

namespace Lisp

open Standard

namespace Engine

variable {σ : Standard}

/-- Evaluating forms and calling values keeps to a standard, whose representation is that of the
session. -/
structure Keeps (σ : Standard) (E : Engine) : Prop where
  mode : E.mode = σ.rep
  eval : ∀ scope form, σ.Meets form → σ.Ensures σ.Meets (E.eval scope form)
  call : ∀ f args form, σ.Meets f → (∀ a ∈ args, σ.Meets a) → σ.Ensures σ.Meets (E.call f args form)

variable {E : Engine} (hE : E.Keeps σ) {scope : ScopeRef} {operands : List Value}

include hE

/-! ### Sequences -/

theorem ensures_evalAll (scope : ScopeRef) {forms : List Value} (hforms : ∀ f ∈ forms, σ.Meets f) :
    σ.Ensures (fun vs => ∀ v ∈ vs, σ.Meets v) (E.evalAll scope forms) :=
  .mapM fun form hform => hE.eval scope form (hforms form hform)

theorem ensures_evalBody (scope : ScopeRef) {forms : List Value} (hforms : ∀ f ∈ forms, σ.Meets f) :
    σ.Ensures σ.Meets (E.evalBody scope forms) := by
  induction forms with
  | nil => exact ensures_pure meets_nil
  | cons form rest ih =>
    obtain ⟨hform, hrest⟩ := List.forall_mem_cons.1 hforms
    cases rest with
    | nil => exact hE.eval scope form hform
    | cons next rest => exact (hE.eval scope form hform).bind fun _ _ => ih hrest

theorem ensures_apply {f : Value} {args : List Value} (hf : σ.Meets f)
    (hargs : ∀ a ∈ args, σ.Meets a) : σ.Ensures σ.Meets (E.apply f args) :=
  hE.call f args f hf hargs

/-! ### Lambdas and loops -/

omit hE in
theorem ensures_makeLambda (scope : ScopeRef) (hoperands : ∀ x ∈ operands, σ.Meets x)
    {source : Value} (hsource : σ.Meets source) (ident : Option Name) :
    σ.Ensures (fun _ => True) (Eval.makeLambda scope operands source ident) := by
  refine ensures_heap.bind fun h _ => ?_
  refine (ensures_ofCause (yields_clauseTable hoperands source)).bind fun clauses hclauses => ?_
  refine ensures_fresh.bind fun id _ => ?_
  refine ensures_context.bind fun c _ => ?_
  exact ensures_newLambda ⟨hsource, hclauses⟩

omit hE in
theorem ensures_makeNamed (scope : ScopeRef) (hoperands : ∀ x ∈ operands, σ.Meets x) (name : Name) :
    σ.Ensures σ.Meets (Eval.makeNamed scope operands name) := by
  have hsource : σ.Meets (.list (.sym "lambda" :: operands)) :=
    meets_list.2 (List.forall_mem_cons.2 ⟨meets_sym _, hoperands⟩)
  exact (ensures_makeLambda scope hoperands hsource _).bind fun _ _ =>
    ensures_pure (meets_entity _)

omit hE in
/-- The rest parameter takes a list. -/
theorem meetsBinding_bindings {c : Clause} {args : List Value} (hargs : ∀ a ∈ args, σ.Meets a) :
    ∀ name b, (Lambda.bindings c args).get? name = some b → σ.MeetsBinding b := by
  intro name b hb
  unfold Lambda.bindings at hb
  dsimp only at hb
  split at hb
  · rw [Dict.get?_insert] at hb
    split at hb
    · obtain rfl := Option.some.inj hb
      exact meetsBinding_plain (meets_list.2 fun a ha => hargs a (List.mem_of_mem_drop ha))
    · exact meetsBinding_bindAll hargs hb
  · exact meetsBinding_bindAll hargs hb

theorem ensures_runClauses (r : LambdaRef) (rounds : Nat) {args : List Value}
    (hargs : ∀ a ∈ args, σ.Meets a) : σ.Ensures σ.Meets (E.runClauses r rounds args) := by
  -- what a body starts the lambda again with meets the standard as well
  induction rounds generalizing args with
  | zero => exact ensures_throw trivial
  | succ rounds ih =>
    unfold runClauses
    refine ensures_get.bind fun m hm => ?_
    refine (ensures_ofCause (yields_select (hm.heap.lambda r) _)).bind fun clause hclause => ?_
    refine (ensures_newScope _ _ (meetsBinding_bindings hargs)).bind fun scope _ => ?_
    refine (ensures_evalBody hE scope hclause).attempt.bind fun outcome houtcome => ?_
    cases outcome with
    | ok v => exact ensures_pure houtcome
    | error s =>
      cases s with
      | again args => exact ih houtcome
      | fault e => exact ensures_failIn scope houtcome
      | exhausted => exact ensures_throw trivial
      | unknownFile path => exact ensures_throw trivial

theorem ensures_callLambda (r : LambdaRef) {args : List Value} (hargs : ∀ a ∈ args, σ.Meets a) :
    σ.Ensures σ.Meets (E.callLambda r args) := by
  refine ensures_get.bind fun m _ => ?_
  refine ((ensures_runClauses hE r E.rounds hargs).inContext _).bind fun result hresult => ?_
  exact ensures_ofOutcome hresult

theorem ensures_bindLoop (scope : ScopeRef) {bindings : List (Value × Value)}
    (hbindings : ∀ p ∈ bindings, σ.Meets p.1 ∧ σ.Meets p.2) :
    σ.Ensures (fun _ => True) (E.bindLoop scope bindings) := by
  induction bindings with
  | nil => exact ensures_pure trivial
  | cons binding rest ih =>
    obtain ⟨target, form⟩ := binding
    obtain ⟨hbinding, hrest⟩ := List.forall_mem_cons.1 hbindings
    unfold bindLoop
    refine ensures_heap.bind fun h _ => ?_
    refine (ensures_ofCause (yields_symbol h _ target)).bind fun name _ => ?_
    refine (hE.eval scope form hbinding.2).bind fun value hvalue => ?_
    refine (ensures_define scope name.base (by simpa) (by simp)).bind fun _ _ => ?_
    exact (ih hrest).bind fun names _ => ensures_pure trivial

theorem ensures_runLoop (base : ScopeRef) (names : List String) {body : List Value}
    (hbody : ∀ f ∈ body, σ.Meets f) (rounds : Nat) (scope : ScopeRef) :
    σ.Ensures σ.Meets (E.runLoop base names body rounds scope) := by
  -- one round each time the body asks for the loop to start again, in a new scope
  induction rounds generalizing scope with
  | zero => exact ensures_throw trivial
  | succ rounds ih =>
    unfold runLoop
    refine (ensures_evalBody hE scope hbody).attempt.bind fun outcome houtcome => ?_
    cases outcome with
    | ok v => exact ensures_pure houtcome
    | error s =>
      cases s with
      | again values =>
        dsimp only
        split
        · refine (ensures_newScope _ _ fun name b hb => ?_).bind fun next _ => ih next
          exact meetsBinding_bindAll houtcome hb
        · exact ensures_failArity _ _ _
      | fault e => exact ensures_throw houtcome
      | exhausted => exact ensures_throw trivial
      | unknownFile path => exact ensures_throw trivial

theorem ensures_evalLoop (scope : ScopeRef) (hoperands : ∀ x ∈ operands, σ.Meets x) :
    σ.Ensures σ.Meets (E.evalLoop scope operands) := by
  fun_cases E.evalLoop scope operands with
  | case1 => exact ensures_failArity _ _ _
  | case2 body _ items heven =>
    obtain ⟨hitems, hbody⟩ := List.forall_mem_cons.1 hoperands
    refine (ensures_newScope_empty scope _).bind fun base _ => ?_
    have hpairs := meets_pairUp (meets_vector.1 hitems).2
    refine (ensures_bindLoop hE base hpairs).bind fun names _ => ?_
    exact ensures_runLoop hE base names hbody E.rounds base
  | case3 => exact (ensures_print _).bind fun _ _ => ensures_failForm _
  | case4 => exact (ensures_print _).bind fun _ _ => ensures_failForm _

theorem ensures_evalAgain (scope : ScopeRef) (hoperands : ∀ x ∈ operands, σ.Meets x) :
    σ.Ensures σ.Meets (E.evalAgain scope operands) :=
  (ensures_evalAll hE scope hoperands).bind fun _ hargs => ensures_throw hargs

/-! ### Definitions -/

omit hE in
theorem ensures_defineVariable (scope : ScopeRef) (name : Name) {value : Value}
    (hvalue : σ.Meets value) {metadata : Metadata} (hmetadata : σ.MeetsAll metadata) :
    σ.Ensures (fun _ => True) (Eval.defineVariable scope name value metadata) := by
  refine ensures_get.bind fun m _ => ?_
  refine (ensures_ofCause (yields_target m scope name metadata)).bind fun target _ => ?_
  refine ensures_define _ _ (by simpa) fun d hd => ?_
  obtain rfl := Option.some.inj hd
  split
  · exact hmetadata.insert _ (meets_symbol _)
  · exact hmetadata

omit hE in
theorem ensures_nameValue (name : Name) (v : Value) :
    σ.Ensures (fun _ => True) (Eval.nameValue name v) := by
  unfold Eval.nameValue
  split
  · refine ensures_get.bind fun m _ => ?_
    split
    · exact ensures_nameLambda _ name
    · exact ensures_pure trivial
  · exact ensures_pure trivial

theorem ensures_evalDefine (scope : ScopeRef) (hoperands : ∀ x ∈ operands, σ.Meets x) :
    σ.Ensures σ.Meets (E.evalDefine scope operands) := by
  unfold evalDefine
  refine ensures_heap.bind fun h _ => ?_
  refine (ensures_ofCause (yields_parseDefinition hoperands)).bind fun parts hparts => ?_
  refine ensures_get.bind fun m _ => ?_
  refine (ensures_ofCause (yields_target m scope _ _)).bind fun target _ => ?_
  -- the name is bound before its value is known: to what it was bound to, or to nothing
  refine (ensures_define _ _ (by simp) (by simp)).bind fun _ _ => ?_
  have hmetadata : σ.MeetsAll (parts.metadata.getD {}) := by
    cases hd : parts.metadata with
    | none => exact meetsAll_empty
    | some d => exact hparts.metadata d hd
  have rest (value : Value) (hvalue : σ.Meets value) :=
    (ensures_defineVariable scope parts.name hvalue hmetadata).bind fun _ _ =>
      (ensures_nameValue parts.name value).bind fun _ _ => ensures_pure hvalue
  cases hinit : parts.init with
  | none => exact (ensures_pure meets_nil).bind rest
  | some form => exact (hE.eval scope form (hparts.init form hinit)).bind rest

theorem ensures_evalAssign (scope : ScopeRef) (hoperands : ∀ x ∈ operands, σ.Meets x) :
    σ.Ensures σ.Meets (E.evalAssign scope operands) := by
  fun_cases E.evalAssign scope operands with
  | case1 target form =>
    refine ensures_heap.bind fun h _ => ?_
    refine (ensures_ofCause (yields_symbol h _ target)).bind fun name _ => ?_
    refine ensures_get.bind fun m _ => ?_
    refine (ensures_ofCause (yields_owner? m scope name)).bind fun owner _ => ?_
    cases owner with
    | none => exact ensures_throw trivial
    | some owner =>
      refine (hE.eval scope form (hoperands form (by simp))).bind fun value hvalue => ?_
      exact (ensures_store owner name.base hvalue).bind fun _ _ => ensures_pure hvalue
  | case2 => exact ensures_failArity _ _ _

omit hE in
theorem ensures_evalDefineMacro (scope : ScopeRef) (hoperands : ∀ x ∈ operands, σ.Meets x) :
    σ.Ensures σ.Meets (evalDefineMacro scope operands) := by
  fun_cases evalDefineMacro scope operands with
  | case1 => exact ensures_failArity _ _ _
  | case2 target rest =>
    have hrest := (List.forall_mem_cons.1 hoperands).2
    refine ensures_heap.bind fun h _ => ?_
    refine (ensures_ofCause (yields_symbol h _ target)).bind fun name _ => ?_
    have marked : σ.MeetsAll (.ofPairs [("macro", .bool true)]) :=
      meetsAll_ofPairs (List.forall_mem_singleton.2 (meets_bool _))
    -- whether there is a docstring or not, clauses must follow
    have define {metadata : Metadata} (hmetadata : σ.MeetsAll metadata) {clauses : List Value}
        (hclauses : ∀ c ∈ clauses, σ.Meets c) : σ.Ensures σ.Meets (do
          if clauses.isEmpty then Eval.failForm (.macroWithoutBody name.text)
          else
            let f ← Eval.makeNamed scope clauses name
            Eval.defineVariable scope name f metadata
            return .symbol name) := by
      split
      · exact ensures_failForm _
      · refine (ensures_makeNamed scope hclauses name).bind fun f hf => ?_
        refine (ensures_defineVariable scope name hf hmetadata).bind fun _ _ => ?_
        exact ensures_pure (meets_symbol _)
    split
    · exact define (marked.insert _ (meets_string _)) (List.forall_mem_cons.1 hrest).2
    · exact define marked hrest

/-! ### Expansion -/

omit hE in
/-- An expander is a lambda. -/
theorem meets_expander? {m : Machine} {form f : Value} {args : List Value}
    (hform : σ.Meets form) (h : m.expander? scope form = some (f, args)) :
    σ.Meets f ∧ ∀ a ∈ args, σ.Meets a := by
  unfold Machine.expander? at h
  split at h
  · split at h
    · cases h
    · split at h
      · split at h
        · cases h
          exact ⟨meets_entity _, (List.forall_mem_cons.1 (meets_list.1 hform)).2⟩
        · cases h
      · cases h
  · cases h

theorem ensures_expandFrom (scope : ScopeRef) (rounds : Nat) {form : Value}
    (hform : σ.Meets form) : σ.Ensures σ.Meets (E.expandFrom scope rounds form) := by
  induction rounds generalizing form with
  | zero => exact ensures_throw trivial
  | succ rounds ih =>
    unfold expandFrom
    refine ensures_get.bind fun m _ => ?_
    cases hexpander : m.expander? scope form with
    | none => exact ensures_pure hform
    -- what a macro gives may be the call of a macro again
    | some expander =>
      obtain ⟨hf, hargs⟩ := meets_expander? hform hexpander
      exact (hE.call _ _ _ hf hargs).bind fun form hform => ih hform

theorem ensures_expand (scope : ScopeRef) {form : Value} (hform : σ.Meets form) :
    σ.Ensures σ.Meets (E.expand scope form) :=
  ensures_expandFrom hE scope E.rounds hform

/-! ### Top-level forms -/

/-- What every scope of a source binds meets the standard. -/
def MeetsPlace (σ : Standard) (top : Toplevel) : Prop := ∀ e ∈ top.locals, σ.Meets e.2

omit hE in
theorem ensures_openToplevel (c : Context) {locals : List (String × Value)}
    (hlocals : ∀ e ∈ locals, σ.Meets e.2) :
    σ.Ensures (MeetsPlace σ) (Eval.openToplevel c locals) := by
  have opened : σ.Ensures (fun _ => True) (Eval.toplevelScope c.module) :=
    ensures_get.bind fun m _ => ensures_newScope_empty _ _
  refine opened.bind fun scope _ => ?_
  refine Ensures.bind (Q := fun _ => True) ?_ fun _ _ => ensures_pure hlocals
  induction locals with
  | nil => exact ensures_pure trivial
  | cons e rest ih =>
    obtain ⟨he, hrest⟩ := List.forall_mem_cons.1 hlocals
    rw [List.forIn_cons]
    have define : σ.Ensures (· = ForInStep.yield PUnit.unit) (do
        Eval.define scope e.1 (some e.2)
        pure (ForInStep.yield PUnit.unit)) :=
      (ensures_define _ _ (by simpa) (by simp)).bind fun _ _ => ensures_pure rfl
    refine define.bind fun step hstep => ?_
    subst hstep
    exact ih hrest

omit hE in
theorem ensures_follow {top : Toplevel} (htop : MeetsPlace σ top) :
    σ.Ensures (MeetsPlace σ) (Eval.follow top) := by
  unfold Eval.follow
  split
  · exact ensures_pure htop
  · refine ensures_get.bind fun m _ => ?_
    refine (ensures_openToplevel top.context htop).bind fun next hnext => ?_
    split
    · exact (ensures_setSource _ _).bind fun _ _ => ensures_pure hnext
    · exact ensures_pure hnext

theorem ensures_evalTop (scope : ScopeRef) {form : Value} (hform : σ.Meets form) :
    σ.Ensures σ.Meets (E.evalTop scope form) := by
  refine (hE.eval scope form hform).attempt.bind fun outcome houtcome => ?_
  cases outcome with
  | ok v => exact ensures_pure houtcome
  | error s =>
    cases s with
    | again args => exact ensures_failIn scope trivial
    | fault e => exact ensures_failIn scope houtcome
    | exhausted => exact ensures_throw trivial
    | unknownFile path => exact ensures_throw trivial

theorem ensures_evalAt {top : Toplevel} (htop : MeetsPlace σ top) {form : Value}
    (hform : σ.Meets form) :
    σ.Ensures (fun p => σ.MeetsOutcome σ.Meets p.1 ∧ MeetsPlace σ p.2) (E.evalAt top form) :=
  ((ensures_evalTop hE top.scope hform).inContext _).bind fun _ hresult =>
    ensures_pure ⟨hresult, htop⟩

theorem ensures_runForm (inSession : Bool) {located : Reader.Located}
    (hform : σ.Meets located.form) {top : Toplevel} (htop : MeetsPlace σ top) :
    σ.Ensures (fun p => σ.MeetsOutcome σ.Meets p.1 ∧ MeetsPlace σ p.2)
      (E.runForm inSession located top) := by
  refine (ensures_follow htop).bind fun top htop => ?_
  refine (ensures_setPosition _ _).bind fun _ _ => ?_
  refine (ensures_evalAt hE htop hform).bind fun result hresult => ?_
  dsimp only
  split
  · refine (ensures_follow hresult.2).bind fun top htop => ?_
    exact (ensures_saveSession htop).bind fun _ _ => ensures_pure ⟨hresult.1, htop⟩
  · exact ensures_pure hresult

theorem ensures_runForms (inSession : Bool) (source : String) (fault : Option Reader.Fault)
    {forms : List Reader.Located} (hforms : ∀ f ∈ forms, σ.Meets f.form) {last : Value}
    (hlast : σ.Meets last) {top : Toplevel} (htop : MeetsPlace σ top) :
    σ.Ensures (fun p => σ.MeetsOutcome σ.Meets p.1 ∧ MeetsPlace σ p.2)
      (E.runForms inSession source fault forms last top) := by
  induction forms generalizing last top with
  | nil =>
    refine ensures_pure ⟨?_, htop⟩
    cases fault with
    | none => exact hlast
    | some fault => trivial
  | cons located rest ih =>
    obtain ⟨hform, hrest⟩ := List.forall_mem_cons.1 hforms
    rw [runForms_cons]
    refine (ensures_runForm hE inSession hform htop).bind fun result hresult => ?_
    obtain ⟨outcome, top⟩ := result
    cases outcome with
    | ok value => exact ih hrest hresult.1 hresult.2
    | error s => exact ensures_pure hresult

theorem ensures_evalSource [Tables] (inSession : Bool) (text source : String) {top : Toplevel}
    (htop : MeetsPlace σ top) : σ.Ensures σ.Meets (E.evalSource inSession text source top) := by
  unfold evalSource
  rw [hE.mode]
  refine (ensures_setSource _ _).bind fun _ _ => ?_
  -- the reader is told the representation of the session
  refine (ensures_runForms hE inSession source _ (meets_readAll text) meets_nil htop).bind
    fun result hresult => ?_
  refine (ensures_follow hresult.2).bind fun top htop => ?_
  dsimp only
  split
  · exact (ensures_saveSession htop).bind fun _ _ => ensures_ofOutcome hresult.1
  · exact ensures_ofOutcome hresult.1

theorem ensures_evalFile [Tables] (c : Context) (path : String) :
    σ.Ensures σ.Meets (E.evalFile c path) := by
  have read : σ.Ensures (fun _ => True) (E.read path) := by
    unfold Engine.read
    split
    · exact ensures_pure trivial
    · exact ensures_throw trivial
  refine read.bind fun contents _ => ?_
  split
  · exact ensures_throw trivial
  · -- a file sees its path and its directory
    have locals : ∀ e ∈ [("*file*", Value.string path),
        ("*dir*", .string ((Path.parent? path).getD ""))], σ.Meets e.2 := by simp
    exact (ensures_openToplevel _ locals).bind fun top htop => ensures_evalSource hE _ _ _ htop

/-! ### Modules -/

omit hE in
theorem ensures_moduleName (context : String) (operands : List Value) :
    σ.Ensures (fun _ => True) (Eval.moduleName context operands) := by
  unfold Eval.moduleName
  split
  · exact ensures_heap.bind fun h _ => ensures_ofCause (yields_symbol h _ _)
  · exact ensures_failArity _ _ _

omit hE in
theorem ensures_makeModule (name : Name) : σ.Ensures (fun _ => True) (Eval.makeModule name) := by
  refine (ensures_newScope_empty _ _).bind fun scope _ => ?_
  refine (ensures_define _ _ (by simp) (by simp)).bind fun _ _ => ?_
  refine (ensures_newModule _).bind fun r _ => ?_
  refine (ensures_modify fun m hm => (⟨hm.heap, hm.locals⟩ :
    σ.Fits { m with registry := m.registry.insert name.text r })).bind fun _ _ => ?_
  have tagged : σ.MeetsAll (.ofPairs [("tag", .kw "module")]) :=
    meetsAll_ofPairs (List.forall_mem_singleton.2 (meets_kw _))
  exact (ensures_define _ _ (by simp) (by simpa)).bind fun _ _ => ensures_pure trivial

omit hE in
theorem ensures_evalModule (operands : List Value) :
    σ.Ensures σ.Meets (evalModule operands) := by
  refine (ensures_moduleName _ operands).bind fun name _ => ?_
  have opened : σ.Ensures (fun _ => True) (Eval.openModule name) := by
    refine ensures_get.bind fun m _ => ?_
    split
    · exact ensures_pure trivial
    · exact ensures_makeModule name
  refine opened.bind fun r _ => ?_
  exact (ensures_enter r).bind fun _ _ => ensures_pure (meets_entity _)

omit hE in
theorem ensures_evalUse (operands : List Value) : σ.Ensures σ.Meets (evalUse operands) := by
  refine (ensures_moduleName _ operands).bind fun name _ => ?_
  refine ensures_get.bind fun m _ => ?_
  split
  · exact (ensures_enter _).bind fun _ _ => ensures_pure meets_nil
  · exact ensures_throw trivial

theorem ensures_evalRequire [Tables] (operands : List Value) :
    σ.Ensures σ.Meets (E.evalRequire operands) := by
  have directory : σ.Ensures (fun _ => True) E.directory :=
    ensures_get.bind fun _ _ => ensures_pure trivial
  unfold evalRequire
  split
  · refine ensures_context.bind fun c _ => ?_
    refine directory.bind fun dir _ => ?_
    exact (ensures_evalFile hE c _).bind fun _ _ => ensures_pure (meets_bool _)
  next name =>
    refine directory.bind fun dir _ => ?_
    refine ensures_context.bind fun c _ => ?_
    refine (ensures_evalFile hE c _).bind fun _ _ => ?_
    refine ensures_get.bind fun m _ => ?_
    dsimp only
    split
    · have fails : σ.Ensures (fun _ => True)
          (Eval.fail (.module (.missing name.text)) : Eval PUnit) := ensures_throw trivial
      exact fails.bind fun _ _ => ensures_pure (meets_bool _)
    · exact ensures_pure (meets_bool _)
  · exact (ensures_print _).bind fun _ _ => ensures_failForm _
  · exact ensures_failArity _ _ _

/-! ### The ways into a session -/

theorem ensures_evalText [Tables] (text source : String) :
    σ.Ensures σ.Meets (E.evalText text source) :=
  ensures_get.bind fun _ hm => ensures_evalSource hE true text source hm.locals

theorem ensures_evalForm {form : Value} (hform : σ.Meets form) :
    σ.Ensures σ.Meets (E.evalForm form) := by
  refine ensures_get.bind fun m hm => ?_
  refine (ensures_evalAt hE hm.locals hform).bind fun result hresult => ?_
  exact (ensures_saveSession hresult.2).bind fun _ _ => ensures_ofOutcome hresult.1

theorem ensures_evalFormIn (scope : ScopeRef) {form : Value} (hform : σ.Meets form) :
    σ.Ensures σ.Meets (E.evalFormIn scope form) := by
  refine ensures_get.bind fun m _ => ?_
  refine ((ensures_evalTop hE scope hform).inContext _).bind fun result hresult => ?_
  refine ensures_get.bind fun m hm => ?_
  have htop : MeetsPlace σ { m.session with context := result.2 } := hm.locals
  refine (ensures_follow htop).bind fun top htop => ?_
  exact (ensures_saveSession htop).bind fun _ _ => ensures_ofOutcome hresult

theorem ensures_loadFile [Tables] (path : String) : σ.Ensures σ.Meets (E.loadFile path) :=
  ensures_get.bind fun _ _ => ensures_evalFile hE _ path

theorem ensures_expandForm {form : Value} (hform : σ.Meets form) :
    σ.Ensures σ.Meets (E.expandForm form) := by
  refine ensures_get.bind fun m _ => ?_
  exact ((ensures_expand hE m.session.scope hform).inContext _).bind fun _ hresult =>
    ensures_ofOutcome hresult

end Engine

end Lisp
