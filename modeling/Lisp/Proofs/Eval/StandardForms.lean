import Lisp.Proofs.Eval.Standard

/-!
# Forms and calls keep to a standard

The rules that are left: protocols and types, control, properties and methods, calls, and forms of
every kind. For calls of methods it has to be known from elsewhere that they keep to the standard,
because of the method that splits a string. If vectors are not covered, it is known, and the engine
of a session keeps to the standard however far its fuel lasts.

## Main definitions

* `Engine.splits` — whether a call of a method splits a string

## Main results

* `Engine.ensures_callMethod` — methods
* `Engine.ensures_callValue` — calls
* `Engine.ensures_evalExpanded` — forms that have been expanded
* `Engine.keeps_ofFuel` — the engine of a session, if vectors are not covered
-/

namespace Lisp

open Standard

namespace Engine

variable {σ : Standard} {E : Engine} (hE : E.Keeps σ) {scope : ScopeRef} {operands : List Value}

include hE

/-! ### Protocols and types -/

omit hE in
theorem meetsAll_mixIn {t : TypeInfo} (ht : σ.MeetsAll t.methods) {p : Protocol}
    (hp : ∀ e ∈ p.methods, σ.Meets e.2) : σ.MeetsAll (t.mixIn p).methods := by
  have installed (methods : List (String × Value)) (hmethods : ∀ e ∈ methods, σ.Meets e.2) :
      σ.MeetsAll (methods.foldl (fun t e => t.install e.1 e.2) t).methods := by
    induction methods using List.reverseRecOn with
    | nil => exact ht
    | append_singleton methods e ih =>
      rw [List.forall_mem_append, List.forall_mem_singleton] at hmethods
      rw [List.foldl_append]
      exact (ih hmethods.1).insert e.1 hmethods.2
  exact installed p.methods hp

omit hE in
theorem ensures_install (t : TypeRef) (p : ProtocolRef) :
    σ.Ensures (fun _ => True) (Eval.install t p) :=
  ensures_get.bind fun _ hm => ensures_modifyType t fun _ ht =>
    meetsAll_mixIn ht (hm.heap.protocol p)

omit hE in
theorem ensures_applyMixin (p : ProtocolRef) {args : List Value} (hargs : ∀ a ∈ args, σ.Meets a) :
    σ.Ensures σ.Meets (Eval.applyMixin p args) := by
  fun_cases Eval.applyMixin p args with
  | case1 t => exact (ensures_install t p).bind fun _ _ => ensures_pure (meets_entity _)
  | case2 o =>
    refine ensures_get.bind fun m _ => ?_
    exact (ensures_install _ p).bind fun _ _ => ensures_pure (meets_entity _)
  | case3 other =>
    refine ensures_get.bind fun m _ => ?_
    refine (ensures_print other).bind fun text _ => ?_
    exact (ensures_failMismatch (Q := fun _ => True) _).bind fun _ _ =>
      ensures_pure (List.forall_mem_singleton.1 hargs)
  | case4 => exact ensures_get.bind fun m _ => ensures_failArity _ _ _

omit hE in
theorem ensures_makeError (cls : ErrorClass) (message stack : String) :
    σ.Ensures σ.Meets (Eval.makeError cls message stack) :=
  ensures_newObject (meetsAll_ofPairs (by simp))

omit hE in
theorem ensures_construct (t : TypeRef) {args : List Value} (hargs : ∀ a ∈ args, σ.Meets a) :
    σ.Ensures σ.Meets (Eval.construct t args) := by
  refine ensures_heap.bind fun h _ => ?_
  exact (ensures_ofCause (yields_instanceOf t hargs)).bind fun _ ho => ensures_newObject ho

omit hE in
theorem ensures_reify {e : Error} (he : σ.MeetsSignal (.fault e)) :
    σ.Ensures σ.Meets (Eval.reify e) := by
  obtain ⟨cause, trace⟩ := e
  unfold Eval.reify
  cases cause with
  | thrown v => exact ensures_pure he
  | _ => exact ensures_heap.bind fun h _ => ensures_makeError _ _ _

omit hE in
theorem ensures_makeMethods (scope : ScopeRef) {specs : List Value}
    (hspecs : ∀ s ∈ specs, σ.Meets s) :
    σ.Ensures (fun methods => ∀ e ∈ methods, σ.Meets e.2) (Eval.makeMethods scope specs) := by
  induction specs with
  | nil => exact ensures_pure fun e he => nomatch he
  | cons spec rest ih =>
    obtain ⟨hspec, hrest⟩ := List.forall_mem_cons.1 hspecs
    unfold Eval.makeMethods
    refine ensures_heap.bind fun h _ => ?_
    refine (ensures_ofCause (yields_methodSpec hspec)).bind fun parts hparts => ?_
    refine (ensures_makeNamed scope hparts parts.1).bind fun method hmethod => ?_
    refine (ih hrest).bind fun methods hmethods => ?_
    exact ensures_pure (List.forall_mem_cons.2 ⟨hmethod, hmethods⟩)

omit hE in
theorem ensures_evalDefineProtocol (scope : ScopeRef) (hoperands : ∀ x ∈ operands, σ.Meets x) :
    σ.Ensures σ.Meets (evalDefineProtocol scope operands) := by
  fun_cases evalDefineProtocol scope operands with
  | case1 => exact ensures_failArity _ _ _
  | case2 target specs =>
    refine ensures_heap.bind fun h _ => ?_
    refine (ensures_ofCause (yields_symbol h _ target)).bind fun name _ => ?_
    have hspecs := (List.forall_mem_cons.1 hoperands).2
    refine (ensures_makeMethods scope hspecs).bind fun methods hmethods => ?_
    refine (ensures_newProtocol hmethods).bind fun p _ => ?_
    have marked : σ.MeetsAll (.ofPairs [("protocol", .bool true)]) :=
      meetsAll_ofPairs (List.forall_mem_singleton.2 (meets_bool _))
    refine (ensures_defineVariable scope name (meets_entity _) marked).bind fun _ _ => ?_
    exact ensures_pure (meets_symbol _)

theorem ensures_extendType (scope : ScopeRef) (t : TypeRef) {specs : List Value}
    (hspecs : ∀ s ∈ specs, σ.Meets s) :
    σ.Ensures (fun _ => True) (E.extendType scope t specs) := by
  induction specs with
  | nil => exact ensures_pure trivial
  | cons spec rest ih =>
    obtain ⟨hspec, hrest⟩ := List.forall_mem_cons.1 hspecs
    unfold extendType
    cases spec with
    | symbol name =>
      refine (hE.eval scope _ hspec).bind fun v _ => ?_
      split
      · exact (ensures_install t _).bind fun _ _ => ih hrest
      · refine (ensures_print _).bind fun text _ => ?_
        exact (ensures_failMismatch (Q := fun _ => True) _).bind fun _ _ => ih hrest
    | _ =>
      refine ensures_heap.bind fun h _ => ?_
      refine (ensures_ofCause (yields_methodSpec hspec)).bind fun parts hparts => ?_
      refine (ensures_makeNamed scope hparts parts.1).bind fun method hmethod => ?_
      refine (ensures_modifyType t fun _ ht => ?_).bind fun _ _ => ih hrest
      exact ht.insert _ hmethod

theorem ensures_evalDefineType (scope : ScopeRef) (hoperands : ∀ x ∈ operands, σ.Meets x) :
    σ.Ensures σ.Meets (E.evalDefineType scope operands) := by
  match operands with
  | target :: fields :: specs =>
    have hspecs := (List.forall_mem_cons.1 (List.forall_mem_cons.1 hoperands).2).2
    refine ensures_heap.bind fun h _ => ?_
    refine (ensures_ofCause (yields_symbol h _ target)).bind fun name _ => ?_
    split
    next items =>
      have names : Yields (fun _ => True) (items.mapM (expectSymbol h "define-type")) :=
        (Yields.mapM fun x _ => yields_symbol h _ x).mono fun _ _ => trivial
      refine (ensures_ofCause names).bind fun names _ => ?_
      refine (ensures_newType name _).bind fun t _ => ?_
      have marked : σ.MeetsAll (.ofPairs [("type", .bool true)]) :=
        meetsAll_ofPairs (List.forall_mem_singleton.2 (meets_bool _))
      refine (ensures_defineVariable scope name (meets_entity _) marked).bind fun _ _ => ?_
      exact (ensures_extendType hE scope t hspecs).bind fun _ _ => ensures_pure (meets_symbol _)
    · exact ensures_failForm _
  | [] => exact ensures_failArity _ _ _
  | [_] => exact ensures_failArity _ _ _

/-! ### Control -/

theorem ensures_evalCases (scope : ScopeRef) {cases : List (Value × Value)}
    (hcases : ∀ p ∈ cases, σ.Meets p.1 ∧ σ.Meets p.2) :
    σ.Ensures σ.Meets (E.evalCases scope cases) := by
  induction cases with
  | nil => exact ensures_pure meets_nil
  | cons first rest ih =>
    obtain ⟨test, form⟩ := first
    obtain ⟨hfirst, hrest⟩ := List.forall_mem_cons.1 hcases
    unfold evalCases
    split
    · exact hE.eval scope form hfirst.2
    · refine (hE.eval scope test hfirst.1).bind fun v _ => ?_
      split
      · exact hE.eval scope form hfirst.2
      · exact ih hrest

theorem ensures_evalCond (scope : ScopeRef) (hoperands : ∀ x ∈ operands, σ.Meets x) :
    σ.Ensures σ.Meets (E.evalCond scope operands) := by
  unfold evalCond
  split
  · exact ensures_evalCases hE scope (meets_pairUp hoperands)
  · exact ensures_failForm _

theorem ensures_evalDo (scope : ScopeRef) (hoperands : ∀ x ∈ operands, σ.Meets x) :
    σ.Ensures σ.Meets (E.evalDo scope operands) :=
  (ensures_newScope_empty scope _).bind fun inner _ => ensures_evalBody hE inner hoperands

theorem ensures_evalCatches (scope : ScopeRef) {e : Error} (he : σ.MeetsSignal (.fault e))
    {thrown : Value} (hthrown : σ.Meets thrown) {catches : List CatchClause}
    (hcatches : ∀ c ∈ catches, σ.MeetsCatch c) :
    σ.Ensures σ.Meets (E.evalCatches scope e thrown catches) := by
  induction catches with
  | nil => exact ensures_throw he
  | cons c rest ih =>
    obtain ⟨hc, hrest⟩ := List.forall_mem_cons.1 hcatches
    unfold evalCatches
    refine (hE.eval scope c.cls hc.cls).bind fun cls _ => ?_
    refine ensures_heap.bind fun h _ => ?_
    refine (ensures_ofCause (yields_isInstance h thrown cls)).bind fun fits _ => ?_
    split
    · refine (ensures_newScope scope _ fun name b hb => ?_).bind fun handler _ => ?_
      · exact meetsBinding_bindAll (List.forall_mem_singleton.2 hthrown) hb
      · exact ensures_evalBody hE handler hc.body
    · exact ih hrest

theorem ensures_handle (scope : ScopeRef) {catches : List CatchClause}
    (hcatches : ∀ c ∈ catches, σ.MeetsCatch c) {e : Error} (he : σ.MeetsSignal (.fault e)) :
    σ.Ensures σ.Meets (E.handle scope catches e) :=
  (ensures_reify he).bind fun _ hthrown => ensures_evalCatches hE scope he hthrown hcatches

theorem ensures_evalGuarded (scope : ScopeRef) {parts : TryParts} (hparts : σ.MeetsTry parts) :
    σ.Ensures (σ.MeetsOutcome σ.Meets) (E.evalGuarded scope parts) := by
  refine (ensures_evalBody hE scope hparts.body).attempt.bind fun outcome houtcome => ?_
  -- only an error is handled, and only if there is a clause that could
  split
  · split
    · exact ensures_pure houtcome
    · exact (ensures_handle hE scope hparts.catches houtcome).attempt
  · exact ensures_pure houtcome

theorem ensures_cleanUp (scope : ScopeRef) {body : List Value} (hbody : ∀ f ∈ body, σ.Meets f)
    {outcome : Except Signal Value} (houtcome : σ.MeetsOutcome σ.Meets outcome) :
    σ.Ensures σ.Meets (E.cleanUp scope body outcome) := by
  refine (ensures_newScope_empty scope _).bind fun inner _ => ?_
  refine (ensures_evalBody hE inner hbody).bind fun value hvalue => ?_
  cases outcome with
  | ok v =>
    refine ensures_pure ?_
    split
    · exact houtcome
    · exact hvalue
  | error s => exact ensures_throw houtcome

theorem ensures_evalTry (scope : ScopeRef) (hoperands : ∀ x ∈ operands, σ.Meets x) :
    σ.Ensures σ.Meets (E.evalTry scope operands) := by
  refine ensures_heap.bind fun h _ => ?_
  refine (ensures_ofCause (yields_parseTry hoperands)).bind fun parts hparts => ?_
  refine (ensures_newScope_empty scope _).bind fun inner _ => ?_
  refine (ensures_evalGuarded hE inner hparts).bind fun outcome houtcome => ?_
  -- a signal that ends the run for good is passed on; after any other outcome there is cleaning up
  split
  next hbody =>
    split
    · exact ensures_throw houtcome
    · exact ensures_cleanUp hE inner (hparts.cleanup _ hbody) houtcome
  next hbody => exact ensures_cleanUp hE inner (hparts.cleanup _ hbody) houtcome
  · exact ensures_ofOutcome houtcome

omit hE in
theorem ensures_raise (scope : ScopeRef) {v : Value} (hv : σ.Meets v) :
    σ.Ensures σ.Meets (raise scope v) := by
  fun_cases raise scope v with
  | case1 message => exact (ensures_trace scope).bind fun _ _ => ensures_makeError _ _ _
  | case2 r =>
    refine ensures_get.bind fun m _ => ?_
    split
    · exact ensures_pure hv
    · refine (ensures_trace scope).bind fun trace _ => ?_
      exact (ensures_setField r _ (meets_string _)).bind fun _ _ => ensures_pure hv
  | case3 => exact ensures_pure hv

theorem ensures_evalThrow (scope : ScopeRef) (hoperands : ∀ x ∈ operands, σ.Meets x) :
    σ.Ensures σ.Meets (E.evalThrow scope operands) := by
  unfold evalThrow
  split
  · refine (hE.eval scope _ (List.forall_mem_singleton.1 hoperands)).bind fun v hv => ?_
    exact (ensures_raise scope hv).bind fun thrown hthrown => ensures_failIn scope hthrown
  · exact ensures_failArity _ _ _

/-! ### Properties and methods -/

theorem ensures_evalKey (scope : ScopeRef) {form : Value} (hform : σ.Meets form) :
    σ.Ensures σ.Meets (E.evalKey scope form) := by
  unfold evalKey
  split
  · exact ensures_pure (meets_string _)
  · exact hE.eval scope _ hform

theorem ensures_evalPropertyGet [Tables] (scope : ScopeRef) (source : Value)
    (hoperands : ∀ x ∈ operands, σ.Meets x) :
    σ.Ensures σ.Meets (E.evalPropertyGet scope source operands) := by
  unfold evalPropertyGet
  split
  · simp only [List.forall_mem_cons] at hoperands
    refine (hE.eval scope _ hoperands.1).bind fun target htarget => ?_
    split
    · exact (ensures_print source).bind fun _ _ => ensures_failMismatch _
    · refine (ensures_evalKey hE scope hoperands.2.1).bind fun key hkey => ?_
      exact ensures_heap.bind fun h hh => ensures_ofCause (yields_property hh htarget hkey)
  · exact ensures_failArity _ _ _

theorem ensures_evalPropertySet (scope : ScopeRef) (hoperands : ∀ x ∈ operands, σ.Meets x) :
    σ.Ensures σ.Meets (E.evalPropertySet scope operands) := by
  unfold evalPropertySet
  split
  · simp only [List.forall_mem_cons] at hoperands
    refine (hE.eval scope _ hoperands.1).bind fun target _ => ?_
    refine (ensures_evalKey hE scope hoperands.2.1).bind fun key _ => ?_
    refine (hE.eval scope _ hoperands.2.2.1).bind fun value hvalue => ?_
    refine ensures_heap.bind fun h _ => ?_
    split
    · exact (ensures_setField _ _ hvalue).bind fun _ _ => ensures_pure hvalue
    · exact (ensures_print _).bind fun _ _ => ensures_failMismatch _
  · exact ensures_failArity _ _ _

theorem ensures_callObjectMethod (r : ObjectRef) (method : String) {args : List Value}
    (hargs : ∀ a ∈ args, σ.Meets a) (source : Value) :
    σ.Ensures σ.Meets (E.callObjectMethod r method args source) := by
  unfold callObjectMethod
  refine ensures_heap.bind fun h hh => ?_
  dsimp only
  split
  -- a method gets the object first, the value of a field does not
  next f hf =>
    exact hE.call f _ source (hh.method hf) (List.forall_mem_cons.2 ⟨meets_entity _, hargs⟩)
  · split
    next f hf => exact hE.call f args source (hh.object r _ f hf) hargs
    · exact ensures_failMismatch _

omit hE in
/-- Whether a call of a method splits a string. -/
def splits (receiver : Value) (method : String) : Bool :=
  receiver matches .string _ && StringMethod.ofName? method = some .split

/-- A call of a method, unless it splits a string although vectors are covered. -/
theorem ensures_callMethod [Tables] {receiver : Value} (hreceiver : σ.Meets receiver)
    {method : String}
    (other : σ.vectors = true → splits receiver method = false) {args : List Value}
    (hargs : ∀ a ∈ args, σ.Meets a) (source : Value) :
    σ.Ensures σ.Meets (E.callMethod receiver method args source) := by
  unfold callMethod
  split
  · exact ensures_callObjectMethod hE _ method hargs source
  · split
    next sm hsm =>
      refine ensures_heap.bind fun h _ => ensures_ofCause (yields_runMethod (fun covered => ?_) _ _)
      rintro rfl
      simpa [splits, hsm] using other covered
    · exact ensures_failMismatch _
  · exact (ensures_print source).bind fun _ _ => ensures_failMismatch _
  · refine ensures_heap.bind fun h hh => ?_
    refine (ensures_ofCause (yields_property hh hreceiver (meets_string _))).bind fun f hf => ?_
    split
    · exact ensures_failMismatch _
    · exact hE.call _ args source hf hargs

omit hE in
theorem meets_splitCall {method : Value} {forms : List Value}
    (hoperands : ∀ x ∈ operands, σ.Meets x) (h : splitCall operands = some (method, forms)) :
    ∀ f ∈ forms, σ.Meets f := by
  unfold splitCall at h
  split at h
  · cases h
  · cases h
    have items := meets_list.1 (List.forall_mem_singleton.1 hoperands)
    exact (List.forall_mem_cons.1 items).2
  · cases h
    exact (List.forall_mem_cons.1 hoperands).2

theorem ensures_evalNew (scope : ScopeRef) (hoperands : ∀ x ∈ operands, σ.Meets x) :
    σ.Ensures σ.Meets (E.evalNew scope operands) := by
  unfold evalNew
  split
  · exact ensures_failArity _ _ _
  · obtain ⟨hcls, hforms⟩ := List.forall_mem_cons.1 hoperands
    refine (hE.eval scope _ hcls).bind fun cls _ => ?_
    refine (ensures_evalAll hE scope hforms).bind fun args hargs => ?_
    split
    · exact ensures_construct _ hargs
    · exact (ensures_print _).bind fun _ _ => ensures_failMismatch _

/-! ### Calls -/

omit hE in
theorem ensures_printValues (args : List Value) : σ.Ensures σ.Meets (printValues args) :=
  ensures_heap.bind fun _ _ => (ensures_printLine _).bind fun _ _ => ensures_pure meets_nil

omit hE in
theorem ensures_printText (v : Value) : σ.Ensures σ.Meets (printText v) :=
  (ensures_print v).bind fun _ _ => (ensures_printLine _).bind fun _ _ => ensures_pure meets_nil

omit hE in
theorem ensures_makeSymbol (start : String) : σ.Ensures σ.Meets (makeSymbol start) :=
  ensures_fresh.bind fun _ _ => ensures_pure (meets_sym _)

theorem ensures_items {coll : Value} (hcoll : σ.Meets coll) :
    σ.Ensures (fun xs => ∀ x ∈ xs, σ.Meets x) (E.items coll) := by
  unfold items
  rw [hE.mode]
  exact ensures_heap.bind fun _ _ => ensures_ofCause (yields_items hcoll)

theorem ensures_map {f : Value} (hf : σ.Meets f) {xs : List Value} (hxs : ∀ x ∈ xs, σ.Meets x) :
    σ.Ensures σ.Meets (Collection.map (E.apply f) xs) :=
  (Ensures.mapM fun x hx => ensures_apply hE hf (List.forall_mem_singleton.2 (hxs x hx))).bind
    fun _ hys => ensures_pure (meets_list.2 hys)

theorem ensures_filter {f : Value} (hf : σ.Meets f) {xs : List Value} (hxs : ∀ x ∈ xs, σ.Meets x) :
    σ.Ensures σ.Meets (Collection.filter (E.apply f) xs) := by
  refine Ensures.bind (Q := fun kept => ∀ x ∈ kept, σ.Meets x) ?_ fun kept hkept =>
    ensures_pure (meets_list.2 fun x hx => hkept x (List.mem_reverse.1 hx))
  refine Ensures.foldlM (fun x hx => nomatch hx) fun x hx kept hkept => ?_
  refine (ensures_apply hE hf (List.forall_mem_singleton.2 (hxs x hx))).bind fun v _ => ?_
  refine ensures_pure ?_
  split
  · exact List.forall_mem_cons.2 ⟨hxs x hx, hkept⟩
  · exact hkept

theorem ensures_reduce {f : Value} (hf : σ.Meets f) {start : Option Value}
    (hstart : ∀ v ∈ start, σ.Meets v) {xs : List Value} (hxs : ∀ x ∈ xs, σ.Meets x) :
    σ.Ensures σ.Meets (Collection.reduce (E.apply f) start xs) := by
  have fold {a : Value} (ha : σ.Meets a) {xs : List Value} (hxs : ∀ x ∈ xs, σ.Meets x) :
      σ.Ensures σ.Meets (xs.foldlM (fun acc x => E.apply f [acc, x]) a) := by
    refine Ensures.foldlM ha fun x hx acc hacc => ensures_apply hE hf ?_
    exact List.forall_mem_cons.2 ⟨hacc, List.forall_mem_singleton.2 (hxs x hx)⟩
  unfold Collection.reduce
  split
  · exact fold (hstart _ rfl) hxs
  · obtain ⟨ha, hxs⟩ := List.forall_mem_cons.1 hxs
    exact fold ha hxs
  · exact ensures_apply hE hf fun a ha => nomatch ha

theorem ensures_callProcedure [Tables] (proc : Procedure) {args : List Value}
    (hargs : ∀ a ∈ args, σ.Meets a) : σ.Ensures σ.Meets (E.callProcedure proc args) := by
  unfold callProcedure
  split
  · simp only [List.forall_mem_cons] at hargs
    exact (ensures_items hE hargs.2.1).bind fun xs hxs => ensures_map hE hargs.1 hxs
  · simp only [List.forall_mem_cons] at hargs
    exact (ensures_items hE hargs.2.1).bind fun xs hxs => ensures_filter hE hargs.1 hxs
  · simp only [List.forall_mem_cons] at hargs
    exact (ensures_items hE hargs.2.1).bind fun xs hxs =>
      ensures_reduce hE hargs.1 (by simp) hxs
  · simp only [List.forall_mem_cons] at hargs
    exact (ensures_items hE hargs.2.2.1).bind fun xs hxs =>
      ensures_reduce hE hargs.1 (by simpa using hargs.2.1) hxs
  next arg args =>
    -- the last argument holds further ones
    obtain ⟨hf, hargs⟩ := List.forall_mem_cons.1 hargs
    have hlast : σ.Meets ((arg :: args).getLastD arg) := by
      rw [List.getLastD_cons]
      exact hargs _ List.getLastD_mem_cons
    refine (ensures_items hE hlast).bind fun xs hxs => ?_
    refine ensures_apply hE hf (List.forall_mem_append.2 ⟨fun a ha => ?_, hxs⟩)
    exact hargs a (List.mem_of_mem_dropLast ha)
  · exact ensures_makeSymbol _
  · exact ensures_heap.bind fun h _ =>
      (ensures_ofCause (yields_name h _)).bind fun text _ => ensures_makeSymbol text
  · exact ensures_evalForm hE (List.forall_mem_singleton.1 hargs)
  · exact ensures_expandForm hE (List.forall_mem_singleton.1 hargs)
  · exact ensures_heap.bind fun h _ =>
      (ensures_ofCause (yields_string h _)).bind fun path _ => ensures_loadFile hE path
  · exact ensures_printValues _
  · exact ensures_printText _
  · exact ensures_printText _
  · rw [hE.mode]
    exact ensures_heap.bind fun h hh => ensures_ofCause (yields_compute hh _ hargs)

theorem ensures_callBuiltin [Tables] (b : Builtin) {args : List Value}
    (hargs : ∀ a ∈ args, σ.Meets a) :
    σ.Ensures σ.Meets (E.callBuiltin b args) := by
  unfold callBuiltin
  cases b with
  | operator op => exact ensures_heap.bind fun h _ => ensures_ofCause (yields_operator op args)
  | procedure proc => exact ensures_callProcedure hE proc hargs
  | math f => exact ensures_heap.bind fun h _ => ensures_ofCause (yields_math f args)
  | consoleLog =>
    cases args with
    | nil => exact ensures_throw trivial
    | cons receiver args => exact ensures_printValues args
  | parseFloat => exact ensures_heap.bind fun h _ => ensures_ofCause (yields_parseFloat args)
  | parseInt => exact ensures_heap.bind fun h _ => ensures_ofCause (yields_parseInt args)

omit hE in
theorem ensures_lookupArguments (callee : Value) {args : List Value}
    (hargs : ∀ a ∈ args, σ.Meets a) :
    σ.Ensures (fun p => σ.Meets p.1 ∧ ∀ d ∈ p.2, σ.Meets d) (lookupArguments callee args) := by
  unfold lookupArguments
  split
  · exact ensures_pure ⟨List.forall_mem_singleton.1 hargs, by simp⟩
  · simp only [List.forall_mem_cons] at hargs
    exact ensures_pure ⟨hargs.1, by simpa using hargs.2.1⟩
  · exact (ensures_print callee).bind fun _ _ => ensures_throw trivial

omit hE in
theorem ensures_callCollection [Tables] {coll : Value} (hcoll : σ.Meets coll) {args : List Value}
    (hargs : ∀ a ∈ args, σ.Meets a) : σ.Ensures σ.Meets (callCollection coll args) :=
  (ensures_lookupArguments coll hargs).bind fun _ harguments => ensures_heap.bind fun _ hh =>
    ensures_pure (meets_getOr hh hcoll harguments.1 harguments.2)

omit hE in
theorem ensures_callKey [Tables] {key : Value} (hkey : σ.Meets key) {args : List Value}
    (hargs : ∀ a ∈ args, σ.Meets a) : σ.Ensures σ.Meets (callKey key args) :=
  (ensures_lookupArguments key hargs).bind fun _ harguments => ensures_heap.bind fun _ hh =>
    ensures_pure (meets_getOr hh harguments.1 hkey harguments.2)

/-- Calling a value keeps to the standard. -/
theorem ensures_callValue [Tables] {f : Value} (hf : σ.Meets f) {args : List Value}
    (hargs : ∀ a ∈ args, σ.Meets a) (form : Value) :
    σ.Ensures σ.Meets (E.callValue f args form) := by
  unfold callValue
  split
  · exact ensures_callLambda hE _ hargs
  · exact ensures_callBuiltin hE _ hargs
  · exact ensures_applyMixin _ hargs
  · exact ensures_construct _ hargs
  · exact ensures_callCollection hf hargs
  · exact ensures_callCollection hf hargs
  · exact ensures_callKey hf hargs
  · exact ensures_callKey hf hargs
  · exact ensures_callKey (meets_symbol _) hargs
  · split
    · refine ensures_heap.bind fun h hh => ensures_pure ?_
      exact meets_get hh hf (List.forall_mem_singleton.1 hargs)
    · exact (ensures_print _).bind fun _ _ => ensures_throw trivial
  · exact (ensures_print form).bind fun _ _ => ensures_throw trivial

/-! ### Forms -/

/-- A special form, given that calls of methods keep to the standard. -/
theorem ensures_evalSpecial [Tables] (scope : ScopeRef) (form : SpecialForm)
    (hoperands : ∀ x ∈ operands, σ.Meets x) {source : Value} (hsource : σ.Meets source)
    (methods : form = .methodCall → σ.Ensures σ.Meets (E.evalMethodCall scope source operands)) :
    σ.Ensures σ.Meets (E.evalSpecial scope form operands source) := by
  unfold evalSpecial
  cases form with
  | quote =>
    dsimp only
    split
    · exact ensures_pure (List.forall_mem_singleton.1 hoperands)
    · exact ensures_failArity _ _ _
  | define => exact ensures_evalDefine hE scope hoperands
  | assign => exact ensures_evalAssign hE scope hoperands
  | cond => exact ensures_evalCond hE scope hoperands
  | lambda =>
    exact (ensures_makeLambda scope hoperands hsource _).bind fun _ _ =>
      ensures_pure (meets_entity _)
  | do_ => exact ensures_evalDo hE scope hoperands
  | try_ => exact ensures_evalTry hE scope hoperands
  | catch_ => exact (ensures_print source).bind fun _ _ => ensures_failForm _
  | finally_ => exact (ensures_print source).bind fun _ _ => ensures_failForm _
  | loop => exact ensures_evalLoop hE scope hoperands
  | again => exact ensures_evalAgain hE scope hoperands
  | defineProtocol => exact ensures_evalDefineProtocol scope hoperands
  | defineType => exact ensures_evalDefineType hE scope hoperands
  | defineMacro => exact ensures_evalDefineMacro scope hoperands
  | throw_ => exact ensures_evalThrow hE scope hoperands
  | propertyGet => exact ensures_evalPropertyGet hE scope source hoperands
  | propertySet => exact ensures_evalPropertySet hE scope hoperands
  | methodCall => exact methods rfl
  | new => exact ensures_evalNew hE scope hoperands
  | module_ => exact ensures_evalModule operands
  | require => exact ensures_evalRequire hE operands
  | use => exact ensures_evalUse operands

theorem ensures_evalOperation (scope : ScopeRef) {head : Value} (hhead : σ.Meets head)
    (hoperands : ∀ x ∈ operands, σ.Meets x) :
    σ.Ensures σ.Meets (E.evalOperation scope head operands) := by
  unfold evalOperation
  refine (ensures_evalAll hE scope hoperands).bind fun args hargs => ?_
  dsimp only
  split
  · exact ensures_heap.bind fun h _ => ensures_ofCause (yields_operator _ args)
  · exact (hE.eval scope head hhead).bind fun f hf => hE.call f args head hf hargs

omit hE in
theorem meets_shorthand {op : Name} {form : Value} (hoperands : ∀ x ∈ operands, σ.Meets x)
    (h : Shorthand.expand? op operands = some form) : σ.Meets form := by
  unfold Shorthand.expand? at h
  split at h
  · split at h
    · cases h
    · obtain ⟨hreceiver, hargs⟩ := List.forall_mem_cons.1 hoperands
      split at h
      · split at h
        · cases h
        · cases h
          simpa using hreceiver
      · cases h
        simpa using ⟨hreceiver, hargs⟩
  · split at h
    · cases h
      simpa using hoperands
    · cases h

theorem ensures_evalCall (scope : ScopeRef) {head : Value} (hhead : σ.Meets head)
    (hoperands : ∀ x ∈ operands, σ.Meets x) :
    σ.Ensures σ.Meets (E.evalCall scope head operands) := by
  unfold evalCall
  split
  · split
    next form hform => exact hE.eval scope form (meets_shorthand hoperands hform)
    · exact ensures_evalOperation hE scope hhead hoperands
  · exact ensures_evalOperation hE scope hhead hoperands

theorem ensures_evalList [Tables] (scope : ScopeRef) {items : List Value}
    (hitems : ∀ x ∈ items, σ.Meets x) (methods : ∀ name operands, items = .symbol name :: operands →
      SpecialForm.ofName? name = some .methodCall →
      σ.Ensures σ.Meets (E.evalMethodCall scope (.list items) operands)) :
    σ.Ensures σ.Meets (E.evalList scope items) := by
  unfold evalList
  match items with
  | [] => exact ensures_pure (meets_list.2 hitems)
  | head :: operands =>
    obtain ⟨hhead, hoperands⟩ := List.forall_mem_cons.1 hitems
    dsimp only
    split
    next name =>
      split
      next form hform =>
        refine ensures_evalSpecial hE scope form hoperands (meets_list.2 hitems) fun hmethod => ?_
        exact methods name operands rfl (hmethod ▸ hform)
      · exact ensures_evalCall hE scope hhead hoperands
    · exact ensures_evalCall hE scope hhead hoperands

theorem ensures_evalEntries [Tables] (scope : ScopeRef) {entries : List (Filed Value × Value)}
    (hentries : ∀ e ∈ entries, σ.Meets e.1.value ∧ σ.Meets e.2) {s : Shelf}
    (hs : σ.Meets s.toMap) :
    σ.Ensures (fun s => σ.Meets s.toMap) (E.evalEntries scope entries s) := by
  refine .foldlM hs fun e he s hs => ?_
  refine (hE.eval scope e.1.value (hentries e he).1).bind fun key hkey => ?_
  refine (hE.eval scope e.2 (hentries e he).2).bind fun value hvalue => ?_
  exact ensures_heap.bind fun h _ => ensures_pure (meets_insert hs hkey hvalue)

theorem ensures_evalItems [Tables] (scope : ScopeRef) {items : List (Filed Value)}
    (hitems : ∀ x ∈ items, σ.Meets x.value) {s : Shelf} (hs : σ.Meets s.toMap) :
    σ.Ensures (fun s => σ.Meets s.toMap) (E.evalItems scope items s) := by
  refine .foldlM hs fun x hx s hs => ?_
  refine (hE.eval scope x.value (hitems x hx)).bind fun element helement => ?_
  exact ensures_heap.bind fun h _ => ensures_pure (meets_insert hs helement meets_nil)

/-- A form that has been expanded, given that calls of methods keep to the standard. -/
theorem ensures_evalExpanded [Tables] (scope : ScopeRef) {form : Value} (hform : σ.Meets form)
    (methods : ∀ name operands, form = .list (.symbol name :: operands) →
      SpecialForm.ofName? name = some .methodCall →
      σ.Ensures σ.Meets (E.evalMethodCall scope form operands)) :
    σ.Ensures σ.Meets (E.evalExpanded scope form) := by
  unfold evalExpanded
  cases form with
  | nil => exact ensures_pure hform
  | bool b => exact ensures_pure hform
  | number n => exact ensures_pure hform
  | string s => exact ensures_pure hform
  | regex text => exact ensures_pure hform
  | entity e => exact ensures_pure hform
  | keyword name => exact ensures_get.bind fun m _ => ensures_pure (meets_keyword _)
  | symbol name =>
    exact ensures_get.bind fun m hm => ensures_ofCause (yields_valueOf hm scope name)
  | quoted inner => exact ensures_pure (meets_quoted.1 hform)
  | list items =>
    exact ensures_evalList hE scope (meets_list.1 hform) fun name operands h =>
      methods name operands (h ▸ rfl)
  | vector rep items =>
    obtain ⟨hrep, hitems⟩ := meets_vector.1 hform
    exact (ensures_evalAll hE scope hitems).bind fun vs hvs =>
      ensures_pure (meets_vector.2 ⟨hrep, hvs⟩)
  | map t entries =>
    obtain ⟨hrep, hentries⟩ := meets_map.1 hform
    have opened : σ.Meets (Shelf.opened t.rep 0).toMap := hrep ▸ meets_opened
    exact (ensures_evalEntries hE scope hentries opened).bind fun s hs => ensures_pure hs
  | set t items =>
    obtain ⟨hrep, hitems⟩ := meets_set.1 hform
    have opened : σ.Meets (Shelf.opened t.rep 0).toMap := hrep ▸ meets_opened
    exact (ensures_evalItems hE scope hitems opened).bind fun s hs => ensures_pure (meets_toSet hs)

/-- A call of a method, if vectors are not covered. -/
theorem ensures_evalMethodCall [Tables] (hσ : σ.vectors = false) (scope : ScopeRef) (source : Value)
    (hoperands : ∀ x ∈ operands, σ.Meets x) :
    σ.Ensures σ.Meets (E.evalMethodCall scope source operands) := by
  unfold evalMethodCall
  split
  next target method forms htarget hcall =>
    have hforms := meets_splitCall (fun x hx => hoperands x (List.mem_of_mem_tail hx)) hcall
    refine (hE.eval scope target (hoperands _ (List.mem_of_head? htarget))).bind
      fun receiver hreceiver => ?_
    refine (ensures_evalAll hE scope hforms).bind fun args hargs => ?_
    exact ensures_callMethod hE hreceiver (by simp [hσ]) hargs source
  · exact (ensures_print source).bind fun _ _ => ensures_failForm _
  · exact ensures_failArity _ _ _

omit hE in
/-- Each round of fuel goes once through the rules, with the engine of the rounds below it. -/
theorem keeps_ofFuel [Tables] (hσ : σ.vectors = false) {s : Setting}
    (hs : s.options.representation = σ.rep) (fuel : Nat) : (ofFuel s fuel).Keeps σ := by
  induction fuel with
  | zero => exact ⟨hs, fun _ _ _ => ensures_throw trivial, fun _ _ _ _ _ => ensures_throw trivial⟩
  | succ fuel ih =>
    refine ⟨hs, fun scope form hform => ?_, fun f args form hf hargs => ?_⟩
    · refine (ensures_expand ih scope hform).bind fun form hform => ?_
      refine ensures_evalExpanded ih scope hform fun name operands h _ => ?_
      subst h
      exact ensures_evalMethodCall ih hσ scope _ (List.forall_mem_cons.1 (meets_list.1 hform)).2
    · exact ensures_callValue ih hf hargs form

end Engine

end Lisp
