import Lisp.Eval.Step
import Lisp.Proofs.Machine.Standard

/-!
# What the library makes of values that meet a standard

Procedures that need nothing but the heap give back parts of their arguments, or of what is on the
heap, and what they make of these: from nothing in the representation that they are told, from a
collection in the representation that it has. So they keep to a standard if they are told its
representation. The one exception is the method that splits a string, which is told none.

## Main results

* `Standard.yields_compute` — procedures of the standard library
* `Standard.yields_runMethod` — methods of strings
* `Standard.yields_property` — properties
* `Standard.yields_clauseTable`, `Standard.yields_parseTry`, … — the parts of special forms
-/

namespace Lisp

namespace Standard

variable {σ : Standard} {h : Heap} {v : Value} {xs : List Value}

/-! ### Operands, operators and the host -/

theorem yields_number (h : Heap) (v : Value) : Yields (fun _ => True) (Operand.number h v) := by
  cases v <;> trivial

theorem yields_numbers (h : Heap) (xs : List Value) :
    Yields (fun _ => True) (Operand.numbers h xs) :=
  (Yields.mapM fun x _ => yields_number h x).mono fun _ _ => trivial

theorem yields_string (h : Heap) (v : Value) : Yields (fun _ => True) (Operand.string h v) := by
  cases v <;> trivial

theorem yields_name (h : Heap) (v : Value) : Yields (fun _ => True) (Operand.name h v) := by
  cases v <;> trivial

theorem yields_index (h : Heap) (v : Value) : Yields (fun _ => True) (Operand.index h v) := by
  unfold Operand.index
  split
  · split
    · trivial
    · trivial
  · trivial

theorem yields_symbol (h : Heap) (context : String) (v : Value) :
    Yields (fun _ => True) (expectSymbol h context v) := by
  cases v <;> trivial

theorem yields_foldWords (f : Int64 → Int64 → Int64) (x : Value) (xs : List Value) :
    Yields σ.Meets (Operator.foldWords h f x xs) := by
  have words : Yields (fun _ => True) (Operator.words h (x :: xs)) :=
    (yields_numbers h _).bind fun _ _ => trivial
  refine words.bind fun ws _ => ?_
  cases ws with
  | nil => exact meets_nil
  | cons w ws => exact meets_number _

theorem yields_shift (op : Operator) (f : Int64 → Nat → Int64) (w amount : Int64) :
    Yields σ.Meets (Operator.shift op f w amount) := by
  unfold Operator.shift
  dsimp only
  split
  · exact meets_number _
  · trivial

theorem yields_operator (op : Operator) (xs : List Value) : Yields σ.Meets (op.run h xs) := by
  unfold Operator.run
  split
  · exact (yields_numbers h _).bind fun _ _ => meets_number _
  · exact (yields_numbers h _).bind fun _ _ => meets_number _
  · exact (yields_numbers h _).bind fun _ _ => meets_number _
  · exact (yields_numbers h _).bind fun _ _ => meets_number _
  · exact (yields_number h _).bind fun _ _ => (yields_number h _).bind fun _ _ => meets_number _
  · exact yields_foldWords _ _ _
  · exact yields_foldWords _ _ _
  · exact yields_foldWords _ _ _
  · exact (yields_number h _).bind fun _ _ => meets_number _
  · exact (yields_number h _).bind fun _ _ => (yields_number h _).bind fun _ _ => yields_shift ..
  · exact (yields_number h _).bind fun _ _ => (yields_number h _).bind fun _ _ => yields_shift ..
  · exact meets_string _
  · exact (yields_number h _).bind fun _ _ => meets_number _
  · exact (yields_number h _).bind fun _ _ => meets_number _
  · exact meets_bool _
  · trivial

theorem yields_math (f : MathFunction) (xs : List Value) : Yields σ.Meets (f.run h xs) := by
  unfold MathFunction.run
  split
  · exact (yields_numbers h _).bind fun _ _ => meets_number _
  · exact (yields_numbers h _).bind fun _ _ => meets_number _
  · exact (yields_number h _).bind fun _ _ => (yields_number h _).bind fun _ _ => meets_number _
  · trivial
  · exact (yields_number h _).bind fun _ _ => meets_number _
  · trivial

theorem yields_parseFloat (xs : List Value) : Yields σ.Meets (Host.parseFloat h xs) := by
  unfold Host.parseFloat
  split
  · exact (yields_string h _).bind fun _ _ => meets_number _
  · trivial

theorem yields_parseInt (xs : List Value) : Yields σ.Meets (Host.parseInt h xs) := by
  unfold Host.parseInt
  split
  · exact (yields_string h _).bind fun _ _ => meets_number _
  · exact (yields_string h _).bind fun _ _ => (yields_number h _).bind fun _ _ => meets_number _
  · trivial

/-! ### Collections -/

theorem yields_items (hv : σ.Meets v) :
    Yields (fun xs => ∀ x ∈ xs, σ.Meets x) (Collection.items h σ.rep v) := by
  cases v with
  | nil => exact fun x hx => nomatch hx
  | list xs => exact meets_list.1 hv
  | vector r xs => exact (meets_vector.1 hv).2
  | set r xs => exact List.forall_mem_map.2 (meets_set.1 hv).2
  | map r es =>
    refine List.forall_mem_map.2 fun e he => meets_vector_rep ?_
    have entry := (meets_map.1 hv).2 e he
    exact List.forall_mem_cons.2 ⟨entry.1, List.forall_mem_singleton.2 entry.2⟩
  | string s => exact List.forall_mem_map.2 fun g _ => meets_string g
  | _ => trivial

theorem yields_cons {x : Value} (hx : σ.Meets x) (hv : σ.Meets v) :
    Yields σ.Meets (Collection.cons h σ.rep x v) :=
  (yields_items hv).bind fun _ hxs => meets_list.2 (List.forall_mem_cons.2 ⟨hx, hxs⟩)

/-- An element at a place that may be none. -/
theorem meets_getElem? (hxs : ∀ x ∈ xs, σ.Meets x) (i : Nat) : σ.Meets (xs[i]?.getD .nil) :=
  meets_getD fun x hx => hxs x (List.mem_of_getElem? hx)

theorem meets_head? (hxs : ∀ x ∈ xs, σ.Meets x) : σ.Meets (xs.head?.getD .nil) :=
  meets_getD fun x hx => hxs x (List.mem_of_head? hx)

theorem yields_first (hv : σ.Meets v) : Yields σ.Meets (Collection.first h σ.rep v) := by
  unfold Collection.first
  split
  · exact meets_head? (meets_list.1 hv)
  · exact meets_head? (meets_vector.1 hv).2
  · exact (yields_items hv).bind fun _ hxs => meets_head? hxs

theorem yields_rest (hv : σ.Meets v) : Yields σ.Meets (Collection.rest h σ.rep v) :=
  (yields_items hv).bind fun _ hxs => meets_list.2 fun x hx => hxs x (List.mem_of_mem_drop hx)

theorem yields_count (v : Value) : Yields (fun _ => True) (Collection.count v) := by
  cases v <;> trivial

theorem yields_nth (hv : σ.Meets v) (i : Nat) : Yields σ.Meets (Collection.nth h σ.rep v i) := by
  unfold Collection.nth
  split
  · exact meets_getElem? (meets_vector.1 hv).2 i
  · exact (yields_items hv).bind fun _ hxs => meets_getElem? hxs i

theorem MeetsAll.getD {d : Dict Value} (hd : σ.MeetsAll d) (name : String) :
    σ.Meets ((d.get? name).getD .nil) :=
  meets_getD fun w hw => hd name w hw

theorem meets_get [Tables] (hh : σ.Covers h) (hv : σ.Meets v) {key : Value} (hkey : σ.Meets key) :
    σ.Meets (Collection.get h v key) := by
  unfold Collection.get
  split
  · refine meets_getD fun w hw => ?_
    obtain ⟨e, he, rfl⟩ := Option.map_eq_some_iff.1 hw
    exact ((meets_map.1 hv).2 e (List.mem_of_find?_eq_some he)).2
  · split
    · exact hkey
    · exact meets_nil
  · refine meets_getD fun w hw => ?_
    obtain ⟨i, -, hi⟩ := Option.bind_eq_some_iff.1 hw
    exact (meets_vector.1 hv).2 w (List.mem_of_getElem? hi)
  · cases (Collection.indexOf? key).bind ((Text.graphemes _)[·]?) with
    | none => exact meets_nil
    | some g => exact meets_string g
  · split
    · exact (hh.object _).getD _
    · exact (hh.object _).getD _
    · exact meets_nil
  · exact meets_nil

theorem meets_getOr [Tables] (hh : σ.Covers h) (hv : σ.Meets v) {key : Value} (hkey : σ.Meets key)
    {default : Option Value} (hdefault : ∀ d ∈ default, σ.Meets d) :
    σ.Meets (Library.getOr h v key default) := by
  unfold Library.getOr
  split
  · split
    · exact meets_get hh hv hkey
    · exact hdefault _ rfl
  · exact meets_get hh hv hkey

theorem yields_assoc [Tables] {coll key value : Value} (hcoll : σ.Meets coll) (hkey : σ.Meets key)
    (hvalue : σ.Meets value) : Yields σ.Meets (Collection.assoc h σ.rep coll key value) := by
  unfold Collection.assoc
  split
  · exact meets_mapOf (List.forall_mem_singleton.2 ⟨hkey, hvalue⟩)
  · exact meets_insert (s := ⟨_, _⟩) hcoll hkey hvalue
  · obtain ⟨hrep, hxs⟩ := meets_vector.1 hcoll
    split
    · trivial
    -- a position is replaced, or the one behind the last is added
    · split
      · refine meets_vector.2 ⟨hrep, fun x hx => ?_⟩
        obtain hx | rfl := List.mem_or_eq_of_mem_set hx
        · exact hxs x hx
        · exact hvalue
      · split
        · refine meets_vector.2 ⟨hrep, List.forall_mem_append.2 ⟨hxs, ?_⟩⟩
          exact List.forall_mem_singleton.2 hvalue
        · trivial
  · trivial

theorem yields_dissoc [Tables] {coll : Value} (hcoll : σ.Meets coll) (key : Value) :
    Yields σ.Meets (Collection.dissoc h coll key) := by
  cases coll with
  | nil => exact meets_nil
  | map t es => exact meets_erase (s := ⟨t, es⟩) hcoll
  | _ => trivial

theorem yields_mergeInto [Tables] {result coll : Value} (hresult : σ.Meets result)
    (hcoll : σ.Meets coll) :
    Yields σ.Meets (Collection.mergeInto h σ.rep result coll) := by
  unfold Collection.mergeInto
  split
  · exact hresult
  · split
    · exact hcoll
    · refine Yields.foldlM hresult fun e he m hm => ?_
      have entry := (meets_map.1 hcoll).2 e he
      exact yields_assoc hm entry.1 entry.2
  · trivial

theorem yields_conj [Tables] {coll item : Value} (hcoll : σ.Meets coll) (hitem : σ.Meets item) :
    Yields σ.Meets (Collection.conj h σ.rep coll item) := by
  unfold Collection.conj
  split
  · exact yields_cons hitem hcoll
  · exact yields_cons hitem hcoll
  · obtain ⟨hrep, hxs⟩ := meets_vector.1 hcoll
    refine meets_vector.2 ⟨hrep, List.forall_mem_append.2 ⟨hxs, ?_⟩⟩
    exact List.forall_mem_singleton.2 hitem
  · exact meets_toSet (meets_insert (meets_ofSet hcoll) hitem meets_nil)
  · split
    next k w hpair =>
      -- an entry may be given as a list or as a vector
      have parts : ∀ x ∈ [k, w], σ.Meets x := by
        cases item with
        | list items =>
          cases hpair
          exact meets_list.1 hitem
        | vector r items =>
          cases hpair
          exact (meets_vector.1 hitem).2
        | _ => cases hpair
      exact yields_assoc hcoll (parts k (by simp)) (parts w (by simp))
    · trivial
  · trivial

theorem yields_concat (hxs : ∀ x ∈ xs, σ.Meets x) :
    Yields σ.Meets (Collection.concat h σ.rep xs) := by
  refine (Yields.mapM fun x hx => yields_items (hxs x hx)).bind fun yss hyss => ?_
  refine meets_list.2 fun y hy => ?_
  obtain ⟨ys, hys, hy⟩ := List.mem_flatten.1 hy
  exact hyss ys hys y hy

/-! ### The standard library -/

theorem yields_compare (r : Number → Number → Bool) (xs : List Value) :
    Yields σ.Meets (Library.compare h r xs) :=
  (yields_numbers h xs).bind fun _ _ => meets_bool _

theorem yields_makeName (h : Heap) (first : Value) (second : Option Value) :
    Yields (fun _ => True) (Library.makeName h first second) := by
  cases second with
  | none => exact (yields_name h first).bind fun _ _ => trivial
  | some second =>
    exact (yields_name h first).bind fun _ _ => (yields_name h second).bind fun _ _ => trivial

theorem yields_pattern (text : String) : Yields (fun _ => True) (Library.pattern text) := by
  unfold Library.pattern
  split
  · trivial
  · trivial

theorem yields_regexOf (h : Heap) (v : Value) : Yields (fun _ => True) (Library.regexOf h v) := by
  cases v with
  | regex text => exact yields_pattern text
  | string text => exact yields_pattern text
  | _ => trivial

/-- A match is a string, or a vector of strings in the representation that is told. -/
theorem meets_matchValue (c : Regex.Captures) : σ.Meets (Library.matchValue σ.rep c) := by
  have groups : ∀ v ∈ c.groups.map fun g => g.elim Value.nil Value.string, σ.Meets v := by
    refine List.forall_mem_map.2 fun g _ => ?_
    cases g with
    | none => exact meets_nil
    | some text => exact meets_string text
  unfold Library.matchValue
  split
  next whole hwhole => exact groups whole (by simp [hwhole])
  · exact meets_vector_rep groups

theorem yields_readFirst [Tables] (text : String) :
    Yields σ.Meets (Library.readFirst σ.rep text) := by
  unfold Library.readFirst
  split
  next forms hforms => exact meets_head? (meets_read hforms)
  · trivial

theorem yields_readJson [Tables] (text : String) : Yields σ.Meets (Json.readForm σ.rep text) := by
  unfold Json.readForm
  split
  · exact meets_toForm _
  · trivial

/-- Procedures that are told the representation of a standard keep to it. -/
theorem yields_compute [Tables] (hh : σ.Covers h) (proc : Procedure) (hxs : ∀ x ∈ xs, σ.Meets x) :
    Yields σ.Meets (Library.compute h σ.rep proc xs) := by
  unfold Library.compute
  split
  -- what is made from nothing
  · exact meets_list.2 hxs
  · exact meets_vector_rep hxs
  · split
    · exact meets_mapOf (meets_pairUp hxs)
    · trivial
  · exact meets_setOf hxs
  -- sequences
  · simp only [List.forall_mem_cons] at hxs
    exact yields_cons hxs.1 hxs.2.1
  · exact yields_first (List.forall_mem_singleton.1 hxs)
  · exact yields_rest (List.forall_mem_singleton.1 hxs)
  · exact yields_nth (List.forall_mem_singleton.1 hxs) 1
  · exact (yields_count _).bind fun _ _ => meets_number _
  · exact (yields_index h _).bind fun i _ => yields_nth (List.forall_mem_cons.1 hxs).1 i
  -- look-up and growth
  · simp only [List.forall_mem_cons] at hxs
    exact meets_getOr hh hxs.1 hxs.2.1 fun d hd => nomatch hd
  · simp only [List.forall_mem_cons] at hxs
    refine meets_getOr hh hxs.1 hxs.2.1 fun d hd => ?_
    obtain rfl := Option.some.inj hd
    exact hxs.2.2.1
  · obtain ⟨hcoll, hpairs⟩ := List.forall_mem_cons.1 hxs
    split
    · refine Yields.foldlM hcoll fun e he c hc => ?_
      have entry := meets_pairUp hpairs e he
      exact yields_assoc hc entry.1 entry.2
    · trivial
  · exact Yields.foldlM (List.forall_mem_cons.1 hxs).1 fun key _ c hc => yields_dissoc hc key
  · exact Yields.foldlM meets_nil fun c hc result hresult => yields_mergeInto hresult (hxs c hc)
  · obtain ⟨hcoll, hitems⟩ := List.forall_mem_cons.1 hxs
    exact Yields.foldlM hcoll fun x hx c hc => yields_conj hc (hitems x hx)
  · exact yields_concat hxs
  -- comparisons and questions
  · exact meets_bool _
  · exact meets_bool _
  · exact yields_compare _ _
  · exact yields_compare _ _
  · exact yields_compare _ _
  · exact yields_compare _ _
  iterate 10 · exact meets_bool _
  · exact (yields_count _).bind fun _ _ => meets_bool _
  -- names
  · exact (yields_makeName h _ _).bind fun _ _ => meets_symbol _
  · exact (yields_makeName h _ _).bind fun _ _ => meets_symbol _
  · exact (yields_makeName h _ _).bind fun _ _ => meets_keyword _
  · exact (yields_makeName h _ _).bind fun _ _ => meets_keyword _
  · exact (yields_name h _).bind fun _ _ => meets_string _
  · next n => cases n.space <;> simp [Yields]
  · next n => cases n.space <;> simp [Yields]
  · trivial
  -- texts
  · next f =>
    cases h.arities? f with
    | none => exact meets_nil
    | some as => exact meets_vector_rep (List.forall_mem_map.2 fun a _ => meets_number _)
  · exact meets_string _
  · exact (yields_string h _).bind fun text _ => yields_readFirst text
  · exact (yields_string h _).bind fun text _ => yields_readJson text
  · exact (yields_string h _).bind fun text _ =>
      (yields_pattern text).bind fun _ _ => meets_regex text
  · refine (yields_regexOf h _).bind fun p _ => (yields_string h _).bind fun text _ => ?_
    cases Regex.captures? p text with
    | none => exact meets_nil
    | some c => exact meets_matchValue c
  · refine (yields_regexOf h _).bind fun p _ => (yields_string h _).bind fun text _ => ?_
    split
    · split
      · exact meets_matchValue _
      · exact meets_nil
    · exact meets_nil
  · trivial

/-! ### Methods of strings -/

theorem yields_argument (h : Heap) (method : StringMethod) (xs : List Value) :
    Yields (fun _ => True) (method.argument h xs) := by
  unfold StringMethod.argument
  split
  · exact yields_string h _
  · trivial

/-- The pieces of a string come in a native vector, which may be another one than is asked for. -/
theorem yields_runMethod {method : StringMethod} (other : σ.vectors = true → method ≠ .split)
    (s : String) (xs : List Value) : Yields σ.Meets (method.run h s xs) := by
  cases method with
  | toUpperCase => exact meets_string _
  | toLowerCase => exact meets_string _
  | trim => exact meets_string _
  | length => exact meets_number _
  | includes => exact (yields_argument h _ xs).bind fun _ _ => meets_bool _
  | startsWith => exact (yields_argument h _ xs).bind fun _ _ => meets_bool _
  | endsWith => exact (yields_argument h _ xs).bind fun _ _ => meets_bool _
  | indexOf => exact (yields_argument h _ xs).bind fun _ _ => meets_number _
  | split =>
    refine (yields_argument h _ xs).bind fun separator _ => ?_
    refine meets_vector.2 ⟨fun covered => absurd rfl (other covered), ?_⟩
    exact List.forall_mem_map.2 fun piece _ => meets_string piece

/-! ### Properties and names -/

theorem meets_mapProperty [Tables] (hh : σ.Covers h) (hv : σ.Meets v) {key : Value}
    (hkey : σ.Meets key) (text : String) : σ.Meets (h.mapProperty v key text) := by
  unfold Heap.mapProperty
  dsimp only
  split
  · exact meets_get hh hv (meets_keyword _)
  · split
    · exact meets_get hh hv hkey
    · exact meets_get hh hv (meets_string _)

theorem yields_sequenceProperty [Tables] (hh : σ.Covers h) (hv : σ.Meets v) {key : Value}
    (hkey : σ.Meets key) (text : String) : Yields σ.Meets (h.sequenceProperty v key text) := by
  unfold Heap.sequenceProperty
  split
  · exact meets_get hh hv hkey
  · split
    · exact (yields_count _).bind fun _ _ => meets_number _
    · exact meets_nil

theorem yields_property [Tables] (hh : σ.Covers h) (hv : σ.Meets v) {key : Value}
    (hkey : σ.Meets key) :
    Yields σ.Meets (h.property v key) := by
  unfold Heap.property
  dsimp only
  split
  · refine meets_getD fun w hw => ?_
    -- fields of an object come before methods of its type
    obtain hfield | hmethod := Option.or_eq_some_iff.1 hw
    · exact hh.object _ _ w hfield
    · exact hh.method hmethod.2
  · exact meets_mapProperty hh hv hkey _
  · exact yields_sequenceProperty hh hv hkey _
  · exact yields_sequenceProperty hh hv hkey _
  · exact yields_sequenceProperty hh hv hkey _
  · refine meets_getD fun w hw => ?_
    obtain ⟨b, hb, rfl⟩ := Option.map_eq_some_iff.1 hw
    exact (hh.scopes _ _ b hb).value
  · split
    · exact meets_string _
    · exact meets_nil
  · exact meets_nil

theorem yields_namespaceScope (m : Machine) (space : String) :
    Yields (fun _ => True) (m.namespaceScope space) := by
  unfold Machine.namespaceScope
  split
  · trivial
  · trivial

theorem yields_resolve? {m : Machine} (hm : σ.Fits m) (scope : ScopeRef) (name : Name) :
    Yields (fun o => ∀ b ∈ o, σ.MeetsBinding b) (m.resolve? scope name) := by
  unfold Machine.resolve?
  split
  · exact (yields_namespaceScope m _).bind fun owner _ b hb => hm.heap.scopes owner _ b hb
  · intro b hb
    -- around the scope, in the active module, or in the global scope
    obtain hb | ⟨-, hb⟩ := Option.or_eq_some_iff.1 hb
    · obtain hb | ⟨-, hb⟩ := Option.or_eq_some_iff.1 hb
      · exact hm.heap.binding hb
      · exact hm.heap.binding hb
    · exact hm.heap.binding hb

theorem yields_valueOf {m : Machine} (hm : σ.Fits m) (scope : ScopeRef) (name : Name) :
    Yields σ.Meets (m.valueOf scope name) := by
  refine (yields_resolve? hm scope name).bind fun o ho => ?_
  cases o with
  | none => trivial
  | some b => exact (ho b rfl).value

theorem yields_owner? (m : Machine) (scope : ScopeRef) (name : Name) :
    Yields (fun _ => True) (m.owner? scope name) := by
  unfold Machine.owner?
  split
  · exact (yields_namespaceScope m _).bind fun _ _ => trivial
  · trivial

theorem yields_target (m : Machine) (scope : ScopeRef) (name : Name) (metadata : Metadata) :
    Yields (fun _ => True) (m.target scope name metadata) := by
  unfold Machine.target
  split
  · trivial
  · split
    · trivial
    · split
      · trivial
      · trivial

/-! ### The parts of special forms -/

/-- The forms of a clause. -/
def MeetsClause (σ : Standard) (c : Clause) : Prop := ∀ form ∈ c.body, σ.Meets form

theorem yields_endParams (h : Heap) (form : Value) (params : List String) (rest : String)
    (items : List Value) : Yields (fun _ => True) (Lambda.endParams h form params rest items) := by
  cases items <;> trivial

theorem yields_parseItems (h : Heap) (form : Value) (params : List String) (items : List Value) :
    Yields (fun _ => True) (Lambda.parseItems h form params items) := by
  induction items generalizing params with
  | nil => trivial
  | cons item items ih =>
    unfold Lambda.parseItems
    refine (yields_symbol h _ item).bind fun name _ => ?_
    split
    · split
      · trivial
      · exact (yields_symbol h _ _).bind fun _ _ => yields_endParams ..
    · exact yields_endParams ..
    · exact ih _

theorem yields_parseClause (params : Value) (hxs : ∀ x ∈ xs, σ.Meets x) :
    Yields σ.MeetsClause (Lambda.parseClause h params xs) := by
  unfold Lambda.parseClause
  split
  · exact (yields_parseItems h _ _ _).bind fun _ _ => hxs
  · trivial

theorem yields_parseListed (hv : σ.Meets v) : Yields σ.MeetsClause (Lambda.parseListed h v) := by
  unfold Lambda.parseListed
  split
  · exact yields_parseClause _ (List.forall_mem_cons.1 (meets_list.1 hv)).2
  · trivial

theorem yields_parseClauses (hxs : ∀ x ∈ xs, σ.Meets x) :
    Yields (fun cs => ∀ c ∈ cs, σ.MeetsClause c) (Lambda.parseClauses h xs) := by
  unfold Lambda.parseClauses
  split
  · trivial
  · refine (yields_parseClause _ (List.forall_mem_cons.1 hxs).2).bind fun c hc => ?_
    exact List.forall_mem_singleton.2 hc
  · exact Yields.mapM fun x hx => yields_parseListed (hxs x hx)
  · trivial

/-- The bodies of a lambda are forms that it was made from. -/
theorem yields_clauseTable (hxs : ∀ x ∈ xs, σ.Meets x) (source : Value) :
    Yields (fun cs => ∀ c ∈ cs, σ.MeetsClause c) (Lambda.clauseTable h xs source) := by
  refine (yields_parseClauses hxs).bind fun cs hcs => ?_
  have filed : Yields (fun filed => ∀ c ∈ filed, σ.MeetsClause c)
      (cs.foldlM (Lambda.fileClause h source) []) := by
    refine Yields.foldlM (fun c hc => nomatch hc) fun c hc filed hfiled => ?_
    unfold Lambda.fileClause
    split
    · trivial
    · exact List.forall_mem_cons.2 ⟨hcs c hc, hfiled⟩
  exact filed.bind fun filed hfiled c hc => hfiled c (List.mem_mergeSort.1 hc)

theorem yields_select {l : Lambda} (hl : σ.MeetsLambda l) (argc : Nat) :
    Yields σ.MeetsClause (l.select argc) := by
  unfold Lambda.select
  split
  next c hc => exact hl.body c (List.mem_of_find?_eq_some hc)
  · split
    next c hc => exact hl.body c (List.mem_of_mem_filter (List.mem_of_getLast? hc))
    · trivial

theorem yields_methodSpec (hv : σ.Meets v) :
    Yields (fun p => ∀ x ∈ p.2, σ.Meets x) (h.methodSpec v) := by
  unfold Heap.methodSpec
  split
  · refine (yields_symbol h _ _).bind fun _ _ => ?_
    exact (List.forall_mem_cons.1 (meets_list.1 hv)).2
  · trivial

theorem yields_instanceOf (t : TypeRef) (hxs : ∀ x ∈ xs, σ.Meets x) :
    Yields (fun o => σ.MeetsAll o.fields) (h.instanceOf t xs) := by
  unfold Heap.instanceOf
  dsimp only
  -- an error may be made without its message
  generalize hargs : (if xs.isEmpty && h.isSubtype t ErrorClass.error.ref then [.string ""]
    else xs) = args
  have meets : ∀ x ∈ args, σ.Meets x := by
    rw [← hargs]
    split
    · exact List.forall_mem_singleton.2 (meets_string _)
    · exact hxs
  split
  · trivial
  · split
    · exact meetsAll_ofPairs fun p hp => meets p.2 (List.of_mem_zip hp).2
    · trivial

theorem yields_isInstance (h : Heap) (v cls : Value) :
    Yields (fun _ => True) (h.isInstance v cls) := by
  unfold Heap.isInstance
  split
  · trivial
  · trivial
  · trivial
  · trivial
  · trivial

/-- The annotations and the value of a definition. -/
structure MeetsDefinition (σ : Standard) (parts : Definition.Parts) : Prop where
  metadata : ∀ d ∈ parts.metadata, σ.MeetsAll d
  init : ∀ form ∈ parts.init, σ.Meets form

theorem meetsAll_annotations? (hv : σ.Meets v) :
    ∀ d ∈ Definition.annotations? h v, σ.MeetsAll d := by
  intro d hd
  cases v with
  | keyword name =>
    obtain rfl := Option.some.inj hd
    exact meetsAll_ofPairs (List.forall_mem_singleton.2 (meets_bool _))
  | map r es =>
    obtain rfl := Option.some.inj hd
    exact meetsAll_ofPairs (List.forall_mem_map.2 fun e he => ((meets_map.1 hv).2 e he).2)
  | _ => cases hd

theorem yields_parseRest {metadata : Option Metadata} (hmetadata : ∀ d ∈ metadata, σ.MeetsAll d)
    (hxs : ∀ x ∈ xs, σ.Meets x) :
    Yields σ.MeetsDefinition (Definition.parseRest h metadata xs) := by
  unfold Definition.parseRest
  split
  · exact (yields_symbol h _ _).bind fun _ _ => ⟨hmetadata, fun form hform => nomatch hform⟩
  · refine (yields_symbol h _ _).bind fun _ _ => ⟨hmetadata, fun form hform => ?_⟩
    obtain rfl := Option.some.inj hform
    exact hxs _ (by simp)
  · trivial

theorem yields_parseDefinition (hxs : ∀ x ∈ xs, σ.Meets x) :
    Yields σ.MeetsDefinition (Definition.parse h xs) := by
  unfold Definition.parse
  split
  · trivial
  · exact yields_parseRest (fun d hd => nomatch hd) hxs
  · obtain ⟨hfirst, hrest⟩ := List.forall_mem_cons.1 hxs
    split
    next metadata hmetadata =>
      refine yields_parseRest (fun d hd => ?_) hrest
      obtain rfl := Option.some.inj hd
      exact meetsAll_annotations? hfirst _ hmetadata
    · trivial

/-- The forms of a clause that handles errors. -/
structure MeetsCatch (σ : Standard) (c : CatchClause) : Prop where
  cls : σ.Meets c.cls
  body : ∀ form ∈ c.body, σ.Meets form

/-- The forms of the parts of a `try` form. -/
structure MeetsTry (σ : Standard) (parts : TryParts) : Prop where
  body : ∀ form ∈ parts.body, σ.Meets form
  catches : ∀ c ∈ parts.catches, σ.MeetsCatch c
  cleanup : ∀ forms ∈ parts.finally?, ∀ form ∈ forms, σ.Meets form

theorem yields_parseCatch (form : Value) (hxs : ∀ x ∈ xs, σ.Meets x) :
    Yields σ.MeetsCatch (TryParts.parseCatch h form xs) := by
  unfold TryParts.parseCatch
  split
  · trivial
  · obtain ⟨hspec, hbody⟩ := List.forall_mem_cons.1 hxs
    refine (yields_symbol h _ _).bind fun _ _ => ⟨?_, hbody⟩
    exact (meets_vector.1 hspec).2 _ (by simp)
  · trivial

theorem meets_clause? {sf : SpecialForm} (hv : σ.Meets v)
    (hclause : TryParts.clause? v = some (sf, xs)) : ∀ x ∈ xs, σ.Meets x := by
  unfold TryParts.clause? at hclause
  split at hclause
  · have rest := (List.forall_mem_cons.1 (meets_list.1 hv)).2
    split at hclause
    · cases hclause
      exact rest
    · cases hclause
      exact rest
    · cases hclause
  · cases hclause

theorem yields_addPart {parts : TryParts} (hparts : σ.MeetsTry parts) (hv : σ.Meets v) :
    Yields σ.MeetsTry (TryParts.add h parts v) := by
  unfold TryParts.add
  split
  next rest hclause =>
    refine (yields_parseCatch v (meets_clause? hv hclause)).bind fun c hc => ?_
    exact { hparts with catches := List.forall_mem_cons.2 ⟨hc, hparts.catches⟩ }
  next rest _ hclause =>
    split
    · trivial
    · refine { hparts with cleanup := fun forms hforms => ?_ }
      obtain rfl := Option.some.inj hforms
      exact meets_clause? hv hclause
  · exact { hparts with body := List.forall_mem_cons.2 ⟨hv, hparts.body⟩ }

theorem yields_parseTry (hxs : ∀ x ∈ xs, σ.Meets x) :
    Yields σ.MeetsTry (TryParts.parse h xs) := by
  have start : σ.MeetsTry {} := ⟨by simp, by simp, by simp⟩
  refine (Yields.foldlM start fun x hx parts hparts =>
    yields_addPart hparts (hxs x hx)).bind fun parts hparts => ?_
  split
  · trivial
  · -- the parts have been gathered in reverse
    refine ⟨fun form hform => ?_, fun c hc => ?_, hparts.cleanup⟩
    · exact hparts.body form (List.mem_reverse.1 hform)
    · exact hparts.catches c (List.mem_reverse.1 hc)

end Standard

end Lisp
