import Lisp.Proofs.Interpreter.Methods

/-!
# Protocols are carried by name

A type remembers the protocols that it has got by their names, in order. So whether an object
carries a protocol is a question about names: it does if its type has got a protocol of that name,
no matter which one. A second protocol of the same name, defined later or in another module, is
carried by all instances of the types that have got the first. Clauses that handle errors go by the
same answer.

## Main results

* `Heap.History.of_mem` — what a type has from a protocol that it has got
* `Interpreter.carries_by_name` — when objects carry protocols, and clauses are for them
* `Interpreter.carries_namesake` — an object that carries a protocol which its type has not got, and
  one that does not carry a protocol which a type above has got
-/

namespace Lisp

theorem mem_mixedIn {done : List Installation} {t : TypeRef} {name : Name} :
    name ∈ mixedIn done t ↔ ∃ p content, .protocol t p content ∈ done ∧ content.name = name := by
  rw [mixedIn, List.mem_flatMap]
  constructor
  · rintro ⟨e, he, hname⟩
    obtain ⟨mem, target⟩ := List.mem_filter.1 he
    obtain rfl := of_decide_eq_true target
    cases e with
    | method t' n f => exact absurd hname List.not_mem_nil
    | protocol t' p content => exact ⟨p, content, mem, (List.mem_singleton.1 hname).symm⟩
  · rintro ⟨p, content, mem, rfl⟩
    exact ⟨_, List.mem_filter.2 ⟨mem, decide_eq_true rfl⟩, List.mem_singleton.2 rfl⟩

namespace Heap

variable {options : Options} {h : Heap} {done : List Installation} {t : TypeRef}

/-- A type that has got a protocol has its name and a method for each of its names. -/
theorem History.of_mem (history : h.History options done) {p : ProtocolRef} {content : Protocol}
    (mem : .protocol t p content ∈ done) :
    (content = h.protocol p ∨ content = default) ∧ content.name ∈ (h.type t).mixins ∧
      ∀ e ∈ content.methods, (h.own? t e.1).isSome := by
  refine ⟨?_, ?_, fun e he => ?_⟩
  · obtain ⟨later, rfl, becomes⟩ := history
    rcases List.mem_append.1 mem with mem | mem
    · have bare : [content.name] = [] := mixins_of_mem_installations _ mem
      exact absurd bare (List.cons_ne_nil _ _)
    · exact becomes.content mem
  · rw [history.mixins_eq]
    exact mem_mixedIn.2 ⟨p, content, mem, rfl⟩
  · -- later methods may have replaced those of the protocol, but none is ever taken away
    have got : e ∈ installed done t := by
      rw [installed, List.mem_flatMap]
      exact ⟨_, List.mem_filter.2 ⟨mem, decide_eq_true rfl⟩, he⟩
    rw [history.own?_eq, Option.isSome_iff_ne_none, Ne, List.lookup_eq_none_iff]
    intro missing
    exact absurd (missing e (List.mem_reverse.2 got)) (by simp)

/-- A type that lacks a method which a protocol has cannot have got the protocol with it. -/
theorem History.eq_default (history : h.History options done) {p : ProtocolRef} {content : Protocol}
    (mem : .protocol t p content ∈ done) {name : String}
    (offers : name ∈ (h.protocol p).methods.map (·.1)) (lacks : (h.own? t name).isNone) :
    content = default := by
  obtain ⟨rfl | nothing, -, has⟩ := history.of_mem mem
  · obtain ⟨e, he, rfl⟩ := List.mem_map.1 offers
    have brought : (h.own? t e.1).isSome := has e he
    rw [Option.isNone_iff_eq_none.1 lacks] at brought
    exact absurd brought (by simp)
  · exact nothing

theorem protocol_eq_default {p : ProtocolRef} (missing : h.protocols.size ≤ p.index) :
    h.protocol p = default := by
  rw [Heap.protocol, Array.getD_eq_getD_getElem?, Array.getElem?_eq_none missing]
  rfl

theorem eq_of_isSubtype_root (root : h.parentType? t = none) {other : TypeRef}
    (descends : h.isSubtype t other) : t = other := by
  have top : h.types.parent? t.index = none := Option.map_eq_none_iff.1 root
  by_contra other'
  have index : t.index ≠ other.index := fun same => other' (congrArg TypeRef.mk same)
  rw [isSubtype, Forest.findUp?_eq, Forest.chain_of_root top] at descends
  simp [index] at descends

end Heap

/-- The clause is for a value if this belongs to its class; otherwise the others are asked. -/
theorem Engine.evalCatches_cons (E : Engine) {scope : ScopeRef} {thrown cls : Value}
    {c : CatchClause} {m₀ m : Machine} {b : Bool} (class_ : E.eval scope c.cls m₀ = .ok cls m)
    (belongs : m.heap.isInstance thrown cls = .ok b) (e : Error) (rest : List CatchClause) :
    E.evalCatches scope e thrown (c :: rest) m₀ =
      if b = true then
        (do
          let handler ← Eval.newScope scope "catch" (Scopes.bindAll [c.binding.base] [thrown])
          E.evalBody handler c.body) m
      else E.evalCatches scope e thrown rest m := by
  have asked : Eval.ofCause (m.heap.isInstance thrown cls) m = .ok b m := by rw [belongs]; rfl
  rw [evalCatches]
  simp only [bind, EStateM.bind, class_, Eval.heap, Eval.get_apply, pure, EStateM.pure, asked]
  cases b with
  | false => rfl
  | true => rfl

namespace Interpreter

/-- An object carries a protocol by its name. If the type of the object has got a protocol of that
name, it does; and if it does, then its type or one that this descends from has. For types that
descend from no other, as all that programs define, this is the same. A clause that handles errors
is for an object just if it carries the protocol that the clause names. -/
theorem carries_by_name [Tables] {i : Interpreter} (h : i.Reachable) {m : Machine}
    (evolves : i.machine.Evolves m) :
    (∃ done, m.heap.History i.setting.options done) ∧
    ∀ done, m.heap.History i.setting.options done → ∀ (o : ObjectRef) (p : ProtocolRef),
      let cls := (m.heap.object o).type
      let name := (m.heap.protocol p).name
      ∃ b, m.heap.isInstance (.entity (.object o)) (.entity (.protocol p)) = .ok b ∧
        (name ∈ mixedIn done cls → b = true) ∧
        (b = true → ∃ t, m.heap.isSubtype cls t ∧ name ∈ mixedIn done t) ∧
        (m.heap.parentType? cls = none → (b = true ↔ name ∈ mixedIn done cls)) ∧
        ∀ (E : Engine) (scope : ScopeRef) (e : Error) (c : CatchClause) (rest : List CatchClause)
          (m₀ : Machine), E.eval scope c.cls m₀ = .ok (.entity (.protocol p)) m →
          E.evalCatches scope e (.entity (.object o)) (c :: rest) m₀ =
            if b = true then
              (do
                let handler ← Eval.newScope scope "catch"
                  (Scopes.bindAll [c.binding.base] [.entity (.object o)])
                E.evalBody handler c.body) m
            else E.evalCatches scope e (.entity (.object o)) rest m := by
  refine ⟨h.history_of_evolves evolves, ?_⟩
  intro done history o p cls name
  have belongs : m.heap.isInstance (.entity (.object o)) (.entity (.protocol p)) =
      .ok ((m.heap.type cls).mixins.contains name) := rfl
  have byName : (m.heap.type cls).mixins.contains name = true ↔ name ∈ mixedIn done cls := by
    rw [List.contains_iff_mem, history.mixins_eq]
  refine ⟨_, belongs, byName.2, fun carried => ?_, fun _ => byName, ?_⟩
  · -- a type that has got something is there
    have there : (m.heap.types.get? cls.index).isSome := by
      by_contra missing
      have bare : (m.heap.type cls).mixins = [] := by
        rw [Heap.type, Option.not_isSome_iff_eq_none.1 missing]
        rfl
      rw [bare] at carried
      exact absurd carried (by simp)
    exact ⟨cls, Heap.isSubtype_self there, byName.1 carried⟩
  · intro E scope e c rest m₀ class_
    exact E.evalCatches_cons class_ belongs e rest

/-- Two protocols of one name, the first of which a type has got. -/
theorem carries_by_name_shared :
    let i := ((start {} fun _ => none).ask 40 (.text
      "(define-protocol P (m [s] 1)) (define-type T [] P) (define-protocol P (n [s] 2)) (new T)"
      "t")).2
    i.Reachable ∧ i.machine.Evolves i.machine ∧
      i.machine.heap.isInstance (.entity (.object ⟨2⟩)) (.entity (.protocol ⟨1⟩)) = .ok true ∧
      ∃ done t, i.machine.heap.History i.setting.options done ∧
        i.machine.heap.isSubtype (i.machine.heap.object ⟨2⟩).type t ∧
        (i.machine.heap.protocol ⟨1⟩).name ∈ mixedIn done t := by
  intro i
  have reachable : i.Reachable := (Reachable.start {} fun _ => none).ask 40 _
  obtain ⟨⟨done, history⟩, told⟩ := carries_by_name reachable .refl
  obtain ⟨b, belongs, -, above, -⟩ := told done history ⟨2⟩ ⟨1⟩
  have carried : i.machine.heap.isInstance (.entity (.object ⟨2⟩)) (.entity (.protocol ⟨1⟩)) =
      .ok true := congrArg Except.ok (by decide +kernel)
  obtain ⟨t, descends, got⟩ := above (Except.ok.inj (belongs.symm.trans carried))
  exact ⟨reachable, .refl, carried, done, t, history, descends, got⟩

/-- An object that carries a protocol which neither its type nor any type above has ever got: the
type has got another one of the same name, and no method of the one that the object carries. And an
object that does not carry the same protocol though a type above its own has got it, and though the
object answers to the method of the protocol. -/
theorem carries_namesake :
    let i := ((start {} fun _ => none).ask 40 (.text ("(define-protocol P (m [s] 1)) " ++
      "(define-type T [] P) (define-protocol P (n [s] 2)) (P Error) (new T) (new TypeError)")
      "t")).2
    let h := i.machine.heap
    i.Reachable ∧
      (h.isInstance (.entity (.object ⟨2⟩)) (.entity (.protocol ⟨1⟩)) = .ok true ∧
        ∀ done, h.History i.setting.options done → ∀ t content,
          h.isSubtype (h.object ⟨2⟩).type t → .protocol t ⟨1⟩ content ∉ done) ∧
      h.isInstance (.entity (.object ⟨3⟩)) (.entity (.protocol ⟨1⟩)) = .ok false ∧
        (h.method? (h.object ⟨3⟩).type "n").isSome ∧
        ∀ done, h.History i.setting.options done → ∃ t content,
          h.isSubtype (h.object ⟨3⟩).type t ∧ .protocol t ⟨1⟩ content ∈ done := by
  intro i h
  have reachable : i.Reachable := (Reachable.start {} fun _ => none).ask 40 _
  have facts :
      ((h.protocol ⟨1⟩).name = .simple "P" ∧ "m" ∈ (h.protocol ⟨0⟩).methods.map (·.1) ∧
        "n" ∈ (h.protocol ⟨1⟩).methods.map (·.1) ∧ h.protocols.size = 2) ∧
      ((h.object ⟨2⟩).type = ⟨12⟩ ∧ h.parentType? ⟨12⟩ = none ∧
        (h.type ⟨12⟩).mixins = [.simple "P"] ∧ (h.own? ⟨12⟩ "n").isNone) ∧
      (h.type (h.object ⟨3⟩).type).mixins = [] ∧ (h.type ⟨0⟩).mixins = [.simple "P"] ∧
        h.isSubtype (h.object ⟨3⟩).type ⟨0⟩ ∧ (h.own? ⟨0⟩ "m").isNone ∧
        (h.method? (h.object ⟨3⟩).type "n").isSome := by
    decide +kernel
  obtain ⟨⟨name, first, second, size⟩, ⟨cls, root, mixins, missing⟩, facts⟩ := facts
  obtain ⟨bare, got, descends, missing₀, answers⟩ := facts
  refine ⟨reachable, ⟨?_, ?_⟩, ?_, answers, ?_⟩
  · rw [Heap.isInstance, cls, mixins, name]
    rfl
  · intro done history t content below mem
    rw [cls] at below
    obtain rfl := Heap.eq_of_isSubtype_root root below
    -- the second protocol would have brought its method
    have nothing : content = default := history.eq_default mem second missing
    have named : content.name ∈ (h.type ⟨12⟩).mixins := (history.of_mem mem).2.1
    rw [mixins, nothing] at named
    exact absurd named (by decide)
  · rw [Heap.isInstance, bare]
    rfl
  · intro done history
    -- of the protocols of this name, the first would have brought another method
    have named : .simple "P" ∈ mixedIn done ⟨0⟩ := by
      rw [← history.mixins_eq, got]
      exact List.mem_singleton.2 rfl
    obtain ⟨p, content, mem, hname⟩ := mem_mixedIn.1 named
    have real : content ≠ default := by
      rintro rfl
      exact absurd hname (by decide)
    have there : p.index < 2 := by
      by_contra large
      have missing : h.protocol p = default :=
        Heap.protocol_eq_default (size.trans_le (Nat.le_of_not_lt large))
      exact real ((history.of_mem mem).1.elim (·.trans missing) id)
    obtain ⟨k⟩ := p
    match k with
    | 0 => exact absurd (history.eq_default mem first missing₀) real
    | 1 => exact ⟨⟨0⟩, content, descends, mem⟩

end Interpreter

end Lisp
