import Lisp.Proofs.Machine.Growth

/-!
# Methods and where they come from

Types get methods in two ways: a method is written in the body of the type, or a protocol is mixed
in and brings a row of methods and its name. This happens over the whole life of a session, in any
order, and to any type that is there. What a type answers to the name of a method is told by the
history of these installations alone: by the last one on it that has the name, and otherwise by its
parent.

So every run is accompanied by the list of installations on the way. A change of the machine is one
installation, or it is none and leaves the methods of all types as they are.

## Main definitions

* `Installation` — a method or a protocol for a type
* `Heap.put` — an installation is made
* `Heap.Becomes` — a heap becomes another one, with the given installations on the way
* `installed`, `mixedIn` — the methods and the protocols that a type has got
* `Latest` — the last method of a name in a row of methods

## Main results

* `Machine.Evolves.becomes` — every run has its list of installations
* `Heap.Becomes.own?_eq`, `Heap.Becomes.mixins_eq` — what types have got on the way
* `Heap.method?_eq` — a type answers itself or passes the question on to its parent
* `Heap.of_method?_put_ne` — which types an installation on another one concerns
-/

namespace Lisp

theorem Forest.update_of_none {α : Type} {f : Forest α} {i : Nat} (h : f.get? i = none)
    (g : α → α) : f.update i g = f := by
  have hi : f.nodes.size ≤ i := by simpa [get?] using h
  obtain ⟨nodes, parent_lt⟩ := f
  simp only [update, mk.injEq]
  refine Array.ext_getElem? fun j => ?_
  rw [Array.getElem?_modify]
  by_cases hij : i = j
  · subst hij
    rw [if_pos rfl, Array.getElem?_eq_none hi, Option.map_none]
  · rw [if_neg hij]

/-- A type gets a method of its own, or a protocol with the name and the methods that it has. -/
inductive Installation where
  | method (t : TypeRef) (name : String) (method : Value)
  | protocol (t : TypeRef) (p : ProtocolRef) (content : Protocol)

namespace Installation

/-- The type that gets something. -/
def target : Installation → TypeRef
  | method t _ _ | protocol t _ _ => t

/-- The methods that it gets, in order. -/
def entries : Installation → List (String × Value)
  | method _ name f => [(name, f)]
  | protocol _ _ content => content.methods

/-- The name of the protocol that it gets, if there is one. -/
def mixins : Installation → List Name
  | method .. => []
  | protocol _ _ content => [content.name]

/-- What happens to the type. -/
def perform : Installation → TypeInfo → TypeInfo
  | method _ name f, t => t.install name f
  | protocol _ _ content, t => t.mixIn content

end Installation

/-- The methods that a type has got, in order. -/
def installed (done : List Installation) (t : TypeRef) : List (String × Value) :=
  (done.filter (·.target = t)).flatMap (·.entries)

/-- The names of the protocols that a type has got, in order and as often as it has got them. -/
def mixedIn (done : List Installation) (t : TypeRef) : List Name :=
  (done.filter (·.target = t)).flatMap (·.mixins)

/-- A method is the last one of its name in a row of methods. -/
def Latest (entries : List (String × Value)) (name : String) (f : Value) : Prop :=
  ∃ before after, entries = before ++ (name, f) :: after ∧ ∀ e ∈ after, e.1 ≠ name

theorem Latest.lookup {entries : List (String × Value)} {name : String} {f : Value}
    (h : Latest entries name f) : entries.reverse.lookup name = some f := by
  obtain ⟨before, after, rfl, last⟩ := h
  have none_after : after.reverse.lookup name = none :=
    Dict.lookup_eq_none_of_ne fun e he => last e (List.mem_reverse.1 he)
  rw [List.reverse_append, List.reverse_cons, List.append_assoc, List.lookup_append, none_after,
    Option.none_or, List.singleton_append, Dict.lookup_cons_eq_ite, if_pos rfl]

/-! ### One installation -/

theorem TypeInfo.foldl_install (entries : List (String × Value)) (t : TypeInfo) :
    entries.foldl (fun t e => t.install e.1 e.2) t =
      { t with methods := entries.foldl (fun d e => d.insert e.1 e.2) t.methods } := by
  induction entries generalizing t with
  | nil => rfl
  | cons e entries ih => exact ih (t.install e.1 e.2)

/-- Methods go on top of those that are there, and the name of a protocol behind those there. -/
theorem Installation.perform_eq (e : Installation) (t : TypeInfo) :
    e.perform t = { t with
      methods := e.entries.foldl (fun d e => d.insert e.1 e.2) t.methods
      mixins := t.mixins ++ e.mixins } := by
  cases e with
  | method t' name f => simp [perform, TypeInfo.install, entries, mixins]
  | protocol t' p content => simp [perform, TypeInfo.mixIn, TypeInfo.foldl_install, entries, mixins]

namespace Heap

variable {h h' h'' : Heap} {e : Installation} {t : TypeRef} {name : String}
  {done more : List Installation}

/-- A method that a type itself has. -/
def own? (h : Heap) (t : TypeRef) (name : String) : Option Value := (h.type t).methods.get? name

/-- An installation is made; a type that is not there cannot get anything. -/
def put (h : Heap) (e : Installation) : Heap :=
  { h with types := h.types.update e.target.index e.perform }

/-- An installation can be made: the type is there, and a protocol is given with what it has. -/
structure Admits (h : Heap) (e : Installation) : Prop where
  there : (h.types.get? e.target.index).isSome
  content : ∀ t p content, e = .protocol t p content → content = h.protocol p

/-- No type gets anything, though there may be a new one, and no protocol changes. -/
structure Quiet (h h' : Heap) : Prop where
  types : h'.types = h.types ∨
    ∃ name fields, h'.types = h.types.push none { name, fields }
  protocols : Kept Eq h.protocols h'.protocols

theorem put_of_missing (missing : ¬ (h.types.get? e.target.index).isSome) : h.put e = h := by
  have none : h.types.get? e.target.index = none := by simpa using missing
  rw [put, Forest.update_of_none none]

theorem type_put (h : Heap) (e : Installation) (t : TypeRef) :
    (h.put e).type t =
      if e.target = t ∧ (h.types.get? t.index).isSome then e.perform (h.type t) else h.type t := by
  unfold Heap.type put
  rw [Forest.get?_update]
  by_cases ht : e.target = t
  · subst ht
    cases h.types.get? e.target.index with
    | none => simp
    | some info => simp
  · have hindex : e.target.index ≠ t.index := fun hindex => ht (congrArg TypeRef.mk hindex)
    simp [ht, hindex]

/-- What a type has itself, after an installation. -/
theorem own?_put (admits : h.Admits e) :
    (h.put e).own? t name =
      if e.target = t then (e.entries.reverse.lookup name).or (h.own? t name)
        else h.own? t name := by
  unfold own?
  rw [type_put]
  by_cases ht : e.target = t
  · subst ht
    rw [if_pos rfl, if_pos ⟨rfl, admits.there⟩, Installation.perform_eq]
    exact Dict.get?_foldl_insert _ _ _
  · rw [if_neg ht, if_neg fun h => ht h.1]

theorem mixins_put (admits : h.Admits e) :
    ((h.put e).type t).mixins =
      (h.type t).mixins ++ if e.target = t then e.mixins else [] := by
  rw [type_put]
  by_cases ht : e.target = t
  · subst ht
    rw [if_pos rfl, if_pos ⟨rfl, admits.there⟩, Installation.perform_eq]
  · rw [if_neg ht, if_neg fun h => ht h.1, List.append_nil]

namespace Quiet

/-- A type that was not there before has nothing, as what refers to no type has nothing. -/
theorem type_eq (quiet : h.Quiet h') (t : TypeRef) :
    (h'.type t).methods = (h.type t).methods ∧ (h'.type t).mixins = (h.type t).mixins := by
  rcases quiet.types with same | ⟨name, fields, same⟩
  · simp [Heap.type, same]
  · unfold Heap.type
    rw [same, Forest.get?_push]
    by_cases ht : t.index = h.types.size
    · -- the new type, which was read as an empty one before
      have none : h.types.get? t.index = none := by
        simp [Forest.get?, Forest.size, ht]
      rw [if_pos ht, none]
      exact ⟨rfl, rfl⟩
    · rw [if_neg ht]
      exact ⟨rfl, rfl⟩

end Quiet

/-! ### Histories -/

/-- A heap becomes another one, with the given installations on the way, the last at the end. -/
inductive Becomes (h : Heap) : List Installation → Heap → Prop
  | start : Becomes h [] h
  | quiet {done : List Installation} {h' h'' : Heap} (before : Becomes h done h')
    (quiet : h'.Quiet h'') : Becomes h done h''
  | put {done : List Installation} {h' : Heap} {e : Installation} (before : Becomes h done h')
    (admits : h'.Admits e) : Becomes h (done ++ [e]) (h'.put e)

theorem protocol_eq_or_default (kept : Kept Eq h.protocols h'.protocols) (p : ProtocolRef) :
    h.protocol p = h'.protocol p ∨ h.protocol p = default := by
  unfold Heap.protocol
  rw [Array.getD_eq_getD_getElem?, Array.getD_eq_getD_getElem?]
  cases hp : h.protocols[p.index]? with
  | none => exact .inr rfl
  | some content =>
    obtain ⟨content', hp', rfl⟩ := kept _ _ hp
    exact .inl (by rw [hp'])

namespace Becomes

theorem trans (first : h.Becomes done h') (second : h'.Becomes more h'') :
    h.Becomes (done ++ more) h'' := by
  induction second with
  | start => rwa [List.append_nil]
  | quiet _ quiet ih => exact .quiet ih quiet
  | put _ admits ih =>
    rw [← List.append_assoc]
    exact .put ih admits

/-- Of the methods that a type itself has, those count that it has got last. -/
theorem own?_eq (becomes : h.Becomes done h') (t : TypeRef) (name : String) :
    h'.own? t name = ((installed done t).reverse.lookup name).or (h.own? t name) := by
  induction becomes with
  | start => rfl
  | quiet _ quiet ih => rw [own?, (quiet.type_eq t).1, ← ih, own?]
  | @put done h' e _ admits ih =>
    rw [own?_put admits, ih]
    by_cases ht : e.target = t
    · -- read from the end, the new methods come before those got earlier
      have later : installed (done ++ [e]) t = installed done t ++ e.entries := by
        simp [installed, ht]
      rw [if_pos ht, later, List.reverse_append, List.lookup_append, Option.or_assoc]
    · have later : installed (done ++ [e]) t = installed done t := by simp [installed, ht]
      rw [if_neg ht, later]

/-- A type has the names of the protocols that it has got, in order and with repetitions. -/
theorem mixins_eq (becomes : h.Becomes done h') (t : TypeRef) :
    (h'.type t).mixins = (h.type t).mixins ++ mixedIn done t := by
  induction becomes with
  | start => simp [mixedIn]
  | quiet _ quiet ih => rw [(quiet.type_eq t).2, ih]
  | @put done h' e _ admits ih =>
    rw [mixins_put admits, ih]
    by_cases ht : e.target = t
    · simp [mixedIn, ht]
    · simp [mixedIn, ht]

/-- A protocol has what it had when it was mixed in, unless it was not there then and had
nothing. -/
theorem content {p : ProtocolRef} {content : Protocol} (becomes : h.Becomes done h')
    (mem : .protocol t p content ∈ done) : content = h'.protocol p ∨ content = default := by
  induction becomes with
  | start => exact absurd mem List.not_mem_nil
  | @quiet done h' h'' _ quiet ih =>
    rcases ih mem with rfl | rfl
    · exact protocol_eq_or_default quiet.protocols p
    · exact .inr rfl
  | @put done h' e _ admits ih =>
    rcases List.mem_append.1 mem with mem | mem
    · exact ih mem
    · exact .inl (admits.content _ _ _ (List.mem_singleton.1 mem).symm)

end Becomes

end Heap

/-! ### Every run has its history -/

namespace Machine

variable {m m' : Machine}

theorem becomes_put (e : Installation)
    (content : ∀ t p content, e = .protocol t p content → content = m.heap.protocol p) :
    ∃ done, m.heap.Becomes done (m.heap.put e) := by
  by_cases there : (m.heap.types.get? e.target.index).isSome
  · exact ⟨[e], .put .start ⟨there, content⟩⟩
  · exact ⟨[], (Heap.put_of_missing there).symm ▸ .start⟩

/-- A change is an installation, or it leaves the methods of all types as they are. -/
theorem Change.becomes (change : m.Change m') : ∃ done, m.heap.Becomes done m'.heap := by
  have protocols := change.grows.protocols
  -- installations apart, only the making of a type touches types at all
  cases change with
  | install t name method => exact becomes_put (.method t name method) (by rintro _ _ _ ⟨⟩)
  | mixIn t p => exact becomes_put (.protocol t p (m.heap.protocol p)) (by rintro _ _ _ ⟨⟩; rfl)
  | type name fields => exact ⟨[], .quiet .start ⟨.inr ⟨name, fields, rfl⟩, protocols⟩⟩
  | _ => exact ⟨[], .quiet .start ⟨.inl rfl, protocols⟩⟩

/-- Every run has its list of installations. -/
theorem Evolves.becomes (evolves : m.Evolves m') : ∃ done, m.heap.Becomes done m'.heap := by
  induction evolves with
  | refl => exact ⟨[], .start⟩
  | tail _ change ih =>
    obtain ⟨done, before⟩ := ih
    obtain ⟨more, after⟩ := change.becomes
    exact ⟨done ++ more, before.trans after⟩

end Machine

/-! ### Answers -/

namespace Heap

variable {h : Heap} {e : Installation} {t : TypeRef} {name : String}

theorem isSubtype_self (there : (h.types.get? t.index).isSome) : h.isSubtype t t := by
  obtain ⟨info, hinfo⟩ := Option.isSome_iff_exists.1 there
  rw [isSubtype, Forest.findUp?_eq, Forest.chain, List.findSome?_cons, hinfo]
  simp

theorem isSubtype_of_parent {p other : TypeRef} (parent : h.parentType? t = some p)
    (descends : h.isSubtype p other) : h.isSubtype t other := by
  obtain ⟨i, hi, rfl⟩ := Option.map_eq_some_iff.1 parent
  rw [isSubtype, Forest.findUp?_eq] at descends ⊢
  rw [Forest.chain_of_parent hi, List.findSome?_cons]
  split
  · rfl
  · exact descends

/-- A type answers itself or passes the question on to its parent. -/
theorem method?_eq (h : Heap) (t : TypeRef) (name : String) :
    h.method? t name =
      (h.own? t name).or ((h.parentType? t).bind (h.method? · name)) := by
  have own : (h.types.get? t.index).bind (fun info => info.methods.get? name) = h.own? t name := by
    unfold own? Heap.type
    cases h.types.get? t.index with
    | none => rfl
    | some info => rfl
  -- the chain that is searched is the type and then the chain of its parent
  cases parent : h.types.parent? t.index with
  | none =>
    have root : h.parentType? t = none := congrArg (Option.map TypeRef.mk) parent
    rw [method?, Forest.findUp?_eq, Forest.chain_of_root parent, List.findSome?_cons, own, root]
    cases h.own? t name with
    | none => rfl
    | some f => rfl
  | some p =>
    have above : h.parentType? t = some ⟨p⟩ := congrArg (Option.map TypeRef.mk) parent
    rw [method?, Forest.findUp?_eq, Forest.chain_of_parent parent, List.findSome?_cons, own, above]
    cases h.own? t name with
    | none => exact (Forest.findUp?_eq ..).symm
    | some f => rfl

/-- An installation concerns the type that gets something and those below it that leave the question
to it: they descend from it, and have no method of that name themselves. -/
theorem of_method?_put_ne (changed : (h.put e).method? t name ≠ h.method? t name)
    (other : t ≠ e.target) : h.isSubtype t e.target ∧ h.own? t name = none := by
  have there : (h.types.get? e.target.index).isSome := by
    by_contra missing
    exact changed (by rw [put_of_missing missing])
  -- parents come before their children, so that the way up is an induction on the place of the type
  obtain ⟨i⟩ := t
  induction i using Nat.strong_induction_on with
  | _ i ih =>
    have own : (h.put e).own? ⟨i⟩ name = h.own? ⟨i⟩ name := by
      rw [own?, type_put, if_neg fun both => other both.1.symm, own?]
    have parents : (h.put e).parentType? ⟨i⟩ = h.parentType? ⟨i⟩ :=
      congrArg (Option.map TypeRef.mk) (Forest.parent?_update ..)
    rw [method?_eq, method?_eq h, own, parents] at changed
    -- the answer of the type itself is the same, so it is the parent that answers differently
    have unanswered : h.own? ⟨i⟩ name = none := by
      cases answer : h.own? ⟨i⟩ name with
      | none => rfl
      | some f => simp [answer] at changed
    refine ⟨?_, unanswered⟩
    cases parent : h.parentType? ⟨i⟩ with
    | none => simp [parent] at changed
    | some p =>
      obtain ⟨j, hj, rfl⟩ := Option.map_eq_some_iff.1 parent
      have changed' : (h.put e).method? ⟨j⟩ name ≠ h.method? ⟨j⟩ name := by
        simpa [unanswered, parent] using changed
      refine isSubtype_of_parent parent ?_
      by_cases target : ⟨j⟩ = e.target
      · rw [target]
        exact isSubtype_self there
      · exact (ih j (Forest.parent?_lt hj) changed' target).1

end Heap

end Lisp
