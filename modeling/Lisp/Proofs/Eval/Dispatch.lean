import Lisp.Proofs.Eval.TailCall
import Lisp.Proofs.Scope.Lexical
import Mathlib.Data.List.Sort

/-!
# Lambdas with several clauses

A lambda form is a vector of parameters with a body, or a row of such clauses. Its clauses are filed
under their arities, of which no two are the same, so that the number of arguments decides on the
clause: the one for exactly that number or, failing that, the one for at least the largest number
that is not above it. The parameters of the clause are then bound in a new scope within the one that
the lambda was made in, and its body is evaluated there.

## Main definitions

* `Lambda.Parameters`, `Lambda.ClauseOf`, `Lambda.ClausesOf` — the grammar of lambda forms
* `Lambda.Filed` — the clauses of a form as a lambda has them
* `Lambda.Selects` — the clause for a number of arguments
* `Lambda.Binds` — what is bound in the scope of a body
* `Machine.Opens` — a new scope, and nothing else

## Main results

* `Lambda.clauseTable_eq_ok_iff` — which forms make a lambda, and what clauses it has
* `Lambda.select_eq_ok_iff`, `Lambda.select_eq_error_iff` — which clause is selected
* `Lambda.binds_bindings` — what the parameters of a clause are bound to
* `Eval.makeLambda_dispatches` — from the form of a lambda to the evaluation of its bodies
-/

namespace Lisp

namespace Lambda

variable {h : Heap} {form source : Value} {items body operands : List Value}

/-! ### The grammar of lambda forms -/

/-- The parameters that a row of symbols stands for, and the one for further arguments: a symbol
that begins with an ampersand, or the one behind a symbol that is nothing else. -/
inductive Parameters : List Value → List String → Option String → Prop
  | nil : Parameters [] [] none
  | param {name : Name} {items : List Value} {params : List String} {rest : Option String}
      (plain : name.base.toList.head? ≠ some '&') (later : Parameters items params rest) :
      Parameters (.symbol name :: items) (name.base :: params) rest
  | joined {name : Name} {rest : String} (marked : name.base.toList = '&' :: rest.toList)
      (named : rest ≠ "") : Parameters [.symbol name] [] (some rest)
  | apart {mark name : Name} (marked : mark.base.toList = ['&']) :
      Parameters [.symbol mark, .symbol name] [] (some name.base)

/-- A clause with a vector of parameters and a body. It is for as many arguments as there are
parameters or, if one is for further arguments, for at least as many as there are others. -/
inductive ClauseOf : Value → List Value → Clause → Prop
  | exact {rep : Representation} {items body : List Value} {params : List String}
      (parameters : Parameters items params none) :
      ClauseOf (.vector rep items) body ⟨.exact params.length, params, none, body⟩
  | atLeast {rep : Representation} {items body : List Value} {params : List String}
      {rest : String} (parameters : Parameters items params (some rest)) :
      ClauseOf (.vector rep items) body ⟨.atLeast params.length, params, some rest, body⟩

/-- A clause in a list of its own. -/
inductive ListedClause : Value → Clause → Prop
  | intro {params : Value} {body : List Value} {c : Clause} (clause : ClauseOf params body c) :
      ListedClause (.list (params :: body)) c

/-- The clauses of a lambda form: one, or a row of lists. -/
inductive ClausesOf : List Value → List Clause → Prop
  | single {params : Value} {body : List Value} {c : Clause} (clause : ClauseOf params body c) :
      ClausesOf (params :: body) [c]
  | several {operands : List Value} {cs : List Clause} (nonempty : operands ≠ [])
      (clauses : List.Forall₂ ListedClause operands cs) : ClausesOf operands cs

/-! ### Reading lambda forms -/

theorem endParams_eq_ok_iff {params : List String} {rest : String}
    {result : List String × Option String} :
    endParams h form params rest items = .ok result ↔
      items = [] ∧ result = (params.reverse, some rest) := by
  cases items with
  | nil => simp [endParams, eq_comm]
  | cons item items => simp [endParams]

/-- A name begins with an ampersand, alone or in front of another name, or it does not. -/
theorem marking_cases (base : List Char) :
    base = ['&'] ∨ (∃ c cs, base = '&' :: c :: cs) ∨ base.head? ≠ some '&' := by
  by_cases hmark : base.head? = some '&'
  · obtain ⟨cs, rfl⟩ := List.head?_eq_some_iff.1 hmark
    cases cs with
    | nil => exact .inl rfl
    | cons c cs => exact .inr (.inl ⟨c, cs, rfl⟩)
  · exact .inr (.inr hmark)

section Marking

variable {name : Name} {before params : List String} {rest : Option String} {c : Char}
  {cs : List Char}

theorem parameters_of_apart (hbase : name.base.toList = ['&']) :
    Parameters (.symbol name :: items) params rest ↔
      ∃ last, items = [.symbol last] ∧ params = [] ∧ rest = some last.base := by
  constructor
  · rintro (_ | ⟨plain, later⟩ | ⟨marked, named⟩ | marked)
    · simp [hbase] at plain
    · rw [hbase, List.cons.injEq] at marked
      exact absurd (String.toList_eq_nil_iff.1 marked.2.symm) named
    · exact ⟨_, rfl, rfl, rfl⟩
  · rintro ⟨last, rfl, rfl, rfl⟩
    exact .apart hbase

theorem parameters_of_joined (hbase : name.base.toList = '&' :: c :: cs) :
    Parameters (.symbol name :: items) params rest ↔
      items = [] ∧ params = [] ∧ rest = some (.ofList (c :: cs)) := by
  constructor
  · rintro (_ | ⟨plain, later⟩ | ⟨marked, named⟩ | marked)
    · simp [hbase] at plain
    · rw [hbase, List.cons.injEq] at marked
      rw [marked.2, String.ofList_toList]
      exact ⟨rfl, rfl, rfl⟩
    · simp [hbase] at marked
  · rintro ⟨rfl, rfl, rfl⟩
    exact .joined (by rw [hbase, String.toList_ofList]) (by simp)

theorem parameters_of_plain (hbase : name.base.toList.head? ≠ some '&') :
    Parameters (.symbol name :: items) params rest ↔
      ∃ later, params = name.base :: later ∧ Parameters items later rest := by
  constructor
  · rintro (_ | ⟨plain, later⟩ | ⟨marked, named⟩ | marked)
    · exact ⟨_, rfl, later⟩
    · simp [marked] at hbase
    · simp [marked] at hbase
  · rintro ⟨later, rfl, hlater⟩
    exact .param hbase hlater

/-- Reading goes on behind the parameters that have been read. -/
theorem parseItems_eq_ok_iff :
    parseItems h form before items = .ok (params, rest) ↔
      ∃ later, params = before.reverse ++ later ∧ Parameters items later rest := by
  induction items generalizing before with
  | nil =>
    rw [parseItems, Except.ok.injEq, Prod.mk.injEq]
    constructor
    · rintro ⟨rfl, rfl⟩
      exact ⟨[], by simp, .nil⟩
    · rintro ⟨later, rfl, ⟨⟩⟩
      simp
  | cons item items ih =>
    cases item with
    | symbol name =>
      unfold parseItems
      simp only [expectSymbol, bind, Except.bind]
      obtain hbase | ⟨c, cs, hbase⟩ | hbase := marking_cases name.base.toList
      · simp only [hbase, parameters_of_apart hbase]
        -- the next symbol names the rest, and has to be the last
        cases items with
        | nil => simp
        | cons item items =>
          cases item with
          | symbol last => simp [endParams_eq_ok_iff, and_left_comm]
          | _ => simp
      · simp only [hbase, parameters_of_joined hbase, endParams_eq_ok_iff]
        simp [and_left_comm]
      · simp only [parameters_of_plain hbase]
        split
        · next hmark => simp [hmark] at hbase
        · next hmark => simp [hmark] at hbase
        · rw [ih]
          simp
    | _ =>
      constructor
      · intro hread
        cases hread
      · rintro ⟨_, _, ⟨⟩⟩

theorem parseItems_of_parameters (parameters : Parameters items params rest) :
    parseItems h form [] items = .ok (params, rest) :=
  parseItems_eq_ok_iff.2 ⟨params, rfl, parameters⟩

end Marking

/-- Reading a clause gives what the grammar says. -/
theorem parseClause_eq_ok_iff {params : Value} {c : Clause} :
    parseClause h params body = .ok c ↔ ClauseOf params body c := by
  cases params with
  | vector rep items =>
    constructor
    · intro hread
      cases hitems : parseItems h (.vector rep items) [] items with
      | error e => simp [parseClause, hitems, bind, Except.bind] at hread
      | ok read =>
        obtain ⟨names, rest⟩ := read
        obtain ⟨later, rfl, parameters⟩ := parseItems_eq_ok_iff.1 hitems
        simp only [parseClause, hitems, bind, Except.bind, pure, Except.pure,
          Except.ok.injEq] at hread
        subst hread
        cases rest with
        | none => exact .exact parameters
        | some rest => exact .atLeast parameters
    · intro clause
      cases clause with
      | exact parameters | atLeast parameters =>
        simp only [parseClause, parseItems_of_parameters parameters]
        rfl
  | _ =>
    constructor
    · intro hread
      cases hread
    · rintro ⟨⟩

theorem parseListed_eq_ok_iff {c : Clause} : parseListed h form = .ok c ↔ ListedClause form c := by
  constructor
  · intro hread
    unfold parseListed at hread
    split at hread
    · exact .intro (parseClause_eq_ok_iff.1 hread)
    · cases hread
  · rintro ⟨clause⟩
    exact parseClause_eq_ok_iff.2 clause

theorem mapM_eq_ok_iff {α β ε : Type} {f : α → Except ε β} {xs : List α} {ys : List β} :
    xs.mapM f = .ok ys ↔ List.Forall₂ (fun x y => f x = .ok y) xs ys := by
  induction xs generalizing ys with
  | nil => simp [pure, Except.pure, eq_comm]
  | cons x xs ih =>
    rw [List.mapM_cons, List.forall₂_cons_left_iff]
    cases hx : f x with
    | error e => simp [bind, Except.bind]
    | ok y =>
      simp only [Except.ok.injEq, ← ih, bind, Except.bind]
      cases hxs : xs.mapM f with
      | error e => simp
      | ok ys => simp [pure, Except.pure, eq_comm]

/-- Reading a lambda form gives what the grammar says. -/
theorem parseClauses_eq_ok_iff {cs : List Clause} :
    parseClauses h operands = .ok cs ↔ ClausesOf operands cs := by
  have listed : operands.mapM (parseListed h) = .ok cs ↔ List.Forall₂ ListedClause operands cs := by
    simp only [mapM_eq_ok_iff, parseListed_eq_ok_iff]
  constructor
  · intro hread
    unfold parseClauses at hread
    split at hread
    · cases hread
    · next rep items body =>
      cases hc : parseClause h (.vector rep items) body with
      | error e => simp [hc, bind, Except.bind] at hread
      | ok c =>
        simp only [hc, bind, Except.bind, pure, Except.pure, Except.ok.injEq] at hread
        subst hread
        exact .single (parseClause_eq_ok_iff.1 hc)
    · exact .several (List.cons_ne_nil _ _) (listed.1 hread)
    · cases hread
  · intro clauses
    cases clauses with
    | single clause =>
      have hc := (parseClause_eq_ok_iff (h := h)).2 clause
      cases clause with
      | exact | atLeast =>
        simp only [parseClauses, hc]
        rfl
    | several nonempty clauses =>
      have hread := listed.2 clauses
      cases clauses with
      | nil => exact absurd rfl nonempty
      | cons first later =>
        cases first with
        | intro clause => exact hread

/-- A clause takes as many arguments as it has parameters, and more if one takes the rest. -/
theorem ClauseOf.arity_eq {params : Value} {c : Clause} (clause : ClauseOf params body c) :
    c.rest = none ∧ c.arity = .exact c.params.length ∨
      (∃ rest, c.rest = some rest) ∧ c.arity = .atLeast c.params.length := by
  cases clause with
  | exact _ => exact .inl ⟨rfl, rfl⟩
  | atLeast _ => exact .inr ⟨⟨_, rfl⟩, rfl⟩

theorem ClausesOf.arity_eq {cs : List Clause} (clauses : ClausesOf operands cs) :
    ∀ c ∈ cs, c.rest = none ∧ c.arity = .exact c.params.length ∨
      (∃ rest, c.rest = some rest) ∧ c.arity = .atLeast c.params.length := by
  cases clauses with
  | single clause => simpa using clause.arity_eq
  | several nonempty clauses =>
    clear nonempty
    induction clauses with
    | nil => simp
    | cons first _ ih =>
      obtain ⟨clause⟩ := first
      exact List.forall_mem_cons.2 ⟨clause.arity_eq, ih⟩

/-! ### Filing clauses -/

/-- The clauses of a form as a lambda has them: one for each arity, in order of arities. -/
structure Filed (cs table : List Clause) : Prop where
  perm : table.Perm cs
  ordered : table.Pairwise fun c d => c.arity.le d.arity ∧ c.arity ≠ d.arity

theorem Filed.nodup {cs table : List Clause} (filed : Filed cs table) :
    (cs.map (·.arity)).Nodup := by
  have distinct : (table.map (·.arity)).Nodup :=
    List.pairwise_map.2 (filed.ordered.imp fun h => h.2)
  exact (filed.perm.map _).nodup_iff.1 distinct

theorem fileClause_eq_ok_iff {filed later : List Clause} {c : Clause} :
    fileClause h source filed c = .ok later ↔
      c.arity ∉ filed.map (·.arity) ∧ c :: filed = later := by
  have taken : filed.any (·.arity = c.arity) = true ↔ c.arity ∈ filed.map (·.arity) := by simp
  unfold fileClause
  split
  · next hany =>
    refine iff_of_false (fun hfile => ?_) fun h => h.1 (taken.1 hany)
    cases hfile
  · next hany => rw [Except.ok.injEq, and_iff_right fun hc => hany (taken.2 hc)]

/-- Clauses are filed one after the other, as long as no two have the same arity. -/
theorem foldlM_fileClause_eq_ok_iff {cs filed later : List Clause}
    (distinct : (filed.map (·.arity)).Nodup) :
    cs.foldlM (fileClause h source) filed = .ok later ↔
      ((cs.reverse ++ filed).map (·.arity)).Nodup ∧ cs.reverse ++ filed = later := by
  induction cs generalizing filed with
  | nil => simp [pure, Except.pure, distinct]
  | cons c cs ih =>
    rw [List.foldlM_cons, List.reverse_cons, List.append_assoc, List.singleton_append]
    cases hfile : fileClause h source filed c with
    | error e =>
      -- the arity of the clause is taken, and stays so
      have taken : c.arity ∈ filed.map (·.arity) := by
        by_contra hfree
        rw [fileClause_eq_ok_iff.2 ⟨hfree, rfl⟩] at hfile
        cases hfile
      refine iff_of_false (fun hfold => ?_) fun ⟨hnodup, _⟩ => ?_
      · cases hfold
      · rw [List.map_append, List.map_cons] at hnodup
        exact (List.nodup_cons.1 hnodup.of_append_right).1 taken
    | ok filed' =>
      obtain ⟨free, rfl⟩ := fileClause_eq_ok_iff.1 hfile
      exact ih (List.nodup_cons.2 ⟨free, distinct⟩)

theorem arity_le_trans (a b c : Arity) : a.le b → b.le c → a.le c := by
  cases a <;> cases b <;> cases c <;> simp [Arity.le] <;> omega

theorem arity_le_total (a b : Arity) : a.le b || b.le a := by
  cases a <;> cases b <;> simp [Arity.le] <;> omega

theorem arity_le_antisymm {a b : Arity} (hab : a.le b) (hba : b.le a) : a = b := by
  cases a <;> cases b <;> simp [Arity.le] at hab hba ⊢ <;> omega

/-- What is sorted by arity is filed if no two arities are the same. -/
theorem filed_mergeSort {cs xs : List Clause} (distinct : (cs.map (·.arity)).Nodup)
    (perm : xs.Perm cs) : Filed cs (xs.mergeSort fun a b => a.arity.le b.arity) where
  perm := (List.mergeSort_perm ..).trans perm
  ordered := by
    have sorted : (xs.mergeSort fun a b => a.arity.le b.arity).Pairwise fun c d =>
        c.arity.le d.arity := by
      refine List.pairwise_mergeSort ?_ ?_ xs
      · exact fun a b c => arity_le_trans a.arity b.arity c.arity
      · exact fun a b => arity_le_total a.arity b.arity
    have different : ((xs.mergeSort fun a b => a.arity.le b.arity).map (·.arity)).Nodup :=
      (((List.mergeSort_perm ..).trans perm).map _).nodup_iff.2 distinct
    exact sorted.and (List.pairwise_map.1 different)

/-- There is one way to file clauses. -/
theorem Filed.unique {cs table table' : List Clause} (filed : Filed cs table)
    (filed' : Filed cs table') : table = table' := by
  refine List.Perm.eq_of_pairwise ?_ filed.ordered filed'.ordered
    (filed.perm.trans filed'.perm.symm)
  intro c d _ _ hcd hdc
  exact absurd (arity_le_antisymm hcd.1 hdc.1) hcd.2

/-- A lambda form is one that follows the grammar and has no two clauses of one arity; its clauses
are filed. -/
theorem clauseTable_eq_ok_iff {table : List Clause} :
    clauseTable h operands source = .ok table ↔ ∃ cs, ClausesOf operands cs ∧ Filed cs table := by
  unfold clauseTable
  cases hcs : parseClauses h operands with
  | error e =>
    refine iff_of_false (fun hread => ?_) fun ⟨cs, clauses, _⟩ => ?_
    · cases hread
    · rw [parseClauses_eq_ok_iff.2 clauses] at hcs
      cases hcs
  | ok cs =>
    have clauses := parseClauses_eq_ok_iff.1 hcs
    have files (later : List Clause) : cs.foldlM (fileClause h source) [] = .ok later ↔
        (cs.map (·.arity)).Nodup ∧ cs.reverse = later := by
      have none : (([] : List Clause).map (·.arity)).Nodup := List.nodup_nil
      rw [foldlM_fileClause_eq_ok_iff none, List.append_nil, List.map_reverse, List.nodup_reverse]
    simp only [bind, Except.bind]
    cases hfold : cs.foldlM (fileClause h source) [] with
    | error e =>
      refine iff_of_false (fun hread => ?_) fun ⟨cs', clauses', filed⟩ => ?_
      · cases hread
      · rw [parseClauses_eq_ok_iff.2 clauses', Except.ok.injEq] at hcs
        subst hcs
        rw [(files _).2 ⟨filed.nodup, rfl⟩] at hfold
        cases hfold
    | ok filed =>
      obtain ⟨distinct, rfl⟩ := (files filed).1 hfold
      have made := filed_mergeSort distinct (List.reverse_perm cs)
      simp only [pure, Except.pure, Except.ok.injEq]
      constructor
      · rintro rfl
        exact ⟨cs, clauses, made⟩
      · rintro ⟨cs', clauses', filed⟩
        rw [parseClauses_eq_ok_iff.2 clauses', Except.ok.injEq] at hcs
        exact made.unique (hcs ▸ filed)

/-! ### Selecting a clause -/

/-- The clause for a number of arguments: the one for exactly that many, or the one for at least
the largest number that is not above it. -/
inductive Selects (cs : List Clause) (argc : Nat) : Clause → Prop
  | exact {c : Clause} (mem : c ∈ cs) (arity : c.arity = .exact argc) : Selects cs argc c
  | variadic {c : Clause} {least : Nat} (mem : c ∈ cs) (arity : c.arity = .atLeast least)
      (enough : least ≤ argc) (inexact : ∀ d ∈ cs, d.arity ≠ .exact argc)
      (largest : ∀ d ∈ cs, ∀ n ≤ argc, d.arity = .atLeast n → n ≤ least) : Selects cs argc c

variable {l : Lambda} {cs : List Clause} {argc : Nat} {c : Clause}

theorem accepts_iff {arity : Arity} : arity.accepts argc = true ↔
    arity = .exact argc ∨ ∃ least ≤ argc, arity = .atLeast least := by
  cases arity with
  | exact n => simp [Arity.accepts, eq_comm]
  | atLeast n => simp [Arity.accepts]

/-- The last of what is in strict order is what all others come before. -/
theorem getLast?_eq_some_iff_of_pairwise {α : Type} {R : α → α → Prop} {xs : List α} {x : α}
    (asymm : ∀ y z, R y z → ¬ R z y) (ordered : xs.Pairwise R) :
    xs.getLast? = some x ↔ x ∈ xs ∧ ∀ y ∈ xs, y = x ∨ R y x := by
  have last {z : α} (hz : xs.getLast? = some z) : z ∈ xs ∧ ∀ y ∈ xs, y = z ∨ R y z := by
    obtain ⟨before, rfl⟩ := List.getLast?_eq_some_iff.1 hz
    rw [List.pairwise_append] at ordered
    refine ⟨by simp, fun y hy => ?_⟩
    obtain hy | hy := List.mem_append.1 hy
    · exact .inr (ordered.2.2 y hy z (List.mem_singleton_self z))
    · exact .inl (List.mem_singleton.1 hy)
  refine ⟨last, fun ⟨hx, hbefore⟩ => ?_⟩
  cases hlast : xs.getLast? with
  | none =>
    rw [List.getLast?_eq_none_iff.1 hlast] at hx
    cases hx
  | some z =>
    obtain ⟨hz, hbefore'⟩ := last hlast
    obtain hzx | hzx := hbefore z hz
    · rw [hzx]
    · obtain hxz | hxz := hbefore' x hx
      · rw [hxz]
      · exact absurd hxz (asymm _ _ hzx)

/-- No two clauses of a lambda are for the same numbers of arguments. -/
theorem Filed.eq_of_arity {clauses : List Clause} (filed : Filed cs clauses) {d e : Clause}
    (hd : d ∈ clauses) (he : e ∈ clauses) (h : d.arity = e.arity) : d = e :=
  List.inj_on_of_nodup_map (List.pairwise_map.2 (filed.ordered.imp fun h => h.2)) hd he h

/-- Where no clause is for exactly the number of arguments, the last that accepts it is selected: it
has the largest least number. -/
theorem getLast?_accepting_iff {clauses : List Clause} (filed : Filed cs clauses)
    (inexact : ∀ d ∈ clauses, d.arity ≠ .exact argc) :
    (clauses.filter (·.arity.accepts argc)).getLast? = some c ↔ Selects clauses argc c := by
  rw [getLast?_eq_some_iff_of_pairwise
    (fun c d hcd hdc => hcd.2 (arity_le_antisymm hcd.1 hdc.1)) (filed.ordered.filter _)]
  simp only [List.mem_filter, accepts_iff]
  constructor
  · rintro ⟨⟨hc, exactly | ⟨least, enough, arity⟩⟩, before⟩
    · exact absurd exactly (inexact c hc)
    · refine .variadic hc arity enough inexact fun e he n hn harity => ?_
      obtain rfl | ⟨hle, -⟩ := before e ⟨he, .inr ⟨n, hn, harity⟩⟩
      · exact Nat.le_of_eq (Arity.atLeast.inj (harity.symm.trans arity))
      · simpa [Arity.le, harity, arity] using hle
  · intro selects
    cases selects with
    | exact hc exactly => exact absurd exactly (inexact c hc)
    | @variadic least hc arity enough _ largest =>
      refine ⟨⟨hc, .inr ⟨least, enough, arity⟩⟩, ?_⟩
      rintro e ⟨he, exactly | ⟨n, hn, harity⟩⟩
      · exact absurd exactly (inexact e he)
      · by_cases same : e.arity = c.arity
        · exact .inl (filed.eq_of_arity he hc same)
        · refine .inr ⟨?_, same⟩
          simpa [Arity.le, harity, arity] using largest e he n hn harity

/-- A lambda selects the clause that the rule says. -/
theorem select_eq_ok_iff (filed : Filed cs l.clauses) :
    l.select argc = .ok c ↔ Selects l.clauses argc c := by
  unfold select
  split
  · next d hfind =>
    have hd := List.mem_of_find?_eq_some hfind
    have exactly : d.arity = .exact argc := by simpa using List.find?_some hfind
    rw [Except.ok.injEq]
    constructor
    · rintro rfl
      exact .exact hd exactly
    · intro selects
      cases selects with
      | exact hc arity => exact filed.eq_of_arity hd hc (exactly.trans arity.symm)
      | variadic _ _ _ inexact _ => exact absurd exactly (inexact d hd)
  · next hfind =>
    have inexact : ∀ d ∈ l.clauses, d.arity ≠ .exact argc := by
      simpa using List.find?_eq_none.1 hfind
    have last (d : Clause) : (l.clauses.filter (·.arity.accepts argc)).getLast? = some d ↔
        Selects l.clauses argc d := getLast?_accepting_iff filed inexact
    cases hlast : (l.clauses.filter (·.arity.accepts argc)).getLast? with
    | none =>
      refine iff_of_false (fun h => ?_) fun h => ?_
      · cases h
      · rw [(last c).2 h] at hlast
        cases hlast
    | some d => rw [← last c, hlast, Except.ok.injEq, Option.some.injEq]

/-- No clause is selected exactly if none accepts the number of arguments; that is an error of
arity. -/
theorem select_eq_error_iff {cause : Cause} :
    l.select argc = .error cause ↔
      (∀ c ∈ l.clauses, c.arity.accepts argc = false) ∧
        cause = .arity l.displayName (" or ".intercalate (l.arities.map (·.text))) argc := by
  unfold select
  split
  · next c hfind =>
    have hc := List.mem_of_find?_eq_some hfind
    have arity : c.arity = .exact argc := by simpa using List.find?_some hfind
    refine iff_of_false (fun h => ?_) fun h => ?_
    · cases h
    · have := h.1 c hc
      simp [arity, Arity.accepts] at this
  · split
    · next c hlast =>
      have hc := List.mem_filter.1 (List.mem_of_getLast? hlast)
      refine iff_of_false (fun h => ?_) fun h => ?_
      · cases h
      · simpa [h.1 c hc.1] using hc.2
    · next hlast =>
      rw [List.getLast?_eq_none_iff, List.filter_eq_nil_iff] at hlast
      rw [Except.error.injEq, and_iff_right fun c hc => by simpa using hlast c hc, eq_comm]

/-! ### Binding parameters -/

/-- What the scope of a body binds: the rest parameter to the list of the arguments beyond the
others, each other parameter to the argument in its last place, and nothing else. -/
structure Binds (c : Clause) (args : List Value) (bound : String → Option Binding) : Prop where
  rest : ∀ name, c.rest = some name → bound name = some ⟨.list (args.drop c.params.length), none⟩
  param : ∀ (i : Nat) (name : String), c.params[i]? = some name →
    (∀ j, i < j → c.params[j]? ≠ some name) → c.rest ≠ some name →
    ∃ v, args[i]? = some v ∧ bound name = some ⟨v, none⟩
  other : ∀ name, name ∉ c.params → c.rest ≠ some name → bound name = none

end Lambda

namespace Machine

/-- One machine is another with a new scope within one of it, which binds names in some way. -/
structure Opens (m : Machine) (outer : ScopeRef) (bound : String → Option Binding)
    (m' : Machine) : Prop where
  child : m.heap.scopes.Child outer bound m'.heap.scopes
  rest : m' = { m with heap.scopes := m'.heap.scopes }

theorem opens_newScope {m : Machine} {outer : ScopeRef} (houter : m.heap.scopes.Has outer)
    (ident : String) (bindings : Dict Binding) :
    m.Opens outer bindings.get? ((Eval.newScope outer ident bindings).after m) :=
  ⟨Scopes.child_newScope houter ident bindings, rfl⟩

end Machine

namespace Lambda

/-- The bindings for a clause that accepts the arguments. -/
theorem binds_bindings {c : Clause} {args : List Value} (h : c.params.length ≤ args.length) :
    Binds c args (bindings c args).get? := by
  -- before the rest parameter, each place of a parameter takes the argument in this place
  have fixed (name : String) (hname : c.rest ≠ some name) :
      (bindings c args).get? name = (Scopes.bindAll c.params args).get? name := by
    unfold bindings
    cases hrest : c.rest with
    | none => rfl
    | some rest =>
      refine (Dict.get?_insert _ _ _ _).trans (if_neg fun hn => hname ?_)
      rw [hrest, hn]
  constructor
  · intro name hrest
    rw [bindings, hrest]
    exact (Dict.get?_insert _ _ _ _).trans (if_pos rfl)
  · intro i name hi last hname
    obtain ⟨hlt, -⟩ := List.getElem?_eq_some_iff.1 hi
    have hv : args[i]? = some args[i] := List.getElem?_eq_getElem (by omega)
    refine ⟨args[i], hv, ?_⟩
    rw [fixed name hname]
    exact Scopes.get?_bindAll_of_last hi hv last
  · intro name hparams hname
    rw [fixed name hname]
    exact Scopes.get?_bindAll_of_notMem hparams

/-- The body of a clause is evaluated in a new scope within the one that the lambda was made in,
which binds the parameters. -/
structure Entered (l : Lambda) (c : Clause) (args : List Value) (m m' : Machine) : Prop where
  opens : m.Opens l.scope (m'.heap.scopes.own? m.heap.scopes.next) m'
  binds : Binds c args (m'.heap.scopes.own? m.heap.scopes.next)

theorem entered_newScope {l : Lambda} {c : Clause} {args : List Value} {m : Machine}
    (hscope : m.heap.scopes.Has l.scope) (h : c.params.length ≤ args.length) :
    l.Entered c args m ((Eval.newScope l.scope l.displayName (bindings c args)).after m) := by
  have opens := Machine.opens_newScope hscope l.displayName (bindings c args)
  have bound := opens.child.own
  exact ⟨bound ▸ opens, bound ▸ binds_bindings h⟩

/-- A lambda made of clauses in a scope: it has these clauses, one for each arity, and selects among
them by the number of arguments. -/
structure Dispatches (cs : List Clause) (scope : ScopeRef) (l : Lambda) : Prop where
  scope : l.scope = scope
  filed : Filed cs l.clauses
  arity : ∀ c ∈ l.clauses, c.rest = none ∧ c.arity = .exact c.params.length ∨
    (∃ rest, c.rest = some rest) ∧ c.arity = .atLeast c.params.length
  selects : ∀ argc c, l.select argc = .ok c ↔ Selects l.clauses argc c
  fails : ∀ argc cause, l.select argc = .error cause ↔
    (∀ c ∈ l.clauses, c.arity.accepts argc = false) ∧
      cause = .arity l.displayName (" or ".intercalate (l.arities.map (·.text))) argc

theorem dispatches_of_filed {l : Lambda} {cs : List Clause} (clauses : ClausesOf operands cs)
    (filed : Filed cs l.clauses) : l.Dispatches cs l.scope where
  scope := rfl
  filed := filed
  arity c hc := clauses.arity_eq c (filed.perm.mem_iff.1 hc)
  selects _ _ := select_eq_ok_iff filed
  fails _ _ := select_eq_error_iff

/-- A clause that is selected has an argument for each of its parameters. -/
theorem Dispatches.length_le {l : Lambda} {cs : List Clause} {scope : ScopeRef} {c : Clause}
    {argc : Nat} (h : l.Dispatches cs scope) (hselect : l.select argc = .ok c) :
    c.params.length ≤ argc := by
  cases (h.selects argc c).1 hselect with
  | exact hc exactly =>
    obtain ⟨-, arity⟩ | ⟨-, arity⟩ := h.arity c hc
    · exact Nat.le_of_eq (Arity.exact.inj (arity.symm.trans exactly))
    · cases arity.symm.trans exactly
  | variadic hc atLeast enough _ _ =>
    obtain ⟨-, arity⟩ | ⟨-, arity⟩ := h.arity c hc
    · cases arity.symm.trans atLeast
    · exact Arity.atLeast.inj (arity.symm.trans atLeast) ▸ enough

end Lambda

namespace Engine

variable {E : Engine} {r : LambdaRef} {args : List Value} {m : Machine}

/-- A round for a number of arguments that no clause accepts fails before anything is done. -/
theorem runClauses_of_select_error {cause : Cause} (rounds : Nat)
    (h : (m.heap.lambda r).select args.length = .error cause) :
    E.runClauses r (rounds + 1) args m = .error (.fault { cause }) m := by
  simp only [runClauses, bind, EStateM.bind, Eval.get_apply, h]
  rfl

/-- A round evaluates the body of the clause selected, in the scope that is made for it. -/
theorem exists_entered {cs : List Clause} {c : Clause} (rounds : Nat)
    (dispatches : (m.heap.lambda r).Dispatches cs (m.heap.lambda r).scope)
    (hscope : m.heap.scopes.Has (m.heap.lambda r).scope)
    (h : (m.heap.lambda r).select args.length = .ok c) :
    ∃ m', (m.heap.lambda r).Entered c args m m' ∧
      E.runClauses r (rounds + 1) args m =
        match E.evalBody m.heap.scopes.next c.body m' with
        | .ok v m'' => .ok v m''
        | .error (.again next) m'' => E.runClauses r rounds next m''
        | .error (.fault e) m'' => Eval.failIn m.heap.scopes.next e m''
        | .error s m'' => .error s m'' := by
  refine ⟨_, Lambda.entered_newScope hscope (dispatches.length_le h), ?_⟩
  rewrite [runClauses_of_select rounds h, runBody_of_select h]
  generalize E.evalBody m.heap.scopes.next c.body _ = outcome
  cases outcome with
  | ok v m' => rfl
  | error s m' => cases s <;> rfl

end Engine

namespace Eval

variable {m : Machine} {scope : ScopeRef} {operands : List Value} {source : Value}
  {ident : Option Name}

/-- A form that makes no lambda leaves the machine as it is, the next number included. -/
theorem makeLambda_eq (m : Machine) (scope : ScopeRef) (operands : List Value) (source : Value)
    (ident : Option Name) :
    makeLambda scope operands source ident m =
      match Lambda.clauseTable m.heap operands source with
      | .error cause => .error (.fault { cause }) m
      | .ok clauses => .ok ⟨m.heap.lambdas.size⟩ { m with
          counter := m.counter + 1
          heap.lambdas := m.heap.lambdas.push
            { id := m.counter, clauses, scope, context := m.context, source, ident } } := by
  unfold makeLambda
  simp only [bind, EStateM.bind, heap, get_apply, pure, EStateM.pure]
  cases Lambda.clauseTable m.heap operands source with
  | error cause => rfl
  | ok clauses => rfl

/-- From the operands of a lambda form to the evaluation of a body. A form with two clauses of one
arity fails, as does one that does not follow the grammar, without a change to the machine, so that
no number is used up. From any other a lambda is made that has the clauses of the form, one for each
arity. As long as machines grow from the one it was made in, the lambda selects among these clauses
as the rule says, and fails for a number of arguments, which is an error of arity, exactly if no
clause accepts it. Each round of a call evaluates the body of the clause selected, in a new scope
within the one that the lambda was made in and in which the parameters are bound. -/
theorem makeLambda_dispatches (hscope : m.heap.scopes.Has scope) :
    (∀ cs, Lambda.ClausesOf operands cs → ¬ (cs.map (·.arity)).Nodup →
      ∃ e, makeLambda scope operands source ident m = .error (.fault e) m) ∧
    ((∃ e, makeLambda scope operands source ident m = .error (.fault e) m) ∧
        (∀ cs, Lambda.ClausesOf operands cs → ¬ (cs.map (·.arity)).Nodup) ∨
      ∃ cs r m', Lambda.ClausesOf operands cs ∧
        makeLambda scope operands source ident m = .ok r m' ∧
        ∀ m₁, m'.Grows m₁ → (m₁.heap.lambda r).Dispatches cs scope ∧
          ∀ (E : Engine) (rounds : Nat) (args : List Value),
            match (m₁.heap.lambda r).select args.length with
            | .error cause => E.runClauses r (rounds + 1) args m₁ = .error (.fault { cause }) m₁
            | .ok c => ∃ m₂, (m₁.heap.lambda r).Entered c args m₁ m₂ ∧
              E.runClauses r (rounds + 1) args m₁ =
                match E.evalBody m₁.heap.scopes.next c.body m₂ with
                | .ok v m₃ => .ok v m₃
                | .error (.again next) m₃ => E.runClauses r rounds next m₃
                | .error (.fault e) m₃ => failIn m₁.heap.scopes.next e m₃
                | .error s m₃ => .error s m₃) := by
  rw [makeLambda_eq]
  cases htable : Lambda.clauseTable m.heap operands source with
  | error cause =>
    have unfiled : ∀ cs, Lambda.ClausesOf operands cs → ¬ (cs.map (·.arity)).Nodup := by
      intro cs clauses distinct
      have filed := Lambda.filed_mergeSort distinct (.refl cs)
      rw [Lambda.clauseTable_eq_ok_iff.2 ⟨cs, clauses, filed⟩] at htable
      cases htable
    exact ⟨fun _ _ _ => ⟨_, rfl⟩, .inl ⟨⟨_, rfl⟩, unfiled⟩⟩
  | ok table =>
    obtain ⟨cs, clauses, filed⟩ := Lambda.clauseTable_eq_ok_iff.1 htable
    constructor
    · intro cs' clauses' repeated
      have same := (Lambda.parseClauses_eq_ok_iff (h := m.heap)).2 clauses'
      rw [Lambda.parseClauses_eq_ok_iff.2 clauses, Except.ok.injEq] at same
      exact absurd (same ▸ filed.nodup) repeated
    · refine .inr ⟨cs, _, _, clauses, rfl, fun m₁ hgrows => ?_⟩
      obtain ⟨l, hl, grown⟩ := hgrows.lambdas _ _ Array.getElem?_push_size
      have made : m₁.heap.lambda ⟨m.heap.lambdas.size⟩ = l := by
        rw [Heap.lambda, Array.getD_eq_getD_getElem?, hl, Option.getD_some]
      have inScope : l.scope = scope := grown.scope
      have filed' : Lambda.Filed cs l.clauses := by
        rw [grown.clauses]
        exact filed
      have hscope' : m₁.heap.scopes.Has l.scope :=
        inScope ▸ Nat.lt_of_lt_of_le hscope hgrows.scopes_size
      rw [← inScope]
      subst made
      have dispatches := Lambda.dispatches_of_filed clauses filed'
      refine ⟨dispatches, fun E rounds args => ?_⟩
      split
      · next cause hselect => exact Engine.runClauses_of_select_error rounds hselect
      · next c hselect => exact Engine.exists_entered rounds dispatches hscope' hselect

/-- A lambda with a clause for one argument and one for two or more, of which the name of the first
is repeated; called with three, it takes the latter. -/
theorem makeLambda_dispatches_rest :
    let m : Machine := { (default : Machine) with heap.scopes := (Scopes.root {}).2 }
    let form := [.list [.vector .native [.sym "a"], .kw "one"],
      .list [.vector .native [.sym "a", .sym "a", .sym "&", .sym "r"], .kw "more"]]
    let args := [.bool true, .bool false, .nil]
    m.heap.scopes.Has ⟨0⟩ ∧
      ∃ r m' c m'', makeLambda ⟨0⟩ form .nil none m = .ok r m' ∧
        (m'.heap.lambda r).select 3 = .ok c ∧ c.body = [.kw "more"] ∧
        (m'.heap.lambda r).Entered c args m' m'' ∧
        m''.heap.scopes.own? m'.heap.scopes.next "a" = some ⟨.bool false, none⟩ ∧
        m''.heap.scopes.own? m'.heap.scopes.next "r" = some ⟨.list [.nil], none⟩ := by
  intro m form args
  let one : Clause := ⟨.exact 1, ["a"], none, [.kw "one"]⟩
  let more : Clause := ⟨.atLeast 2, ["a", "a"], some "r", [.kw "more"]⟩
  have clauses : Lambda.ClausesOf form [one, more] := by
    refine .several (List.cons_ne_nil _ _) (.cons ⟨.exact (.param ?_ .nil)⟩ (.cons ⟨?_⟩ .nil))
    · decide
    · refine .atLeast (.param ?_ (.param ?_ (.apart ?_)))
      · decide
      · decide
      · decide
  have there : m.heap.scopes.Has ⟨0⟩ := Nat.zero_lt_one
  have same (cs : List Clause) (h : Lambda.ClausesOf form cs) : cs = [one, more] := by
    have hcs := (Lambda.parseClauses_eq_ok_iff (h := m.heap)).2 h
    rw [Lambda.parseClauses_eq_ok_iff.2 clauses, Except.ok.injEq] at hcs
    exact hcs.symm
  refine ⟨there, ?_⟩
  obtain ⟨-, ⟨-, fails⟩ | ⟨cs, r, m', hcs, made, later⟩⟩ :=
    @makeLambda_dispatches m ⟨0⟩ form .nil none there
  · exact absurd (by decide) (fails _ clauses)
  · obtain rfl := same cs hcs
    obtain ⟨dispatches, rounds⟩ := later m' (.refl m')
    have hselect : (m'.heap.lambda r).select 3 = .ok more := by
      rw [dispatches.selects]
      have members (d : Clause) : d ∈ (m'.heap.lambda r).clauses ↔ d = one ∨ d = more := by
        rw [dispatches.filed.perm.mem_iff]
        simp
      refine .variadic ((members _).2 (.inr rfl)) rfl (by decide) ?_ ?_
      · intro d hd
        obtain rfl | rfl := (members d).1 hd
        · decide
        · decide
      · intro d hd n _ arity
        obtain rfl | rfl := (members d).1 hd
        · cases arity
        · exact Nat.le_of_eq (Arity.atLeast.inj arity).symm
    have round := rounds (Engine.ofFuel ⟨{}, fun _ => none⟩ 0) 0 args
    rw [show args.length = 3 from rfl, hselect] at round
    obtain ⟨m'', entered, -⟩ := round
    refine ⟨r, m', more, m'', made, hselect, rfl, entered, ?_, ?_⟩
    · have last : ∀ j, 1 < j → more.params[j]? ≠ some "a" := by
        intro j hj
        rw [List.getElem?_eq_none hj]
        simp
      obtain ⟨v, hv, bound⟩ := entered.binds.param 1 "a" rfl last (by decide)
      cases hv
      exact bound
    · exact entered.binds.rest "r" rfl

end Eval

end Lisp
