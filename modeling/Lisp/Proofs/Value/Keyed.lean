import Lisp.Proofs.Value.Finding
import Lisp.Proofs.Value.Order
import Mathlib.Data.List.Induction

/-!
# Building maps and sets

A table puts entries where it likes and may file all keys anew at any time, so what setting an entry
comes to is said up to the order of entries: either the value under a key that answers is replaced,
or an entry goes in. Among keys that are found this keeps the keys apart, and so does every way to
build a map or set, whatever repetitions there are; without repetitions a map keeps all entries.

## Main definitions

* `Shelf.Rearranged` — entries in another order, with all keys filed anew or none
* `Shelf.Inserted`, `Shelf.Erased` — what setting and removing an entry can come to
* `Value.Settled` — entries with keys that differ and that are found by what is the same
* `Value.Lawful` — keys differ at every depth, and a map or set has keys that are found

## Main results

* `Shelf.inserted_insert`, `Shelf.erased_erase` — every entry set or removed is one of these
* `Value.Settled.insert`, `Value.Settled.erase`, `Value.Settled.insertAll` — keys stay apart
* `Shelf.exists_of_mem_insertAll` — the entries of a map come from the given ones
* `Shelf.insertAll_of_apart` — without repetitions nothing is lost
-/

namespace Lisp

open Value (Everywhere WellKeyed Differ Reliable)

variable [Tables] {text : Entity → String} {k v : Value} {t : Table}

namespace Shelf

variable {s : Shelf} {es out : List (Filed Value × Value)}

/-- An entry whose key is filed anew. -/
def refileEntry (text : Entity → String) (e : Filed Value × Value) : Filed Value × Value :=
  (e.1.value.file text, e.2)

/-- The same entries in another order, with all keys filed anew or none. -/
inductive Rearranged (text : Entity → String) (es out : List (Filed Value × Value)) : Prop where
  | moved (perm : out.Perm es)
  | refiled (perm : out.Perm (es.map (refileEntry text)))

/-- What setting an entry can come to. -/
inductive Inserted (text : Entity → String) (rep : Representation) (k v : Value)
    (es out : List (Filed Value × Value)) : Prop where
  | replaced {t : Table} {d : Filed Value × Value} {rest : List (Filed Value × Value)}
    (old : Rearranged text es (d :: rest)) (found : d.1.answers text t k = true)
    (new : out.Perm ((survivor text rep d.1 k, v) :: rest))
  | added {t : Table} {rest : List (Filed Value × Value)} (old : Rearranged text es rest)
    (absent : ∀ e ∈ rest, e.1.answers text t k = false) (new : out.Perm ((k.file text, v) :: rest))

/-- What removing an entry can come to. -/
inductive Erased (text : Entity → String) (t : Table) (k : Value)
    (es out : List (Filed Value × Value)) : Prop where
  | removed {d : Filed Value × Value} (old : es.Perm (d :: out))
    (found : d.1.answers text t k = true)
  | kept (absent : ∀ e ∈ es, e.1.answers text t k = false) (same : out = es)

/-! ### Every entry set or removed -/

@[simp] theorem put_rep (f : Filed Value) : (s.put f v).table.rep = s.table.rep := rfl

theorem put_perm (f : Filed Value) : (s.put f v).entries.Perm ((f, v) :: s.entries) := by
  conv_rhs => rw [← List.take_append_drop (Tables.place s.table s.marks f.mark) s.entries]
  exact List.perm_middle

variable (text) in
/-- Filing keys anew, one after the other, on top of what has been filed so far. -/
theorem foldl_put (es : List (Filed Value × Value)) (s : Shelf) :
    (es.foldl (fun s e => s.put (e.1.value.file text) e.2) s).table.rep = s.table.rep ∧
      (es.foldl (fun s e => s.put (e.1.value.file text) e.2) s).entries.Perm
        (es.map (refileEntry text) ++ s.entries) := by
  induction es generalizing s with
  | nil => exact ⟨rfl, .refl _⟩
  | cons e es ih =>
    -- `e` goes in first, and all others on top of it
    obtain ⟨rep, perm⟩ := ih (s.put (e.1.value.file text) e.2)
    refine ⟨rep, perm.trans ?_⟩
    have put := (put_perm (s := s) (v := e.2) (e.1.value.file text)).append_left
      (es.map (refileEntry text))
    exact put.trans List.perm_middle

variable (text) in
theorem makeRoom_spec (s : Shelf) :
    (s.makeRoom text).table.rep = s.table.rep ∧
      Rearranged text s.entries (s.makeRoom text).entries := by
  unfold makeRoom
  split
  · exact ⟨rfl, .moved (.refl _)⟩
  · next state _ =>
    obtain ⟨rep, perm⟩ := foldl_put text s.entries ⟨{ s.table with state }, []⟩
    rw [List.append_nil] at perm
    exact ⟨rep, .refiled perm⟩

/-- An entry that answers stands between others. -/
theorem place?_eq_some {i : Nat} (h : s.place? text k = some i) :
    ∃ d, d ∈ s.entries[i]? ∧ d.1.answers text s.table k = true ∧
      s.entries = s.entries.take i ++ d :: s.entries.drop (i + 1) := by
  obtain ⟨hi, hfound, -⟩ := List.findIdx?_eq_some_iff_getElem.1 h
  refine ⟨s.entries[i], List.getElem?_eq_getElem hi, hfound, ?_⟩
  rw [← List.drop_eq_getElem_cons hi, List.take_append_drop]

theorem place?_eq_none (h : s.place? text k = none) :
    ∀ e ∈ s.entries, e.1.answers text s.table k = false := by
  simpa using List.findIdx?_eq_none_iff.1 h

@[simp] theorem insert_rep : (s.insert text k v).table.rep = s.table.rep := by
  have rep := (makeRoom_spec text s).1
  unfold insert
  dsimp only
  split
  · exact rep
  · exact rep

variable (text k v s) in
theorem inserted_insert :
    Inserted text s.table.rep k v s.entries (s.insert text k v).entries := by
  obtain ⟨rep, old⟩ := makeRoom_spec text s
  unfold insert
  dsimp only
  split
  · next i hi =>
    -- what has been moved to make room is told with the entry that answers in front
    obtain ⟨d, hd, found, split⟩ := place?_eq_some hi
    have perm : (s.makeRoom text).entries.Perm
        (d :: ((s.makeRoom text).entries.take i ++ (s.makeRoom text).entries.drop (i + 1))) := by
      conv_lhs => rw [split]
      exact List.perm_middle
    have first : Rearranged text s.entries
        (d :: ((s.makeRoom text).entries.take i ++ (s.makeRoom text).entries.drop (i + 1))) := by
      cases old with
      | moved h => exact .moved (perm.symm.trans h)
      | refiled h => exact .refiled (perm.symm.trans h)
    refine .replaced first found ?_
    · obtain ⟨hi, rfl⟩ := List.getElem?_eq_some_iff.1 hd
      rw [List.modify_eq_take_cons_drop hi, rep]
      exact List.perm_middle
  · next hnone =>
    exact .added old (place?_eq_none hnone) (put_perm _)

variable (text k s) in
theorem erased_erase : Erased text s.table k s.entries (s.erase text k).entries := by
  unfold erase
  split
  · next i hi =>
    obtain ⟨d, -, found, split⟩ := place?_eq_some hi
    refine .removed (d := d) ?_ found
    rw [List.eraseIdx_eq_take_drop_succ]
    conv_lhs => rw [split]
    exact List.perm_middle
  · next hnone => exact .kept (place?_eq_none hnone) rfl

@[simp] theorem erase_rep : (s.erase text k).table.rep = s.table.rep := by
  unfold erase
  split
  · rfl
  · rfl

/-! ### What all keys and all values have -/

omit [Tables] in
theorem Rearranged.forall_key {P : Filed Value → Prop} (h : Rearranged text es out)
    (old : ∀ e ∈ es, P e.1) (refile : ∀ f, P f → P (f.value.file text)) : ∀ e ∈ out, P e.1 := by
  cases h with
  | moved perm => exact fun e he => old e (perm.mem_iff.1 he)
  | refiled perm =>
    intro e he
    obtain ⟨d, hd, rfl⟩ := List.mem_map.1 (perm.mem_iff.1 he)
    exact refile _ (old d hd)

omit [Tables] in
theorem Rearranged.forall_value {P : Value → Prop} (h : Rearranged text es out)
    (old : ∀ e ∈ es, P e.2) : ∀ e ∈ out, P e.2 := by
  cases h with
  | moved perm => exact fun e he => old e (perm.mem_iff.1 he)
  | refiled perm =>
    intro e he
    obtain ⟨d, hd, rfl⟩ := List.mem_map.1 (perm.mem_iff.1 he)
    exact old d hd

/-- What holds of the old keys, also when they are filed anew, and of the new one holds of all keys
after an entry is set. -/
theorem forall_key_insert {P : Filed Value → Prop} (old : ∀ e ∈ s.entries, P e.1)
    (refile : ∀ f, P f → P (f.value.file text)) (new : P (k.file text)) :
    ∀ e ∈ (s.insert text k v).entries, P e.1 := by
  intro e he
  cases inserted_insert text k v s with
  | @replaced _ d rest rearranged _ perm =>
    have keys := List.forall_mem_cons.1 (rearranged.forall_key old refile)
    rcases List.mem_cons.1 (perm.mem_iff.1 he) with rfl | he
    · -- of two keys that are the same, either may survive
      cases s.table.rep with
      | native => exact keys.1
      | persistent => exact new
    · exact keys.2 e he
  | added rearranged _ perm =>
    rcases List.mem_cons.1 (perm.mem_iff.1 he) with rfl | he
    · exact new
    · exact rearranged.forall_key old refile e he

theorem forall_value_insert {P : Value → Prop} (old : ∀ e ∈ s.entries, P e.2) (new : P v) :
    ∀ e ∈ (s.insert text k v).entries, P e.2 := by
  intro e he
  cases inserted_insert text k v s with
  | replaced rearranged _ perm =>
    rcases List.mem_cons.1 (perm.mem_iff.1 he) with rfl | he
    · exact new
    · exact (List.forall_mem_cons.1 (rearranged.forall_value old)).2 e he
  | added rearranged _ perm =>
    rcases List.mem_cons.1 (perm.mem_iff.1 he) with rfl | he
    · exact new
    · exact rearranged.forall_value old e he

/-- What holds throughout a map and an entry goes on to hold once the entry is set. -/
theorem everywhere_insert {P : Value → Prop} (here : P (s.insert text k v).toMap)
    (hs : Everywhere P s.toMap) (hk : Everywhere P k) (hv : Everywhere P v) :
    Everywhere P (s.insert text k v).toMap := by
  refine Value.everywhere_map here ?_ ?_
  · exact forall_key_insert (P := fun f => Everywhere P f.value)
      (fun e he => hs.inside (Value.key_mem_parts he)) (fun _ hf => hf) hk
  · exact forall_value_insert (fun e he => hs.inside (Value.value_mem_parts he)) hv

/-- Removing an entry brings nothing in. -/
theorem mem_of_mem_erase {e : Filed Value × Value} (he : e ∈ (s.erase text k).entries) :
    e ∈ s.entries := by
  cases erased_erase text k s with
  | removed perm _ => exact perm.mem_iff.2 (List.mem_cons_of_mem _ he)
  | kept _ same => exact same ▸ he

/-! ### Several entries -/

theorem insertAll_append_singleton (ps : List (Value × Value)) (p : Value × Value) :
    s.insertAll text (ps ++ [p]) = (s.insertAll text ps).insert text p.1 p.2 := by
  simp [insertAll]

@[simp] theorem insertAll_rep (ps : List (Value × Value)) :
    (s.insertAll text ps).table.rep = s.table.rep := by
  induction ps using List.reverseRecOn with
  | nil => rfl
  | append_singleton ps p ih => rw [insertAll_append_singleton, insert_rep, ih]

/-- The entries set in an empty table have keys and values from the given ones, filed as they are
now. -/
theorem exists_of_mem_insertAll {ps : List (Value × Value)} (hs : s.entries = [])
    {e : Filed Value × Value} (he : e ∈ (s.insertAll text ps).entries) :
    (∃ p ∈ ps, e.1 = p.1.file text) ∧ ∃ p ∈ ps, e.2 = p.2 := by
  -- entries are set from the left, so the last one goes into the map of all others
  induction ps using List.reverseRecOn generalizing e with
  | nil => simp [insertAll, hs] at he
  | append_singleton ps p ih =>
    rw [insertAll_append_singleton] at he
    refine ⟨forall_key_insert (P := fun f => ∃ q ∈ ps ++ [p], f = q.1.file text) ?_ ?_ ?_ e he,
      forall_value_insert (P := fun v => ∃ q ∈ ps ++ [p], v = q.2) ?_ ⟨p, by simp, rfl⟩ e he⟩
    · intro e he
      obtain ⟨q, hq, hkey⟩ := (ih he).1
      exact ⟨q, by simp [hq], hkey⟩
    · rintro f ⟨q, hq, rfl⟩
      exact ⟨q, hq, rfl⟩
    · exact ⟨p, by simp, rfl⟩
    · intro e he
      obtain ⟨q, hq, hvalue⟩ := (ih he).2
      exact ⟨q, by simp [hq], hvalue⟩

/-! ### Nothing under the keys -/

/-- There is nothing under the keys, as in the table of a set. -/
def Bare (s : Shelf) : Prop := ∀ e ∈ s.entries, e.2 = .nil

omit [Tables] in
theorem bare_ofSet (items : List (Filed Value)) : (ofSet t items).Bare :=
  List.forall_mem_map.2 fun _ _ => rfl

theorem Bare.insert (h : s.Bare) : (s.insert text k .nil).Bare :=
  forall_value_insert (P := (· = .nil)) h rfl

theorem Bare.insertAll (h : s.Bare) (xs : List Value) :
    (s.insertAll text (xs.map (·, .nil))).Bare := by
  induction xs using List.reverseRecOn with
  | nil => exact h
  | append_singleton xs x ih =>
    rw [List.map_append, List.map_singleton, insertAll_append_singleton]
    exact ih.insert

omit [Tables] in
/-- Then the entries are told by their keys. -/
theorem Bare.map_nil (h : s.Bare) :
    (s.entries.map (·.1)).map (·, Value.nil) = s.entries := by
  have keep : ∀ e ∈ s.entries, ((·, Value.nil) ∘ (·.1)) e = id e := by
    intro e he
    simp [← h e he]
  rw [List.map_map, List.map_congr_left keep, List.map_id]

end Shelf

namespace Value

/-- Entries with keys that differ and that are found by what is the same. -/
structure Settled (text : Entity → String) (es : List (Filed Value × Value)) : Prop where
  keys : ∀ e ∈ es, e.1.Reliable text
  values : ∀ e ∈ es, WellKeyed e.2
  apart : es.Pairwise fun d e => Differ d.1.value e.1.value

variable {es out : List (Filed Value × Value)} {d : Filed Value × Value}

theorem settled_nil : Settled text [] := ⟨by simp, by simp, .nil⟩

theorem settled_cons_iff :
    Settled text (d :: es) ↔ d.1.Reliable text ∧ WellKeyed d.2 ∧
      (∀ e ∈ es, Differ d.1.value e.1.value) ∧ Settled text es := by
  constructor
  · rintro ⟨keys, values, apart⟩
    rw [List.forall_mem_cons] at keys values
    rw [List.pairwise_cons] at apart
    exact ⟨keys.1, values.1, apart.1, keys.2, values.2, apart.2⟩
  · rintro ⟨key, value, differ, keys, values, apart⟩
    exact ⟨List.forall_mem_cons.2 ⟨key, keys⟩, List.forall_mem_cons.2 ⟨value, values⟩,
      List.pairwise_cons.2 ⟨differ, apart⟩⟩

namespace Settled

theorem key (h : Settled text es) {e : Filed Value × Value} (he : e ∈ es) : WellKeyed e.1.value :=
  (h.keys e he).value.wellKeyed

theorem wellKeyed (h : Settled text es) : WellKeyed (map t es) :=
  wellKeyed_map h.apart (fun _ he => h.key he) h.values

theorem perm (h : Settled text es) (perm : out.Perm es) : Settled text out where
  keys e he := h.keys e (perm.mem_iff.1 he)
  values e he := h.values e (perm.mem_iff.1 he)
  apart := perm.symm.pairwise h.apart fun differ => differ.symm

theorem refile (h : Settled text es) : Settled text (es.map (Shelf.refileEntry text)) where
  keys := List.forall_mem_map.2 fun e he => (h.keys e he).value.file
  values := List.forall_mem_map.2 h.values
  apart := List.pairwise_map.2 h.apart

theorem rearranged (h : Settled text es) (hes : Shelf.Rearranged text es out) :
    Settled text out := by
  cases hes with
  | moved perm => exact h.perm perm
  | refiled perm => exact h.refile.perm perm

end Settled

/-! ### Keys stay apart -/

/-- A key that does not answer differs. -/
theorem differ_of_answers {f : Filed Value} (hf : f.Reliable text) (wk : WellKeyed k)
    (h : f.answers text t k = false) : Differ k f.value := by
  rw [hf.answers_eq wk] at h
  refine ⟨?_, h⟩
  by_contra hsame
  have := wk.same_symm hf.value.wellKeyed (by simpa using hsame)
  simp [h] at this

/-- Whichever of two keys that are the same survives, it is found and is the same. -/
theorem reliable_survivor (rep : Representation) {f : Filed Value} (hf : f.Reliable text)
    (hk : Reliable text k) (h : f.value.same k = true) :
    (Shelf.survivor text rep f k).Reliable text ∧
      (Shelf.survivor text rep f k).value.same k = true := by
  cases rep with
  | native => exact ⟨hf, h⟩
  | persistent => exact ⟨hk.file, hk.wellKeyed.same_refl⟩

namespace Settled

variable {s : Shelf}

/-- Keys stay apart when an entry is set, also if all are filed anew before. -/
theorem insert (h : Settled text s.entries) (hk : Reliable text k) (wv : WellKeyed v) :
    Settled text (s.insert text k v).entries := by
  cases Shelf.inserted_insert text k v s with
  | @replaced t d rest old found new =>
    obtain ⟨hd, -, differ, hrest⟩ := settled_cons_iff.1 (h.rearranged old)
    rw [hd.answers_eq hk.wellKeyed] at found
    obtain ⟨hkey, hsame⟩ := reliable_survivor s.table.rep hd hk found
    refine (settled_cons_iff.2 ⟨hkey, wv, fun e he => ?_, hrest⟩).perm new
    -- the key that stays is the same as the one that was there
    have wd := hd.value.wellKeyed
    have we := hrest.key he
    exact (differ e he).of_same wd hkey.value.wellKeyed we we (wd.same_trans hk.wellKeyed
      hkey.value.wellKeyed found (hkey.value.wellKeyed.same_symm hk.wellKeyed hsame)) we.same_refl
  | @added t rest old absent new =>
    have hrest := h.rearranged old
    exact (settled_cons_iff.2 ⟨hk.file, wv, fun e he =>
      differ_of_answers (hrest.keys e he) hk.wellKeyed (absent e he), hrest⟩).perm new

theorem erase (h : Settled text s.entries) (k : Value) : Settled text (s.erase text k).entries := by
  cases Shelf.erased_erase text k s with
  | removed old _ => exact (settled_cons_iff.1 (h.perm old.symm)).2.2.2
  | kept _ same => rwa [same]

theorem insertAll (h : Settled text s.entries) {ps : List (Value × Value)}
    (hps : ∀ p ∈ ps, Reliable text p.1 ∧ WellKeyed p.2) :
    Settled text (s.insertAll text ps).entries := by
  induction ps using List.reverseRecOn with
  | nil => exact h
  | append_singleton ps p ih =>
    rw [Shelf.insertAll_append_singleton]
    obtain ⟨hk, wv⟩ := hps p (by simp)
    exact (ih fun q hq => hps q (by simp [hq])).insert hk wv

end Settled

end Value

/-! ### Maps and sets without repetitions -/

namespace Shelf

variable {s : Shelf}

variable (text v) in
/-- An entry with a key that differs from all others goes in, wherever keys are looked for. -/
theorem insert_of_new (keys : ∀ e ∈ s.entries, WellKeyed e.1.value) (wk : WellKeyed k)
    (new : ∀ e ∈ s.entries, Differ e.1.value k) :
    ∃ rest, Rearranged text s.entries rest ∧
      (s.insert text k v).entries.Perm ((k.file text, v) :: rest) := by
  cases inserted_insert text k v s with
  | @replaced t d rest old found _ =>
    -- a key that answers agrees, so it is the same
    obtain ⟨wd, differ⟩ := old.forall_key (P := fun f => WellKeyed f.value ∧ Differ f.value k)
      (fun e he => ⟨keys e he, new e he⟩) (fun _ hf => hf) d (by simp)
    have same := Value.same_of_agrees wk wd (Value.agrees_of_answers found)
    simp [differ.2] at same
  | added old _ new => exact ⟨_, old, new⟩

variable (text) in
/-- A map of entries with keys that all differ keeps them all, in some order. -/
theorem insertAll_of_apart {ps : List (Value × Value)} (hs : s.entries = [])
    (keys : ∀ p ∈ ps, WellKeyed p.1) (apart : ps.Pairwise fun p q => Differ p.1 q.1) :
    (s.insertAll text ps).entries.Perm (ps.map fun p => (p.1.file text, p.2)) := by
  induction ps using List.reverseRecOn with
  | nil => simp [insertAll, hs]
  | append_singleton ps p ih =>
    rw [List.pairwise_append] at apart
    have perm := ih (fun q hq => keys q (by simp [hq])) apart.1
    -- the last key is new, and what was there before has just been filed
    have old {P : Value → Prop} (hP : ∀ q ∈ ps, P q.1) :
        ∀ e ∈ (s.insertAll text ps).entries, P e.1.value := by
      intro e he
      obtain ⟨q, hq, hkey⟩ := (exists_of_mem_insertAll hs he).1
      rw [hkey]
      exact hP q hq
    obtain ⟨rest, rearranged, new⟩ := insert_of_new text p.2
      (old fun q hq => keys q (by simp [hq])) (keys p (by simp))
      (old (P := (Differ · p.1)) fun q hq => apart.2.2 q hq p (by simp))
    have same : rest.Perm (ps.map fun p => (p.1.file text, p.2)) := by
      cases rearranged with
      | moved h => exact h.trans perm
      | refiled h =>
        refine h.trans ((perm.map _).trans (.of_eq ?_))
        rw [List.map_map]
        rfl
    rw [insertAll_append_singleton, List.map_append, List.map_singleton]
    exact new.trans ((same.cons _).trans (List.perm_append_singleton _ _).symm)

end Shelf

namespace Value

omit [Tables] in
theorem mem_of_mem_pairUp {vs : List Value} {p : Value × Value} (h : p ∈ pairUp vs) :
    p.1 ∈ vs ∧ p.2 ∈ vs := by
  fun_induction pairUp vs with
  | case1 k v rest ih =>
    rcases List.mem_cons.1 h with rfl | h
    · simp
    · have := ih h
      simp [this]
  | case2 => simp at h

/-! ### Sets -/

omit [Tables] in
theorem wellKeyed_nil : WellKeyed nil := .leaf trivial rfl

variable {items : List (Filed Value)}

theorem Settled.wellKeyed_set (h : Settled text (items.map (·, nil))) :
    WellKeyed (set t items) := by
  have apart := h.apart
  rw [List.pairwise_map] at apart
  exact everywhere_set apart fun x hx => h.key (e := (x, nil)) (List.mem_map.2 ⟨x, hx, rfl⟩)

theorem WellKeyed.settled_set (h : WellKeyed (set t items))
    (keys : ∀ x ∈ items, x.Reliable text) : Settled text (items.map (·, nil)) where
  keys := List.forall_mem_map.2 keys
  values := List.forall_mem_map.2 fun _ _ => wellKeyed_nil
  apart := List.pairwise_map.2 h.here

theorem WellKeyed.settled (h : WellKeyed (map t es)) (keys : ∀ e ∈ es, e.1.Reliable text) :
    Settled text es where
  keys := keys
  values _ he := h.value he
  apart := h.here

/-! ### Maps and sets with keys that are found -/

/-- A map or set whose keys serve as keys and are found. -/
def KeysReliable (text : Entity → String) : Value → Prop
  | map _ entries => ∀ e ∈ entries, e.1.Reliable text
  | set _ items => ∀ x ∈ items, x.Reliable text
  | _ => True

theorem keysReliable_leaf {v : Value} (leaf : v.parts = []) : KeysReliable text v := by
  cases v with
  | map t entries => exact eq_nil_of_parts_map leaf ▸ List.forall_mem_nil _
  | set t items => exact eq_nil_of_parts_set leaf ▸ List.forall_mem_nil _
  | _ => trivial

/-- A value in which keys differ, at every depth; if it is a map or set, its keys are found. -/
structure Lawful (text : Entity → String) (v : Value) : Prop where
  wellKeyed : WellKeyed v
  keys : KeysReliable text v

theorem Lawful.settled {es : List (Filed Value × Value)} (h : Lawful text (map t es)) :
    Settled text es :=
  h.wellKeyed.settled h.keys

theorem Settled.lawful {es : List (Filed Value × Value)} (h : Settled text es) :
    Lawful text (map t es) :=
  ⟨h.wellKeyed, h.keys⟩

theorem Lawful.settled_set {xs : List (Filed Value)} (h : Lawful text (set t xs)) :
    Settled text (xs.map (·, nil)) :=
  h.wellKeyed.settled_set h.keys

theorem Settled.lawful_set {xs : List (Filed Value)} (h : Settled text (xs.map (·, nil))) :
    Lawful text (set t xs) :=
  ⟨h.wellKeyed_set, fun x hx => h.keys (x, nil) (List.mem_map.2 ⟨x, hx, rfl⟩)⟩

/-- Keys that are found are found once a set is made of them. -/
theorem Settled.lawful_toSet {s : Shelf} (h : Settled text s.entries) (hs : s.Bare) :
    Lawful text s.toSet :=
  Settled.lawful_set (by rwa [hs.map_nil])

end Value

/-- Where tables miss no key, it is enough that keys differ. -/
theorem Tables.Exhaustive.lawful {v : Value} (finite : Tables.Exhaustive) (wv : v.WellKeyed) :
    v.Lawful text := by
  refine ⟨wv, ?_⟩
  cases v with
  | map t es => exact fun e he => ⟨finite.reliable (wv.key he), finite.found e.1⟩
  | set t xs => exact fun x hx => ⟨finite.reliable (wv.element hx), finite.found x⟩
  | _ => trivial

end Lisp
