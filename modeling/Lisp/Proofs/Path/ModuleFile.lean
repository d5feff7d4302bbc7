import Lisp.Options
import Lisp.Proofs.Path
import Lisp.Reader.Basic
import Mathlib.Data.List.Induction
import Mathlib.Data.List.TakeWhile

/-!
# Where the files of modules lie

A module name is cut at its dots, and the parts are joined to `src` one after the other. A part of
a name holds no dot, so none of it ever is the parent directory; but it may hold slashes. A part
that starts with one is an absolute path and takes the place of all before it. Apart from that the
path of the file is relative and goes down from `src`, and joined to a directory it goes down from
there.
Another exception is harmless: if the parts are empty the extension goes to `src` itself.

## Main definitions

* `Path.names` — the components of a path, its root apart
* `Path.extendLast` — the extension goes to the last component
* `Path.BelowSource` — a relative path that goes down from `src`

## Main results

* `Path.names_join` — joining a relative path puts its components behind those of the directory
* `Path.names_withExtension`, `Path.isAbsolute_withExtension` — what an extension does to a path
* `Path.modulePath_below_iff` — which module files lie below `src`
-/

namespace Lisp.Path

/-! ### Pieces between slashes -/

/-- The texts between the slashes of a row of characters. -/
def pieces (cs : List Char) : List (List Char) := (rawSegments cs).map (·.1)

theorem rawSegments_go_append (a b acc : List Char) (place : Nat) :
    rawSegments.go (a ++ '/' :: b) acc place =
      rawSegments.go a acc place ++ rawSegments.go b [] (place + a.length + 1) := by
  induction a generalizing acc place with
  | nil => simp [rawSegments.go]
  | cons c a ih =>
    have shifted : place + 1 + a.length + 1 = place + (c :: a).length + 1 := by
      rw [List.length_cons]
      omega
    rw [List.cons_append, rawSegments.go, rawSegments.go]
    split
    · rw [ih, shifted, List.cons_append]
    · rw [ih, shifted]

theorem rawSegments_go_of_slashless {a : List Char} (h : '/' ∉ a) (acc : List Char) (place : Nat) :
    rawSegments.go a acc place = [(acc.reverse ++ a, place + a.length)] := by
  induction a generalizing acc place with
  | nil => simp [rawSegments.go]
  | cons c a ih =>
    obtain ⟨hc, ha⟩ := not_or.1 (mt List.mem_cons.2 h)
    rw [rawSegments.go, if_neg (Ne.symm hc), ih ha]
    simp only [List.reverse_cons, List.append_assoc, List.singleton_append, List.length_cons]
    congr 2
    omega

/-- Where a row of characters stands makes no difference to its pieces. -/
theorem map_fst_rawSegments_go (cs acc : List Char) (place : Nat) :
    (rawSegments.go cs acc place).map (·.1) = (rawSegments.go cs acc 0).map (·.1) := by
  induction cs generalizing acc place with
  | nil => rfl
  | cons c cs ih =>
    rw [rawSegments.go, rawSegments.go]
    split
    · rw [List.map_cons, List.map_cons, ih, ih _ (0 + 1)]
    · rw [ih, ih _ (0 + 1)]

theorem pieces_append (a b : List Char) : pieces (a ++ '/' :: b) = pieces a ++ pieces b := by
  unfold pieces rawSegments
  rw [rawSegments_go_append, List.map_append, map_fst_rawSegments_go b]

theorem pieces_of_slashless {a : List Char} (h : '/' ∉ a) : pieces a = [a] := by
  simp [pieces, rawSegments, rawSegments_go_of_slashless h]

/-- To show something of every row of characters, go through its slashes from the left. -/
theorem induction_on_slashes {P : List Char → Prop} (slashless : ∀ a, '/' ∉ a → P a)
    (append : ∀ a b, '/' ∉ a → P b → P (a ++ '/' :: b)) (cs : List Char) : P cs := by
  induction hn : cs.length using Nat.strongRecOn generalizing cs with
  | ind n ih =>
    by_cases h : '/' ∈ cs
    · obtain ⟨a, b, rfl, ha⟩ := List.eq_append_cons_of_mem h
      refine append a b ha (ih b.length ?_ b rfl)
      rw [← hn, List.length_append, List.length_cons]
      omega
    · exact slashless cs h

theorem pieces_ne_nil (cs : List Char) : pieces cs ≠ [] := by
  induction cs using induction_on_slashes with
  | slashless a ha =>
    rw [pieces_of_slashless ha]
    exact List.cons_ne_nil _ _
  | append a b _ ih =>
    rw [pieces_append]
    exact List.append_ne_nil_of_right_ne_nil _ ih

theorem mem_of_mem_pieces {cs piece : List Char} {c : Char} (h : piece ∈ pieces cs)
    (hc : c ∈ piece) : c ∈ cs := by
  induction cs using induction_on_slashes with
  | slashless a ha =>
    rw [pieces_of_slashless ha, List.mem_singleton] at h
    exact h ▸ hc
  | append a b ha ih =>
    rw [pieces_append, pieces_of_slashless ha, List.mem_append, List.mem_singleton] at h
    rcases h with rfl | h
    · exact List.mem_append_left _ hc
    · exact List.mem_append_right _ (List.mem_cons_of_mem _ (ih h))

/-- A piece goes on from a character in front that is no slash. -/
theorem exists_pieces_eq_cons {c : Char} (notSlash : c ≠ '/') (cs : List Char) :
    ∃ piece others, pieces (c :: cs) = (c :: piece) :: others := by
  by_cases h : '/' ∈ cs
  · obtain ⟨a, b, rfl, ha⟩ := List.eq_append_cons_of_mem h
    have slashless : '/' ∉ c :: a := List.not_mem_cons_of_ne_of_not_mem notSlash.symm ha
    refine ⟨a, pieces b, ?_⟩
    rw [← List.cons_append, pieces_append, pieces_of_slashless slashless]
    rfl
  · have slashless : '/' ∉ c :: cs := List.not_mem_cons_of_ne_of_not_mem notSlash.symm h
    exact ⟨cs, [], pieces_of_slashless slashless⟩

/-- Slashes alone divide nothing but empty texts. -/
theorem eq_nil_of_mem_pieces {cs piece : List Char} (slashes : ∀ c ∈ cs, c = '/')
    (h : piece ∈ pieces cs) : piece = [] := by
  induction cs using induction_on_slashes with
  | slashless a ha =>
    rw [pieces_of_slashless ha, List.mem_singleton] at h
    subst h
    exact List.eq_nil_iff_forall_not_mem.2 fun c hc => ha (slashes c hc ▸ hc)
  | append a b ha ih =>
    have first : a = [] := List.eq_nil_iff_forall_not_mem.2 fun c hc =>
      ha (slashes c (List.mem_append_left _ hc) ▸ hc)
    rw [pieces_append, pieces_of_slashless ha, List.mem_append, List.mem_singleton] at h
    rcases h with rfl | h
    · exact first
    · exact ih (fun c hc => slashes c (List.mem_append_right _ (List.mem_cons_of_mem _ hc))) h

/-! ### Components -/

/-- Whether a piece is a component wherever it stands. -/
def counts (piece : List Char) : Bool := !piece.isEmpty && piece != ['.']

/-- The pieces that are components. A dot is one only in front. -/
def components : List (List Char) → List (List Char)
  | [] => []
  | first :: rest => (if first.isEmpty then [] else [first]) ++ rest.filter counts

/-- The components among pieces with their places. -/
def kept : List (List Char × Nat) → List (List Char × Nat)
  | [] => []
  | first :: rest => (if first.1.isEmpty then [] else [first]) ++ rest.filter (counts ·.1)

/-- A piece as a text. -/
def asText (s : List Char × Nat) : String × Nat := (String.ofList s.1, s.2)

theorem segments_eq (p : String) : segments p = (kept (rawSegments p.toList)).map asText := by
  unfold segments
  cases rawSegments p.toList with
  | nil => rfl
  | cons first rest =>
    cases empty : first.1.isEmpty with
    | true =>
      simp only [kept, empty, if_true, List.nil_append]
      rfl
    | false =>
      simp only [kept, empty, Bool.false_eq_true, if_false, List.singleton_append]
      rfl

theorem map_fst_kept (xs : List (List Char × Nat)) :
    (kept xs).map (·.1) = components (xs.map (·.1)) := by
  cases xs with
  | nil => rfl
  | cons first rest =>
    have others : (rest.filter (counts ·.1)).map (·.1) = (rest.map (·.1)).filter counts := by
      rw [List.filter_map]
      rfl
    rw [kept, List.map_append, others, List.map_cons, components]
    cases first.1.isEmpty with
    | true => rfl
    | false => rfl

/-- The components of a path, its root apart. -/
def names (p : String) : List String := (segments p).map (·.1)

theorem names_eq (p : String) : names p = (components (pieces p.toList)).map String.ofList := by
  rw [names, segments_eq, pieces, ← map_fst_kept, List.map_map, List.map_map]
  rfl

theorem components_append {xs : List (List Char)} (nonempty : xs ≠ []) (ys : List (List Char)) :
    components (xs ++ ys) = components xs ++ ys.filter counts := by
  obtain ⟨x, xs, rfl⟩ := List.exists_cons_of_ne_nil nonempty
  simp [components]

/-- Where no dot stands in front, every component counts wherever it stands. -/
theorem components_of_head_ne {xs : List (List Char)} (h : xs.head? ≠ some ['.']) :
    components xs = xs.filter counts := by
  cases xs with
  | nil => rfl
  | cons x xs =>
    have hx : x ≠ ['.'] := fun same => h (by rw [same]; rfl)
    by_cases empty : x = []
    · subst empty
      rfl
    · have counted : counts x = true := by simp [counts, empty, hx]
      rw [List.filter_cons_of_pos counted]
      simp [components, empty]

/-! ### Joining -/

theorem head?_pieces_ne {cs : List Char} (h : '.' ∉ cs) :
    (pieces cs).head? ≠ some ['.'] := fun dot =>
  h (mem_of_mem_pieces (List.mem_of_mem_head? dot) (List.mem_singleton.2 rfl))

variable {dir p : String}

/-- Joining puts the path behind the directory and a slash, unless the path is absolute or there is
no directory. -/
theorem join_cases (dir : String) (relative : isAbsolute p = false) :
    (dir = "" ∧ join dir p = p) ∨
      ∃ d, (dir.toList = d ∨ dir.toList = d ++ ['/']) ∧ dir ≠ "" ∧
        (join dir p).toList = d ++ '/' :: p.toList := by
  unfold join
  rw [relative, if_neg Bool.false_ne_true]
  by_cases empty : dir = ""
  · subst empty
    exact .inl ⟨rfl, by simp⟩
  · right
    by_cases slash : dir.toList.getLast? = some '/'
    · obtain ⟨d, hd⟩ := List.getLast?_eq_some_iff.1 slash
      exact ⟨d, .inr hd, empty, by simp [hd]⟩
    · exact ⟨dir.toList, .inl rfl, empty, by simp [slash, empty]⟩

theorem isAbsolute_join (dir p : String) :
    isAbsolute (join dir p) = (isAbsolute p || isAbsolute dir) := by
  cases absolute : isAbsolute p with
  | true => simp [join, absolute]
  | false =>
    rcases join_cases dir absolute with ⟨rfl, same⟩ | ⟨d, hd, nonempty, same⟩
    · rw [same, absolute]
      rfl
    · -- the first character is that of the directory
      have head : (join dir p).toList.head? = dir.toList.head? := by
        rw [same]
        cases d with
        | cons c d => rcases hd with hd | hd <;> rw [hd] <;> rfl
        | nil =>
          rcases hd with hd | hd
          · exact absurd (String.toList_inj.1 hd) nonempty
          · rw [hd]
            rfl
      rw [isAbsolute, isAbsolute, head]
      rfl

/-- A relative path goes behind the components of the directory, unless a dot stands in front. -/
theorem names_join (relative : isAbsolute p = false)
    (dotless : (pieces p.toList).head? ≠ some ['.']) :
    names (join dir p) = names dir ++ names p := by
  rcases join_cases dir relative with ⟨rfl, same⟩ | ⟨d, hd, -, same⟩
  · rw [same]
    rfl
  · rw [names_eq, names_eq, names_eq, same, pieces_append, components_append (pieces_ne_nil d),
      components_of_head_ne dotless, List.map_append]
    congr 2
    rcases hd with hd | hd
    · rw [hd]
    · rw [hd, pieces_append, components_append (pieces_ne_nil d),
        pieces_of_slashless List.not_mem_nil]
      exact (List.append_nil _).symm

/-! ### Extensions -/

/-- A component with an extension. -/
def extended (extension name : String) : String :=
  if extension.isEmpty then name else name ++ "." ++ extension

/-- The component is still there, with the extension behind it. -/
theorem exists_toList_extended (extension name : String) :
    ∃ rest, (∀ c ∈ rest, c = '.' ∨ c ∈ extension.toList) ∧
      (extended extension name).toList = name.toList ++ rest := by
  unfold extended
  split
  · exact ⟨[], by simp, by simp⟩
  · exact ⟨'.' :: extension.toList, fun c hc => List.mem_cons.1 hc, by simp⟩

/-- The extension goes to the last component. -/
def extendLast (extension : String) (names : List String) : List String :=
  names.dropLast ++ (names.getLast?.map (extended extension)).toList

theorem eq_nil_or_of_slashes {cs : List Char} (slashes : ∀ c ∈ cs, c = '/') :
    cs = [] ∨ ∃ b, cs = b ++ ['/'] := by
  rcases List.eq_nil_or_concat cs with rfl | ⟨b, c, rfl⟩
  · exact .inl rfl
  · obtain rfl : c = '/' := slashes c (by simp)
    exact .inr ⟨b, List.concat_eq_append ..⟩

/-- A row of characters ends in slashes behind a last piece, if there is anything else in it. -/
theorem exists_last (cs : List Char) :
    (∀ c ∈ cs, c = '/') ∨ ∃ before last slashes, cs = before ++ last ++ slashes ∧ last ≠ [] ∧
      '/' ∉ last ∧ (∀ c ∈ slashes, c = '/') ∧ (before = [] ∨ ∃ b, before = b ++ ['/']) := by
  induction cs using List.reverseRecOn with
  | nil => exact .inl fun c hc => absurd hc List.not_mem_nil
  | append_singleton cs c ih =>
    by_cases hc : c = '/'
    · subst hc
      rcases ih with all | ⟨before, last, slashes, rfl, hlast, slashless, hslashes, hbefore⟩
      · left
        intro c hc
        rcases List.mem_append.1 hc with hc | hc
        · exact all c hc
        · exact List.mem_singleton.1 hc
      · refine .inr ⟨before, last, slashes ++ ['/'], by simp, hlast, slashless, ?_, hbefore⟩
        intro c hc
        rcases List.mem_append.1 hc with hc | hc
        · exact hslashes c hc
        · exact List.mem_singleton.1 hc
    · have single : '/' ∉ [c] := fun h => hc (List.mem_singleton.1 h).symm
      right
      rcases ih with all | ⟨before, last, slashes, rfl, hlast, slashless, hslashes, hbefore⟩
      · exact ⟨cs, [c], [], by simp, by simp, single, by simp, eq_nil_or_of_slashes all⟩
      · -- the character goes on with the last piece, or begins another one
        rcases eq_nil_or_of_slashes hslashes with rfl | ⟨more, rfl⟩
        · refine ⟨before, last ++ [c], [], by simp, by simp, ?_, by simp, hbefore⟩
          exact fun h => (List.mem_append.1 h).elim slashless single
        · exact ⟨before ++ last ++ more ++ ['/'], [c], [], by simp, by simp, single, by simp,
            .inr ⟨_, rfl⟩⟩

theorem rawSegments_of_slashes {cs : List Char} (slashes : ∀ c ∈ cs, c = '/') (place : Nat) :
    ∀ s ∈ rawSegments.go cs [] place, s.1 = [] := by
  intro s hs
  have mem : s.1 ∈ (rawSegments.go cs [] place).map (·.1) := List.mem_map_of_mem hs
  rw [map_fst_rawSegments_go] at mem
  exact eq_nil_of_mem_pieces slashes mem

/-- Where slashes follow the last piece, the pieces are those in front, the last, and empty ones. -/
theorem exists_rawSegments_eq {before last slashes : List Char} (slashless : '/' ∉ last)
    (hslashes : ∀ c ∈ slashes, c = '/') (hbefore : before = [] ∨ ∃ b, before = b ++ ['/']) :
    ∃ empty, (∀ s ∈ empty, s.1 = []) ∧ rawSegments (before ++ last ++ slashes) =
      (rawSegments before).dropLast ++ (last, before.length + last.length) :: empty := by
  -- the last piece, and what comes of the slashes behind it
  have behind (place : Nat) : ∃ empty, (∀ s ∈ empty, s.1 = []) ∧
      rawSegments.go (last ++ slashes) [] place = (last, place + last.length) :: empty := by
    cases slashes with
    | nil =>
      refine ⟨[], fun s hs => absurd hs List.not_mem_nil, ?_⟩
      rw [List.append_nil, rawSegments_go_of_slashless slashless]
      rfl
    | cons c slashes =>
      obtain rfl : c = '/' := hslashes c List.mem_cons_self
      refine ⟨_, rawSegments_of_slashes (fun c hc => hslashes c (List.mem_cons_of_mem _ hc))
        (place + last.length + 1), ?_⟩
      rw [rawSegments_go_append, rawSegments_go_of_slashless slashless]
      rfl
  rcases hbefore with rfl | ⟨b, rfl⟩
  · obtain ⟨empty, hempty, eq⟩ := behind 0
    exact ⟨empty, hempty, eq⟩
  · obtain ⟨empty, hempty, eq⟩ := behind (b.length + 1)
    refine ⟨empty, hempty, ?_⟩
    have front : (rawSegments (b ++ ['/'])).dropLast = rawSegments b := by
      rw [rawSegments, rawSegments_go_append]
      exact List.dropLast_concat
    have cut : b ++ ['/'] ++ last ++ slashes = b ++ '/' :: (last ++ slashes) := by simp
    rw [front, cut, rawSegments, rawSegments_go_append, Nat.zero_add, eq, List.length_append]
    rfl

/-- The last piece is the last component. -/
theorem segments_eq_append {before last slashes : List Char} (hlast : last ≠ [])
    (hdot : last ≠ ['.']) (slashless : '/' ∉ last) (hslashes : ∀ c ∈ slashes, c = '/')
    (hbefore : before = [] ∨ ∃ b, before = b ++ ['/'])
    (hp : p.toList = before ++ last ++ slashes) :
    segments p = (kept (rawSegments before).dropLast).map asText ++
      [(String.ofList last, before.length + last.length)] := by
  obtain ⟨empty, hempty, eq⟩ := exists_rawSegments_eq slashless hslashes hbefore
  have none : empty.filter (counts ·.1) = [] := by
    refine List.filter_eq_nil_iff.2 fun s hs => ?_
    rw [hempty s hs]
    decide
  have counted : counts last = true := by simp [counts, hlast, hdot]
  rw [segments_eq, hp, eq]
  cases (rawSegments before).dropLast with
  | nil => simp [kept, none, hlast, asText]
  | cons first rest => simp [kept, none, counted, asText]

/-- What is dropped is the slashes behind the last piece, and the extension stands there instead. -/
theorem withExtension_eq {before last slashes : List Char} (hlast : last ≠ [])
    (slashless : '/' ∉ last) (dotless : '.' ∉ last) (hslashes : ∀ c ∈ slashes, c = '/')
    (hbefore : before = [] ∨ ∃ b, before = b ++ ['/'])
    (hp : p.toList = before ++ last ++ slashes) (extension : String) :
    (withExtension p extension).toList =
      before ++ (extended extension (String.ofList last)).toList := by
  have notDots : ∀ dots : String, '.' ∈ dots.toList → String.ofList last ≠ dots := by
    rintro _ hdots rfl
    exact dotless (by simpa using hdots)
  have file : fileName? p = some (String.ofList last, before.length + last.length) := by
    rw [fileName?, segments_eq_append hlast (fun h => dotless (h ▸ by simp)) slashless hslashes
      hbefore hp, List.getLast?_append, List.getLast?_singleton, Option.some_or, Option.filter_some]
    simp [notDots "." (by decide), notDots ".." (by decide)]
  have stem : stemLength last = last.length := by
    have none : last.reverse.dropWhile (· != '.') = [] := by
      rw [List.dropWhile_eq_nil_iff]
      intro c hc
      exact bne_iff_ne.2 fun h => dotless (h ▸ List.mem_reverse.1 hc)
    simp [stemLength, none]
  have text : upTo p (before.length + last.length) = String.ofList (before ++ last) := by
    rw [upTo, hp, ← List.length_append, List.take_left]
  rw [withExtension, file]
  simp only [String.toList_ofList, String.length_ofList, stem, Nat.add_sub_cancel, text]
  unfold extended
  split
  · simp
  · simp

theorem names_of_slashes (slashes : ∀ c ∈ p.toList, c = '/') : names p = [] := by
  have none : (pieces p.toList).filter counts = [] := by
    refine List.filter_eq_nil_iff.2 fun piece h => ?_
    rw [eq_nil_of_mem_pieces slashes h]
    decide
  have front : (pieces p.toList).head? ≠ some ['.'] := fun dot => by
    have := eq_nil_of_mem_pieces slashes (List.mem_of_mem_head? dot)
    exact List.cons_ne_nil _ _ this
  rw [names_eq, components_of_head_ne front, none]
  rfl

/-- A path of slashes alone gets no extension. -/
theorem withExtension_of_slashes (slashes : ∀ c ∈ p.toList, c = '/') (extension : String) :
    withExtension p extension = p := by
  have none : segments p = [] := List.map_eq_nil_iff.1 (names_of_slashes slashes)
  rw [withExtension, fileName?, none]
  rfl

variable {extension : String}

/-- The extension goes to the last component, if the path has any. -/
theorem names_withExtension (dotless : '.' ∉ p.toList) (slashlessExt : '/' ∉ extension.toList) :
    names (withExtension p extension) = extendLast extension (names p) := by
  rcases exists_last p.toList with slashes | ⟨before, last, slashes, hp, hlast, slashless, hslashes,
    hbefore⟩
  · rw [withExtension_of_slashes slashes, names_of_slashes slashes]
    rfl
  · have noDot : '.' ∉ last := fun h => dotless (by simp [hp, h])
    have text := withExtension_eq hlast slashless noDot hslashes hbefore hp extension
    -- the last piece stays the last one with its extension
    obtain ⟨rest, hrest, hext⟩ := exists_toList_extended extension (String.ofList last)
    rw [String.toList_ofList] at hext
    have slashless' : '/' ∉ last ++ rest := by
      intro h
      rcases List.mem_append.1 h with h | h
      · exact slashless h
      · rcases hrest _ h with h | h
        · exact absurd h (by decide)
        · exact slashlessExt h
    have hlast' : last ++ rest ≠ [] := List.append_ne_nil_of_left_ne_nil hlast _
    have notDot : last ++ rest ≠ ['.'] := by
      obtain ⟨c, last, rfl⟩ := List.exists_cons_of_ne_nil hlast
      exact fun h => noDot ((List.cons.inj h).1 ▸ List.mem_cons_self)
    have name : String.ofList (last ++ rest) = extended extension (String.ofList last) := by
      rw [← hext, String.ofList_toList]
    rw [hext] at text
    rw [← List.append_nil (_ ++ _)] at text
    rw [names, names, segments_eq_append hlast (fun h => noDot (h ▸ by simp)) slashless hslashes
      hbefore hp, segments_eq_append hlast' notDot slashless' (by simp) hbefore text]
    simp [extendLast, name]

/-- An extension does not change whether a path starts at the root. -/
theorem isAbsolute_withExtension (dotless : '.' ∉ p.toList) :
    isAbsolute (withExtension p extension) = isAbsolute p := by
  rcases exists_last p.toList with slashes | ⟨before, last, slashes, hp, hlast, slashless, hslashes,
    hbefore⟩
  · rw [withExtension_of_slashes slashes]
  · have noDot : '.' ∉ last := fun h => dotless (by simp [hp, h])
    have text := withExtension_eq hlast slashless noDot hslashes hbefore hp extension
    obtain ⟨rest, -, hext⟩ := exists_toList_extended extension (String.ofList last)
    obtain ⟨c, last, rfl⟩ := List.exists_cons_of_ne_nil hlast
    have head : (withExtension p extension).toList.head? = p.toList.head? := by
      rw [text, hp, hext, String.toList_ofList]
      cases before with
      | nil => rfl
      | cons d before => rfl
    rw [isAbsolute, isAbsolute, head]

/-! ### Module files -/

theorem of_mem_splitDots_go {cs acc : List Char} (hacc : '.' ∉ acc) {part : String}
    (h : part ∈ splitDots.go cs acc) :
    '.' ∉ part.toList ∧ ∀ c ∈ part.toList, c ∈ acc ∨ c ∈ cs := by
  induction cs generalizing acc with
  | nil =>
    rw [splitDots.go, List.mem_singleton] at h
    subst h
    simpa using hacc
  | cons c cs ih =>
    rw [splitDots.go] at h
    by_cases hc : c = '.'
    · rw [if_pos hc, List.mem_cons] at h
      rcases h with rfl | h
      · simpa using ⟨hacc, fun c hc => .inl hc⟩
      · obtain ⟨dotless, mem⟩ := ih List.not_mem_nil h
        refine ⟨dotless, fun d hd => .inr (List.mem_cons_of_mem _ ?_)⟩
        exact (mem d hd).resolve_left List.not_mem_nil
    · rw [if_neg hc] at h
      have hacc' : '.' ∉ c :: acc := fun dot =>
        (List.mem_cons.1 dot).elim (fun same => hc same.symm) hacc
      obtain ⟨dotless, mem⟩ := ih hacc' h
      refine ⟨dotless, fun d hd => ?_⟩
      rcases mem d hd with hd | hd
      · rcases List.mem_cons.1 hd with rfl | hd
        · exact .inr List.mem_cons_self
        · exact .inl hd
      · exact .inr (List.mem_cons_of_mem _ hd)

/-- Everything but the dots goes to some part. -/
theorem exists_mem_splitDots_go (acc : List Char) {cs : List Char} {c : Char} (notDot : c ≠ '.')
    (h : c ∈ acc ∨ c ∈ cs) : ∃ part ∈ splitDots.go cs acc, c ∈ part.toList := by
  induction cs generalizing acc with
  | nil =>
    have hacc := h.resolve_right List.not_mem_nil
    exact ⟨_, List.mem_singleton.2 rfl, by simpa using hacc⟩
  | cons d cs ih =>
    rw [splitDots.go]
    by_cases hd : d = '.'
    · rw [if_pos hd]
      rcases h with h | h
      · exact ⟨_, List.mem_cons_self, by simpa using h⟩
      · have hcs := (List.mem_cons.1 h).resolve_left fun same => notDot (same.trans hd)
        obtain ⟨part, hpart, hc⟩ := ih [] (.inr hcs)
        exact ⟨part, List.mem_cons_of_mem _ hpart, hc⟩
    · rw [if_neg hd]
      refine ih (d :: acc) ?_
      rcases h with h | h
      · exact .inl (List.mem_cons_of_mem _ h)
      · rcases List.mem_cons.1 h with rfl | h
        · exact .inl List.mem_cons_self
        · exact .inr h

/-- The parts of a dotted name hold no dots. -/
theorem dotless_of_mem_splitDots {name part : String} (h : part ∈ splitDots name) :
    '.' ∉ part.toList :=
  (of_mem_splitDots_go List.not_mem_nil h).1

/-- Some part of a dotted name holds something unless the name is nothing but dots. -/
theorem exists_part_ne_iff (name : String) :
    (∃ part ∈ splitDots name, part ≠ "") ↔ ∃ c ∈ name.toList, c ≠ '.' := by
  constructor
  · rintro ⟨part, hpart, nonempty⟩
    obtain ⟨dotless, mem⟩ := of_mem_splitDots_go List.not_mem_nil hpart
    obtain ⟨c, hc⟩ := List.exists_mem_of_ne_nil _ fun nil => nonempty (String.toList_inj.1 nil)
    exact ⟨c, (mem c hc).resolve_left List.not_mem_nil, fun dot => dotless (dot ▸ hc)⟩
  · rintro ⟨c, hc, notDot⟩
    obtain ⟨part, hpart, hc⟩ := exists_mem_splitDots_go [] notDot (.inr hc)
    exact ⟨part, hpart, fun empty => absurd hc (by simp [empty])⟩

/-! ### Joining the parts of a name -/

theorem dotless_join {dir p : String} (hdir : '.' ∉ dir.toList) (hp : '.' ∉ p.toList) :
    '.' ∉ (join dir p).toList := by
  unfold join
  split
  · exact hp
  · split <;> simp [hdir, hp]

/-- A part that starts at the root makes all of it absolute. -/
theorem isAbsolute_foldl_join (parts : List String) (dir : String) :
    isAbsolute (parts.foldl join dir) = (parts.any isAbsolute || isAbsolute dir) := by
  induction parts generalizing dir with
  | nil => rfl
  | cons part parts ih =>
    rw [List.foldl_cons, ih, isAbsolute_join, List.any_cons]
    cases isAbsolute part <;> cases parts.any isAbsolute <;> rfl

section Joined

variable {parts : List String} (dotless : ∀ part ∈ parts, '.' ∉ part.toList)

include dotless

theorem dotless_foldl_join {dir : String} (hdir : '.' ∉ dir.toList) :
    '.' ∉ (parts.foldl join dir).toList := by
  induction parts generalizing dir with
  | nil => exact hdir
  | cons part parts ih =>
    obtain ⟨hpart, hparts⟩ := List.forall_mem_cons.1 dotless
    exact ih hparts (dotless_join hdir hpart)

theorem names_foldl_join (relative : ∀ part ∈ parts, isAbsolute part = false) (dir : String) :
    names (parts.foldl join dir) = names dir ++ parts.flatMap names := by
  induction parts generalizing dir with
  | nil => exact (List.append_nil _).symm
  | cons part parts ih =>
    obtain ⟨hpart, hparts⟩ := List.forall_mem_cons.1 relative
    obtain ⟨dotless, others⟩ := List.forall_mem_cons.1 dotless
    rw [List.foldl_cons, ih others hparts, names_join hpart (head?_pieces_ne dotless),
      List.flatMap_cons, List.append_assoc]

end Joined

/-! ### Going down from `src` -/

/-- The components of a path without dots are neither empty nor a dot or two. -/
theorem of_mem_names (dotless : '.' ∉ p.toList) {x : String} (h : x ∈ names p) :
    x ≠ "" ∧ '.' ∉ x.toList := by
  rw [names_eq, components_of_head_ne (head?_pieces_ne dotless)] at h
  obtain ⟨piece, hpiece, rfl⟩ := List.mem_map.1 h
  obtain ⟨mem, counted⟩ := List.mem_filter.1 hpiece
  refine ⟨fun empty => ?_, fun dot => ?_⟩
  · have : piece = [] := by simpa using congrArg String.toList empty
    rw [this] at counted
    exact absurd counted (by decide)
  · exact dotless (mem_of_mem_pieces mem (by simpa using dot))

/-- No extension puts a dot in front of a component without dots. -/
theorem head?_extended_ne {x : String} (nonempty : x ≠ "") (dotless : '.' ∉ x.toList) :
    (extended extension x).toList.head? ≠ some '.' := by
  intro dot
  obtain ⟨rest, -, text⟩ := exists_toList_extended extension x
  obtain ⟨c, cs, hx⟩ := List.exists_cons_of_ne_nil fun nil => nonempty (String.toList_inj.1 nil)
  rw [text, hx] at dot
  have first : c = '.' := Option.some.inj dot
  exact dotless (by simp [hx, first])

theorem dots_notMem_extendLast {xs : List String} (h : ∀ x ∈ xs, x ≠ "" ∧ '.' ∉ x.toList) :
    ".." ∉ extendLast extension xs := by
  unfold extendLast
  intro mem
  rcases List.mem_append.1 mem with mem | mem
  · exact (h _ ((List.dropLast_subset xs) mem)).2 (by decide)
  · obtain ⟨x, last, dots⟩ := Option.map_eq_some_iff.1 (Option.mem_toList.1 mem)
    obtain ⟨nonempty, dotless⟩ := h x (List.mem_of_mem_getLast? last)
    exact head?_extended_ne nonempty dotless (by rw [dots]; rfl)

/-- A relative path that goes down from `src`. -/
structure BelowSource (p : String) : Prop where
  relative : isAbsolute p = false
  source : (names p).head? = some "src"
  down : ".." ∉ names p

/-- A path leads into a directory: it goes on from there, and never up. -/
def LeadsInto (dir p : String) : Prop :=
  isAbsolute p = isAbsolute dir ∧ ∃ below, names p = names dir ++ below ∧ ".." ∉ below

/-- A relative path without the parent directory leads into every directory it is joined to. -/
theorem leadsInto_join (relative : isAbsolute p = false) (front : (names p).head? ≠ some ".")
    (down : ".." ∉ names p) (dir : String) : LeadsInto dir (join dir p) := by
  have notDot : (pieces p.toList).head? ≠ some ['.'] := by
    intro dot
    obtain ⟨others, hp⟩ := List.head?_eq_some_iff.1 dot
    exact front (by rw [names_eq, hp]; rfl)
  refine ⟨?_, names p, names_join relative notDot, down⟩
  rw [isAbsolute_join, relative, Bool.false_or]

/-- An absolute path leads into no directory that is reached by a relative one. -/
theorem not_leadsInto_join (absolute : isAbsolute p = true) (relative : isAbsolute dir = false) :
    ¬ LeadsInto dir (join dir p) := by
  intro leads
  have both : isAbsolute (join dir p) = isAbsolute dir := leads.1
  rw [isAbsolute_join, absolute, relative] at both
  exact absurd both (by decide)

theorem head?_extendLast (extension x : String) (xs : List String) :
    (extendLast extension (x :: xs)).head? =
      some (if xs = [] then extended extension x else x) := by
  cases xs with
  | nil => rfl
  | cons y xs => simp [extendLast]

theorem extended_eq_self_iff {x : String} : extended extension x = x ↔ extension = "" := by
  unfold extended
  constructor
  · intro same
    by_contra nonempty
    rw [if_neg (by simpa using nonempty)] at same
    have shorter := congrArg String.length same
    rw [String.length_append, String.length_append] at shorter
    have : ".".length = 1 := rfl
    omega
  · rintro rfl
    rfl

/-- A relative path has components unless it is empty. -/
theorem names_eq_nil_iff (relative : isAbsolute p = false) : names p = [] ↔ p = "" := by
  constructor
  · intro none
    rw [names_eq, List.map_eq_nil_iff] at none
    by_contra nonempty
    obtain ⟨c, cs, hp⟩ := List.exists_cons_of_ne_nil fun nil => nonempty (String.toList_inj.1 nil)
    have notSlash : c ≠ '/' := fun slash => by simp [isAbsolute, hp, slash] at relative
    obtain ⟨piece, others, first⟩ := exists_pieces_eq_cons notSlash cs
    rw [hp, first] at none
    exact absurd none (by simp [components])
  · rintro rfl
    rfl

section Module

variable {o : Options} {name : String}

theorem dotless_joined (name : String) : '.' ∉ ((splitDots name).foldl join "src").toList :=
  dotless_foldl_join (fun _ => dotless_of_mem_splitDots) (by decide)

theorem isAbsolute_modulePath (o : Options) (name : String) :
    isAbsolute (o.modulePath name) = (splitDots name).any isAbsolute := by
  rw [Options.modulePath, ofModule, isAbsolute_withExtension (dotless_joined name),
    isAbsolute_foldl_join]
  exact Bool.or_false _

theorem isAbsolute_modulePath_eq_false_iff :
    isAbsolute (o.modulePath name) = false ↔ ∀ part ∈ splitDots name, isAbsolute part = false := by
  rw [isAbsolute_modulePath, List.any_eq_false]
  exact forall₂_congr fun part _ => by simp

/-- The file of a module lies in no parent directory. -/
theorem dots_notMem_names_modulePath (slashless : '/' ∉ o.extension.toList) (name : String) :
    ".." ∉ names (o.modulePath name) := by
  rw [Options.modulePath, ofModule, names_withExtension (dotless_joined name) slashless]
  exact dots_notMem_extendLast fun x hx => of_mem_names (dotless_joined name) hx

/-- The components of the parts follow on `src`. -/
theorem names_modulePath (slashless : '/' ∉ o.extension.toList)
    (rootless : ∀ part ∈ splitDots name, isAbsolute part = false) :
    names (o.modulePath name) =
      extendLast o.extension ("src" :: (splitDots name).flatMap names) := by
  rw [Options.modulePath, ofModule, names_withExtension (dotless_joined name) slashless,
    names_foldl_join (fun _ => dotless_of_mem_splitDots) rootless]
  rfl

/-- Nothing follows on `src` if all parts are empty. -/
theorem flatMap_names_eq_nil_iff (rootless : ∀ part ∈ splitDots name, isAbsolute part = false) :
    (splitDots name).flatMap names = [] ↔ ∀ c ∈ name.toList, c = '.' := by
  have empty : (∀ part ∈ splitDots name, part = "") ↔ ∀ c ∈ name.toList, c = '.' := by
    simpa using not_congr (exists_part_ne_iff name)
  rw [List.flatMap_eq_nil_iff, ← empty]
  exact forall₂_congr fun part hpart => names_eq_nil_iff (rootless part hpart)

/-- The first component is `src`, or `src` with the extension if nothing follows on it. -/
theorem head?_names_modulePath (slashless : '/' ∉ o.extension.toList)
    (rootless : ∀ part ∈ splitDots name, isAbsolute part = false) :
    (names (o.modulePath name)).head? =
      some (if (splitDots name).flatMap names = [] then extended o.extension "src" else "src") := by
  rw [names_modulePath slashless rootless, head?_extendLast]

theorem belowSource_modulePath_iff (slashless : '/' ∉ o.extension.toList) :
    BelowSource (o.modulePath name) ↔ (∀ part ∈ splitDots name, isAbsolute part = false) ∧
      (o.extension = "" ∨ ∃ c ∈ name.toList, c ≠ '.') := by
  constructor
  · intro below
    have rootless := isAbsolute_modulePath_eq_false_iff.1 below.relative
    refine ⟨rootless, ?_⟩
    by_contra! none
    have source := below.source
    rw [head?_names_modulePath slashless rootless,
      if_pos ((flatMap_names_eq_nil_iff rootless).2 none.2)] at source
    exact none.1 (extended_eq_self_iff.1 (Option.some.inj source))
  · rintro ⟨rootless, file⟩
    refine ⟨isAbsolute_modulePath_eq_false_iff.2 rootless, ?_,
      dots_notMem_names_modulePath slashless name⟩
    rw [head?_names_modulePath slashless rootless]
    by_cases empty : (splitDots name).flatMap names = []
    · have dots := (flatMap_names_eq_nil_iff rootless).1 empty
      have plain : o.extension = "" := file.resolve_right fun ⟨c, hc, notDot⟩ => notDot (dots c hc)
      rw [if_pos empty, extended_eq_self_iff.2 plain]
    · rw [if_neg empty]

theorem leadsInto_modulePath_iff (slashless : '/' ∉ o.extension.toList) :
    (∀ dir, LeadsInto dir (join dir (o.modulePath name))) ↔
      ∀ part ∈ splitDots name, isAbsolute part = false := by
  rw [← isAbsolute_modulePath_eq_false_iff (o := o)]
  constructor
  · intro leads
    by_contra absolute
    have absolute : isAbsolute (o.modulePath name) = true := by simpa using absolute
    exact not_leadsInto_join absolute (by decide) (leads "lib")
  · intro relative dir
    refine leadsInto_join relative ?_ (dots_notMem_names_modulePath slashless name) dir
    rw [head?_names_modulePath slashless (isAbsolute_modulePath_eq_false_iff.1 relative)]
    -- an extension does not make `src` the directory itself
    split
    · intro dot
      have : (extended o.extension "src").toList.head? ≠ some '.' :=
        head?_extended_ne (by decide) (by decide)
      exact this (by rw [Option.some.inj dot]; rfl)
    · decide

/-- The file of a module, for every name and every extension that makes no directories. Its path is
relative and goes down from `src` just if no part of the name starts at the root and there is a part
that is not empty, or no extension to be given to `src` itself. Wherever the path is joined to, it
leads into that directory just if no part of the name starts at the root; its components are then
those of the parts behind `src`, with the extension at the last. The parent directory is never one
of them. -/
theorem modulePath_below_iff (slashless : '/' ∉ o.extension.toList) (name : String) :
    let path := o.modulePath name
    let rootless := ∀ part ∈ splitDots name, isAbsolute part = false
    (BelowSource path ↔ rootless ∧ (o.extension = "" ∨ ∃ c ∈ name.toList, c ≠ '.')) ∧
      ((∀ dir, LeadsInto dir (join dir path)) ↔ rootless) ∧
      (rootless →
        names path = extendLast o.extension ("src" :: (splitDots name).flatMap names)) ∧
      ".." ∉ names path := by
  intro path rootless
  exact ⟨belowSource_modulePath_iff slashless, leadsInto_modulePath_iff slashless,
    names_modulePath slashless, dots_notMem_names_modulePath slashless name⟩

end Module

/-- A part may hold a slash of its own, or nothing. -/
theorem modulePath_below_iff_inner :
    BelowSource (({} : Options).modulePath "a/b..c") ∧
      (∀ dir, LeadsInto dir (join dir (({} : Options).modulePath "a/b..c"))) ∧
      names (({} : Options).modulePath "a/b..c") = ["src", "a", "b", "c.ws"] := by
  have slashless : '/' ∉ ({} : Options).extension.toList := by decide
  have rootless : ∀ part ∈ splitDots "a/b..c", isAbsolute part = false := by decide
  obtain ⟨below, leads, parts, -⟩ := modulePath_below_iff slashless "a/b..c"
  exact ⟨below.2 ⟨rootless, .inr ⟨'a', by decide⟩⟩, leads.2 rootless, parts rootless⟩

/-- The reader takes `a./b` for a symbol; its second part starts at the root, so the file is looked
for there, wherever paths start from. For the symbol `.` the extension goes to `src`. -/
theorem readable_name_leaves_source :
    Reader.read .native "a./b ." = .ok [.symbol (.qualified "a." "b"), .symbol (.simple ".")] ∧
      ({} : Options).modulePath (Name.qualified "a." "b").text = "/b.ws" ∧
      ¬ LeadsInto "." (join "." "/b.ws") ∧
      ({} : Options).modulePath (Name.simple ".").text = "src.ws" ∧ ¬ BelowSource "src.ws" := by
  refine ⟨rfl, rfl, ?_, rfl, ?_⟩
  · exact not_leadsInto_join (by decide) (by decide)
  · intro below
    exact absurd below.source (by decide)

end Lisp.Path
