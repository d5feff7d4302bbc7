import Lisp.Json.Form
import Lisp.Proofs.Reader.RoundTrip
import Lisp.Proofs.Value.Layout

/-!
# Forms as JSON documents

The data that JSON can hold has an obvious encoding: names are strings, keywords with their colon, a
string stands in quotes within its quotes, lists are arrays and maps with keywords as keys are
objects. All strings of a document are of one type, and what they encode is told by their shape
only; names are split again at their first slash, and the names of fields go without a colon.
Reading the document undoes the encoding all the same, since no name begins with a quote or a colon
and the text of a name tells the name.

## Main definitions

* `Json.encode` — the document of a form
* `Json.Encodable` — the forms that have one
* `Json.FieldsDiffer` — documents in which no object has two fields of one name

## Main results

* `Json.stringForm_string`, `Json.stringForm_symbol`, `Json.stringForm_keyword` — what strings
  encode
* `Json.toForm_encode` — the document of a form encodes the form
* `Json.toForm_encode_reordered` — so it does with the fields of all objects in any order
-/

namespace Lisp.Json

open Value (Everywhere KeysDiffer KeysFound Findable WellKeyed Reordered Layout SameEntry)
open Reader (ReadableHere SymbolText symbolValue keywordValue isSymbolChar)

/-- The name of the field that a key of a map becomes. -/
def fieldName : Value → String
  | .keyword name => name.text
  | _ => ""

mutual

/-- The document of a form. -/
def encode : Value → Json
  | .bool b => bool b
  | .number n => number n
  | .string s => string ("\"" ++ s ++ "\"")
  | .symbol name => string name.text
  | .keyword name => string (":" ++ name.text)
  | .list items => array (encodeAll items)
  | .map _ entries => object (encodeEntries entries)
  | _ => null
termination_by structural v => v

/-- The documents of several forms. -/
def encodeAll : List Value → List Json
  | [] => []
  | v :: rest => encode v :: encodeAll rest
termination_by structural vs => vs

/-- The fields of the entries of a map. -/
def encodeEntries : List (Filed Value × Value) → List (String × Json)
  | [] => []
  | e :: rest => encodeEntry e :: encodeEntries rest
termination_by structural es => es

/-- The field of an entry. -/
def encodeEntry : Filed Value × Value → String × Json
  | (⟨k, _⟩, v) => (fieldName k, encode v)
termination_by structural e => e

end

/-- What makes a form encodable, apart from its parts: it is nil, a boolean, a finite number, a
string, a list, a symbol or a keyword that the reader can produce, the latter with one colon, or a
map whose keys are keywords and differ. -/
def EncodableHere : Value → Prop
  | .nil | .bool _ | .string _ | .list _ => True
  | .number n => ∃ negative m q, n.exact = .finite negative m q
  | .symbol name => ReadableHere .native (.symbol name)
  | .keyword name => name.isAuto = false ∧ ReadableHere .native (.keyword name)
  | .map t entries => (∀ e ∈ entries, ∃ name, e.1.value = .keyword name) ∧
      KeysDiffer (.map t entries)
  | _ => False

/-- The forms that JSON can hold. -/
def Encodable : Value → Prop := Everywhere EncodableHere

/-- No object in a document has two fields of one name. -/
inductive FieldsDiffer : Json → Prop where
  | null : FieldsDiffer null
  | bool (b : Bool) : FieldsDiffer (bool b)
  | number (n : Number) : FieldsDiffer (number n)
  | string (s : String) : FieldsDiffer (string s)
  | array {items : List Json} (inside : ∀ j ∈ items, FieldsDiffer j) : FieldsDiffer (array items)
  | object {fields : List (String × Json)} (names : (fields.map (·.1)).Nodup)
    (inside : ∀ f ∈ fields, FieldsDiffer f.2) : FieldsDiffer (object fields)

theorem encodeAll_eq (vs : List Value) : encodeAll vs = vs.map encode := by
  induction vs with
  | nil => rfl
  | cons v vs ih => rw [encodeAll, ih, List.map_cons]

theorem encodeEntries_eq (es : List (Filed Value × Value)) :
    encodeEntries es = es.map fun e => (fieldName e.1.value, encode e.2) := by
  induction es with
  | nil => rfl
  | cons e es ih =>
    obtain ⟨⟨k, label⟩, v⟩ := e
    rw [encodeEntries, ih, List.map_cons, encodeEntry]

section Forms

variable (rep : Representation)

theorem toForms_eq [Tables] (js : List Json) : toForms rep js = js.map (toForm rep) := by
  induction js with
  | nil => rfl
  | cons j js ih => rw [toForms, ih, List.map_cons]

theorem toEntries_eq [Tables] (fs : List (String × Json)) :
    toEntries rep fs = fs.map fun f => (.keyword (.parse f.1), toForm rep f.2) := by
  induction fs with
  | nil => rfl
  | cons f fs ih =>
    obtain ⟨k, j⟩ := f
    rw [toEntries, ih, List.map_cons, toEntry]

end Forms

/-! ### Names and strings -/

theorem parse_text_of_symbol {name : Name} (h : ReadableHere .native (.symbol name)) :
    Name.parse name.text = name := by
  obtain ⟨chars, -, hvalue⟩ := h
  rcases Reader.symbolValue_cases chars with hv | ⟨b, hv⟩ | hv
  · simp [hv] at hvalue
  · simp [hv] at hvalue
  · obtain rfl := Value.symbol.inj (hv.symm.trans hvalue)
    rw [Reader.text_parse]

theorem parse_text_of_keyword {name : Name}
    (h : name.isAuto = false ∧ ReadableHere .native (.keyword name)) :
    Name.parse name.text = name := by
  obtain ⟨single, auto, chars, -, -, hvalue⟩ := h
  obtain rfl := Value.keyword.inj hvalue
  cases auto with
  | true => simp [Name.isAuto, Name.simple] at single
  | false => simp [Reader.text_parse]

/-- A string in quotes is told by its quotes, whatever else is in it. -/
theorem stringForm_string (s : String) : stringForm ("\"" ++ s ++ "\"") = .string s := by
  have htext : ("\"" ++ s ++ "\"").toList = '"' :: (s.toList ++ ['"']) := by simp
  obtain ⟨c, rest, hrest⟩ : ∃ c rest, s.toList ++ ['"'] = c :: rest :=
    List.exists_cons_of_ne_nil (by simp)
  have hlast : (c :: rest).getLast? = some '"' := by rw [← hrest]; simp
  have hinside : (c :: rest).dropLast = s.toList := by rw [← hrest]; simp
  unfold stringForm
  rw [htext, hrest]
  simp only [hlast, hinside, if_true, String.ofList_toList]

/-- A string is a symbol unless it begins with a colon or a quote, which no symbol does. -/
theorem stringForm_symbol {name : Name} (h : ReadableHere .native (.symbol name)) :
    stringForm name.text = .symbol name := by
  have hparse := parse_text_of_symbol h
  obtain ⟨chars, symbol, hvalue⟩ := h
  have htext : name.text.toList = chars.reverse := Reader.text_of_symbolValue hvalue
  obtain ⟨c, cs, hcs⟩ := List.exists_cons_of_ne_nil symbol.ne_nil
  have hc : isSymbolChar c = true := symbol.isSymbolChar c (by simp [hcs])
  have hcolon : c ≠ ':' := Reader.ne_of_class hc (by decide)
  have hquote : c ≠ '"' := Reader.ne_of_class hc (by decide)
  unfold stringForm
  rw [htext, hcs, hparse]
  split
  · next heq => exact absurd (List.cons.inj heq).1 hcolon
  · next heq => exact absurd (List.cons.inj heq).1 hquote
  · rfl

theorem stringForm_keyword {name : Name}
    (h : name.isAuto = false ∧ ReadableHere .native (.keyword name)) :
    stringForm (":" ++ name.text) = .keyword name := by
  have htext : (":" ++ name.text).toList = ':' :: name.text.toList := by simp
  unfold stringForm
  rw [htext]
  simp [parse_text_of_keyword h]

/-! ### The document of a form -/

section Encodable

variable {t : Table} {v w : Value}

theorem EncodableHere.keysDiffer (h : EncodableHere v) : v.KeysDiffer := by
  cases v with
  | map t entries => exact h.2
  | set => exact h.elim
  | _ => trivial

theorem Encodable.wellKeyed (h : Encodable v) : v.WellKeyed :=
  h.mono fun _ here => here.keysDiffer

/-- The keys of an encodable map are keywords that come back from the names of their fields. -/
theorem Encodable.exists_keyword {entries : List (Filed Value × Value)}
    (h : Encodable (.map t entries)) {e : Filed Value × Value} (he : e ∈ entries) :
    ∃ name, e.1.value = .keyword name ∧ Name.parse name.text = name := by
  obtain ⟨name, hname⟩ := h.here.1 e he
  have hkey : Encodable e.1.value := h.inside (Value.key_mem_parts he)
  rw [hname] at hkey
  exact ⟨name, hname, parse_text_of_keyword hkey.here⟩

/-- What has no parts to put in another order stays as it is. -/
theorem eq_of_reordered (order : Reordered v w) (fixed : ∀ u, ¬Value.Reshaped v u) : w = v := by
  induction order with
  | refl => rfl
  | trans _ _ ih₁ ih₂ =>
    obtain rfl := ih₁ fixed
    exact ih₂ fixed
  | list => exact (fixed (.list []) trivial).elim
  | vector rep => exact (fixed (.vector rep []) rfl).elim
  | quoted => exact (fixed (.quoted .nil) trivial).elim
  | @entry _ _ _ _ t => exact (fixed (.map t []) rfl).elim
  | @element _ _ t => exact (fixed (.set t []) rfl).elim
  | @entries t => exact (fixed (.map t []) rfl).elim
  | @elements t => exact (fixed (.set t []) rfl).elim

/-- Forms are encodable whatever the order of their maps is. -/
theorem Encodable.reordered (h : Encodable v) (order : Reordered v w) : Encodable w := by
  induction h generalizing w with
  | @intro v here inside ih =>
    have form : Encodable v := ⟨here, inside⟩
    obtain ⟨hw, hsame⟩ := form.wellKeyed.reordered order
    have parts : ∀ x ∈ w.parts, Encodable x := by
      intro x hx
      obtain ⟨y, hy, hyx⟩ := order.exists_part hx
      exact ih y hy hyx
    cases v with
    | list items =>
      obtain ⟨ys, rfl, -⟩ := Value.same_list_iff.1 hsame
      exact ⟨trivial, parts⟩
    | map t entries =>
      obtain ⟨u, ys, rfl, -, hlength, within⟩ := Value.same_map_iff.1 hsame
      refine ⟨⟨fun e he => ?_, hw.here⟩, parts⟩
      obtain ⟨d, hd, hde⟩ := Value.exists_sameEntry form.wellKeyed hw
        (fun x hx => WellKeyed.coherent (form.wellKeyed.inside hx)) hlength within e he
      obtain ⟨name, hname, -⟩ := form.exists_keyword hd
      have hkey := hde.1
      rw [hname] at hkey
      generalize e.1.value = k at hkey
      cases Value.alike_of_same hkey with
      | keyword => exact ⟨name, rfl⟩
    | vector | set | quoted | regex | entity => exact here.elim
    | nil | bool | number | string | symbol | keyword =>
      exact eq_of_reordered order (fun _ h => h) ▸ form

/-- A layout does nothing to a form but to give its maps a representation. -/
theorem Encodable.layOut (h : Encodable v) (l : Layout) : Encodable (v.layOut l) := by
  induction h with
  | @intro v here inside ih =>
    have form : Encodable v := ⟨here, inside⟩
    cases v with
    | list items =>
      rw [Value.layOut_list]
      exact ⟨trivial, List.forall_mem_map.2 ih⟩
    | map t entries =>
      rw [Value.layOut_map]
      have key : ∀ e ∈ entries, (Value.layOutItem l e.1).value = e.1.value := by
        intro e he
        obtain ⟨name, hname, -⟩ := form.exists_keyword he
        rw [Value.layOutItem, hname]
        rfl
      refine Value.everywhere_map ⟨?_, ?_⟩ ?_ ?_
      · exact List.forall_mem_map.2 fun e he => by rw [key e he]; exact here.1 e he
      · refine List.pairwise_map.2 (here.2.imp_of_mem fun hd he differ => ?_)
        rwa [key _ hd, key _ he]
      · exact List.forall_mem_map.2 fun e he => by
          rw [key e he]; exact inside _ (Value.key_mem_parts he)
      · exact List.forall_mem_map.2 fun e he => ih _ (Value.value_mem_parts he)
    | vector | set | quoted | regex | entity => exact here.elim
    | nil | bool | number | string | symbol | keyword => exact form

/-- Keywords are filed alike however entities print. -/
theorem found_keyword [Tables] (text : Entity → String) (name : Name) :
    ((Value.keyword name).file Entity.untold).Found text := by
  intro t k _ hk
  cases Value.alike_of_same hk with
  | keyword => exact Tables.meets_self t _

/-- The fields of an object give back the keys as they are, and every entry is kept. -/
theorem toForm_encode_map [Tables] (rep : Representation) {entries : List (Filed Value × Value)}
    (h : Encodable (.map t entries)) :
    ∃ u es, (encode (.map t entries)).toForm rep = .map u es ∧ u.rep = rep ∧
      es.Perm (entries.map fun e => (e.1.value.file Entity.untold, (encode e.2).toForm rep)) := by
  let decoded : List (Value × Value) := entries.map fun e => (e.1.value, (encode e.2).toForm rep)
  have hdecoded : toEntries rep (encodeEntries entries) = decoded := by
    rw [encodeEntries_eq, toEntries_eq, List.map_map]
    refine List.map_congr_left fun e he => ?_
    obtain ⟨name, hname, hparse⟩ := h.exists_keyword he
    simp only [Function.comp_apply, hname, fieldName, hparse]
  have wk : ∀ p ∈ decoded, WellKeyed p.1 :=
    List.forall_mem_map.2 fun e he => h.wellKeyed.key he
  have hapart : decoded.Pairwise fun p q => Value.Differ p.1 q.1 :=
    List.pairwise_map.2 h.here.2
  have perm := Shelf.insertAll_of_apart Entity.untold (s := .opened rep decoded.length) rfl wk
    hapart
  rw [List.map_map] at perm
  have hform : (encode (.map t entries)).toForm rep = .mapOf Entity.untold rep decoded := by
    rw [encode, toForm, hdecoded]
  exact ⟨_, _, hform, Shelf.insertAll_rep decoded, perm⟩

/-- The object of a map encodes the map if the values of its fields encode the values. -/
theorem toForm_encode_entries [Tables] (rep : Representation)
    {entries : List (Filed Value × Value)} (h : Encodable (.map t entries))
    (values : ∀ e ∈ entries, Encodable ((encode e.2).toForm rep) ∧
      (e.2.layOut (.of rep)).same ((encode e.2).toForm rep) = true) :
    Encodable ((encode (.map t entries)).toForm rep) ∧
      ((Value.map t entries).layOut (.of rep)).same ((encode (.map t entries)).toForm rep) =
        true := by
  have laidOut : WellKeyed ((Value.map t entries).layOut (.of rep)) := (h.layOut _).wellKeyed
  rw [Value.layOut_map] at laidOut ⊢
  obtain ⟨u, es, hform, hrep, perm⟩ := toForm_encode_map rep h
  rw [hform]
  let decoded : List (Filed Value × Value) :=
    entries.map fun e => (e.1.value.file Entity.untold, (encode e.2).toForm rep)
  have keys : ∀ e ∈ decoded, Encodable e.1.value := by
    refine List.forall_mem_map.2 fun e he => ?_
    have key : Encodable e.1.value := h.inside (Value.key_mem_parts he)
    exact key
  have values' : ∀ e ∈ decoded, Encodable e.2 :=
    List.forall_mem_map.2 fun e he => (values e he).1
  have entrywise : List.Forall₂ SameEntry
      (entries.map fun e => (Value.layOutItem (.of rep) e.1, e.2.layOut (.of rep))) decoded := by
    rw [List.forall₂_map_left_iff, List.forall₂_map_right_iff, List.forall₂_same]
    intro e he
    obtain ⟨name, hname, -⟩ := h.exists_keyword he
    refine ⟨?_, (values e he).2⟩
    rw [Value.layOutItem, hname]
    simp [Value.layOut, Value.same, Value.file]
  obtain ⟨apart, hsame⟩ := Value.same_map_of_forall₂ (u := u) hrep.symm laidOut
    (fun e he => (keys e he).wellKeyed) (fun e he => (values' e he).wellKeyed) entrywise
  -- the table has the entries in an order of its own
  have inOrder : Encodable (.map u decoded) :=
    Value.everywhere_map ⟨List.forall_mem_map.2 h.here.1, apart⟩ keys values'
  have order : Reordered (.map u decoded) (.map u es) := .entries rfl perm.symm
  obtain ⟨wes, hsame'⟩ := inOrder.wellKeyed.reordered order
  exact ⟨inOrder.reordered order, laidOut.same_trans inOrder.wellKeyed wes hsame hsame'⟩

/-- The document of a form encodes the form, in the representation that is asked for. -/
theorem toForm_encode [Tables] (rep : Representation) (h : Encodable v) :
    Encodable ((encode v).toForm rep) ∧
      (v.layOut (.of rep)).same ((encode v).toForm rep) = true := by
  induction h with
  | @intro v here inside ih =>
    have form : Encodable v := ⟨here, inside⟩
    -- what has no parts comes back as it is
    have leaf : (encode v).toForm rep = v → v.layOut (.of rep) = v →
        Encodable ((encode v).toForm rep) ∧
          (v.layOut (.of rep)).same ((encode v).toForm rep) = true := by
      intro hback hlayout
      rw [hback, hlayout]
      exact ⟨form, form.wellKeyed.same_refl⟩
    cases v with
    | nil | bool | number => exact leaf rfl rfl
    | string s => exact leaf (stringForm_string s) rfl
    | symbol name => exact leaf (stringForm_symbol here) rfl
    | keyword name => exact leaf (stringForm_keyword here) rfl
    | list items =>
      rw [encode, toForm, encodeAll_eq, toForms_eq, List.map_map, Value.layOut_list]
      refine ⟨⟨trivial, List.forall_mem_map.2 fun x hx => (ih x hx).1⟩,
        Value.same_list_iff.2 ⟨_, rfl, ?_⟩⟩
      rw [List.forall₂_map_left_iff, List.forall₂_map_right_iff, List.forall₂_same]
      exact fun x hx => (ih x hx).2
    | map t entries =>
      exact toForm_encode_entries rep form fun e he => ih _ (Value.value_mem_parts he)
    | vector | set | quoted | regex | entity => exact here.elim

/-- The keys that a document gives a map are found. -/
theorem findable_toForm_encode [Tables] (rep : Representation) (text : Entity → String)
    (h : Encodable v) : Findable text ((encode v).toForm rep) := by
  induction h with
  | @intro v here inside ih =>
    have form : Encodable v := ⟨here, inside⟩
    have leaf : (encode v).toForm rep = v → v.parts = [] → KeysFound text v →
        Findable text ((encode v).toForm rep) := by
      intro hback hparts found
      rw [hback]
      exact .leaf found hparts
    cases v with
    | nil | bool | number => exact leaf rfl rfl trivial
    | string s => exact leaf (stringForm_string s) rfl trivial
    | symbol name => exact leaf (stringForm_symbol here) rfl trivial
    | keyword name => exact leaf (stringForm_keyword here) rfl trivial
    | list items =>
      rw [encode, toForm, encodeAll_eq, toForms_eq, List.map_map]
      exact ⟨trivial, List.forall_mem_map.2 ih⟩
    | map t entries =>
      obtain ⟨u, es, hform, -, perm⟩ := toForm_encode_map rep form
      rw [hform]
      -- every entry has been filed under a keyword
      have filed : ∀ e ∈ es, e.1.Found text ∧ Findable text e.1.value ∧ Findable text e.2 := by
        intro e he
        obtain ⟨d, hd, rfl⟩ := List.mem_map.1 (perm.mem_iff.1 he)
        obtain ⟨name, hname, -⟩ := form.exists_keyword hd
        simp only [hname]
        exact ⟨found_keyword text name, .leaf trivial rfl, ih _ (Value.value_mem_parts hd)⟩
      exact Value.everywhere_map (fun e he => (filed e he).1) (fun e he => (filed e he).2.1)
        fun e he => (filed e he).2.2
    | vector | set | quoted | regex | entity => exact here.elim

/-- Keywords that differ become fields of different names. -/
theorem fieldsDiffer_encode (h : Encodable v) : FieldsDiffer (encode v) := by
  induction h with
  | @intro v here inside ih =>
    have form : Encodable v := ⟨here, inside⟩
    cases v with
    | nil => exact .null
    | bool b => exact .bool b
    | number n => exact .number n
    | string | symbol | keyword => exact .string _
    | list items =>
      rw [encode, encodeAll_eq]
      exact .array (List.forall_mem_map.2 ih)
    | map r entries =>
      rw [encode, encodeEntries_eq]
      refine .object ?_ (List.forall_mem_map.2 fun e he => ih _ (Value.value_mem_parts he))
      rw [List.map_map, List.Nodup, List.pairwise_map]
      refine here.2.imp_of_mem fun hd he differ heq => ?_
      obtain ⟨name, hname, hparse⟩ := form.exists_keyword hd
      obtain ⟨name', hname', hparse'⟩ := form.exists_keyword he
      have hsame : name = name' := by
        rw [← hparse, ← hparse']
        simpa [hname, hname', fieldName] using congrArg Name.parse heq
      have := differ.1
      rw [hname, hname', hsame] at this
      simp [Value.same] at this
    | vector | set | quoted | regex | entity => exact here.elim

/-- The encoding of the data language. Let the document of a form be delivered with the fields of
its objects in any order. No object in it has two fields of one name, and it encodes the form, with
maps in the representation that is asked for: none of their entries is lost. It is equal to whatever
is the same as the form in this representation, if keys are found in it. -/
theorem toForm_encode_reordered [Tables] (rep : Representation) (h : Encodable v)
    (order : Reordered v w) :
    FieldsDiffer (encode w) ∧
      ((encode w).toForm rep).same (v.layOut (.of rep)) = true ∧
      (v.layOut (.of rep)).same ((encode w).toForm rep) = true ∧
      ∀ text u, WellKeyed u → Findable text u → (v.layOut (.of rep)).same u = true →
        ((encode w).toForm rep).agrees text u = true ∧
          u.agrees text ((encode w).toForm rep) = true := by
  have hw : Encodable w := h.reordered order
  obtain ⟨decoded, hsame⟩ := toForm_encode rep hw
  have laidOut : WellKeyed (v.layOut (.of rep)) := (h.layOut _).wellKeyed
  obtain ⟨laidOut', hlayout⟩ := laidOut.reordered (order.layOut (l := .of rep))
  have forth : (v.layOut (.of rep)).same ((encode w).toForm rep) = true :=
    laidOut.same_trans laidOut' decoded.wellKeyed hlayout hsame
  have back := laidOut.same_symm decoded.wellKeyed forth
  refine ⟨fieldsDiffer_encode hw, back, forth, fun text u wu found hu => ?_⟩
  have same := decoded.wellKeyed.same_trans laidOut wu back hu
  exact ⟨Value.agrees_of_same decoded.wellKeyed wu found same,
    Value.agrees_of_same wu decoded.wellKeyed (findable_toForm_encode rep text hw)
      (decoded.wellKeyed.same_symm wu same)⟩

end Encodable

/-- A qualified symbol, a string of a colon and a quote, and a persistent map with its fields the
other way round. -/
theorem toForm_encode_swapped :
    let a : Filed Value × Value := ((Value.kw "a").file Entity.untold, .number ⟨0xBFE0000000000000⟩)
    let b : Filed Value × Value :=
      ((Value.keyword ⟨some "n", "m/k"⟩).file Entity.untold, .list [.nil])
    let form (t : Table) (entries : List (Filed Value × Value)) : Value :=
      .list [.symbol ⟨some "n", "b"⟩, .string ":\"", .map t entries]
    let document := encode (form ⟨.native, 3⟩ [b, a])
    document = .array [.string "n/b", .string "\":\"\"",
        .object [("n/m/k", .array [.null]), ("a", .number ⟨0xBFE0000000000000⟩)]] ∧
      (document.toForm .persistent).same (form ⟨.persistent, 0⟩ [a, b]) = true ∧
      (document.toForm .persistent).agrees Entity.untold (form ⟨.persistent, 0⟩ [a, b]) = true := by
  intro a b form document
  have number : Encodable (.number ⟨0xBFE0000000000000⟩) :=
    .leaf ⟨true, 4503599627370496, -53, by decide⟩ rfl
  have nil : Encodable (.list [.nil]) :=
    ⟨trivial, fun w hw => List.mem_singleton.1 hw ▸ .leaf trivial rfl⟩
  have key : Encodable (.kw "a") :=
    .leaf ⟨by decide, false, ['a'], by decide, List.all_eq_true.1 rfl, rfl⟩ rfl
  have key' : Encodable (.keyword ⟨some "n", "m/k"⟩) :=
    .leaf ⟨rfl, false, ['k', '/', 'm', '/', 'n'], by decide, List.all_eq_true.1 rfl, rfl⟩ rfl
  have symbol : Encodable (.symbol ⟨some "n", "b"⟩) :=
    .leaf ⟨['b', '/', 'n'], ⟨by decide, List.all_eq_true.1 rfl, rfl⟩, rfl⟩ rfl
  have map (t : Table) : Encodable (.map t [a, b]) := by
    refine Value.everywhere_map ⟨?_, ?_⟩ ?_ ?_
    · simp [a, b, Value.kw, Value.file]
    · exact List.pairwise_pair.2 ⟨by decide, by decide⟩
    · simpa [a, b, Value.file] using ⟨key, key'⟩
    · simpa [a, b] using ⟨number, nil⟩
  have encodable (t : Table) : Encodable (form t [a, b]) := by
    refine ⟨trivial, List.forall_mem_cons.2 ⟨symbol, List.forall_mem_cons.2 ⟨?_, ?_⟩⟩⟩
    · exact .leaf trivial rfl
    · exact List.forall_mem_singleton.2 (map t)
  have order : Reordered (form ⟨.native, 3⟩ [a, b]) (form ⟨.native, 3⟩ [b, a]) :=
    .list [_, _] [] (.entries rfl (List.Perm.swap b a []))
  have found : Findable Entity.untold (form ⟨.persistent, 0⟩ [a, b]) := by
    refine ⟨trivial, List.forall_mem_cons.2 ⟨.leaf trivial rfl, List.forall_mem_cons.2
      ⟨.leaf trivial rfl, List.forall_mem_singleton.2 ?_⟩⟩⟩
    refine Value.everywhere_pair ?_ (.leaf trivial rfl) (.leaf trivial rfl) (.leaf trivial rfl)
      ⟨trivial, List.forall_mem_singleton.2 (.leaf trivial rfl)⟩
    exact List.forall_mem_cons.2
      ⟨found_keyword _ _, List.forall_mem_singleton.2 (found_keyword _ _)⟩
  have wellKeyed : WellKeyed (form ⟨.persistent, 0⟩ [a, b]) := (encodable _).wellKeyed
  obtain ⟨-, -, -, equal⟩ := toForm_encode_reordered .persistent (encodable _) order
  obtain ⟨agrees, -⟩ := equal Entity.untold _ wellKeyed found (by rfl)
  have decoded := (toForm_encode .persistent ((encodable _).reordered order)).1.wellKeyed
  exact ⟨rfl, Value.same_of_agrees decoded wellKeyed agrees, agrees⟩

end Lisp.Json
