import Lisp.Proofs.Number.Nearest
import Lisp.Proofs.Reader.RoundTrip

/-!
# The text of a number

The text of a finite number is a numeral: an optional minus sign, digits, and optionally a point
with more digits behind it. An integral number below `10^15` prints as all of its digits, any other
number as a numeral that no other double is nearer to. The reader takes a numeral for one number,
the double nearest to what it denotes, so that the number comes back in both cases.

## Main definitions

* `Reader.Prints` — what the text of a finite number is

## Main results

* `Reader.read_render_number` — the text of a finite number is read as this number
-/

namespace Lisp.Reader

open Number (Numeral signed signedValue truncate dyadicIsInteger)

variable {x : Number} {negative : Bool} {m : Nat} {q : Int}

/-- A numeral with or without a minus sign is read as one number. -/
theorem read_numeral [Tables] (rep : Representation) (minus : Bool) (t : Numeral) :
    read rep (String.ofList (signed minus t.chars)) = .ok [.number (t.decimal.toNumber minus)] := by
  refine read_of_delivers ?_
  rw [String.toList_ofList]
  exact delivers_number minus t

/-- A text is that of the number `±m·2^q`: it is a numeral behind an optional minus sign, it denotes
an integral number below `10^15` exactly, and no other finite number is nearer to what it
denotes. -/
structure Prints (negative : Bool) (m : Nat) (q : Int) (minus : Bool) (t : Numeral)
    (text : String) : Prop where
  text_eq : text = String.ofList (signed minus t.chars)
  integral : dyadicIsInteger m q = true → truncate m q < 10 ^ 15 →
    t.fraction = [] ∧ t.decimal.value = m * 2 ^ q
  nearest : ∀ (y : Number) (negative' : Bool) (m' : Nat) (q' : Int),
    y.exact = .finite negative' m' q' →
      |signedValue minus t.decimal.value - signedValue negative (m * 2 ^ q)| ≤
        |signedValue minus t.decimal.value - signedValue negative' (m' * 2 ^ q')|

theorem exists_prints (h : x.exact = .finite negative m q) :
    ∃ minus t, Prints negative m q minus t x.render ∧ Number.StandsFor negative m q minus t := by
  obtain ⟨minus, t, htext, integral, stands⟩ := Number.exists_numeral_standsFor h
  refine ⟨minus, t, ⟨congrArg String.ofList htext, integral, ?_⟩, stands⟩
  intro y negative' m' q' hy
  cases stands with
  | zero hm hminus hdigits =>
    -- zero is printed exactly
    simp [hm, hminus, signedValue, Number.Decimal.value, hdigits]
  | near hm hminus near =>
    rw [hminus]
    exact Number.nearest_of_near h hm near hy

/-- Numbers survive printing: the text of a finite number is a numeral near it, and it is read as
exactly one number, the same one. Only negative zero comes back with another sign. -/
theorem read_render_number [Tables] (rep : Representation) (h : x.exact = .finite negative m q) :
    ∃ minus t y, Prints negative m q minus t x.render ∧
      read rep x.render = .ok [.number y] ∧ x.same y = true ∧ (m ≠ 0 → y = x) := by
  obtain ⟨minus, t, prints, stands⟩ := exists_prints h
  have hread : read rep x.render = .ok [.number (t.decimal.toNumber minus)] := by
    rw [prints.text_eq, read_numeral]
  exact ⟨minus, t, _, prints, hread, stands.toNumber h⟩

/-- A tenth is no dyadic rational, and prints as one digit behind the point all the same. -/
theorem read_render_tenth :
    let x : Number := ⟨0x3FB999999999999A⟩
    x.exact = .finite false 7205759403792794 (-56) ∧ x.render = "0.1" ∧
      read .native "0.1" = .ok [.number x] := by
  intro x
  have h : x.exact = .finite false 7205759403792794 (-56) := by decide
  have hrender : x.render = "0.1" := by decide +kernel
  obtain ⟨minus, t, y, -, hread, -, hy⟩ := read_render_number .native h
  rw [hrender, hy (by decide)] at hread
  exact ⟨h, hrender, hread⟩

end Lisp.Reader
