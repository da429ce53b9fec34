import Mathlib.Data.List.AList
import Mathlib.Data.Rat.Defs

/-!
# The Python values the node computes with

Exceptions, bytes, dicts and decoded JSON, as far as the modelled code uses
them. Clock readings are exact rationals.
-/

namespace MeshlinkNode

abbrev Bytes := List UInt8

/-- The exception classes that reach or leave modelled code. -/
inductive PyExc where
  | valueError
  | keyError
  | typeError
  | indexError
  | overflowError
  | osError
  | structError
  | recursionError
  deriving DecidableEq, Repr

/-- Where statements in a row return, each of them does. -/
theorem bind_eq_ok {ε α β : Type} {result : Except ε α} {rest : α → Except ε β} {b : β} :
    result >>= rest = .ok b ↔ ∃ a, result = .ok a ∧ rest a = .ok b := by
  cases result with
  | error exc =>
    refine iff_of_false nofun ?_
    rintro ⟨a, returns, -⟩
    cases returns
  | ok a =>
    constructor
    · intro returns
      exact ⟨a, rfl, returns⟩
    · rintro ⟨_, ⟨⟩, returns⟩
      exact returns

/-- What returns behind a check passed it. -/
theorem guarded_eq_ok {ε α : Type} {p : Prop} [Decidable p] {result : Except ε α} {exc : ε}
    {a : α} : (if p then result else throw exc) = .ok a ↔ p ∧ result = .ok a := by
  by_cases passes : p
  · rw [if_pos passes, and_iff_right passes]
  · rw [if_neg passes]
    exact iff_of_false (fun returned => nomatch returned) fun both => passes both.1

theorem map_ok {ε α β : Type} {f : α → β} {result : Except ε α} {b : β}
    (returned : result.map f = .ok b) : ∃ a, result = .ok a ∧ b = f a := by
  cases result with
  | error exc => cases returned
  | ok a =>
    cases returned
    exact ⟨a, rfl, rfl⟩

abbrev Dict (κ ν : Type) := AList fun _ : κ => ν

/-- Seconds, as `time.time` and `time.monotonic` return them. -/
abbrev Seconds := ℚ

/-- `int(x)` of a finite number: truncation toward zero. -/
def truncInt (x : ℚ) : Int := x.num.tdiv x.den

/-! ## Strings and JSON values -/

/-- A Python string: code points, lone surrogates included. -/
abbrev PyStr := List Nat

def text (s : String) : PyStr := s.toList.map Char.toNat

/-- A Python float: a finite binary fraction, an infinity or a NaN. -/
inductive PyFloat where
  | finite (value : ℚ)
  | infinity (negative : Bool)
  | nan
  deriving DecidableEq

/-- What `json.loads` returns. An object is a dict with string keys. -/
inductive Json where
  | null
  | bool (b : Bool)
  | int (n : Int)
  | float (x : PyFloat)
  | str (s : PyStr)
  | arr (items : List Json)
  | obj (fields : List (PyStr × Json))

namespace Json

/-- `value[key]` with a string key. -/
def getItem (value : Json) (key : PyStr) : Except PyExc Json :=
  match value with
  | .obj fields => (fields.lookup key).elim (.error .keyError) .ok
  | _ => .error .typeError

/-- What `for x in value` visits. -/
def iter : Json → Except PyExc (List Json)
  | .arr items => .ok items
  | .obj fields => .ok (fields.map fun f => .str f.1)
  | .str s => .ok (s.map fun c => .str [c])
  | _ => .error .typeError

/-- A dict key: equal numbers are one key whatever their type, lists and
dicts are not hashable. -/
inductive Key where
  | null
  | number (value : ℚ)
  | infinity (negative : Bool)
  | nan
  | str (s : PyStr)
  deriving DecidableEq

def hashKey : Json → Except PyExc Key
  | .null => .ok .null
  | .bool b => .ok (.number (if b then 1 else 0))
  | .int n => .ok (.number n)
  | .float (.finite x) => .ok (.number x)
  | .float (.infinity neg) => .ok (.infinity neg)
  | .float .nan => .ok .nan
  | .str s => .ok (.str s)
  | .arr _ | .obj _ => .error .typeError

end Json

/-! ## `bytes.fromhex` -/

def hexDigit (c : Nat) : Option Nat :=
  if 48 ≤ c ∧ c ≤ 57 then some (c - 48)
  else if 97 ≤ c ∧ c ≤ 102 then some (c - 87)
  else if 65 ≤ c ∧ c ≤ 70 then some (c - 55)
  else none

/-- ASCII white space, which `fromhex` skips between two bytes. -/
def hexSpace (c : Nat) : Bool := c == 32 || (9 ≤ c && c ≤ 13)

def hexBytes : PyStr → Option Bytes
  | [] => some []
  | c :: rest =>
    if hexSpace c then hexBytes rest
    else match rest with
      | [] => none
      | d :: rest => do
        let hi ← hexDigit c
        let lo ← hexDigit d
        let tail ← hexBytes rest
        return UInt8.ofNat (16 * hi + lo) :: tail

/-- `bytes.fromhex(value)`. -/
def fromHex : Json → Except PyExc Bytes
  | .str s => (hexBytes s).elim (.error .valueError) .ok
  | _ => .error .typeError

example : fromHex (.str (text "0a fF")) = .ok [10, 255] := by rfl

/-! ## Conversions of decoded JSON -/

/-- Library functions that code calls on decoded JSON without a look at what
they do inside: `json.loads` of bytes, `str`, and `int` of a string. -/
structure Stdlib where
  jsonLoads : Bytes → Except PyExc Json
  str : Json → Except PyExc PyStr
  intOfStr : PyStr → Except PyExc Int

/-- `int(value)`. -/
def Stdlib.int (lib : Stdlib) : Json → Except PyExc Int
  | .bool b => .ok (if b then 1 else 0)
  | .int n => .ok n
  | .float (.finite x) => .ok (truncInt x)
  | .float (.infinity _) => .error .overflowError
  | .float .nan => .error .valueError
  | .str s => lib.intOfStr s
  | .null | .arr _ | .obj _ => .error .typeError

end MeshlinkNode
