import MeshlinkNode.JsonText
import MeshlinkNode.Lib.JsonGrammar

/-!
# What `json.dumps` writes is JSON

By default `json.dumps` lets `NaN` and the infinities through, and no reader has
to take these. Of values whose floats are finite it writes the standard's texts.
-/

namespace MeshlinkNode

open JsonGrammar

/-! ## Integers -/

theorem digitChar_toNat : ∀ n, n < 10 → (Nat.digitChar n).toNat = 48 + n := by decide

theorem text_natRepr_of_lt {n : Nat} (small : n < 10) : text (Nat.repr n) = [48 + n] := by
  rw [Nat.repr_of_lt small, text, String.toList_singleton, List.map_singleton,
    digitChar_toNat n small]

theorem text_natRepr_of_ge {n : Nat} (large : 10 ≤ n) :
    text (Nat.repr n) = text (Nat.repr (n / 10)) ++ [48 + n % 10] := by
  rw [Nat.repr_of_ge large]
  simp only [text, String.toList_append, String.toList_singleton, List.map_append,
    List.map_singleton, digitChar_toNat _ (Nat.mod_lt n (by decide : 0 < 10))]

/-- A natural number is written without a leading zero. -/
theorem natRepr_intPart (n : Nat) :
    IntPart (text (Nat.repr n)) ∧ (0 < n → text (Nat.repr n) ≠ [48]) := by
  induction n using Nat.strongRecOn with
  | ind n ih =>
    by_cases small : n < 10
    · rw [text_natRepr_of_lt small]
      by_cases zero : n = 0
      · subst zero
        exact ⟨.zero, fun never => absurd never (by decide)⟩
      · refine ⟨.nonzero (by omega) (by omega) (by simp), ?_⟩
        intro _ same
        have := (List.cons.inj same).1
        omega
    · have large : 10 ≤ n := by omega
      obtain ⟨front, positive⟩ := ih (n / 10) (by omega)
      rw [text_natRepr_of_ge large]
      refine ⟨front.snoc (positive (by omega)) ⟨by omega, by omega⟩, ?_⟩
      intro _ same
      have lengths := congrArg List.length same
      have some := List.length_pos_iff.mpr front.ne_nil
      simp only [List.length_append, List.length_singleton] at lengths
      omega

theorem intRepr_number (n : Int) : Number (intRepr n) := by
  cases n with
  | ofNat n => exact (natRepr_intPart n).1.number
  | negSucc n =>
    have spelled : intRepr (.negSucc n) = 45 :: text (Nat.repr (n + 1)) := by
      simp [intRepr, text, toString, Int.repr]
    rw [spelled]
    exact (natRepr_intPart (n + 1)).1.negative

/-! ## Strings -/

theorem hex4_hex (n : Nat) : ∀ c ∈ hex4 n, HexDigit c := by
  intro c mem
  obtain ⟨d, here, rfl⟩ := List.mem_map.mp mem
  have small : d < 16 := by
    simp only [List.mem_cons, List.not_mem_nil, or_false] at here
    omega
  unfold HexDigit Digit
  split <;> omega

theorem unicodeEscape_chars (n : Nat) : Chars (unicodeEscape n) := by
  have escaped : unicodeEscape n = 92 :: 117 :: (hex4 n ++ []) := by
    rw [List.append_nil]
    rfl
  rw [escaped]
  exact .unicode rfl (hex4_hex n) .nil

theorem escapeChar_chars (c : Nat) : Chars (escapeChar c) := by
  unfold escapeChar
  split
  · rename_i quoted
    rcases quoted with rfl | rfl
    · exact .escape (by decide) .nil
    · exact .escape (by decide) .nil
  · rename_i unquoted
    -- the short escapes one by one
    iterate 5
      split
      · exact .escape (by decide) .nil
    split
    · rename_i printable
      exact .plain printable.1 (by omega) (by omega) (by omega) .nil
    · split
      · exact unicodeEscape_chars c
      · exact (unicodeEscape_chars _).append (unicodeEscape_chars _)

theorem chars_flatMap (s : PyStr) : Chars (s.flatMap escapeChar) := by
  induction s with
  | nil => exact .nil
  | cons c s ih => exact (escapeChar_chars c).append ih

/-! ## Values -/

namespace Json

mutual

/-- Every float in the value is finite. -/
def Finite : Json → Prop
  | .float x => ∃ value, x = .finite value
  | .arr items => FiniteItems items
  | .obj fields => FiniteFields fields
  | .null | .bool _ | .int _ | .str _ => True

def FiniteItems : List Json → Prop
  | [] => True
  | v :: rest => Finite v ∧ FiniteItems rest

def FiniteFields : List (PyStr × Json) → Prop
  | [] => True
  | (_, v) :: rest => Finite v ∧ FiniteFields rest

end

end Json

/-- Finite floats are spelled as numbers, and a separator is its mark and white
space. -/
structure JsonParts (floatRepr : ℚ → PyStr) (seps : Separators) : Prop where
  float : ∀ x, Number (floatRepr x)
  item : ∃ w, Ws w ∧ seps.item = 44 :: w
  key : ∃ w, Ws w ∧ seps.key = 58 :: w

variable {floatRepr : ℚ → PyStr} {seps : Separators}

theorem quote_value (s : PyStr) : Value (quote s) := .string (chars_flatMap s)

mutual

/-- **What `dumps` writes of finite floats is a JSON value.** -/
theorem dumps_value (parts : JsonParts floatRepr seps) (v : Json) (finite : v.Finite) :
    Value (dumps floatRepr seps v) := by
  match v, finite with
  | .null, _ => exact .null
  | .bool true, _ => exact .true
  | .bool false, _ => exact .false
  | .int n, _ => exact .number (intRepr_number n)
  | .float x, finite =>
    obtain ⟨value, rfl⟩ := finite
    exact .number (parts.float value)
  | .str s, _ => exact quote_value s
  | .arr [], _ => exact .emptyArray .nil
  | .arr (v :: rest), finite =>
    have first := dumps_value parts v finite.1
    have elements := dumpsItems_elements parts rest finite.2 .nil first
    exact .array elements
  | .obj [], _ => exact .object (.empty .nil)
  | .obj ((k, v) :: rest), finite =>
    have first := dumps_value parts v finite.1
    have members := dumpsFields_members parts rest finite.2 .nil k first
    exact .object (.members members)

theorem dumpsItems_elements (parts : JsonParts floatRepr seps) (items : List Json)
    (finite : Json.FiniteItems items) {w v : List Nat} (white : Ws w) (value : Value v) :
    Elements (w ++ v ++ dumpsItems floatRepr seps items) := by
  match items, finite with
  | [], _ => exact .one white value .nil
  | next :: rest, finite =>
    obtain ⟨w', white', comma⟩ := parts.item
    have first := dumps_value parts next finite.1
    have others := dumpsItems_elements parts rest finite.2 white' first
    have more := Elements.more white value .nil others
    simpa [dumpsItems, comma] using more

theorem dumpsFields_members (parts : JsonParts floatRepr seps) (fields : List (PyStr × Json))
    (finite : Json.FiniteFields fields) {w v : List Nat} (white : Ws w) (k : PyStr)
    (value : Value v) :
    Members (w ++ quote k ++ seps.key ++ v ++ dumpsFields floatRepr seps fields) := by
  obtain ⟨w'', white'', colon⟩ := parts.key
  match fields, finite with
  | [], _ =>
    have one := Members.one white (chars_flatMap k) .nil white'' value .nil
    simpa [dumpsFields, quote, colon] using one
  | (name, next) :: rest, finite =>
    obtain ⟨w', white', comma⟩ := parts.item
    have first := dumps_value parts next finite.1
    have others := dumpsFields_members parts rest finite.2 white' name first
    have more := Members.more white (chars_flatMap k) .nil white'' value .nil others
    simpa [dumpsFields, quote, colon, comma] using more

end

/-- An object is written as one. -/
theorem dumps_objectText (parts : JsonParts floatRepr seps) (fields : List (PyStr × Json))
    (finite : Json.FiniteFields fields) : ObjectText (dumps floatRepr seps (.obj fields)) := by
  have object : Object (dumps floatRepr seps (.obj fields)) := by
    match fields, finite with
    | [], _ => exact .empty .nil
    | (k, v) :: rest, finite =>
      exact .members (dumpsFields_members parts rest finite.2 .nil k (dumps_value parts v finite.1))
  exact ⟨[], _, [], .nil, object, .nil, by simp⟩

theorem jsonParts_default {floatRepr : ℚ → PyStr} (numbers : ∀ x, Number (floatRepr x)) :
    JsonParts floatRepr .default where
  float := numbers
  item := ⟨[32], by simp [Ws], rfl⟩
  key := ⟨[32], by simp [Ws], rfl⟩

theorem jsonParts_compact {floatRepr : ℚ → PyStr} (numbers : ∀ x, Number (floatRepr x)) :
    JsonParts floatRepr .compact where
  float := numbers
  item := ⟨[], .nil, rfl⟩
  key := ⟨[], .nil, rfl⟩

end MeshlinkNode
