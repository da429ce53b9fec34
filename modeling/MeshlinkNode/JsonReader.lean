import MeshlinkNode.JsonValid
import Mathlib.Data.List.Chain

/-!
# What `json.loads` reads

The scanner of the standard library, for text. It takes any white space between
tokens, Python's three constants, and a key given twice, of which the last value
counts. What `json.dumps` writes it reads back, for strings that are no two
halves of one character and numbers whose spelling is read back.
-/

namespace MeshlinkNode

/-! ## Tokens -/

def jsonSpace (c : Nat) : Bool := c = 32 || c = 9 || c = 10 || c = 13

/-- `WHITESPACE.match(s).end()`. -/
def skipSpace (s : PyStr) : PyStr := s.dropWhile jsonSpace

/-- `_decode_uXXXX`. -/
def decodeUXXXX (s : PyStr) : Option Nat :=
  if 4 ≤ s.length then
    (s.take 4).foldl (fun value c => do return 16 * (← value) + (← hexDigit c)) (some 0)
  else none

/-- `BACKSLASH`. -/
def backslash (c : Nat) : Option Nat :=
  if c = 34 ∨ c = 92 ∨ c = 47 then some c
  else if c = 98 then some 8
  else if c = 102 then some 12
  else if c = 110 then some 10
  else if c = 114 then some 13
  else if c = 116 then some 9
  else none

def highSurrogate (c : Nat) : Prop := 0xd800 ≤ c ∧ c < 0xdc00

def lowSurrogate (c : Nat) : Prop := 0xdc00 ≤ c ∧ c < 0xe000

instance (c : Nat) : Decidable (highSurrogate c) := inferInstanceAs (Decidable (_ ∧ _))

instance (c : Nat) : Decidable (lowSurrogate c) := inferInstanceAs (Decidable (_ ∧ _))

/-- A character before the string that follows. -/
def push (c : Nat) (scanned : Except PyExc (PyStr × PyStr)) : Except PyExc (PyStr × PyStr) :=
  scanned.map fun out => (c :: out.1, out.2)

/-- `scanstring`, behind the opening quote: the string and what follows its
closing quote. Every round takes a character, so their number bounds the rounds. -/
def scanString : Nat → PyStr → Except PyExc (PyStr × PyStr)
  | 0, _ => .error .valueError
  | _ + 1, [] => .error .valueError
  | n + 1, c :: rest =>
    if c = 34 then .ok ([], rest)
    else if c < 32 then .error .valueError
    else if c ≠ 92 then push c (scanString n rest)
    else
      match rest with
      | [] => .error .valueError
      | esc :: rest =>
        if esc ≠ 117 then
          match backslash esc with
          | none => .error .valueError
          | some char => push char (scanString n rest)
        else
          match decodeUXXXX rest with
          | none => .error .valueError
          | some uni =>
            let rest := rest.drop 4
            if highSurrogate uni ∧ rest.take 2 = [92, 117] then
              match decodeUXXXX (rest.drop 2) with
              | none => .error .valueError
              | some uni2 =>
                if lowSurrogate uni2 then
                  let char := 0x10000 + (uni - 0xd800) * 1024 + (uni2 - 0xdc00)
                  push char (scanString n (rest.drop 6))
                else push uni (scanString n rest)
            else push uni (scanString n rest)

def asciiDigit (c : Nat) : Bool := 48 ≤ c && c ≤ 57

/-- `0|[1-9][0-9]*`. -/
def matchInt : PyStr → PyStr
  | [] => []
  | d :: rest =>
    if d = 48 then [48] else if asciiDigit d then d :: rest.takeWhile asciiDigit else []

/-- `(\.[0-9]+)?`. -/
def matchFrac : PyStr → PyStr
  | 46 :: rest =>
    let digits := rest.takeWhile asciiDigit
    if digits = [] then [] else 46 :: digits
  | _ => []

def matchSign (s : PyStr) : PyStr :=
  match s with
  | c :: _ => if c = 43 ∨ c = 45 then [c] else []
  | [] => []

/-- `([eE][-+]?[0-9]+)?`. -/
def matchExp : PyStr → PyStr
  | [] => []
  | e :: rest =>
    if e = 101 ∨ e = 69 then
      let sign := matchSign rest
      let digits := (rest.drop sign.length).takeWhile asciiDigit
      if digits = [] then [] else e :: (sign ++ digits)
    else []

/-- `NUMBER_RE.match`: the integer, the fraction, the exponent and the rest. -/
def matchNumber (s : PyStr) : Option (PyStr × PyStr × PyStr × PyStr) :=
  let minus := if s.head? = some 45 then [45] else []
  let unsigned := s.drop minus.length
  let int := matchInt unsigned
  if int = [] then none
  else
    let afterInt := unsigned.drop int.length
    let frac := matchFrac afterInt
    let afterFrac := afterInt.drop frac.length
    let exp := matchExp afterFrac
    some (minus ++ int, frac, exp, afterFrac.drop exp.length)

def natOfDigits (s : PyStr) : Nat := s.foldl (fun value c => 10 * value + (c - 48)) 0

/-- `int(text)` of a matched integer: one with too many digits is refused. -/
def parseInt (s : PyStr) : Except PyExc Json :=
  let digits := if s.head? = some 45 then s.tail else s
  if 4300 < digits.length then .error .valueError
  else if s.head? = some 45 then .ok (.int (-natOfDigits digits))
  else .ok (.int (natOfDigits digits))

/-- `d[key] = value`. -/
def setItem (fields : List (PyStr × Json)) (key : PyStr) (value : Json) : List (PyStr × Json) :=
  match fields with
  | [] => [(key, value)]
  | (k, v) :: rest => if k = key then (k, value) :: rest else (k, v) :: setItem rest key value

/-- `dict(pairs)`. -/
def pairsDict (pairs : List (PyStr × Json)) : List (PyStr × Json) :=
  pairs.foldl (fun fields pair => setItem fields pair.1 pair.2) []

/-! ## Values -/

section

variable (parseFloat : PyStr → PyFloat)

/-- What a number or one of the constants comes to. -/
def scanAtom (s : PyStr) : Except PyExc (Json × PyStr) :=
  if text "null" <+: s then .ok (.null, s.drop 4)
  else if text "true" <+: s then .ok (.bool true, s.drop 4)
  else if text "false" <+: s then .ok (.bool false, s.drop 5)
  else
    match matchNumber s with
    | some (integer, frac, exp, rest) =>
      if frac = [] ∧ exp = [] then (parseInt integer).map (·, rest)
      else .ok (.float (parseFloat (integer ++ frac ++ exp)), rest)
    | none =>
      if text "NaN" <+: s then .ok (.float .nan, s.drop 3)
      else if text "Infinity" <+: s then .ok (.float (.infinity false), s.drop 8)
      else if text "-Infinity" <+: s then .ok (.float (.infinity true), s.drop 9)
      else .error .valueError

mutual

/-- `scan_once`, at most `depth` levels of arrays and objects deep. -/
def scanOnce : Nat → Nat → PyStr → Except PyExc (Json × PyStr)
  | 0, _, _ => .error .valueError
  | n + 1, depth, s =>
    match s with
    | [] => .error .valueError
    | c :: rest =>
      if c = 34 then (scanString (rest.length + 1) rest).map fun out => (.str out.1, out.2)
      else if c = 91 then
        match depth with
        | 0 => .error .recursionError
        | depth + 1 =>
          let rest := skipSpace rest
          if rest.head? = some 93 then .ok (.arr [], rest.tail)
          else (scanItems n depth rest).map fun out => (.arr out.1, out.2)
      else if c = 123 then
        match depth with
        | 0 => .error .recursionError
        | depth + 1 =>
          let rest := skipSpace rest
          if rest.head? = some 125 then .ok (.obj [], rest.tail)
          else (scanMembers n depth rest).map fun out => (.obj (pairsDict out.1), out.2)
      else scanAtom parseFloat s

/-- The loop of `JSONArray`. -/
def scanItems : Nat → Nat → PyStr → Except PyExc (List Json × PyStr)
  | 0, _, _ => .error .valueError
  | n + 1, depth, s => do
    let (value, rest) ← scanOnce n depth s
    match skipSpace rest with
    | 93 :: rest => return ([value], rest)
    | 44 :: rest =>
      let (values, rest) ← scanItems n depth (skipSpace rest)
      return (value :: values, rest)
    | _ => .error .valueError

/-- The loop of `JSONObject`. -/
def scanMembers : Nat → Nat → PyStr → Except PyExc (List (PyStr × Json) × PyStr)
  | 0, _, _ => .error .valueError
  | n + 1, depth, s =>
    match s with
    | 34 :: rest => do
      let (key, rest) ← scanString (rest.length + 1) rest
      match skipSpace rest with
      | 58 :: rest =>
        let (value, rest) ← scanOnce n depth (skipSpace rest)
        match skipSpace rest with
        | 125 :: rest => return ([(key, value)], rest)
        | 44 :: rest =>
          let (pairs, rest) ← scanMembers n depth (skipSpace rest)
          return ((key, value) :: pairs, rest)
        | _ => .error .valueError
      | _ => .error .valueError
    | _ => .error .valueError

end

/-- `json.loads(s)` of a string, where `limit` is how deep the interpreter lets
arrays and objects be nested. -/
def loads (limit : Nat) (s : PyStr) : Except PyExc Json :=
  if s.head? = some 0xfeff then .error .valueError
  else
    match scanOnce parseFloat (s.length + 1) limit (skipSpace s) with
    | .error exc => .error exc
    | .ok (value, rest) => if skipSpace rest = [] then .ok value else .error .valueError

end

/-! ## Strings read back -/

/-- Characters, of which no two are the halves of a third. -/
def Scannable (s : PyStr) : Prop :=
  (∀ c ∈ s, c < 0x110000) ∧ s.IsChain fun c d => ¬ (highSurrogate c ∧ lowSurrogate d)

theorem hexDigit_digit : ∀ d, d < 16 → hexDigit (if d < 10 then 48 + d else 87 + d) = some d := by
  decide

theorem decodeUXXXX_hex4 {n : Nat} (small : n < 0x10000) (rest : PyStr) :
    decodeUXXXX (hex4 n ++ rest) = some n := by
  have four : 4 ≤ (hex4 n ++ rest).length := by
    simp [hex4]
  have taken : (hex4 n ++ rest).take 4 = hex4 n := List.take_left' rfl
  rw [decodeUXXXX, if_pos four, taken]
  simp only [hex4, List.map_cons, List.map_nil, List.foldl_cons, List.foldl_nil,
    hexDigit_digit _ (Nat.mod_lt _ (by decide : 0 < 16)), Option.bind_eq_bind, Option.bind_some,
    Option.pure_def, Option.some.injEq]
  omega

/-- One round that reads a 16-bit escape. -/
theorem scanString_unicode (n : Nat) {u : Nat} (small : u < 0x10000) (rest : PyStr) :
    scanString (n + 1) (unicodeEscape u ++ rest) =
      if highSurrogate u ∧ rest.take 2 = [92, 117] then
        match decodeUXXXX (rest.drop 2) with
        | none => .error .valueError
        | some uni2 =>
          if lowSurrogate uni2 then
            push (0x10000 + (u - 0xd800) * 1024 + (uni2 - 0xdc00)) (scanString n (rest.drop 6))
          else push u (scanString n rest)
      else push u (scanString n rest) := by
  have escaped : unicodeEscape u ++ rest = 92 :: 117 :: (hex4 u ++ rest) := rfl
  have after : (hex4 u ++ rest).drop 4 = rest := List.drop_left' rfl
  rw [escaped, scanString]
  simp only [decodeUXXXX_hex4 small, after]
  rfl

/-- What an escape begins that has the form of a 16-bit one. -/
theorem escapeChar_unicode {d : Nat} (valid : d < 0x110000) {rest : PyStr}
    (form : (escapeChar d ++ rest).take 2 = [92, 117]) :
    ∃ u, decodeUXXXX ((escapeChar d ++ rest).drop 2) = some u ∧
      (lowSurrogate u → lowSurrogate d) := by
  unfold escapeChar at form ⊢
  split at form
  · rename_i quoted
    rcases quoted with rfl | rfl <;> simp at form
  iterate 5
    split at form
    · simp [text] at form
  split at form
  · simp at form
    omega
  · split at form
    · rename_i plain small
      simp only [*, if_false]
      refine ⟨d, ?_, id⟩
      exact decodeUXXXX_hex4 small rest
    · rename_i plain large
      simp only [*, if_false]
      refine ⟨0xd800 + (d - 0x10000) / 1024 % 1024, ?_, ?_⟩
      · rw [List.append_assoc]
        exact decodeUXXXX_hex4 (by omega) _
      · unfold lowSurrogate
        omega

/-- **One character** takes one round. -/
theorem scanString_escape (n : Nat) {c : Nat} (valid : c < 0x110000) {rest : PyStr}
    (alone : ∀ u, rest.take 2 = [92, 117] → decodeUXXXX (rest.drop 2) = some u →
      highSurrogate c → ¬ lowSurrogate u)
    (whole : rest.take 2 = [92, 117] → ∃ u, decodeUXXXX (rest.drop 2) = some u) :
    scanString (n + 1) (escapeChar c ++ rest) = push c (scanString n rest) := by
  unfold escapeChar
  split
  · rename_i quoted
    rcases quoted with rfl | rfl <;> rfl
  · rename_i unquoted
    -- the short escapes one by one
    iterate 5
      split
      · rename_i same
        subst same
        rfl
    split
    · rename_i printable
      have high : ¬ c < 32 := by omega
      have open' : ¬ c = 34 := fun same => unquoted (.inl same)
      have slash : c ≠ 92 := fun same => unquoted (.inr same)
      simp [scanString, high, open', slash]
    · split
      · rename_i small
        rw [scanString_unicode n small]
        split
        · rename_i pair
          obtain ⟨u, decoded⟩ := whole pair.2
          have single := alone u pair.2 decoded pair.1
          simp only [decoded, if_neg single]
        · rfl
      · rename_i large
        have first : 0xd800 + (c - 0x10000) / 1024 % 1024 < 0x10000 := by omega
        have second : 0xdc00 + (c - 0x10000) % 1024 < 0x10000 := by omega
        have high : highSurrogate (0xd800 + (c - 0x10000) / 1024 % 1024) := by
          unfold highSurrogate
          omega
        have low : lowSurrogate (0xdc00 + (c - 0x10000) % 1024) := by
          unfold lowSurrogate
          omega
        have next : (unicodeEscape (0xdc00 + (c - 0x10000) % 1024) ++ rest).take 2 = [92, 117] :=
          rfl
        have decoded : decodeUXXXX
            ((unicodeEscape (0xdc00 + (c - 0x10000) % 1024) ++ rest).drop 2) =
              some (0xdc00 + (c - 0x10000) % 1024) := decodeUXXXX_hex4 second rest
        have behind : (unicodeEscape (0xdc00 + (c - 0x10000) % 1024) ++ rest).drop 6 = rest := rfl
        have value : 0x10000 + (0xd800 + (c - 0x10000) / 1024 % 1024 - 0xd800) * 1024 +
            (0xdc00 + (c - 0x10000) % 1024 - 0xdc00) = c := by omega
        rw [List.append_assoc, scanString_unicode n first, if_pos ⟨high, next⟩]
        simp only [decoded, if_pos low, behind, value]

/-- **A quoted string reads back.** -/
theorem scanString_quote {s : PyStr} (scannable : Scannable s) {n : Nat} (enough : s.length < n)
    (rest : PyStr) : scanString n (s.flatMap escapeChar ++ 34 :: rest) = .ok (s, rest) := by
  induction s generalizing n with
  | nil =>
    obtain ⟨n, rfl⟩ := Nat.exists_eq_succ_of_ne_zero (Nat.ne_of_gt enough)
    rfl
  | cons c s ih =>
    obtain ⟨n, rfl⟩ := Nat.exists_eq_succ_of_ne_zero (Nat.ne_of_gt (Nat.zero_lt_of_lt enough))
    obtain ⟨valid, chain⟩ := scannable
    have tail := ih ⟨fun d mem => valid d (List.mem_cons_of_mem c mem), chain.tail⟩
      (n := n) (by simpa using enough)
    rw [List.flatMap_cons, List.append_assoc]
    have next : (s.flatMap escapeChar ++ 34 :: rest).take 2 = [92, 117] →
        ∃ u, decodeUXXXX ((s.flatMap escapeChar ++ 34 :: rest).drop 2) = some u ∧
          (highSurrogate c → ¬ lowSurrogate u) := by
      intro form
      cases s with
      | nil => cases form
      | cons d s =>
        rw [List.flatMap_cons, List.append_assoc] at form ⊢
        have valid' : d < 0x110000 := valid d (by simp)
        obtain ⟨u, decoded, low⟩ := escapeChar_unicode valid' form
        have apart := List.isChain_cons_cons.mp chain |>.1
        exact ⟨u, decoded, fun high here => apart ⟨high, low here⟩⟩
    rw [Nat.succ_eq_add_one, scanString_escape n (valid c List.mem_cons_self) ?_ ?_, tail]
    · rfl
    · intro u form decoded high
      obtain ⟨u', decoded', single⟩ := next form
      rw [decoded] at decoded'
      cases decoded'
      exact single high
    · intro form
      obtain ⟨u, decoded, -⟩ := next form
      exact ⟨u, decoded⟩

/-! ## Numbers read back -/

open JsonGrammar

/-- No number goes on in the text. -/
def NoNumber (rest : PyStr) : Prop :=
  ∀ c, rest.head? = some c → asciiDigit c = false ∧ c ≠ 46 ∧ c ≠ 101 ∧ c ≠ 69

/-- No digit comes first. -/
def NoDigit (rest : PyStr) : Prop := ∀ c, rest.head? = some c → asciiDigit c = false

theorem asciiDigit_iff {c : Nat} : asciiDigit c = true ↔ Digit c := by
  simp [asciiDigit, Digit]

theorem NoNumber.noDigit {rest : PyStr} (h : NoNumber rest) : NoDigit rest :=
  fun c first => (h c first).1

theorem takeWhile_digits {ds rest : PyStr} (digits : ∀ c ∈ ds, Digit c) (stop : NoDigit rest) :
    (ds ++ rest).takeWhile asciiDigit = ds := by
  rw [List.takeWhile_append_of_pos fun c mem => asciiDigit_iff.mpr (digits c mem)]
  cases rest with
  | nil => simp
  | cons c rest => simp [stop c rfl]

theorem matchInt_append {int rest : PyStr} (integer : IntPart int) (stop : NoDigit rest) :
    matchInt (int ++ rest) = int := by
  cases integer with
  | zero => rfl
  | @nonzero d ds low high digits =>
    have digit : asciiDigit d = true := asciiDigit_iff.mpr ⟨by omega, high⟩
    have first : d ≠ 48 := by omega
    simp [matchInt, first, digit, takeWhile_digits digits stop]

theorem matchFrac_append {frac rest : PyStr} (fraction : Frac frac) (stop : NoDigit rest)
    (point : rest.head? ≠ some 46) : matchFrac (frac ++ rest) = frac := by
  cases fraction with
  | absent =>
    rw [List.nil_append]
    unfold matchFrac
    split
    · exact absurd rfl point
    · rfl
  | @digits ds some =>
    simp [matchFrac, takeWhile_digits some.2 stop, some.1]

theorem matchExp_append {exp rest : PyStr} (exponent : Exp exp) (stop : NoNumber rest) :
    matchExp (exp ++ rest) = exp := by
  cases exponent with
  | absent =>
    cases rest with
    | nil => rfl
    | cons c rest =>
      obtain ⟨-, -, lower, upper⟩ := stop c rfl
      exact if_neg (not_or.mpr ⟨lower, upper⟩)
  | @digits e sign ds mark signed some =>
    have signs : matchSign (sign ++ (ds ++ rest)) = sign := by
      rcases signed with rfl | rfl | rfl
      · obtain ⟨nonempty, digits⟩ := some
        cases ds with
        | nil => exact absurd rfl nonempty
        | cons d ds =>
          obtain ⟨low, high⟩ := digits d List.mem_cons_self
          exact if_neg (by omega)
      · rfl
      · rfl
    simp [matchExp, mark, signs, takeWhile_digits some.2 stop.noDigit, some.1]

/-- A number is matched whole. -/
theorem matchNumber_number {minus int frac exp rest : PyStr} (sign : minus = [] ∨ minus = [45])
    (integer : IntPart int) (fraction : Frac frac) (exponent : Exp exp) (stop : NoNumber rest) :
    matchNumber (minus ++ (int ++ (frac ++ (exp ++ rest)))) =
      some (minus ++ int, frac, exp, rest) := by
  have afterFrac : NoDigit (exp ++ rest) ∧ (exp ++ rest).head? ≠ some 46 := by
    cases exponent with
    | absent =>
      refine ⟨stop.noDigit, ?_⟩
      intro first
      exact (stop 46 first).2.1 rfl
    | digits mark =>
      rcases mark with rfl | rfl <;> simp [NoDigit, asciiDigit]
  have afterInt : NoDigit (frac ++ (exp ++ rest)) := by
    cases fraction with
    | absent => exact afterFrac.1
    | digits => simp [NoDigit, asciiDigit]
  have signs : (if (minus ++ (int ++ (frac ++ (exp ++ rest)))).head? = some 45 then [45] else []) =
      minus := by
    rcases sign with rfl | rfl
    · cases integer with
      | zero => rfl
      | nonzero low =>
        refine if_neg ?_
        simp only [List.nil_append, List.cons_append, List.head?_cons, Option.some.injEq]
        omega
    · rfl
  simp only [matchNumber, signs, List.drop_left, matchInt_append integer afterInt,
    if_neg integer.ne_nil, matchFrac_append fraction afterFrac.1 afterFrac.2,
    matchExp_append exponent stop]

theorem natOfDigits_concat (s : PyStr) (c : Nat) :
    natOfDigits (s ++ [c]) = 10 * natOfDigits s + (c - 48) := by
  simp [natOfDigits]

/-- Decimal digits count what they spell. -/
theorem natOfDigits_repr (n : Nat) : natOfDigits (text (Nat.repr n)) = n := by
  induction n using Nat.strongRecOn with
  | ind n ih =>
    by_cases small : n < 10
    · rw [text_natRepr_of_lt small]
      simp [natOfDigits]
    · rw [text_natRepr_of_ge (by omega), natOfDigits_concat, ih (n / 10) (by omega)]
      omega

/-- Few enough digits for `int` to take them. -/
def FewDigits (n : Int) : Prop := (text (Nat.repr n.natAbs)).length ≤ 4300

/-- An integer is a sign and an integer part. -/
theorem intRepr_parts (n : Int) : ∃ minus, (minus = [] ∨ minus = [45]) ∧
    intRepr n = minus ++ text (Nat.repr n.natAbs) ∧ (minus = [45] ↔ n < 0) := by
  cases n with
  | ofNat n =>
    refine ⟨[], .inl rfl, rfl, ?_⟩
    simp
  | negSucc n =>
    refine ⟨[45], .inr rfl, ?_, ?_⟩
    · simp [intRepr, text, toString, Int.repr]
    · simp [Int.negSucc_lt_zero]

theorem IntPart.unsigned {int : PyStr} (integer : IntPart int) : int.head? ≠ some 45 := by
  cases integer with
  | zero => simp
  | nonzero low =>
    simp only [List.head?_cons, ne_eq, Option.some.injEq]
    omega

theorem parseInt_repr {n : Int} (few : FewDigits n) : parseInt (intRepr n) = .ok (.int n) := by
  obtain ⟨minus, sign, spelled, negative⟩ := intRepr_parts n
  have positive := IntPart.unsigned (natRepr_intPart n.natAbs).1
  rcases sign with rfl | rfl
  · have value : (n.natAbs : Int) = n := by
      have above : ¬ n < 0 := fun below => List.cons_ne_nil _ _ (negative.mpr below).symm
      omega
    rw [spelled, List.nil_append, parseInt]
    simp only [if_neg positive, if_neg (Nat.not_lt.mpr few), natOfDigits_repr, value]
  · have value : -(n.natAbs : Int) = n := by
      have below := negative.mp rfl
      omega
    rw [spelled, parseInt]
    simp only [List.singleton_append, List.head?_cons, List.tail_cons, if_true,
      if_neg (Nat.not_lt.mpr few), natOfDigits_repr, value]

/-! ## Objects read back -/

theorem setItem_fresh {fields : List (PyStr × Json)} {key : PyStr} (value : Json)
    (fresh : key ∉ fields.map Prod.fst) : setItem fields key value = fields ++ [(key, value)] := by
  induction fields with
  | nil => rfl
  | cons field fields ih =>
    obtain ⟨ne, rest⟩ := not_or.mp (List.mem_cons.not.mp (List.map_cons ▸ fresh))
    simp only [setItem, if_neg (Ne.symm ne), ih rest, List.cons_append]

/-- A dictionary whose keys differ is the pairs in order. -/
theorem pairsDict_nodup {pairs : List (PyStr × Json)} (distinct : (pairs.map Prod.fst).Nodup) :
    pairsDict pairs = pairs := by
  induction pairs using List.reverseRecOn with
  | nil => rfl
  | append_singleton pairs pair ih =>
    obtain ⟨earlier, fresh⟩ : (pairs.map Prod.fst).Nodup ∧ pair.1 ∉ pairs.map Prod.fst := by
      rw [List.map_append, List.map_singleton, List.nodup_append] at distinct
      exact ⟨distinct.1, fun here => distinct.2.2 _ here _ (List.mem_singleton.mpr rfl) rfl⟩
    have before := ih earlier
    unfold pairsDict at before ⊢
    rw [List.foldl_append, before, List.foldl_cons, List.foldl_nil]
    exact setItem_fresh pair.2 fresh

/-! ## Values read back -/

/-- The spelling of a float has a fraction or an exponent, and is read as the
float. -/
structure SpelledFloat (floatRepr : ℚ → PyStr) (parseFloat : PyStr → PyFloat) (x : ℚ) : Prop where
  number : ∃ minus int frac exp, (minus = [] ∨ minus = [45]) ∧ IntPart int ∧ Frac frac ∧ Exp exp ∧
    (frac ≠ [] ∨ exp ≠ []) ∧ floatRepr x = minus ++ (int ++ (frac ++ exp))
  value : parseFloat (floatRepr x) = .finite x

namespace Json

mutual

/-- How deep arrays and objects are nested. -/
def depth : Json → Nat
  | .arr items => depthItems items + 1
  | .obj fields => depthFields fields + 1
  | .null | .bool _ | .int _ | .float _ | .str _ => 0

def depthItems : List Json → Nat
  | [] => 0
  | v :: rest => max (depth v) (depthItems rest)

def depthFields : List (PyStr × Json) → Nat
  | [] => 0
  | (_, v) :: rest => max (depth v) (depthFields rest)

end

section

variable (floatRepr : ℚ → PyStr) (parseFloat : PyStr → PyFloat)

mutual

/-- A value that its text gives back. -/
def Readable : Json → Prop
  | .int n => FewDigits n
  | .float (.finite x) => SpelledFloat floatRepr parseFloat x
  | .str s => Scannable s
  | .arr items => ReadableItems items
  | .obj fields => (fields.map Prod.fst).Nodup ∧ ReadableFields fields
  | .null | .bool _ | .float _ => True

def ReadableItems : List Json → Prop
  | [] => True
  | v :: rest => Readable v ∧ ReadableItems rest

def ReadableFields : List (PyStr × Json) → Prop
  | [] => True
  | (k, v) :: rest => Scannable k ∧ Readable v ∧ ReadableFields rest

end

end

end Json

theorem skipSpace_ws {w : PyStr} (white : Ws w) (s : PyStr) : skipSpace (w ++ s) = skipSpace s := by
  induction w with
  | nil => rfl
  | cons c w ih =>
    obtain ⟨here, rest⟩ := List.forall_mem_cons.mp white
    have space : jsonSpace c = true := by
      rcases here with rfl | rfl | rfl | rfl <;> rfl
    simp only [List.cons_append, skipSpace, List.dropWhile_cons, space, if_true]
    exact ih rest

theorem skipSpace_cons {c : Nat} (solid : jsonSpace c = false) (s : PyStr) :
    skipSpace (c :: s) = c :: s := by
  simp [skipSpace, solid]

theorem noNumber_cons {c : Nat} (other : asciiDigit c = false ∧ c ≠ 46 ∧ c ≠ 101 ∧ c ≠ 69)
    (s : PyStr) : NoNumber (c :: s) := by
  intro d first
  cases first
  exact other

section

variable {floatRepr : ℚ → PyStr} {parseFloat : PyStr → PyFloat} {seps : Separators}

/-- What a number begins with. -/
theorem number_first {minus int : PyStr} (more : PyStr) (sign : minus = [] ∨ minus = [45])
    (integer : IntPart int) :
    ∃ c tail, minus ++ (int ++ more) = c :: tail ∧ (c = 45 ∨ Digit c) := by
  rcases sign with rfl | rfl
  · cases integer with
    | zero => exact ⟨48, more, rfl, .inr ⟨by decide, by decide⟩⟩
    | nonzero low high => exact ⟨_, _, rfl, .inr ⟨by omega, high⟩⟩
  · exact ⟨45, int ++ more, rfl, .inl rfl⟩

/-- A number is no constant. -/
theorem scanAtom_number {s integer frac exp rest : PyStr}
    (first : ∃ c tail, s = c :: tail ∧ (c = 45 ∨ Digit c))
    (found : matchNumber s = some (integer, frac, exp, rest)) :
    scanAtom parseFloat s =
      if frac = [] ∧ exp = [] then (parseInt integer).map (·, rest)
      else .ok (.float (parseFloat (integer ++ frac ++ exp)), rest) := by
  obtain ⟨c, tail, rfl, known⟩ := first
  have other (word : String) (d : Nat) (letters : PyStr) (spelled : text word = d :: letters)
      (letter : 57 < d) : ¬ text word <+: c :: tail := by
    intro same
    rw [spelled] at same
    have heads := (List.cons_prefix_cons.mp same).1
    unfold Digit at known
    omega
  rw [scanAtom, if_neg (other "null" 110 _ rfl (by decide)),
    if_neg (other "true" 116 _ rfl (by decide)), if_neg (other "false" 102 _ rfl (by decide)),
    found]

/-- Nothing that opens a string, an array or an object comes first. -/
theorem scanOnce_atom {n depth c : Nat} {tail : PyStr} (other : c ≠ 34 ∧ c ≠ 91 ∧ c ≠ 123) :
    scanOnce parseFloat (n + 1) depth (c :: tail) = scanAtom parseFloat (c :: tail) := by
  obtain ⟨quote, bracket, brace⟩ := other
  rw [scanOnce.eq_def]
  simp only [if_neg quote, if_neg bracket, if_neg brace]

/-- The text of the value is read as the value at this depth. -/
def ReadsAs (floatRepr : ℚ → PyStr) (parseFloat : PyStr → PyFloat) (seps : Separators)
    (depth : Nat) (v : Json) : Prop :=
  ∀ n rest, (dumps floatRepr seps v).length < n → NoNumber rest →
    scanOnce parseFloat n depth (dumps floatRepr seps v ++ rest) = .ok (v, rest)

theorem scanOnce_number {s integer frac exp rest : PyStr} {n depth : Nat}
    (first : ∃ c tail, s = c :: tail ∧ (c = 45 ∨ Digit c))
    (found : matchNumber s = some (integer, frac, exp, rest)) :
    scanOnce parseFloat (n + 1) depth s =
      if frac = [] ∧ exp = [] then (parseInt integer).map (·, rest)
      else .ok (.float (parseFloat (integer ++ frac ++ exp)), rest) := by
  obtain ⟨c, tail, rfl, known⟩ := first
  have other : c ≠ 34 ∧ c ≠ 91 ∧ c ≠ 123 := by
    unfold Digit at known
    omega
  rw [scanOnce_atom other, scanAtom_number ⟨c, tail, rfl, known⟩ found]

theorem readsAs_int {k : Int} (few : FewDigits k) (depth : Nat) :
    ReadsAs floatRepr parseFloat seps depth (.int k) := by
  intro n rest enough stop
  obtain ⟨n, rfl⟩ := Nat.exists_eq_succ_of_ne_zero (Nat.ne_of_gt (Nat.zero_lt_of_lt enough))
  obtain ⟨minus, sign, spelled, -⟩ := intRepr_parts k
  have integer := (natRepr_intPart k.natAbs).1
  have split : dumps floatRepr seps (.int k) ++ rest =
      minus ++ (text (Nat.repr k.natAbs) ++ ([] ++ ([] ++ rest))) := by
    simp [dumps, spelled]
  rw [split, Nat.succ_eq_add_one, scanOnce_number (number_first _ sign integer)
    (matchNumber_number sign integer .absent .absent stop), ← spelled, parseInt_repr few]
  rfl

theorem readsAs_float {x : ℚ} (float : SpelledFloat floatRepr parseFloat x) (depth : Nat) :
    ReadsAs floatRepr parseFloat seps depth (.float (.finite x)) := by
  intro n rest enough stop
  obtain ⟨n, rfl⟩ := Nat.exists_eq_succ_of_ne_zero (Nat.ne_of_gt (Nat.zero_lt_of_lt enough))
  obtain ⟨minus, int, frac, exp, sign, integer, fraction, exponent, some, spelled⟩ := float.number
  have split : dumps floatRepr seps (.float (.finite x)) ++ rest =
      minus ++ (int ++ (frac ++ (exp ++ rest))) := by
    simp [dumps, floatText, spelled]
  have whole : minus ++ int ++ frac ++ exp = floatRepr x := by simp [spelled]
  rw [split, Nat.succ_eq_add_one, scanOnce_number (number_first _ sign integer)
    (matchNumber_number sign integer fraction exponent stop), if_neg (by tauto), whole,
    float.value]

/-- A constant that is written with letters alone. -/
theorem readsAs_constant {v : Json} {c : Nat} (tail : PyStr)
    (spelled : dumps floatRepr seps v = c :: tail) (other : c ≠ 34 ∧ c ≠ 91 ∧ c ≠ 123)
    (found : ∀ rest, scanAtom parseFloat (c :: (tail ++ rest)) = .ok (v, rest)) (depth : Nat) :
    ReadsAs floatRepr parseFloat seps depth v := by
  intro n rest enough _
  obtain ⟨n, rfl⟩ := Nat.exists_eq_succ_of_ne_zero (Nat.ne_of_gt (Nat.zero_lt_of_lt enough))
  rw [spelled, List.cons_append, Nat.succ_eq_add_one, scanOnce_atom other, found]

theorem length_le_escaped (s : PyStr) : s.length ≤ (s.flatMap escapeChar).length := by
  induction s with
  | nil => exact le_refl _
  | cons c s ih =>
    have one : 1 ≤ (escapeChar c).length := by
      rw [escapeChar_length]
      unfold escapedWidth
      split_ifs <;> decide
    rw [List.flatMap_cons, List.length_append, List.length_cons]
    omega

theorem readsAs_str {s : PyStr} (scannable : Scannable s) (depth : Nat) :
    ReadsAs floatRepr parseFloat seps depth (.str s) := by
  intro n rest enough _
  obtain ⟨n, rfl⟩ := Nat.exists_eq_succ_of_ne_zero (Nat.ne_of_gt (Nat.zero_lt_of_lt enough))
  have split : dumps floatRepr seps (.str s) ++ rest =
      34 :: (s.flatMap escapeChar ++ 34 :: rest) := by
    simp [dumps, quote]
  have rounds : s.length < (s.flatMap escapeChar ++ 34 :: rest).length + 1 := by
    have longer := length_le_escaped s
    rw [List.length_append, List.length_cons]
    omega
  rw [split, Nat.succ_eq_add_one, scanOnce.eq_def]
  simp only [if_true, scanString_quote scannable rounds rest]
  rfl

/-- What a value's text begins with. -/
theorem dumps_first {v : Json} (readable : v.Readable floatRepr parseFloat) :
    ∃ c tail, dumps floatRepr seps v = c :: tail ∧ jsonSpace c = false ∧ c ≠ 93 ∧ c ≠ 0xfeff := by
  have number {s : PyStr} (first : ∃ c tail, s = c :: tail ∧ (c = 45 ∨ Digit c)) :
      ∃ c tail, s = c :: tail ∧ jsonSpace c = false ∧ c ≠ 93 ∧ c ≠ 0xfeff := by
    obtain ⟨c, tail, same, known⟩ := first
    unfold Digit at known
    refine ⟨c, tail, same, ?_, by omega⟩
    simp only [jsonSpace, Bool.or_eq_false_iff, decide_eq_false_iff_not]
    omega
  match v, readable with
  | .null, _ => exact ⟨110, text "ull", rfl, rfl, by decide⟩
  | .bool true, _ => exact ⟨116, text "rue", rfl, rfl, by decide⟩
  | .bool false, _ => exact ⟨102, text "alse", rfl, rfl, by decide⟩
  | .int k, _ =>
    obtain ⟨minus, sign, spelled, -⟩ := intRepr_parts k
    have first := number_first [] sign (natRepr_intPart k.natAbs).1
    rw [List.append_nil, ← spelled] at first
    exact number first
  | .float (.finite x), float =>
    obtain ⟨minus, int, frac, exp, sign, integer, -, -, -, spelled⟩ := float.number
    have first := number_first (frac ++ exp) sign integer
    rw [← spelled] at first
    exact number first
  | .float (.infinity false), _ => exact ⟨73, text "nfinity", rfl, rfl, by decide⟩
  | .float (.infinity true), _ => exact ⟨45, text "Infinity", rfl, rfl, by decide⟩
  | .float .nan, _ => exact ⟨78, text "aN", rfl, rfl, by decide⟩
  | .str s, _ => exact ⟨34, _, rfl, rfl, by decide⟩
  | .arr [], _ => exact ⟨91, [93], rfl, rfl, by decide⟩
  | .arr (v :: rest), _ => exact ⟨91, _, rfl, rfl, by decide⟩
  | .obj [], _ => exact ⟨123, [125], rfl, rfl, by decide⟩
  | .obj ((k, v) :: rest), _ => exact ⟨123, _, rfl, rfl, by decide⟩

variable (seps) in
theorem skipSpace_dumps {v : Json} (readable : v.Readable floatRepr parseFloat) (rest : PyStr) :
    skipSpace (dumps floatRepr seps v ++ rest) = dumps floatRepr seps v ++ rest ∧
      (dumps floatRepr seps v ++ rest).head? ≠ some 93 := by
  obtain ⟨c, tail, spelled, solid, other, -⟩ := dumps_first readable
  rw [spelled, List.cons_append]
  exact ⟨skipSpace_cons solid _, by simpa using other⟩

/-- One turn of the loop for arrays, when the value is not the last. -/
theorem scanItems_more {v : Json} {depth : Nat}
    (first : ReadsAs floatRepr parseFloat seps depth v) {n : Nat}
    (enough : (dumps floatRepr seps v).length < n) {w s : PyStr} (white : Ws w) :
    scanItems parseFloat (n + 1) depth (dumps floatRepr seps v ++ (44 :: (w ++ s))) =
      (scanItems parseFloat n depth (skipSpace s)).map fun out => (v :: out.1, out.2) := by
  rw [scanItems.eq_def]
  simp only [first n (44 :: (w ++ s)) enough (noNumber_cons (by decide) _), bind, Except.bind,
    skipSpace_cons (show jsonSpace 44 = false from rfl), skipSpace_ws white]
  cases scanItems parseFloat n depth (skipSpace s) <;> rfl

theorem scanItems_last {v : Json} {depth : Nat}
    (first : ReadsAs floatRepr parseFloat seps depth v) {n : Nat}
    (enough : (dumps floatRepr seps v).length < n) (rest : PyStr) :
    scanItems parseFloat (n + 1) depth (dumps floatRepr seps v ++ 93 :: rest) =
      .ok ([v], rest) := by
  rw [scanItems.eq_def]
  simp only [first n (93 :: rest) enough (noNumber_cons (by decide) _), bind, Except.bind,
    skipSpace_cons (show jsonSpace 93 = false from rfl)]
  rfl

/-- The loop for objects, up to what follows the value. -/
theorem scanMembers_value {k : PyStr} (scannable : Scannable k) {v : Json}
    (readable : v.Readable floatRepr parseFloat) {depth : Nat}
    (first : ReadsAs floatRepr parseFloat seps depth v) {n : Nat}
    (enough : (dumps floatRepr seps v).length < n) {w s : PyStr} (white : Ws w)
    (stop : NoNumber s) :
    scanMembers parseFloat (n + 1) depth (quote k ++ 58 :: (w ++ (dumps floatRepr seps v ++ s))) =
      match skipSpace s with
      | 125 :: rest => .ok ([(k, v)], rest)
      | 44 :: rest =>
        (scanMembers parseFloat n depth (skipSpace rest)).map fun out => ((k, v) :: out.1, out.2)
      | _ => .error .valueError := by
  have opened : quote k ++ 58 :: (w ++ (dumps floatRepr seps v ++ s)) =
      34 :: (k.flatMap escapeChar ++ 34 :: 58 :: (w ++ (dumps floatRepr seps v ++ s))) := by
    simp [quote]
  have rounds : k.length <
      (k.flatMap escapeChar ++ 34 :: 58 :: (w ++ (dumps floatRepr seps v ++ s))).length + 1 := by
    have longer := length_le_escaped k
    rw [List.length_append]
    omega
  rw [opened, scanMembers.eq_def]
  simp only [scanString_quote scannable rounds, bind, Except.bind,
    skipSpace_cons (show jsonSpace 58 = false from rfl), skipSpace_ws white,
    (skipSpace_dumps seps readable s).1, first n s enough stop]
  split
  · rfl
  · cases scanMembers parseFloat n depth _ <;> rfl
  · rfl

/-- A separator is its mark and white space. -/
structure Spaced (seps : Separators) : Prop where
  item : ∃ w, Ws w ∧ seps.item = 44 :: w
  key : ∃ w, Ws w ∧ seps.key = 58 :: w

mutual

/-- **What `dumps` writes is read back**, whatever follows it. -/
theorem readsAs_dumps (spaced : Spaced seps) (v : Json)
    (readable : v.Readable floatRepr parseFloat) {depth : Nat} (deep : v.depth ≤ depth) :
    ReadsAs floatRepr parseFloat seps depth v := by
  match v, readable with
  | .null, _ => exact readsAs_constant (text "ull") rfl (by decide) (fun _ => rfl) depth
  | .bool true, _ =>
    exact readsAs_constant (text "rue") rfl (by decide) (fun _ => rfl) depth
  | .bool false, _ =>
    exact readsAs_constant (text "alse") rfl (by decide) (fun _ => rfl) depth
  | .int k, few => exact readsAs_int few depth
  | .float (.finite x), float => exact readsAs_float float depth
  | .float (.infinity false), _ =>
    exact readsAs_constant (text "nfinity") rfl (by decide) (fun _ => rfl) depth
  | .float (.infinity true), _ =>
    exact readsAs_constant (text "Infinity") rfl (by decide) (fun _ => rfl) depth
  | .float .nan, _ => exact readsAs_constant (text "aN") rfl (by decide) (fun _ => rfl) depth
  | .str s, scannable => exact readsAs_str scannable depth
  | .arr [], _ =>
    intro n tail enough _
    obtain ⟨n, rfl⟩ := Nat.exists_eq_succ_of_ne_zero (Nat.ne_of_gt (Nat.zero_lt_of_lt enough))
    obtain ⟨depth, rfl⟩ := Nat.exists_eq_succ_of_ne_zero (Nat.ne_of_gt (Nat.zero_lt_of_lt deep))
    rfl
  | .arr (v :: items), readable =>
    intro n tail enough _
    obtain ⟨n, rfl⟩ := Nat.exists_eq_succ_of_ne_zero (Nat.ne_of_gt (Nat.zero_lt_of_lt enough))
    obtain ⟨depth, rfl⟩ := Nat.exists_eq_succ_of_ne_zero (Nat.ne_of_gt (Nat.zero_lt_of_lt deep))
    have inside : max v.depth (Json.depthItems items) ≤ depth := Nat.le_of_succ_le_succ deep
    have first := readsAs_dumps spaced v readable.1 (le_trans (le_max_left _ _) inside)
    have bound : (dumps floatRepr seps v).length + (dumpsItems floatRepr seps items).length + 1 <
        n := by
      simp only [dumps, List.cons_append, List.length_cons, List.length_append,
        List.length_nil] at enough
      omega
    have all := scanItems_dumps spaced items readable.2 (le_trans (le_max_right _ _) inside)
      first bound tail
    have split : dumps floatRepr seps (.arr (v :: items)) ++ tail =
        91 :: (dumps floatRepr seps v ++ (dumpsItems floatRepr seps items ++ 93 :: tail)) := by
      simp [dumps]
    obtain ⟨same, other⟩ := skipSpace_dumps seps readable.1
      (dumpsItems floatRepr seps items ++ 93 :: tail)
    rw [split, Nat.succ_eq_add_one, scanOnce.eq_def]
    simp only [show ¬ (91 : Nat) = 34 from by decide, if_false, if_true, same, if_neg other, all]
    rfl
  | .obj [], _ =>
    intro n tail enough _
    obtain ⟨n, rfl⟩ := Nat.exists_eq_succ_of_ne_zero (Nat.ne_of_gt (Nat.zero_lt_of_lt enough))
    obtain ⟨depth, rfl⟩ := Nat.exists_eq_succ_of_ne_zero (Nat.ne_of_gt (Nat.zero_lt_of_lt deep))
    rfl
  | .obj ((k, v) :: fields), ⟨distinct, scannable, own, others⟩ =>
    intro n tail enough _
    obtain ⟨n, rfl⟩ := Nat.exists_eq_succ_of_ne_zero (Nat.ne_of_gt (Nat.zero_lt_of_lt enough))
    obtain ⟨depth, rfl⟩ := Nat.exists_eq_succ_of_ne_zero (Nat.ne_of_gt (Nat.zero_lt_of_lt deep))
    have inside : max v.depth (Json.depthFields fields) ≤ depth := Nat.le_of_succ_le_succ deep
    have first := readsAs_dumps spaced v own (le_trans (le_max_left _ _) inside)
    obtain ⟨w, white, colon⟩ := spaced.key
    have bound : (dumps floatRepr seps v).length + (dumpsFields floatRepr seps fields).length + 1 <
        n := by
      simp only [dumps, List.cons_append, List.length_cons, List.length_append,
        List.length_nil] at enough
      omega
    have all := scanMembers_dumps spaced fields others (le_trans (le_max_right _ _) inside)
      scannable own first bound white tail
    have split : dumps floatRepr seps (.obj ((k, v) :: fields)) ++ tail =
        123 :: (quote k ++ 58 :: (w ++ (dumps floatRepr seps v ++
          (dumpsFields floatRepr seps fields ++ 125 :: tail)))) := by
      simp [dumps, colon]
    have same (s : PyStr) : skipSpace (quote k ++ s) = quote k ++ s := skipSpace_cons rfl _
    have other (s : PyStr) : (quote k ++ s).head? ≠ some 125 := by simp [quote]
    rw [split, Nat.succ_eq_add_one, scanOnce.eq_def]
    simp only [show ¬ (123 : Nat) = 34 from by decide, show ¬ (123 : Nat) = 91 from by decide,
      if_false, if_true, same, if_neg (other _), all, Except.map, pairsDict_nodup distinct]

theorem scanItems_dumps (spaced : Spaced seps) (items : List Json)
    (readable : Json.ReadableItems floatRepr parseFloat items) {depth : Nat}
    (deep : Json.depthItems items ≤ depth) {v : Json}
    (first : ReadsAs floatRepr parseFloat seps depth v) {n : Nat}
    (enough : (dumps floatRepr seps v).length + (dumpsItems floatRepr seps items).length + 1 < n)
    (rest : PyStr) :
    scanItems parseFloat n depth
        (dumps floatRepr seps v ++ (dumpsItems floatRepr seps items ++ 93 :: rest)) =
      .ok (v :: items, rest) := by
  obtain ⟨n, rfl⟩ := Nat.exists_eq_succ_of_ne_zero (Nat.ne_of_gt (Nat.zero_lt_of_lt enough))
  match items, readable with
  | [], _ => exact scanItems_last first (by simp [dumpsItems] at enough; omega) rest
  | next :: items, readable =>
    obtain ⟨w, white, comma⟩ := spaced.item
    have second := readsAs_dumps spaced next readable.1 (le_trans (le_max_left _ _) deep)
    have others := scanItems_dumps spaced items readable.2 (le_trans (le_max_right _ _) deep)
      second (n := n) (by simp [dumpsItems, comma] at enough; omega) rest
    have split : dumpsItems floatRepr seps (next :: items) ++ 93 :: rest =
        44 :: (w ++ (dumps floatRepr seps next ++
          (dumpsItems floatRepr seps items ++ 93 :: rest))) := by
      simp [dumpsItems, comma]
    rw [split, Nat.succ_eq_add_one, scanItems_more first (by omega) white,
      (skipSpace_dumps seps readable.1 _).1, others]
    rfl

theorem scanMembers_dumps (spaced : Spaced seps) (fields : List (PyStr × Json))
    (readable : Json.ReadableFields floatRepr parseFloat fields) {depth : Nat}
    (deep : Json.depthFields fields ≤ depth) {k : PyStr} (scannable : Scannable k) {v : Json}
    (own : v.Readable floatRepr parseFloat)
    (first : ReadsAs floatRepr parseFloat seps depth v) {n : Nat}
    (enough : (dumps floatRepr seps v).length + (dumpsFields floatRepr seps fields).length + 1 < n)
    {w : PyStr} (white : Ws w) (rest : PyStr) :
    scanMembers parseFloat n depth (quote k ++ 58 :: (w ++ (dumps floatRepr seps v ++
        (dumpsFields floatRepr seps fields ++ 125 :: rest)))) =
      .ok ((k, v) :: fields, rest) := by
  obtain ⟨n, rfl⟩ := Nat.exists_eq_succ_of_ne_zero (Nat.ne_of_gt (Nat.zero_lt_of_lt enough))
  match fields, readable with
  | [], _ =>
    rw [Nat.succ_eq_add_one, scanMembers_value scannable own first (by omega) white]
    · rfl
    · exact noNumber_cons (by decide) _
  | (name, next) :: fields, ⟨scannable', own', readable⟩ =>
    obtain ⟨w', white', comma⟩ := spaced.item
    obtain ⟨w'', white'', colon⟩ := spaced.key
    have second := readsAs_dumps spaced next own' (le_trans (le_max_left _ _) deep)
    have others := scanMembers_dumps spaced fields readable (le_trans (le_max_right _ _) deep)
      scannable' own' second (n := n) (by simp [dumpsFields, comma, colon] at enough; omega)
      white'' rest
    have split : dumpsFields floatRepr seps ((name, next) :: fields) ++ 125 :: rest =
        44 :: (w' ++ (quote name ++ 58 :: (w'' ++ (dumps floatRepr seps next ++
          (dumpsFields floatRepr seps fields ++ 125 :: rest))))) := by
      simp [dumpsFields, comma, colon]
    have same (s : PyStr) : skipSpace (quote name ++ s) = quote name ++ s := skipSpace_cons rfl _
    rw [split, Nat.succ_eq_add_one, scanMembers_value scannable own first (by omega) white
      (noNumber_cons (by decide) _), skipSpace_cons (show jsonSpace 44 = false from rfl)]
    simp only [skipSpace_ws white', same, others]
    rfl

end

theorem spaced_default : Spaced .default := ⟨⟨[32], by simp [Ws], rfl⟩, ⟨[32], by simp [Ws], rfl⟩⟩

theorem spaced_compact : Spaced .compact := ⟨⟨[], .nil, rfl⟩, ⟨[], .nil, rfl⟩⟩

/-- **JSON round trip.** What `dumps` writes of a value is read back as the
value, if its strings are no halves of characters put side by side, the keys of
each object differ, its numbers are spelled in a way that is read back, and it
is not nested deeper than the interpreter allows. -/
theorem loads_dumps (spaced : Spaced seps) {v : Json} (readable : v.Readable floatRepr parseFloat)
    {limit : Nat} (deep : v.depth ≤ limit) :
    loads parseFloat limit (dumps floatRepr seps v) = .ok v := by
  have same := (skipSpace_dumps seps readable []).1
  rw [List.append_nil] at same
  have read := readsAs_dumps spaced v readable deep ((dumps floatRepr seps v).length + 1) []
    (Nat.lt_succ_self _) (fun c none => by cases none)
  rw [List.append_nil] at read
  have unmarked : (dumps floatRepr seps v).head? ≠ some 0xfeff := by
    obtain ⟨c, tail, spelled, -, -, other⟩ := dumps_first readable
    rw [spelled]
    simpa using other
  simp only [loads, if_neg unmarked, same, read]
  rfl

end

end MeshlinkNode
