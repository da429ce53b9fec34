import MeshlinkNode.JsonReader
import Mathlib.Data.List.TakeWhile
import Mathlib.Data.Nat.Digits.Defs

/-!
# What was read once can be read again

A value that `json.loads` made of a text without surrogates is one that
`json.dumps` writes and `json.loads` reads back, so a value taken from one
message can be put in another, or on the disk.
-/

namespace MeshlinkNode

/-! ## Strings -/

/-- A string that can be encoded: no character of it is a surrogate. -/
def Utf8Text (s : PyStr) : Prop := ∀ c ∈ s, c < 0x110000 ∧ ¬ (0xd800 ≤ c ∧ c < 0xe000)

theorem Utf8Text.mono {s t : PyStr} (utf8 : Utf8Text s) (part : ∀ c ∈ t, c ∈ s) :
    Utf8Text t := fun c mem => utf8 c (part c mem)

theorem Utf8Text.suffix {s t : PyStr} (utf8 : Utf8Text s) (ends : t <:+ s) :
    Utf8Text t := utf8.mono fun _ mem => ends.mem mem

/-- What is put before a string is no first half of its first character. -/
theorem Utf8Text.append_scannable {s t : PyStr} (utf8 : Utf8Text s) (scannable : Scannable t) :
    Scannable (s ++ t) := by
  induction s with
  | nil => exact scannable
  | cons c rest ih =>
    have whole := utf8 c (.head _)
    have tail := ih (utf8.mono fun _ => .tail _)
    refine ⟨List.forall_mem_cons.mpr ⟨whole.1, tail.1⟩, List.isChain_cons.mpr ⟨?_, tail.2⟩⟩
    rintro d - ⟨high, -⟩
    unfold highSurrogate at high
    omega

theorem Utf8Text.scannable {s : PyStr} (utf8 : Utf8Text s) : Scannable s := by
  have alone := utf8.append_scannable (t := []) ⟨by simp, .nil⟩
  rwa [List.append_nil] at alone

theorem ascii_utf8 {s : PyStr} (ascii : ∀ c ∈ s, c < 128) : Utf8Text s := by
  intro c mem
  have := ascii c mem
  omega

theorem text_scannable {s : String} (ascii : s.toList.all (·.toNat < 128)) :
    Scannable (text s) := (ascii_utf8 (text_ascii ascii)).scannable

/-! UTF-8 has no way to spell a surrogate. -/

/-- Whatever so many more bytes bring, the character is one that can be encoded. -/
def Utf8Bits : Nat → Nat → Prop
  | 0, bits => bits < 0x110000 ∧ ¬ (0xd800 ≤ bits ∧ bits < 0xe000)
  | n + 1, bits => ∀ x, x < 64 → Utf8Bits n (64 * bits + x)

/-- The same of a character begun, whose next byte has bounds of its own. -/
def Partial.Utf8 (p : Partial) : Prop :=
  1 ≤ p.need ∧ ∀ b, p.low ≤ b → b ≤ p.high → Utf8Bits (p.need - 1) (64 * p.bits + b % 64)

theorem leadByte_utf8 {b : Nat} {p : Partial} (begun : leadByte b = some p) :
    p.Utf8 := by
  unfold leadByte at begun
  repeat' split at begun
  all_goals cases begun
  all_goals
    refine ⟨by simp, fun c low high => ?_⟩
    simp only [Utf8Bits, Nat.reduceSub] at low high ⊢
    omega

theorem Partial.Utf8.next {p : Partial} (utf8 : p.Utf8) {b : Nat}
    (low : p.low ≤ b) (high : b ≤ p.high) (more : p.need ≠ 1) :
    Partial.Utf8 ⟨p.need - 1, 0x80, 0xbf, 64 * p.bits + b % 64⟩ := by
  obtain ⟨some', bits⟩ := utf8
  refine ⟨by simp only; omega, fun c _ _ => ?_⟩
  have := bits b low high
  obtain ⟨n, same⟩ : ∃ n, p.need - 1 = n + 1 := ⟨p.need - 2, by omega⟩
  rw [same] at this
  simp only [same, Nat.add_sub_cancel]
  exact this (c % 64) (Nat.mod_lt _ (by decide))

theorem Partial.Utf8.last {p : Partial} (utf8 : p.Utf8) {b : Nat}
    (low : p.low ≤ b) (high : b ≤ p.high) (one : p.need = 1) :
    Utf8Bits 0 (64 * p.bits + b % 64) := by
  have := utf8.2 b low high
  rwa [one] at this

/-- **Bytes decode to a string that can be encoded.** -/
theorem utf8_decodeUtf8_from {begun : Option Partial} {data : Bytes} {s : PyStr}
    (safe : ∀ p, begun = some p → p.Utf8) (decoded : decodeUtf8 begun data = .ok s) :
    Utf8Text s := by
  induction data generalizing begun s with
  | nil =>
    rw [decodeUtf8] at decoded
    split at decoded
    · cases decoded
    · cases decoded
      simp [Utf8Text]
  | cons b rest ih =>
    have cons {c : Nat} (valid : Utf8Bits 0 c)
        (tail : (do return c :: (← decodeUtf8 none rest)) = Except.ok s) : Utf8Text s := by
      obtain ⟨tail, plain, same⟩ := bind_eq_ok.mp tail
      cases same
      exact List.forall_mem_cons.mpr ⟨valid, ih (by simp) plain⟩
    rw [decodeUtf8.eq_def] at decoded
    simp only at decoded
    cases begun with
    | none =>
      simp only at decoded
      split at decoded
      · refine cons ?_ decoded
        simp only [Utf8Bits]
        omega
      · split at decoded
        · rename_i p begun
          exact ih (fun q same => Option.some.inj same ▸ leadByte_utf8 begun) decoded
        · cases decoded
    | some p =>
      simp only at decoded
      split at decoded
      · rename_i bounds
        split at decoded
        · exact cons ((safe p rfl).last bounds.1 bounds.2 ‹_›) decoded
        · refine ih (fun q same => ?_) decoded
          exact Option.some.inj same ▸ (safe p rfl).next bounds.1 bounds.2 ‹_›
      · cases decoded

theorem utf8_decodeUtf8 {data : Bytes} {s : PyStr} (decoded : decodeUtf8 none data = .ok s) :
    Utf8Text s := utf8_decodeUtf8_from (by simp) decoded

theorem utf8_decodeFirst (b : Nat) :
    Utf8Text (decodeFirst b).1 ∧ ∀ p, (decodeFirst b).2 = some p → p.Utf8 := by
  unfold decodeFirst
  split
  · exact ⟨List.forall_mem_singleton.mpr (by omega), by simp⟩
  · split
    · rename_i p begun
      exact ⟨by simp [Utf8Text], fun q same => Option.some.inj same ▸ leadByte_utf8 begun⟩
    · exact ⟨List.forall_mem_singleton.mpr (by decide), by simp⟩

/-- So do bytes of which what is wrong is replaced. -/
theorem utf8_decodeReplace {begun : Option Partial} {data : Bytes}
    (safe : ∀ p, begun = some p → p.Utf8) : Utf8Text (decodeReplace begun data) := by
  have replaced : Utf8Bits 0 0xfffd := by
    simp only [Utf8Bits]
    omega
  induction data generalizing begun with
  | nil =>
    rw [decodeReplace]
    split
    · exact List.forall_mem_singleton.mpr replaced
    · simp [Utf8Text]
  | cons b rest ih =>
    have fresh : Utf8Text ((decodeFirst b.toNat).1 ++ decodeReplace (decodeFirst b.toNat).2 rest) :=
      List.forall_mem_append.mpr
        ⟨(utf8_decodeFirst b.toNat).1, ih (utf8_decodeFirst b.toNat).2⟩
    cases begun with
    | none =>
      rw [decodeReplace]
      exact fresh
    | some p =>
      rw [decodeReplace]
      split
      · rename_i bounds
        split
        · exact List.forall_mem_cons.mpr
            ⟨(safe p rfl).last bounds.1 bounds.2 ‹_›, ih (by simp)⟩
        · refine ih fun q same => ?_
          exact Option.some.inj same ▸ (safe p rfl).next bounds.1 bounds.2 ‹_›
      · exact List.forall_mem_cons.mpr ⟨replaced, fresh⟩

/-- The text begins with the escape of a low surrogate. -/
def LowEscape (s : PyStr) : Prop :=
  s.take 2 = [92, 117] ∧ ∃ u, decodeUXXXX (s.drop 2) = some u ∧ lowSurrogate u

/-- What a round of `scanstring` may hand on: a string that can be written and
read back, which begins with a low surrogate only where the text escapes one. -/
structure Scanned (s out rest : PyStr) : Prop where
  scannable : Scannable out
  low : ∀ c, out.head? = some c → lowSurrogate c → LowEscape s
  ends : rest <:+ s

theorem hexDigit_lt {c d : Nat} (found : hexDigit c = some d) : d < 16 := by
  unfold hexDigit at found
  split at found
  · cases found
    omega
  · split at found
    · cases found
      omega
    · split at found
      · cases found
        omega
      · cases found

theorem decodeUXXXX_lt {s : PyStr} {u : Nat} (found : decodeUXXXX s = some u) : u < 0x10000 := by
  unfold decodeUXXXX at found
  split at found
  · rename_i long
    obtain ⟨a, s, rfl⟩ := List.exists_cons_of_length_pos (by omega : 0 < s.length)
    rw [List.length_cons] at long
    obtain ⟨b, s, rfl⟩ := List.exists_cons_of_length_pos (by omega : 0 < s.length)
    rw [List.length_cons] at long
    obtain ⟨c, s, rfl⟩ := List.exists_cons_of_length_pos (by omega : 0 < s.length)
    rw [List.length_cons] at long
    obtain ⟨d, rest, rfl⟩ := List.exists_cons_of_length_pos (by omega : 0 < s.length)
    simp only [List.take_succ_cons, List.take_zero, List.foldl_cons, List.foldl_nil,
      Option.bind_eq_bind, Option.bind_some, Option.pure_def, Option.bind_eq_some_iff,
      Option.some.injEq] at found
    obtain ⟨x, ⟨y, ⟨z, ⟨w, hw, rfl⟩, v, hv, rfl⟩, t, ht, rfl⟩, r, hr, rfl⟩ := found
    have := hexDigit_lt hw
    have := hexDigit_lt hv
    have := hexDigit_lt ht
    have := hexDigit_lt hr
    omega
  · cases found

theorem push_ok {c : Nat} {scanned : Except PyExc (PyStr × PyStr)} {out rest : PyStr}
    (found : push c scanned = .ok (out, rest)) :
    ∃ behind, scanned = .ok (behind, rest) ∧ out = c :: behind := by
  obtain ⟨scanned, rfl, same⟩ := map_ok found
  cases same
  exact ⟨scanned.1, rfl, rfl⟩

/-- What one round of `scanstring` may take off the text. A character that is
the first half of another does not stand before the second. -/
structure Round (s later : PyStr) (c : Nat) : Prop where
  ends : later <:+ s
  valid : c < 0x110000
  alone : highSurrogate c → ¬ LowEscape later
  low : lowSurrogate c → LowEscape s

/-- A round whose character is no half of another. -/
theorem Round.whole {s later : PyStr} {c : Nat} (ends : later <:+ s) (valid : c < 0x110000)
    (notHalf : ¬ (0xd800 ≤ c ∧ c < 0xe000)) : Round s later c where
  ends := ends
  valid := valid
  alone high := by
    unfold highSurrogate at high
    omega
  low low := by
    unfold lowSurrogate at low
    omega

theorem Scanned.push {s later out rest : PyStr} {c : Nat} (next : Scanned later out rest)
    (round : Round s later c) : Scanned s (c :: out) rest where
  scannable := by
    refine ⟨List.forall_mem_cons.mpr ⟨round.valid, next.scannable.1⟩, ?_⟩
    refine List.isChain_cons.mpr ⟨fun d first halves => ?_, next.scannable.2⟩
    exact round.alone halves.1 (next.low d first halves.2)
  low := by
    intro d first half
    cases first
    exact round.low half
  ends := next.ends.trans round.ends

theorem backslash_lt {esc char : Nat} (found : backslash esc = some char) :
    char < 0x80 := by
  unfold backslash at found
  repeat' split at found
  all_goals cases found
  all_goals omega

/-- Every round closes the string or takes a character. -/
theorem scanString_round {n : Nat} {s out rest : PyStr} (utf8 : Utf8Text s)
    (found : scanString (n + 1) s = .ok (out, rest)) :
    (out = [] ∧ rest <:+ s) ∨
      ∃ c later, Round s later c ∧ push c (scanString n later) = .ok (out, rest) := by
  cases s with
  | nil => cases found
  | cons c later =>
    have tail : later <:+ c :: later := List.suffix_cons ..
    simp only [scanString] at found
    split at found
    · cases found
      exact .inl ⟨rfl, tail⟩
    · split at found
      · cases found
      · split at found
        · have raw := utf8 c (.head _)
          exact .inr ⟨c, later, .whole tail raw.1 raw.2, found⟩
        · cases later with
          | nil => cases found
          | cons esc later =>
            have ends : later <:+ c :: esc :: later := (List.suffix_cons ..).trans tail
            simp only at found
            split at found
            · split at found
              · cases found
              · rename_i char named
                have small := backslash_lt named
                exact .inr ⟨char, later, .whole ends (by omega) (by omega), found⟩
            · rename_i notBackslash isU
              obtain rfl : c = 92 := by omega
              obtain rfl : esc = 117 := by omega
              split at found
              · cases found
              · rename_i uni spelled
                have small := decodeUXXXX_lt spelled
                have behind := (List.drop_suffix 4 later).trans ends
                have escaped (low : lowSurrogate uni) : LowEscape (92 :: 117 :: later) :=
                  ⟨rfl, uni, spelled, low⟩
                split at found
                · rename_i pair
                  split at found
                  · cases found
                  · rename_i uni2 spelled2
                    have small2 := decodeUXXXX_lt spelled2
                    split at found
                    · rename_i second
                      have first := pair.1
                      unfold highSurrogate at first
                      unfold lowSurrogate at second
                      have both := (List.drop_suffix 6 (later.drop 4)).trans behind
                      exact .inr ⟨_, _, .whole both (by omega) (by omega), found⟩
                    · rename_i notLow
                      refine .inr ⟨uni, _, ⟨behind, by omega, fun _ next => ?_, escaped⟩, found⟩
                      obtain ⟨-, u, spelled', low⟩ := next
                      rw [spelled2] at spelled'
                      cases spelled'
                      exact notLow low
                · rename_i noPair
                  exact .inr ⟨uni, _, ⟨behind, by omega,
                    fun high next => noPair ⟨high, next.1⟩, escaped⟩, found⟩

/-- **What `scanstring` reads can be written**, where the text has no surrogate
of its own. -/
theorem scanString_scanned {n : Nat} {s out rest : PyStr} (utf8 : Utf8Text s)
    (found : scanString n s = .ok (out, rest)) : Scanned s out rest := by
  induction n generalizing s out with
  | zero => cases found
  | succ n ih =>
    obtain ⟨rfl, ends⟩ | ⟨c, later, round, pushed⟩ := scanString_round utf8 found
    · exact ⟨⟨by simp, .nil⟩, by simp, ends⟩
    · obtain ⟨behind, scanned, rfl⟩ := push_ok pushed
      exact (ih (utf8.suffix round.ends) scanned).push round

/-! ## Numbers -/

theorem natOfDigits_lt {s : PyStr} (digits : ∀ c ∈ s, c - 48 < 10) :
    natOfDigits s < 10 ^ s.length := by
  induction s using List.reverseRecOn with
  | nil => simp [natOfDigits]
  | append_singleton s c ih =>
    rw [natOfDigits_concat, List.length_append, List.length_singleton, pow_succ]
    have front := ih fun d mem => digits d (by simp [mem])
    have last := digits c (by simp)
    omega

theorem matchInt_digits {s : PyStr} : ∀ c ∈ matchInt s, c - 48 < 10 := by
  have digit {c : Nat} (h : asciiDigit c = true) : c - 48 < 10 := by
    simp only [asciiDigit, Bool.and_eq_true, decide_eq_true_eq] at h
    omega
  intro c mem
  cases s with
  | nil => cases mem
  | cons d rest =>
    simp only [matchInt] at mem
    split at mem
    · rw [List.mem_singleton.mp mem]
      decide
    · split at mem
      · rename_i first
        cases mem with
        | head => exact digit first
        | tail _ mem => exact digit (List.mem_takeWhile_imp mem)
      · cases mem

theorem repr_length_le {int : PyStr} (digits : ∀ c ∈ int, c - 48 < 10) {m : Nat}
    (few : int.length ≤ m) (positive : 0 < m) :
    (text (Nat.repr (natOfDigits int))).length ≤ m := by
  have small : natOfDigits int < 10 ^ m :=
    calc natOfDigits int < 10 ^ int.length := natOfDigits_lt digits
      _ ≤ 10 ^ m := Nat.pow_le_pow_right (by decide) few
  rw [text, List.length_map]
  exact Nat.repr_length _ _ positive small

/-- What `int` takes has few enough digits to be taken again. -/
theorem parseInt_few {s : PyStr} {minus : PyStr} (sign : minus = [] ∨ minus = [45]) {v : Json}
    (unsigned : (matchInt s).head? ≠ some 45)
    (read : parseInt (minus ++ matchInt s) = .ok v) : ∃ n, v = .int n ∧ FewDigits n := by
  have digits := matchInt_digits (s := s)
  obtain rfl | rfl := sign
  · simp only [parseInt, List.nil_append, if_neg unsigned] at read
    split at read
    · cases read
    · cases read
      refine ⟨_, rfl, ?_⟩
      rw [FewDigits, Int.natAbs_natCast]
      exact repr_length_le digits (by omega) (by decide)
  · simp only [parseInt, List.singleton_append, List.head?_cons, if_true, List.tail_cons] at read
    split at read
    · cases read
    · cases read
      refine ⟨_, rfl, ?_⟩
      rw [FewDigits, Int.natAbs_neg, Int.natAbs_natCast]
      exact repr_length_le digits (by omega) (by decide)

theorem matchInt_unsigned (s : PyStr) : (matchInt s).head? ≠ some 45 := by
  intro first
  cases s with
  | nil => cases first
  | cons d rest =>
    simp only [matchInt] at first
    split at first
    · cases first
    · split at first
      · rename_i digit
        cases first
        cases digit
      · cases first

theorem matchNumber_ok {s integer frac exp rest : PyStr}
    (found : matchNumber s = some (integer, frac, exp, rest)) :
    (∃ minus unsigned, (minus = [] ∨ minus = [45]) ∧ integer = minus ++ matchInt unsigned) ∧
      rest <:+ s := by
  unfold matchNumber at found
  extract_lets minus unsigned int afterInt frac' afterFrac exp' at found
  have sign : minus = [] ∨ minus = [45] := by
    by_cases negative : s.head? = some 45
    · exact .inr (if_pos negative)
    · exact .inl (if_neg negative)
  by_cases empty : int = []
  · rw [if_pos empty] at found
    cases found
  · rw [if_neg empty] at found
    simp only [Option.some.injEq, Prod.mk.injEq] at found
    obtain ⟨rfl, -, -, rfl⟩ := found
    refine ⟨⟨minus, unsigned, sign, rfl⟩, ?_⟩
    exact (List.drop_suffix _ _).trans <| (List.drop_suffix _ _).trans <|
      (List.drop_suffix _ _).trans (List.drop_suffix _ _)

/-! ## Objects -/

theorem mem_setItem {fields : List (PyStr × Json)} {key : PyStr} {value : Json}
    {field : PyStr × Json} (mem : field ∈ setItem fields key value) :
    field = (key, value) ∨ field ∈ fields := by
  induction fields with
  | nil => exact .inl (List.mem_singleton.mp mem)
  | cons f rest ih =>
    obtain ⟨k, v⟩ := f
    simp only [setItem] at mem
    split at mem
    · rename_i same
      cases mem with
      | head => exact .inl (by rw [same])
      | tail _ mem => exact .inr (.tail _ mem)
    · cases mem with
      | head => exact .inr (.head _)
      | tail _ mem => exact (ih mem).imp_right (.tail _)

theorem setItem_keys (fields : List (PyStr × Json)) (key : PyStr) (value : Json) :
    (setItem fields key value).map Prod.fst =
      if key ∈ fields.map Prod.fst then fields.map Prod.fst else fields.map Prod.fst ++ [key] := by
  induction fields with
  | nil => simp [setItem]
  | cons f rest ih =>
    obtain ⟨k, v⟩ := f
    by_cases same : k = key
    · simp [setItem, same]
    · simp only [setItem, if_neg same, List.map_cons, ih, List.mem_cons, Ne.symm same, false_or]
      split <;> simp

theorem setItem_nodup {fields : List (PyStr × Json)} (distinct : (fields.map Prod.fst).Nodup)
    (key : PyStr) (value : Json) : ((setItem fields key value).map Prod.fst).Nodup := by
  rw [setItem_keys]
  split
  · exact distinct
  · rename_i fresh
    rw [← List.concat_eq_append]
    exact distinct.concat fresh

/-- `dict` keeps no key twice, and invents no item. -/
theorem pairsDict_spec (pairs : List (PyStr × Json)) :
    ((pairsDict pairs).map Prod.fst).Nodup ∧ ∀ field ∈ pairsDict pairs, field ∈ pairs := by
  induction pairs using List.reverseRecOn with
  | nil => exact ⟨.nil, fun _ mem => mem⟩
  | append_singleton pairs pair ih =>
    rw [pairsDict, List.foldl_append, List.foldl_cons, List.foldl_nil]
    refine ⟨setItem_nodup ih.1 _ _, fun field mem => ?_⟩
    obtain rfl | mem := mem_setItem mem
    · simp
    · exact List.mem_append_left _ (ih.2 field mem)

/-! ## Values -/

section

variable {floatRepr : ℚ → PyStr} {parseFloat : PyStr → PyFloat}

/-- Every float that is read is spelled the way it is read back. -/
def FloatsSpelled (floatRepr : ℚ → PyStr) (parseFloat : PyStr → PyFloat) : Prop :=
  ∀ s x, parseFloat s = .finite x → SpelledFloat floatRepr parseFloat x

theorem readableFields_iff {fields : List (PyStr × Json)} :
    Json.ReadableFields floatRepr parseFloat fields ↔
      ∀ field ∈ fields, Scannable field.1 ∧ field.2.Readable floatRepr parseFloat := by
  induction fields with
  | nil => simp [Json.ReadableFields]
  | cons f rest ih => simp [Json.ReadableFields, ih, and_assoc]

theorem depthFields_le {fields : List (PyStr × Json)} {d : Nat} :
    Json.depthFields fields ≤ d ↔ ∀ field ∈ fields, field.2.depth ≤ d := by
  induction fields with
  | nil => simp [Json.depthFields]
  | cons f rest ih => simp [Json.depthFields, ih]

/-- The value of a text can be written and read back, at the depth it was read. -/
structure ReadFrom (floatRepr : ℚ → PyStr) (parseFloat : PyStr → PyFloat) (depth : Nat)
    (v : Json) : Prop where
  readable : v.Readable floatRepr parseFloat
  deep : v.depth ≤ depth

theorem scanAtom_readFrom (floats : FloatsSpelled floatRepr parseFloat) (depth : Nat)
    {s rest : PyStr} {v : Json} (found : scanAtom parseFloat s = .ok (v, rest)) :
    ReadFrom floatRepr parseFloat depth v ∧ rest <:+ s := by
  unfold scanAtom at found
  have float (x : PyFloat) (spelled : ∀ y, x = .finite y → SpelledFloat floatRepr parseFloat y) :
      ReadFrom floatRepr parseFloat depth (.float x) := by
    refine ⟨?_, Nat.zero_le _⟩
    cases x with
    | finite y => exact spelled y rfl
    | infinity negative => trivial
    | nan => trivial
  repeat' split at found
  all_goals try cases found
  · exact ⟨⟨trivial, Nat.zero_le _⟩, List.drop_suffix ..⟩
  · exact ⟨⟨trivial, Nat.zero_le _⟩, List.drop_suffix ..⟩
  · exact ⟨⟨trivial, Nat.zero_le _⟩, List.drop_suffix ..⟩
  · rename_i matched _
    obtain ⟨⟨minus, unsigned, sign, rfl⟩, ends⟩ := matchNumber_ok matched
    obtain ⟨value, read, same⟩ := map_ok found
    cases same
    obtain ⟨n, rfl, few⟩ := parseInt_few sign (matchInt_unsigned _) read
    exact ⟨⟨few, Nat.zero_le _⟩, ends⟩
  · rename_i matched
    exact ⟨float _ fun y value => floats _ y value, (matchNumber_ok matched).2⟩
  · exact ⟨float _ (by simp), List.drop_suffix ..⟩
  · exact ⟨float _ (by simp), List.drop_suffix ..⟩
  · exact ⟨float _ (by simp), List.drop_suffix ..⟩

/-- The rounds of the scanner that this much fuel allows hand on such values. -/
structure ScansReadable (floatRepr : ℚ → PyStr) (parseFloat : PyStr → PyFloat) (n : Nat) :
    Prop where
  once : ∀ {depth s v rest}, Utf8Text s → scanOnce parseFloat n depth s = .ok (v, rest) →
    ReadFrom floatRepr parseFloat depth v ∧ rest <:+ s
  items : ∀ {depth s vs rest}, Utf8Text s → scanItems parseFloat n depth s = .ok (vs, rest) →
    ReadFrom floatRepr parseFloat (depth + 1) (.arr vs) ∧ rest <:+ s
  members : ∀ {depth s pairs rest}, Utf8Text s →
    scanMembers parseFloat n depth s = .ok (pairs, rest) →
    (∀ field ∈ pairs, Scannable field.1 ∧ ReadFrom floatRepr parseFloat depth field.2) ∧ rest <:+ s

theorem skipSpace_suffix (s : PyStr) : skipSpace s <:+ s := List.dropWhile_suffix _

theorem readFrom_fields {depth : Nat} {fields : List (PyStr × Json)}
    (distinct : (fields.map Prod.fst).Nodup)
    (each : ∀ field ∈ fields, Scannable field.1 ∧ ReadFrom floatRepr parseFloat depth field.2) :
    ReadFrom floatRepr parseFloat (depth + 1) (.obj fields) where
  readable := ⟨distinct, readableFields_iff.mpr fun field mem =>
    ⟨(each field mem).1, (each field mem).2.readable⟩⟩
  deep := Nat.succ_le_succ (depthFields_le.mpr fun field mem => (each field mem).2.deep)

theorem readFrom_object {depth : Nat} {pairs : List (PyStr × Json)}
    (read : ∀ field ∈ pairs, Scannable field.1 ∧ ReadFrom floatRepr parseFloat depth field.2) :
    ReadFrom floatRepr parseFloat (depth + 1) (.obj (pairsDict pairs)) := by
  obtain ⟨distinct, kept⟩ := pairsDict_spec pairs
  exact readFrom_fields distinct fun field mem => read field (kept field mem)

theorem readFrom_array {depth : Nat} {v : Json} {vs : List Json}
    (first : ReadFrom floatRepr parseFloat depth v)
    (rest : ReadFrom floatRepr parseFloat (depth + 1) (.arr vs)) :
    ReadFrom floatRepr parseFloat (depth + 1) (.arr (v :: vs)) := by
  refine ⟨⟨first.readable, rest.readable⟩, ?_⟩
  have deep := rest.deep
  simp only [Json.depth, Json.depthItems] at deep ⊢
  have := first.deep
  omega

theorem scansReadable_once {n : Nat} (floats : FloatsSpelled floatRepr parseFloat)
    (ih : ScansReadable floatRepr parseFloat n) {depth : Nat} {s rest : PyStr} {v : Json}
    (utf8 : Utf8Text s) (found : scanOnce parseFloat (n + 1) depth s = .ok (v, rest)) :
    ReadFrom floatRepr parseFloat depth v ∧ rest <:+ s := by
  cases s with
  | nil => cases found
  | cons c later =>
    have tail : later <:+ c :: later := List.suffix_cons ..
    have solid := (skipSpace_suffix later).trans tail
    simp only [scanOnce] at found
    split at found
    · obtain ⟨⟨out, behind⟩, scanned, same⟩ := map_ok found
      cases same
      have string := scanString_scanned (utf8.suffix tail) scanned
      exact ⟨⟨string.scannable, Nat.zero_le _⟩, string.ends.trans tail⟩
    · split at found
      · cases depth with
        | zero => cases found
        | succ depth =>
          simp only at found
          split at found
          · cases found
            exact ⟨⟨trivial, by simp [Json.depth, Json.depthItems]⟩,
              (List.tail_suffix _).trans solid⟩
          · obtain ⟨⟨vs, behind⟩, scanned, same⟩ := map_ok found
            cases same
            obtain ⟨read, ends⟩ := ih.items (utf8.suffix solid) scanned
            exact ⟨read, ends.trans solid⟩
      · split at found
        · cases depth with
          | zero => cases found
          | succ depth =>
            simp only at found
            split at found
            · cases found
              exact ⟨⟨⟨.nil, trivial⟩, by simp [Json.depth, Json.depthFields]⟩,
                (List.tail_suffix _).trans solid⟩
            · obtain ⟨⟨pairs, behind⟩, scanned, same⟩ := map_ok found
              cases same
              obtain ⟨read, ends⟩ := ih.members (utf8.suffix solid) scanned
              exact ⟨readFrom_object read, ends.trans solid⟩
        · exact scanAtom_readFrom floats depth found

theorem scansReadable_items {n : Nat} (ih : ScansReadable floatRepr parseFloat n) {depth : Nat}
    {s rest : PyStr} {vs : List Json} (utf8 : Utf8Text s)
    (found : scanItems parseFloat (n + 1) depth s = .ok (vs, rest)) :
    ReadFrom floatRepr parseFloat (depth + 1) (.arr vs) ∧ rest <:+ s := by
  rw [scanItems, bind_eq_ok] at found
  obtain ⟨⟨v, behind⟩, scanned, found⟩ := found
  obtain ⟨read, ends⟩ := ih.once utf8 scanned
  have none : ReadFrom floatRepr parseFloat (depth + 1) (.arr []) :=
    ⟨trivial, by simp [Json.depth, Json.depthItems]⟩
  have next := (skipSpace_suffix behind).trans ends
  simp only at found
  split at found
  · rename_i closed
    cases found
    exact ⟨readFrom_array read none, (List.suffix_cons ..).trans (closed ▸ next)⟩
  · rename_i more comma
    rw [bind_eq_ok] at found
    obtain ⟨⟨values, last⟩, scanned, same⟩ := found
    cases same
    have solid := (skipSpace_suffix more).trans ((List.suffix_cons ..).trans (comma ▸ next))
    obtain ⟨others, ends⟩ := ih.items (utf8.suffix solid) scanned
    exact ⟨readFrom_array read others, ends.trans solid⟩
  · cases found

theorem scansReadable_members {n : Nat} (ih : ScansReadable floatRepr parseFloat n) {depth : Nat}
    {s rest : PyStr} {pairs : List (PyStr × Json)} (utf8 : Utf8Text s)
    (found : scanMembers parseFloat (n + 1) depth s = .ok (pairs, rest)) :
    (∀ field ∈ pairs, Scannable field.1 ∧ ReadFrom floatRepr parseFloat depth field.2) ∧
      rest <:+ s := by
  unfold scanMembers at found
  split at found
  · rename_i later
    have tail : later <:+ 34 :: later := List.suffix_cons ..
    rw [bind_eq_ok] at found
    obtain ⟨⟨key, behind⟩, scanned, found⟩ := found
    have string := scanString_scanned (utf8.suffix tail) scanned
    have next := (skipSpace_suffix behind).trans (string.ends.trans tail)
    simp only at found
    split at found
    · rename_i value colon
      rw [bind_eq_ok] at found
      obtain ⟨⟨v, behind⟩, scanned, found⟩ := found
      have solid := (skipSpace_suffix value).trans ((List.suffix_cons ..).trans (colon ▸ next))
      obtain ⟨read, ends⟩ := ih.once (utf8.suffix solid) scanned
      have next := (skipSpace_suffix behind).trans (ends.trans solid)
      simp only at found
      split at found
      · rename_i closed
        cases found
        exact ⟨List.forall_mem_singleton.mpr ⟨string.scannable, read⟩,
          (List.suffix_cons ..).trans (closed ▸ next)⟩
      · rename_i more comma
        rw [bind_eq_ok] at found
        obtain ⟨⟨others, last⟩, scanned, same⟩ := found
        cases same
        have solid := (skipSpace_suffix more).trans ((List.suffix_cons ..).trans (comma ▸ next))
        obtain ⟨readOthers, ends⟩ := ih.members (utf8.suffix solid) scanned
        exact ⟨List.forall_mem_cons.mpr ⟨⟨string.scannable, read⟩, readOthers⟩,
          ends.trans solid⟩
      · cases found
    · cases found
  · cases found

theorem scansReadable (floats : FloatsSpelled floatRepr parseFloat) (n : Nat) :
    ScansReadable floatRepr parseFloat n := by
  induction n with
  | zero =>
    refine ⟨fun _ found => ?_, fun _ found => ?_, fun _ found => ?_⟩
    · cases found
    · cases found
    · cases found
  | succ n ih =>
    exact ⟨scansReadable_once floats ih, scansReadable_items ih, scansReadable_members ih⟩

/-- **What is read can be written and read back**, where the text has no
surrogates of its own. -/
theorem loads_readFrom (floats : FloatsSpelled floatRepr parseFloat) {limit : Nat} {s : PyStr}
    {v : Json} (utf8 : Utf8Text s) (read : loads parseFloat limit s = .ok v) :
    ReadFrom floatRepr parseFloat limit v := by
  unfold loads at read
  split at read
  · cases read
  · split at read
    · cases read
    · rename_i value rest scanned
      have solid := utf8.suffix (skipSpace_suffix s)
      split at read
      · cases read
        exact ((scansReadable floats _).once solid scanned).1
      · cases read

theorem ReadFrom.loads_dumps {seps : Separators} (spaced : Spaced seps) {limit : Nat} {v : Json}
    (read : ReadFrom floatRepr parseFloat limit v) :
    loads parseFloat limit (dumps floatRepr seps v) = .ok v :=
  MeshlinkNode.loads_dumps spaced read.readable read.deep

/-! ## Parts of what was read -/

theorem ReadFrom.mono {depth depth' : Nat} {v : Json} (read : ReadFrom floatRepr parseFloat depth v)
    (le : depth ≤ depth') : ReadFrom floatRepr parseFloat depth' v :=
  ⟨read.readable, read.deep.trans le⟩

theorem ReadFrom.field {depth : Nat} {fields : List (PyStr × Json)}
    (read : ReadFrom floatRepr parseFloat depth (.obj fields)) {field : PyStr × Json}
    (mem : field ∈ fields) :
    Scannable field.1 ∧ ReadFrom floatRepr parseFloat (depth - 1) field.2 := by
  have item := readableFields_iff.mp read.readable.2 field mem
  have deep := read.deep
  rw [Json.depth] at deep
  have own := depthFields_le.mp (Nat.le_refl (Json.depthFields fields)) field mem
  exact ⟨item.1, item.2, by omega⟩

end

end MeshlinkNode
