import MeshlinkNode.Python
import Mathlib.Algebra.GroupWithZero.Nat

/-!
# What `json.dumps` writes

`json.dumps` with its default `ensure_ascii`, so the text is ASCII and encoding
it cannot fail. How `float.__repr__` spells a finite number is a parameter.
`Json.size` is the length of the text, from the value alone.
-/

namespace MeshlinkNode

/-- `separators`: what stands between two items, and after a key. -/
structure Separators where
  item : PyStr
  key : PyStr
  deriving DecidableEq

def Separators.default : Separators := ⟨text ", ", text ": "⟩

/-- `separators=(",", ":")`. -/
def Separators.compact : Separators := ⟨text ",", text ":"⟩

/-- `"{0:04x}".format(n)` for 16 bits. -/
def hex4 (n : Nat) : PyStr :=
  [n / 4096 % 16, n / 256 % 16, n / 16 % 16, n % 16].map fun d =>
    if d < 10 then 48 + d else 87 + d

/-- `\\uXXXX`. -/
def unicodeEscape (n : Nat) : PyStr := text "\\u" ++ hex4 n

/-- One character of a string, as `py_encode_basestring_ascii` writes it. -/
def escapeChar (c : Nat) : PyStr :=
  if c = 34 ∨ c = 92 then [92, c]
  else if c = 10 then text "\\n"
  else if c = 13 then text "\\r"
  else if c = 9 then text "\\t"
  else if c = 12 then text "\\f"
  else if c = 8 then text "\\b"
  else if 32 ≤ c ∧ c ≤ 126 then [c]
  else if c < 0x10000 then unicodeEscape c
  else
    let v := c - 0x10000
    unicodeEscape (0xd800 + v / 1024 % 1024) ++ unicodeEscape (0xdc00 + v % 1024)

/-- A string in quotes. -/
def quote (s : PyStr) : PyStr := 34 :: s.flatMap escapeChar ++ [34]

/-- `int.__repr__`. -/
def intRepr (n : Int) : PyStr := text (toString n)

section

variable (floatRepr : ℚ → PyStr) (seps : Separators)

def floatText : PyFloat → PyStr
  | .finite x => floatRepr x
  | .infinity false => text "Infinity"
  | .infinity true => text "-Infinity"
  | .nan => text "NaN"

mutual

def dumps : Json → PyStr
  | .null => text "null"
  | .bool true => text "true"
  | .bool false => text "false"
  | .int n => intRepr n
  | .float x => floatText floatRepr x
  | .str s => quote s
  | .arr [] => text "[]"
  | .arr (v :: rest) => 91 :: dumps v ++ dumpsItems rest ++ [93]
  | .obj [] => text "{}"
  | .obj ((k, v) :: rest) => 123 :: quote k ++ seps.key ++ dumps v ++ dumpsFields rest ++ [125]

def dumpsItems : List Json → PyStr
  | [] => []
  | v :: rest => seps.item ++ dumps v ++ dumpsItems rest

def dumpsFields : List (PyStr × Json) → PyStr
  | [] => []
  | (k, v) :: rest => seps.item ++ quote k ++ seps.key ++ dumps v ++ dumpsFields rest

end

end

/-- `.encode()` of ASCII text. -/
def encodeAscii (s : PyStr) : Bytes := s.map UInt8.ofNat

@[simp] theorem encodeAscii_length (s : PyStr) : (encodeAscii s).length = s.length :=
  List.length_map _

example : dumps (fun _ => []) .compact
    (.obj [(text "id", .int (-7)), (text "b", .arr [.null, .str [34, 233, 0x1f600]])]) =
      text "\x7b\"id\":-7,\"b\":[null,\"\\\"\\u00e9\\ud83d\\ude00\"]\x7d" := by
  decide +kernel

/-! ## The length of the text -/

/-- How many characters a character of a string becomes. -/
def escapedWidth (c : Nat) : Nat :=
  if c = 34 ∨ c = 92 ∨ c = 10 ∨ c = 13 ∨ c = 9 ∨ c = 12 ∨ c = 8 then 2
  else if 32 ≤ c ∧ c ≤ 126 then 1
  else if c < 0x10000 then 6
  else 12

def quotedSize (s : PyStr) : Nat := 2 + (s.map escapedWidth).sum

@[simp] theorem unicodeEscape_length (n : Nat) : (unicodeEscape n).length = 6 := rfl

theorem escapeChar_length (c : Nat) : (escapeChar c).length = escapedWidth c := by
  unfold escapeChar escapedWidth
  split
  · rename_i h
    rcases h with rfl | rfl <;> rfl
  · -- the short escapes one by one, then printable, 16-bit and larger characters
    repeat (split; · simp_all [text])
    simp_all

theorem quote_length (s : PyStr) : (quote s).length = quotedSize s := by
  have body : (s.flatMap escapeChar).length = (s.map escapedWidth).sum := by
    rw [List.length_flatMap]
    exact congrArg List.sum (List.map_congr_left fun c _ => escapeChar_length c)
  simp only [quote, List.cons_append, List.length_cons, List.length_append, body, List.length_nil,
    quotedSize]
  omega

section

variable (floatRepr : ℚ → PyStr)

namespace Json

mutual

/-- The length of the compact text of a value. -/
def size : Json → Nat
  | .null => 4
  | .bool b => if b then 4 else 5
  | .int n => (intRepr n).length
  | .float x => (floatText floatRepr x).length
  | .str s => quotedSize s
  | .arr [] => 2
  | .arr (v :: rest) => 2 + size v + sizeItems rest
  | .obj [] => 2
  | .obj ((k, v) :: rest) => 3 + quotedSize k + size v + sizeFields rest

def sizeItems : List Json → Nat
  | [] => 0
  | v :: rest => 1 + size v + sizeItems rest

def sizeFields : List (PyStr × Json) → Nat
  | [] => 0
  | (k, v) :: rest => 2 + quotedSize k + size v + sizeFields rest

end

end Json

mutual

/-- **The compact text has the size of its value.** -/
theorem dumps_length (v : Json) : (dumps floatRepr .compact v).length = v.size floatRepr := by
  match v with
  | .null => rfl
  | .bool true => rfl
  | .bool false => rfl
  | .int n => rfl
  | .float x => rfl
  | .str s => exact quote_length s
  | .arr [] => rfl
  | .arr (v :: rest) =>
    have first := dumps_length v
    have others := dumpsItems_length rest
    simp only [dumps, Json.size, List.cons_append, List.length_cons, List.length_append, first,
      others, List.length_nil]
    omega
  | .obj [] => rfl
  | .obj ((k, v) :: rest) =>
    have first := dumps_length v
    have others := dumpsFields_length rest
    have colon : (Separators.key .compact).length = 1 := rfl
    simp only [dumps, Json.size, List.cons_append, List.length_cons, List.length_append, first,
      others, quote_length, colon, List.length_nil]
    omega

theorem dumpsItems_length (items : List Json) :
    (dumpsItems floatRepr .compact items).length = Json.sizeItems floatRepr items := by
  match items with
  | [] => rfl
  | v :: rest =>
    have first := dumps_length v
    have others := dumpsItems_length rest
    have comma : (Separators.item .compact).length = 1 := rfl
    simp only [dumpsItems, Json.sizeItems, List.length_append, first, others, comma]

theorem dumpsFields_length (fields : List (PyStr × Json)) :
    (dumpsFields floatRepr .compact fields).length = Json.sizeFields floatRepr fields := by
  match fields with
  | [] => rfl
  | (k, v) :: rest =>
    have first := dumps_length v
    have others := dumpsFields_length rest
    have comma : (Separators.item .compact).length = 1 := rfl
    have colon : (Separators.key .compact).length = 1 := rfl
    simp only [dumpsFields, Json.sizeFields, List.length_append, first, others, quote_length,
      comma, colon]
    omega

end

end

/-! ## The text is ASCII -/

theorem text_ascii {s : String} (h : s.toList.all (·.toNat < 128)) : ∀ c ∈ text s, c < 128 := by
  intro c mem
  obtain ⟨ch, here, rfl⟩ := List.mem_map.mp mem
  exact of_decide_eq_true (List.all_eq_true.mp h ch here)

theorem hex4_ascii (n : Nat) : ∀ c ∈ hex4 n, c < 128 := by
  intro c mem
  obtain ⟨d, here, rfl⟩ := List.mem_map.mp mem
  have small : d < 16 := by
    simp only [List.mem_cons, List.not_mem_nil, or_false] at here
    omega
  split <;> omega

theorem unicodeEscape_ascii (n : Nat) : ∀ c ∈ unicodeEscape n, c < 128 := by
  intro c mem
  rcases List.mem_append.mp mem with word | digits
  · exact text_ascii (by decide) c word
  · exact hex4_ascii n c digits

theorem escapeChar_ascii (ch : Nat) : ∀ c ∈ escapeChar ch, c < 128 := by
  intro c mem
  unfold escapeChar at mem
  split at mem
  · simp only [List.mem_cons, List.not_mem_nil, or_false] at mem
    omega
  · -- the short escapes one by one
    iterate 5
      split at mem
      · exact text_ascii (by decide) c mem
    split at mem
    · simp only [List.mem_singleton] at mem
      omega
    · split at mem
      · exact unicodeEscape_ascii _ c mem
      · rcases List.mem_append.mp mem with high | low
        · exact unicodeEscape_ascii _ c high
        · exact unicodeEscape_ascii _ c low

theorem quote_ascii (s : PyStr) : ∀ c ∈ quote s, c < 128 := by
  intro c mem
  simp only [quote, List.cons_append, List.mem_cons, List.mem_append, List.mem_flatMap,
    List.not_mem_nil, or_false] at mem
  rcases mem with rfl | ⟨ch, -, here⟩ | rfl
  · decide
  · exact escapeChar_ascii ch c here
  · decide

theorem digits_ascii (n : Nat) : ∀ c ∈ text (Nat.repr n), c < 128 := by
  intro c mem
  obtain ⟨ch, here, rfl⟩ := List.mem_map.mp mem
  rw [Nat.toList_repr] at here
  have digit := Nat.isDigit_of_mem_toDigits (by decide) (by decide) here
  simp only [Char.isDigit, Bool.and_eq_true, decide_eq_true_eq] at digit
  have upper : ch.toNat ≤ 57 := UInt32.le_iff_toNat_le.mp digit.2
  omega

theorem intRepr_ascii (n : Int) : ∀ c ∈ intRepr n, c < 128 := by
  cases n with
  | ofNat n => exact digits_ascii n
  | negSucc n =>
    have spelled : intRepr (.negSucc n) = text "-" ++ text (Nat.repr (n + 1)) := by
      simp [intRepr, text, toString, Int.repr]
    rw [spelled]
    intro c mem
    rcases List.mem_append.mp mem with minus | digits
    · exact text_ascii (by decide) c minus
    · exact digits_ascii _ c digits

/-- The given spellings are ASCII. -/
structure AsciiParts (floatRepr : ℚ → PyStr) (seps : Separators) : Prop where
  float : ∀ x, ∀ c ∈ floatRepr x, c < 128
  item : ∀ c ∈ seps.item, c < 128
  key : ∀ c ∈ seps.key, c < 128

section

variable {floatRepr : ℚ → PyStr} {seps : Separators}

theorem floatText_ascii (parts : AsciiParts floatRepr seps) (x : PyFloat) :
    ∀ c ∈ floatText floatRepr x, c < 128 := by
  match x with
  | .finite x => exact parts.float x
  | .infinity false => exact text_ascii (by decide)
  | .infinity true => exact text_ascii (by decide)
  | .nan => exact text_ascii (by decide)

mutual

/-- **What `dumps` writes is ASCII**, as long as floats and separators are. -/
theorem dumps_ascii (parts : AsciiParts floatRepr seps) (v : Json) :
    ∀ c ∈ dumps floatRepr seps v, c < 128 := by
  intro c mem
  match v with
  | .null => exact text_ascii (by decide) c mem
  | .bool true => exact text_ascii (by decide) c mem
  | .bool false => exact text_ascii (by decide) c mem
  | .int n => exact intRepr_ascii n c mem
  | .float x => exact floatText_ascii parts x c mem
  | .str s => exact quote_ascii s c mem
  | .arr [] => exact text_ascii (by decide) c mem
  | .arr (v :: rest) =>
    have first := dumps_ascii parts v
    have others := dumpsItems_ascii parts rest
    simp only [dumps, List.cons_append, List.mem_cons, List.mem_append, List.not_mem_nil,
      or_false] at mem
    rcases mem with rfl | (here | there) | rfl
    · decide
    · exact first c here
    · exact others c there
    · decide
  | .obj [] => exact text_ascii (by decide) c mem
  | .obj ((k, v) :: rest) =>
    have first := dumps_ascii parts v
    have others := dumpsFields_ascii parts rest
    simp only [dumps, List.cons_append, List.mem_cons, List.mem_append, List.not_mem_nil,
      or_false] at mem
    rcases mem with rfl | (((name | colon) | here) | there) | rfl
    · decide
    · exact quote_ascii k c name
    · exact parts.key c colon
    · exact first c here
    · exact others c there
    · decide

theorem dumpsItems_ascii (parts : AsciiParts floatRepr seps) (items : List Json) :
    ∀ c ∈ dumpsItems floatRepr seps items, c < 128 := by
  intro c mem
  match items with
  | [] => cases mem
  | v :: rest =>
    have first := dumps_ascii parts v
    have others := dumpsItems_ascii parts rest
    simp only [dumpsItems, List.mem_append] at mem
    rcases mem with (comma | here) | there
    · exact parts.item c comma
    · exact first c here
    · exact others c there

theorem dumpsFields_ascii (parts : AsciiParts floatRepr seps) (fields : List (PyStr × Json)) :
    ∀ c ∈ dumpsFields floatRepr seps fields, c < 128 := by
  intro c mem
  match fields with
  | [] => cases mem
  | (k, v) :: rest =>
    have first := dumps_ascii parts v
    have others := dumpsFields_ascii parts rest
    simp only [dumpsFields, List.mem_append] at mem
    rcases mem with (((comma | name) | colon) | here) | there
    · exact parts.item c comma
    · exact quote_ascii k c name
    · exact parts.key c colon
    · exact first c here
    · exact others c there

end

end

theorem asciiParts_default {floatRepr : ℚ → PyStr} (floats : ∀ x, ∀ c ∈ floatRepr x, c < 128) :
    AsciiParts floatRepr .default :=
  ⟨floats, text_ascii (by decide), text_ascii (by decide)⟩

theorem asciiParts_compact {floatRepr : ℚ → PyStr} (floats : ∀ x, ∀ c ∈ floatRepr x, c < 128) :
    AsciiParts floatRepr .compact :=
  ⟨floats, text_ascii (by decide), text_ascii (by decide)⟩

/-! ## UTF-8 -/

/-- `s.encode()`: a lone surrogate cannot be encoded. -/
def encodeUtf8 : PyStr → Except PyExc Bytes
  | [] => .ok []
  | c :: rest => do
    let head ←
      if c < 0x80 then .ok [c]
      else if c < 0x800 then .ok [0xc0 + c / 64, 0x80 + c % 64]
      else if 0xd800 ≤ c ∧ c < 0xe000 then .error .valueError
      else if c < 0x10000 then .ok [0xe0 + c / 4096, 0x80 + c / 64 % 64, 0x80 + c % 64]
      else .ok [0xf0 + c / 262144, 0x80 + c / 4096 % 64, 0x80 + c / 64 % 64, 0x80 + c % 64]
    return head.map UInt8.ofNat ++ (← encodeUtf8 rest)

/-- A character begun: the bytes it still needs, the bounds of the next one,
and the bits so far. -/
structure Partial where
  need : Nat
  low : Nat
  high : Nat
  bits : Nat

/-- What a first byte begins, if it begins a character of several bytes. -/
def leadByte (b : Nat) : Option Partial :=
  if 0xc2 ≤ b ∧ b ≤ 0xdf then some ⟨1, 0x80, 0xbf, b - 0xc0⟩
  else if b = 0xe0 then some ⟨2, 0xa0, 0xbf, 0⟩
  else if b = 0xed then some ⟨2, 0x80, 0x9f, 0xd⟩
  else if 0xe1 ≤ b ∧ b ≤ 0xef then some ⟨2, 0x80, 0xbf, b - 0xe0⟩
  else if b = 0xf0 then some ⟨3, 0x90, 0xbf, 0⟩
  else if b = 0xf4 then some ⟨3, 0x80, 0x8f, 4⟩
  else if 0xf1 ≤ b ∧ b ≤ 0xf3 then some ⟨3, 0x80, 0xbf, b - 0xf0⟩
  else none

/-- A byte outside a character: what it writes and what it begins. -/
def decodeFirst (b : Nat) : PyStr × Option Partial :=
  if b < 0x80 then ([b], none)
  else match leadByte b with
    | some begun => ([], some begun)
    | none => ([0xfffd], none)

/-- `data.decode("utf-8", "replace")`: what cannot be continued becomes one
U+FFFD, and the byte that broke it is read again as a first byte. -/
def decodeReplace (begun : Option Partial) : Bytes → PyStr
  | [] => if begun.isSome then [0xfffd] else []
  | b :: rest =>
    match begun with
    | none =>
      let out := decodeFirst b.toNat
      out.1 ++ decodeReplace out.2 rest
    | some p =>
      if p.low ≤ b.toNat ∧ b.toNat ≤ p.high then
        let bits := 64 * p.bits + b.toNat % 64
        if p.need = 1 then bits :: decodeReplace none rest
        else decodeReplace (some ⟨p.need - 1, 0x80, 0xbf, bits⟩) rest
      else
        let out := decodeFirst b.toNat
        0xfffd :: out.1 ++ decodeReplace out.2 rest

example : decodeReplace none [0x61, 0xe2, 0x82, 0xac, 0xe2, 0x82, 0x41, 0xff, 0xf0, 0x9f] =
    [0x61, 0x20ac, 0xfffd, 0x41, 0xfffd, 0xfffd] := by decide

/-- `data.decode("utf-8")`. -/
def decodeUtf8 (begun : Option Partial) : Bytes → Except PyExc PyStr
  | [] => if begun.isSome then .error .valueError else .ok []
  | b :: rest =>
    match begun with
    | none =>
      if b.toNat < 0x80 then return b.toNat :: (← decodeUtf8 none rest)
      else match leadByte b.toNat with
        | some p => decodeUtf8 (some p) rest
        | none => .error .valueError
    | some p =>
      if p.low ≤ b.toNat ∧ b.toNat ≤ p.high then
        let bits := 64 * p.bits + b.toNat % 64
        if p.need = 1 then return bits :: (← decodeUtf8 none rest)
        else decodeUtf8 (some ⟨p.need - 1, 0x80, 0xbf, bits⟩) rest
      else .error .valueError

/-- ASCII decodes to itself. -/
theorem decodeUtf8_encodeAscii {s : PyStr} (ascii : ∀ c ∈ s, c < 128) :
    decodeUtf8 none (encodeAscii s) = .ok s := by
  induction s with
  | nil => rfl
  | cons c s ih =>
    have small : c < 128 := ascii c List.mem_cons_self
    have rest := ih fun d mem => ascii d (List.mem_cons_of_mem c mem)
    have same : (UInt8.ofNat c).toNat = c := by
      rw [UInt8.toNat_ofNat']
      omega
    change decodeUtf8 none (UInt8.ofNat c :: encodeAscii s) = _
    simp only [decodeUtf8, same, small, if_true, rest]
    rfl

/-- What `dumps` wrote decodes to what it wrote. -/
theorem decodeUtf8_dumps {floatRepr : ℚ → PyStr} {seps : Separators}
    (parts : AsciiParts floatRepr seps) (v : Json) :
    decodeUtf8 none (encodeAscii (dumps floatRepr seps v)) = .ok (dumps floatRepr seps v) :=
  decodeUtf8_encodeAscii (dumps_ascii parts v)

theorem error_of_cons {tail : Except PyExc PyStr} {c : Nat} {exc : PyExc}
    (raised : (do return c :: (← tail)) = Except.error exc) : tail = .error exc := by
  cases tail with
  | error exc' =>
    cases raised
    rfl
  | ok s => cases raised

/-- Decoding raises nothing but a `ValueError`. -/
theorem decodeUtf8_error {begun : Option Partial} {data : Bytes} {exc : PyExc}
    (raised : decodeUtf8 begun data = .error exc) : exc = .valueError := by
  fun_induction decodeUtf8 begun data with
  | case1 => cases raised; rfl
  | case2 => cases raised
  | case3 _ _ _ ih => exact ih (error_of_cons raised)
  | case4 _ _ _ _ _ ih => exact ih raised
  | case5 => cases raised; rfl
  | case6 _ _ _ _ _ _ ih => exact ih (error_of_cons raised)
  | case7 _ _ _ _ _ _ ih => exact ih raised
  | case8 => cases raised; rfl

/-- Only a surrogate cannot be encoded. -/
theorem encodeUtf8_ok (s : PyStr) :
    (∃ data, encodeUtf8 s = .ok data) ↔ ∀ c ∈ s, ¬ (0xd800 ≤ c ∧ c < 0xe000) := by
  induction s with
  | nil => simp [encodeUtf8]
  | cons c s ih =>
    rw [List.forall_mem_cons, ← ih, encodeUtf8]
    by_cases lone : 0xd800 ≤ c ∧ c < 0xe000
    · have high : ¬ c < 0x80 ∧ ¬ c < 0x800 := by omega
      simp [lone, high, bind, Except.bind]
    · cases encodeUtf8 s with
      | error exc => split_ifs <;> simp [bind, Except.bind]
      | ok data => split_ifs <;> simp [bind, Except.bind, pure, Except.pure, lone]

/-- Encoding too raises nothing but a `ValueError`. -/
theorem encodeUtf8_error {s : PyStr} {exc : PyExc} (failed : encodeUtf8 s = .error exc) :
    exc = .valueError := by
  induction s generalizing exc with
  | nil => cases failed
  | cons c s ih =>
    rw [encodeUtf8] at failed
    cases rest : encodeUtf8 s with
    | error other =>
      rw [rest, ih rest] at failed
      split_ifs at failed <;> (cases failed; rfl)
    | ok data =>
      rw [rest] at failed
      split_ifs at failed <;> cases failed
      rfl

/-! ## The JSON body of a demuxed frame -/

/-- What the two phone services use besides: `json.loads` of a string, and
`float.__repr__`. -/
structure JsonLib extends Stdlib where
  loads : PyStr → Except PyExc Json
  floatRepr : ℚ → PyStr

/-- A decoded JSON object. -/
abbrev Fields := List (PyStr × Json)

/-- `d.get(key)`. -/
def Fields.get (fields : Fields) (key : PyStr) : Json := (fields.lookup key).getD .null

/-- `d.get("t") == word`. -/
def Fields.hasType (fields : Fields) (word : PyStr) : Bool :=
  match fields.get (text "t") with
  | .str s => s == word
  | _ => false

/-- The `decode` of both services, after the demux rule: the object behind the
magic if it has a "t". Undecodable bytes and bad JSON are dropped. -/
def decodeFields (lib : JsonLib) (magic frame : Bytes) : Except PyExc (Option Fields) :=
  if magic.isPrefixOf frame then
    match decodeUtf8 none (frame.drop magic.length) >>= lib.loads with
    | .error exc => if exc = .valueError then .ok none else .error exc
    | .ok (.obj fields) => .ok (if (fields.lookup (text "t")).isSome then some fields else none)
    | .ok _ => .ok none
  else .ok none

theorem decodeFields_other {lib : JsonLib} {magic frame : Bytes}
    (other : magic.isPrefixOf frame = false) : decodeFields lib magic frame = .ok none := by
  simp [decodeFields, other]

end MeshlinkNode
