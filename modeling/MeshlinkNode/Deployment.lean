import MeshlinkNode.JsonText
import MeshlinkNode.Lib.Lines
import Mathlib.Data.List.DropRight

/-!
# The deployment's WiFi identity

Every node of a venue broadcasts one SSID and passphrase, read from a file of
`key=value` lines that is pushed to each. What the file says is checked once,
here, and written to other files as it is.
-/

namespace MeshlinkNode

open Lines

/-! ## Python's lines and white space -/

/-- What `str.splitlines` ends a line at. -/
def isLineBreak (c : Nat) : Bool :=
  (10 ≤ c && c ≤ 13) || (0x1c ≤ c && c ≤ 0x1e) || c == 0x85 || c == 0x2028 || c == 0x2029

/-- `\r\n` is one break. -/
def isCrLf (c d : Nat) : Bool := c == 13 && d == 10

/-- `text.splitlines()`. -/
def splitlines (s : PyStr) : List PyStr := splitLines isLineBreak isCrLf s

example : splitlines (text "a\r\nb\n\nc\n") = [text "a", text "b", [], text "c"] := by decide

theorem newline_stops : Stops isLineBreak isCrLf 10 where
  breaks := by decide
  alone := by simp [isCrLf]
  pairs := by
    intro c d paired
    obtain ⟨cr, -⟩ := Bool.and_eq_true_iff.mp paired
    rw [beq_iff_eq.mp cr]
    decide

/-- A text without line breaks. -/
abbrev OneLine (s : PyStr) : Prop := Unbroken isLineBreak s

/-- `str.isspace` of a character. -/
def isSpace (c : Nat) : Bool :=
  (9 ≤ c && c ≤ 13) || (0x1c ≤ c && c ≤ 0x20) || c == 0x85 || c == 0xa0 || c == 0x1680 ||
    (0x2000 ≤ c && c ≤ 0x200a) || c == 0x2028 || c == 0x2029 || c == 0x202f || c == 0x205f ||
    c == 0x3000

/-- `s.strip()`. -/
def strip (s : PyStr) : PyStr := (s.dropWhile isSpace).rdropWhile isSpace

theorem mem_of_mem_strip {s : PyStr} {c : Nat} (mem : c ∈ strip s) : c ∈ s := by
  have kept : c ∈ s.dropWhile isSpace := (List.rdropWhile_prefix _ _).subset mem
  exact (List.dropWhile_suffix _).subset kept

/-- `s.partition(sep)` of one character; nothing if it is not there. -/
def partition (sep : Nat) (s : PyStr) : Option (PyStr × PyStr) :=
  if sep ∈ s then some (s.takeWhile (· ≠ sep), (s.dropWhile (· ≠ sep)).tail) else none

theorem mem_of_partition {sep : Nat} {s key value : PyStr}
    (parts : partition sep s = some (key, value)) {c : Nat} (mem : c ∈ value) : c ∈ s := by
  obtain ⟨-, same⟩ := Option.ite_none_right_eq_some.mp parts
  cases same
  exact (List.dropWhile_suffix _).subset (List.mem_of_mem_tail mem)

/-! ## The parser -/

structure WifiDeploymentConfig where
  ssid : PyStr
  passphrase : PyStr
  deriving DecidableEq

/-- `ApProvisioner.verify_consistency`, by what `configured_ssid` comes to. -/
def WifiDeploymentConfig.verifyConsistency {ε : Type} (config : WifiDeploymentConfig)
    (configured : Except ε (Option PyStr)) : Except ε Bool := do
  match ← configured with
  | none => return false
  | some ssid => return ssid = config.ssid

/-- What `parse_deployment_conf` raises: a `ValueError` each, that for a surrogate
from `str.encode`. -/
inductive ConfError where
  | noSeparator (lineno : Nat) (line : PyStr)
  | unknownKey (lineno : Nat) (key : PyStr)
  | duplicateKey (lineno : Nat) (key : PyStr)
  | missingKey (key : PyStr)
  | ssidSurrogate (ssid : PyStr)
  | ssidLength (bytes : Nat)
  | ssidControl
  | passphraseLength (chars : Nat)
  | passphraseAscii
  deriving DecidableEq

/-- The exception's text. How a string is quoted, and what `str.encode` says, is
Python's. -/
def ConfError.message (repr unencodable : PyStr → PyStr) : ConfError → PyStr
  | .noSeparator lineno line =>
    text "line " ++ intRepr lineno ++ text ": expected key=value, got " ++ repr line
  | .unknownKey lineno key => text "line " ++ intRepr lineno ++ text ": unknown key " ++ repr key
  | .duplicateKey lineno key =>
    text "line " ++ intRepr lineno ++ text ": duplicate key " ++ repr key
  | .missingKey key => text "missing required key " ++ repr key
  | .ssidSurrogate ssid => unencodable ssid
  | .ssidLength bytes => text "ssid must be 1-32 bytes, got " ++ intRepr bytes
  | .ssidControl => text "ssid contains control characters"
  | .passphraseLength chars => text "passphrase must be 8-63 chars, got " ++ intRepr chars
  | .passphraseAscii => text "passphrase must be printable ASCII"

/-- The loop's body, for line `lineno`. -/
def parseLine (values : Dict PyStr PyStr) (lineno : Nat) (line : PyStr) :
    Except ConfError (Dict PyStr PyStr) :=
  let line := strip line
  if line = [] ∨ text "#" <+: line then .ok values
  else match partition 61 line with
    | none => .error (.noSeparator lineno line)
    | some (key, value) =>
      let key := strip key
      if key ≠ text "ssid" ∧ key ≠ text "passphrase" then .error (.unknownKey lineno key)
      else if key ∈ values then .error (.duplicateKey lineno key)
      else .ok (values.insert key (strip value))

/-- The loop over `enumerate(text.splitlines(), start=1)`. -/
def parseLines (values : Dict PyStr PyStr) (lineno : Nat) :
    List PyStr → Except ConfError (Dict PyStr PyStr)
  | [] => .ok values
  | line :: lines => do
    let values ← parseLine values lineno line
    parseLines values (lineno + 1) lines

def required (values : Dict PyStr PyStr) (key : PyStr) : Except ConfError PyStr :=
  (values.lookup key).elim (.error (.missingKey key)) .ok

/-- `len(ssid.encode())`. -/
def encodedLength (ssid : PyStr) : Except ConfError Nat :=
  match encodeUtf8 ssid with
  | .ok data => .ok data.length
  | .error _ => .error (.ssidSurrogate ssid)

/-- The checks on the two values. -/
def checked (ssid passphrase : PyStr) : Except ConfError WifiDeploymentConfig := do
  let bytes ← encodedLength ssid
  if ¬ (1 ≤ bytes ∧ bytes ≤ 32) then .error (.ssidLength bytes)
  else if ∃ c ∈ ssid, c < 0x20 ∨ c = 0x7f then .error .ssidControl
  else if ¬ (8 ≤ passphrase.length ∧ passphrase.length ≤ 63) then
    .error (.passphraseLength passphrase.length)
  else if ¬ ∀ c ∈ passphrase, 0x20 ≤ c ∧ c ≤ 0x7e then .error .passphraseAscii
  else return ⟨ssid, passphrase⟩

def parseDeploymentConf (conf : PyStr) : Except ConfError WifiDeploymentConfig := do
  let values ← parseLines ∅ 1 (splitlines conf)
  let ssid ← required values (text "ssid")
  let passphrase ← required values (text "passphrase")
  checked ssid passphrase

example : parseDeploymentConf (text "\n# comment\n  ssid = Mesh  \n\npassphrase= secret-12\n") =
    .ok ⟨text "Mesh", text "secret-12"⟩ := by
  rfl

example : parseDeploymentConf (text "ssid=A\npasphrase=secret-12\n") =
    .error (.unknownKey 2 (text "pasphrase")) := by
  rfl

/-! ## What the parser accepts is one line each -/

/-- No value read so far holds a line break. -/
def OneLineEach (values : Dict PyStr PyStr) : Prop :=
  ∀ key value, values.lookup key = some value → OneLine value

theorem parseLine_oneLine {values after : Dict PyStr PyStr} {lineno : Nat} {line : PyStr}
    (step : parseLine values lineno line = .ok after) (whole : OneLine line)
    (each : OneLineEach values) : OneLineEach after := by
  unfold parseLine at step
  simp only at step
  split at step
  · cases step
    exact each
  · split at step
    · cases step
    · rename_i key value parts
      split at step
      · cases step
      · split at step
        · cases step
        · cases step
          intro other held found
          by_cases same : other = strip key
          · subst same
            cases (AList.lookup_insert _).symm.trans found
            intro c mem
            exact whole c (mem_of_mem_strip (mem_of_partition parts (mem_of_mem_strip mem)))
          · rw [AList.lookup_insert_ne same] at found
            exact each other held found

theorem parseLines_oneLine {values after : Dict PyStr PyStr} {lineno : Nat} {lines : List PyStr}
    (run : parseLines values lineno lines = .ok after) (whole : ∀ line ∈ lines, OneLine line)
    (each : OneLineEach values) : OneLineEach after := by
  induction lines generalizing values lineno with
  | nil =>
    cases run
    exact each
  | cons line lines ih =>
    obtain ⟨here, later⟩ := List.forall_mem_cons.mp whole
    obtain ⟨next, step, run⟩ := bind_eq_ok.mp run
    exact ih run later (parseLine_oneLine step here each)

/-- What the checks vouch for. -/
structure WifiDeploymentConfig.Checked (config : WifiDeploymentConfig) : Prop where
  ssidLength : ∃ data, encodeUtf8 config.ssid = .ok data ∧ 1 ≤ data.length ∧ data.length ≤ 32
  ssidChars : ∀ c ∈ config.ssid, 0x20 ≤ c ∧ c ≠ 0x7f
  passphraseLength : 8 ≤ config.passphrase.length ∧ config.passphrase.length ≤ 63
  passphraseChars : ∀ c ∈ config.passphrase, 0x20 ≤ c ∧ c ≤ 0x7e

theorem encodedLength_ok {ssid : PyStr} {bytes : Nat} (counted : encodedLength ssid = .ok bytes) :
    ∃ data, encodeUtf8 ssid = .ok data ∧ data.length = bytes := by
  unfold encodedLength at counted
  split at counted
  · rename_i data encoded
    cases counted
    exact ⟨data, encoded, rfl⟩
  · cases counted

theorem checked_ok {ssid passphrase : PyStr} {config : WifiDeploymentConfig}
    (passed : checked ssid passphrase = .ok config) :
    config = ⟨ssid, passphrase⟩ ∧ config.Checked := by
  obtain ⟨bytes, counted, passed⟩ := bind_eq_ok.mp passed
  split_ifs at passed with size control length ascii
  cases passed
  refine ⟨rfl, ?_, ?_, length, ascii⟩
  · obtain ⟨data, encoded, rfl⟩ := encodedLength_ok counted
    exact ⟨data, encoded, size⟩
  · intro c mem
    have plain : ¬ (c < 0x20 ∨ c = 0x7f) := fun bad => control ⟨c, mem, bad⟩
    omega

/-- A printable ASCII text is one line. -/
theorem WifiDeploymentConfig.Checked.oneLine {config : WifiDeploymentConfig}
    (h : config.Checked) : OneLine config.passphrase := by
  intro c mem
  obtain ⟨low, high⟩ := h.passphraseChars c mem
  simp [isLineBreak]
  omega

theorem required_ok {values : Dict PyStr PyStr} {key value : PyStr}
    (held : required values key = .ok value) : values.lookup key = some value := by
  unfold required at held
  cases found : values.lookup key with
  | none =>
    rw [found] at held
    cases held
  | some _ =>
    rw [found] at held
    cases held
    rfl

/-- **What is accepted.** A config of checked values, one line each: no line
break of any kind can come out of the parser, since none goes into a line. -/
theorem parse_accepted {conf : PyStr} {config : WifiDeploymentConfig}
    (accepted : parseDeploymentConf conf = .ok config) :
    config.Checked ∧ OneLine config.ssid ∧ OneLine config.passphrase := by
  obtain ⟨values, run, accepted⟩ := bind_eq_ok.mp accepted
  obtain ⟨ssid, name, accepted⟩ := bind_eq_ok.mp accepted
  obtain ⟨passphrase, -, accepted⟩ := bind_eq_ok.mp accepted
  obtain ⟨rfl, good⟩ := checked_ok accepted
  have each : OneLineEach values := by
    refine parseLines_oneLine run (unbroken_of_mem_splitLines conf) ?_
    intro key value found
    cases found
  exact ⟨good, each _ _ (required_ok name), good.oneLine⟩

end MeshlinkNode
