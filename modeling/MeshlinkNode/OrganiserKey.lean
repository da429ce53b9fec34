import MeshlinkNode.Hostapd

/-!
# The organiser's key at boot

One request, and a file for the boots without an uplink. Fetching, parsing and
caching stand in one `try` that catches `OSError` alone: a captive portal's page
gets past it, and a disk that takes no write ends in it although the key is there.
-/

namespace MeshlinkNode.OrganiserKey

/-- What can leave `load_organiser_pubkey`. An `HTTPException`, for an answer
that is no HTTP, is no `OSError`. -/
inductive LoadExc where
  | python (exc : PyExc)
  | httpException
  | runtimeError
  deriving DecidableEq

/-- `RecursionError` is a subclass. -/
def LoadExc.IsRuntimeError (exc : LoadExc) : Prop :=
  exc = .runtimeError ∨ exc = .python .recursionError

/-- The cache file, by what `read_text` makes of it. -/
inductive CacheFile where
  | absent
  | content (text : PyStr)
  | unreadable
  | undecodable
  deriving DecidableEq

/-- The cached key: `read_text().strip()`. -/
def CacheFile.key : CacheFile → Option PyStr
  | .content text => some (strip text)
  | .absent | .unreadable | .undecodable => none

/-- What the disk does with a write. An `OSError` comes from making the directory,
from opening the file, or once it is open; then anything may be left of it. -/
inductive CacheWrite where
  | mkdirFails
  | openFails
  | breaks (left : CacheFile)
  | succeeds
  deriving DecidableEq

structure Disk where
  file : CacheFile
  write : CacheWrite
  deriving DecidableEq

def organiserUrl (baseUrl : PyStr) : PyStr :=
  baseUrl.rdropWhile (· = 47) ++ text "/attestation/public-key"

/-- `json.load(resp)["public_key"]`, by what `uplink` makes of the request. -/
def fetched (lib : Stdlib) (uplink : PyStr → Except LoadExc Bytes) (baseUrl : PyStr) :
    Except LoadExc Json := do
  let body ← uplink (organiserUrl baseUrl)
  Except.mapError .python do (← lib.jsonLoads body).getItem (text "public_key")

/-- `cache_path.write_text(s)`: opening truncates, and then a lone surrogate
cannot be encoded. -/
def Disk.writeText (disk : Disk) (s : PyStr) : CacheFile × Except PyExc Unit :=
  match disk.write with
  | .mkdirFails | .openFails => (disk.file, .error .osError)
  | .breaks left =>
    match encodeUtf8 s with
    | .error exc => (.content [], .error exc)
    | .ok _ => (left, .error .osError)
  | .succeeds =>
    match encodeUtf8 s with
    | .error exc => (.content [], .error exc)
    | .ok _ => (.content (universalNewlines s), .ok ())

/-- The directory, then `pub_hex + "\n"`, then the file. -/
def Disk.store (disk : Disk) (pubHex : Json) : CacheFile × Except PyExc PyStr :=
  if disk.write = .mkdirFails then (disk.file, .error .osError)
  else match pubHex with
    | .str key =>
      let (file, written) := disk.writeText (key ++ [10])
      (file, written.map fun _ => key)
    | _ => (disk.file, .error .typeError)

/-- The `except OSError` clause, with the file as it is by then. -/
def recover (file : CacheFile) (exc : LoadExc) : CacheFile × Except LoadExc PyStr :=
  if exc = .python .osError then
    match file with
    | .absent => (file, .error .runtimeError)
    | .content text => (file, .ok (strip text))
    | .unreadable => (file, .error (.python .osError))
    | .undecodable => (file, .error (.python .valueError))
  else (file, .error exc)

/-- The key or what is raised, and the file after. -/
def loadOrganiserPubkey (lib : Stdlib) (uplink : PyStr → Except LoadExc Bytes) (disk : Disk)
    (baseUrl : PyStr) : CacheFile × Except LoadExc PyStr :=
  match fetched lib uplink baseUrl with
  | .error exc => recover disk.file exc
  | .ok pubHex =>
    match disk.store pubHex with
    | (file, .ok key) => (file, .ok key)
    | (file, .error exc) => recover file (.python exc)

/-! ## What the two sources promise -/

variable (isKey : PyStr → Bool) (lib : Stdlib) (uplink : PyStr → Except LoadExc Bytes)
  (disk : Disk) (baseUrl : PyStr)

/-- The key of a well-formed response, for what counts as a key. -/
def carried : Option PyStr :=
  match fetched lib uplink baseUrl with
  | .ok (.str key) => if isKey key then some key else none
  | _ => none

/-- `out` is the fetched key if there is one, else the cached key if there is one,
else `RuntimeError`, and without a fetched key a cached one stays. -/
structure UsesEverySource (fresh : Option PyStr) (file : CacheFile)
    (out : CacheFile × Except LoadExc PyStr) : Prop where
  fetched : ∀ key, fresh = some key → out.2 = .ok key
  cached : fresh = none → ∀ key, file.key = some key → out.2 = .ok key
  neither : (∃ exc, out.2 = .error exc ∧ exc.IsRuntimeError) ↔ fresh = none ∧ file.key = none
  kept : fresh = none → file.key ≠ none → out.1 = file

/-- A file that is there can be read. -/
def CacheFile.Legible (file : CacheFile) : Prop := file ≠ .unreadable ∧ file ≠ .undecodable

/-- No lone surrogate. -/
def Encodable (s : PyStr) : Prop := ∀ c ∈ s, ¬ (0xd800 ≤ c ∧ c < 0xe000)

/-- With a key in the response: the write goes through, or it fails with an
`OSError` and the file it leaves holds that key. -/
def Disk.HasKey (disk : Disk) (key : PyStr) : Prop :=
  match disk.write with
  | .mkdirFails | .openFails => disk.file.key = some key
  | .breaks left => Encodable key ∧ left.key = some key
  | .succeeds => Encodable key

/-- With a string that is no key: the write fails with an `OSError` and does no
harm, or the file holds just this string. -/
def Disk.Unharmed (disk : Disk) (key : PyStr) : Prop :=
  match disk.write with
  | .mkdirFails | .openFails => disk.file.Legible
  | .breaks left => Encodable key ∧
      (disk.file.key ≠ none ∧ left = disk.file ∨ disk.file.key = none ∧ left = .absent)
  | .succeeds => Encodable key ∧ disk.file.key = some key ∧
      disk.file = .content (universalNewlines (key ++ [10]))

/-- The backends and disks that `load_organiser_pubkey` is a match for. -/
def Manageable : Prop :=
  match fetched lib uplink baseUrl with
  | .error exc =>
    if exc = .python .osError then disk.file.Legible
    else exc.IsRuntimeError ∧ disk.file.key = none
  | .ok (.str key) => if isKey key then disk.HasKey key else disk.Unharmed key
  | .ok _ => disk.write = .mkdirFails ∧ disk.file.Legible

section

variable {file : CacheFile} {out : CacheFile × Except LoadExc PyStr} {key : PyStr}

theorem uses_fetched : UsesEverySource (some key) file out ↔ out.2 = .ok key := by
  constructor
  · intro uses
    exact uses.fetched key rfl
  · intro returns
    refine ⟨?_, by simp, ?_, by simp⟩
    · rintro _ ⟨⟩
      exact returns
    · simp [returns]

theorem uses_cached (held : file.key = some key) :
    UsesEverySource none file out ↔ out.2 = .ok key ∧ out.1 = file := by
  constructor
  · intro uses
    exact ⟨uses.cached rfl key held, uses.kept rfl (by simp [held])⟩
  · rintro ⟨returns, same⟩
    refine ⟨by simp, ?_, ?_, fun _ _ => same⟩
    · intro _ other cached
      cases held.symm.trans cached
      exact returns
    · simp [returns, held]

theorem uses_neither (none_held : file.key = none) : UsesEverySource none file out ↔
    ∃ exc, out.2 = .error exc ∧ exc.IsRuntimeError := by
  constructor
  · intro uses
    exact uses.neither.mpr ⟨rfl, none_held⟩
  · intro raises
    refine ⟨by simp, ?_, iff_of_true raises ⟨rfl, none_held⟩, ?_⟩
    · intro _ key cached
      cases none_held.symm.trans cached
    · intro _ held
      exact absurd none_held held

end

/-! ## Falling back -/

theorem recover_key {file : CacheFile} {key : PyStr} :
    (recover file (.python .osError)).2 = .ok key ↔ file.key = some key := by
  cases file <;> simp [recover, CacheFile.key]

theorem recover_runtimeError {file : CacheFile} :
    (∃ exc, (recover file (.python .osError)).2 = .error exc ∧ exc.IsRuntimeError) ↔
      file = .absent := by
  cases file <;> simp [recover, LoadExc.IsRuntimeError]

theorem recover_file (file : CacheFile) (exc : LoadExc) : (recover file exc).1 = file := by
  unfold recover
  split
  · cases file <;> rfl
  · rfl

theorem legible_of_key {file : CacheFile} (held : file.key ≠ none) : file.Legible := by
  cases file <;> simp [CacheFile.key, CacheFile.Legible] at held ⊢

theorem legible_iff_absent {file : CacheFile} (none_held : file.key = none) :
    file.Legible ↔ file = .absent := by
  cases file <;> simp [CacheFile.key, CacheFile.Legible] at none_held ⊢

/-- Falling back on a file that nothing touched. -/
theorem uses_recover (file : CacheFile) :
    UsesEverySource none file (recover file (.python .osError)) ↔ file.Legible := by
  cases held : file.key with
  | none => rw [uses_neither held, recover_runtimeError, legible_iff_absent held]
  | some key =>
    rw [uses_cached held, recover_key, recover_file]
    exact iff_of_true ⟨held, rfl⟩ (legible_of_key (by simp [held]))

/-- An exception that is not caught. -/
theorem uses_escape {exc : LoadExc} (escapes : exc ≠ .python .osError) (file after : CacheFile) :
    UsesEverySource none file (recover after exc) ↔ exc.IsRuntimeError ∧ file.key = none := by
  have through : recover after exc = (after, .error exc) := if_neg escapes
  rw [through]
  cases held : file.key with
  | none => simp [uses_neither held]
  | some key => simp [uses_cached held]

/-! ## The cases -/

/-- The text of a key is encoded, or it is not and the open file stays empty. -/
theorem encode_line (key : PyStr) : Encodable key ∧ (∃ data, encodeUtf8 (key ++ [10]) = .ok data) ∨
    ¬ Encodable key ∧ encodeUtf8 (key ++ [10]) = .error .valueError := by
  have line : (∃ data, encodeUtf8 (key ++ [10]) = .ok data) ↔ Encodable key := by
    rw [encodeUtf8_ok, List.forall_mem_append]
    simp [Encodable]
  by_cases encodable : Encodable key
  · exact .inl ⟨encodable, line.mpr encodable⟩
  · refine .inr ⟨encodable, ?_⟩
    cases result : encodeUtf8 (key ++ [10]) with
    | ok data => exact absurd (line.mp ⟨data, result⟩) encodable
    | error exc => rw [encodeUtf8_error result]

variable {isKey lib uplink disk baseUrl}

theorem load_error {exc : LoadExc} (failed : fetched lib uplink baseUrl = .error exc) :
    loadOrganiserPubkey lib uplink disk baseUrl = recover disk.file exc := by
  rw [loadOrganiserPubkey, failed]

theorem load_refused {value : Json} (answered : fetched lib uplink baseUrl = .ok value)
    {file : CacheFile} {exc : PyExc} (stored : disk.store value = (file, .error exc)) :
    loadOrganiserPubkey lib uplink disk baseUrl = recover file (.python exc) := by
  rw [loadOrganiserPubkey, answered]
  simp only [stored]

theorem load_stored {value : Json} (answered : fetched lib uplink baseUrl = .ok value)
    {file : CacheFile} {key : PyStr} (stored : disk.store value = (file, .ok key)) :
    loadOrganiserPubkey lib uplink disk baseUrl = (file, .ok key) := by
  rw [loadOrganiserPubkey, answered]
  simp only [stored]

/-- All that storing a string can come to. -/
theorem store_cases (disk : Disk) (key : PyStr) :
    ((disk.write = .mkdirFails ∨ disk.write = .openFails) ∧
      disk.store (.str key) = (disk.file, .error .osError)) ∨
    (∃ left, disk.write = .breaks left ∧ Encodable key ∧
      disk.store (.str key) = (left, .error .osError)) ∨
    (disk.write = .succeeds ∧ Encodable key ∧
      disk.store (.str key) = (.content (universalNewlines (key ++ [10])), .ok key)) ∨
    (((∃ left, disk.write = .breaks left) ∨ disk.write = .succeeds) ∧ ¬ Encodable key ∧
      disk.store (.str key) = (.content [], .error .valueError)) := by
  have line := encode_line key
  cases write : disk.write with
  | mkdirFails => exact .inl ⟨.inl rfl, by simp [Disk.store, write]⟩
  | openFails => exact .inl ⟨.inr rfl, by simp [Disk.store, Disk.writeText, write, Except.map]⟩
  | breaks left =>
    rcases line with ⟨encodable, data, encoded⟩ | ⟨lone, failed⟩
    · refine .inr (.inl ⟨left, rfl, encodable, ?_⟩)
      simp [Disk.store, Disk.writeText, write, encoded, Except.map]
    · refine .inr (.inr (.inr ⟨.inl ⟨left, rfl⟩, lone, ?_⟩))
      simp [Disk.store, Disk.writeText, write, failed, Except.map]
  | succeeds =>
    rcases line with ⟨encodable, data, encoded⟩ | ⟨lone, failed⟩
    · refine .inr (.inr (.inl ⟨rfl, encodable, ?_⟩))
      simp [Disk.store, Disk.writeText, write, encoded, Except.map]
    · refine .inr (.inr (.inr ⟨.inr rfl, lone, ?_⟩))
      simp [Disk.store, Disk.writeText, write, failed, Except.map]

/-- A key came back. -/
theorem uses_key {key : PyStr} (answered : fetched lib uplink baseUrl = .ok (.str key)) :
    UsesEverySource (some key) disk.file (loadOrganiserPubkey lib uplink disk baseUrl) ↔
      disk.HasKey key := by
  rw [uses_fetched, Disk.HasKey]
  rcases store_cases disk key with
    ⟨write, stored⟩ | ⟨left, write, encodable, stored⟩ | ⟨write, encodable, stored⟩ |
      ⟨write, lone, stored⟩
  · rw [load_refused answered stored, recover_key]
    rcases write with write | write <;> rw [write]
  · rw [load_refused answered stored, recover_key, write]
    exact (and_iff_right encodable).symm
  · rw [load_stored answered stored, write]
    exact iff_of_true rfl encodable
  · rw [load_refused answered stored]
    refine iff_of_false (by simp [recover]) ?_
    rcases write with ⟨left, write⟩ | write
    · rw [write]
      exact fun h => lone h.1
    · rw [write]
      exact lone

/-- A string came back that is no key. -/
theorem uses_noKey {key : PyStr} (answered : fetched lib uplink baseUrl = .ok (.str key)) :
    UsesEverySource none disk.file (loadOrganiserPubkey lib uplink disk baseUrl) ↔
      disk.Unharmed key := by
  rw [Disk.Unharmed]
  rcases store_cases disk key with
    ⟨write, stored⟩ | ⟨left, write, encodable, stored⟩ | ⟨write, encodable, stored⟩ |
      ⟨write, lone, stored⟩
  · rw [load_refused answered stored, uses_recover]
    rcases write with write | write <;> rw [write]
  · rw [load_refused answered stored, write]
    refine Iff.trans ?_ (and_iff_right encodable).symm
    cases held : disk.file.key with
    | none => simp [uses_neither held, recover_runtimeError]
    | some cached =>
      rw [uses_cached held, recover_key, recover_file]
      constructor
      · rintro ⟨-, same⟩
        exact .inl ⟨by simp, same⟩
      · rintro (⟨-, rfl⟩ | ⟨never, -⟩)
        · exact ⟨held, rfl⟩
        · cases never
  · rw [load_stored answered stored, write]
    refine Iff.trans ?_ (and_iff_right encodable).symm
    cases held : disk.file.key with
    | none => simp [uses_neither held]
    | some cached =>
      rw [uses_cached held]
      simp [eq_comm]
  · rw [load_refused answered stored, uses_escape (by simp)]
    refine iff_of_false (by simp [LoadExc.IsRuntimeError]) ?_
    rcases write with ⟨left, write⟩ | write
    · rw [write]
      exact fun h => lone h.1
    · rw [write]
      exact fun h => lone h.1

/-- What came back is no string, so no newline can be added to it. -/
theorem uses_noString {value : Json} (answered : fetched lib uplink baseUrl = .ok value)
    (other : ∀ key, value ≠ .str key) :
    UsesEverySource none disk.file (loadOrganiserPubkey lib uplink disk baseUrl) ↔
      disk.write = .mkdirFails ∧ disk.file.Legible := by
  by_cases first : disk.write = .mkdirFails
  · have stored : disk.store value = (disk.file, .error .osError) := if_pos first
    rw [load_refused answered stored, uses_recover, and_iff_right first]
  · have stored : disk.store value = (disk.file, .error .typeError) := by
      unfold Disk.store
      rw [if_neg first]
      cases value with
      | str key => exact absurd rfl (other key)
      | _ => rfl
    rw [load_refused answered stored, uses_escape (by simp)]
    simp [LoadExc.IsRuntimeError, first]

variable (isKey lib uplink disk baseUrl) in
/-- **When every available source is used**, whatever counts as a key. -/
theorem uses_every_source_iff :
    UsesEverySource (carried isKey lib uplink baseUrl) disk.file
        (loadOrganiserPubkey lib uplink disk baseUrl) ↔
      Manageable isKey lib uplink disk baseUrl := by
  unfold Manageable carried
  cases answered : fetched lib uplink baseUrl with
  | error exc =>
    rw [load_error answered]
    by_cases caught : exc = .python .osError
    · subst caught
      simpa using uses_recover disk.file
    · simpa [caught] using uses_escape caught disk.file disk.file
  | ok value =>
    cases value with
    | str key =>
      cases good : isKey key with
      | true => simpa [good] using uses_key answered
      | false => simpa [good] using uses_noKey answered
    | _ => exact uses_noString answered (by simp)

namespace Sample

/-- 64 hex digits. -/
def isHexKey (key : PyStr) : Bool := key.length = 64 && key.all fun c => (hexDigit c).isSome

def organiserKey : PyStr := List.replicate 64 97

def venueUrl : PyStr := text "http://10.77.0.1:8000/"

/-- `json.loads` of a captive portal's page, and of the backend's answer. -/
def page : Bytes := encodeAscii (text "<html>Sign in</html>")

def answer : Bytes :=
  encodeAscii (text "\x7b\"public_key\":\"" ++ organiserKey ++ text "\"\x7d")

def venueLib : Stdlib where
  jsonLoads := fun raw =>
    if raw = answer then .ok (.obj [(text "public_key", .str organiserKey)])
    else .error .valueError
  str := fun _ => .ok []
  intOfStr := fun _ => .error .valueError

/-- The disk of a node that booted before, and one that takes no write. -/
def cachedDisk : Disk := ⟨.content (organiserKey ++ [10]), .succeeds⟩

def readOnlyDisk : Disk := ⟨.absent, .openFails⟩

/-- Behind the portal the cached key is not used, and on the read-only disk the
fetched one is not. -/
theorem sources_missed :
    ¬ UsesEverySource (carried isHexKey venueLib (fun _ => .ok page) venueUrl) cachedDisk.file
        (loadOrganiserPubkey venueLib (fun _ => .ok page) cachedDisk venueUrl) ∧
    ¬ UsesEverySource (carried isHexKey venueLib (fun _ => .ok answer) venueUrl) readOnlyDisk.file
        (loadOrganiserPubkey venueLib (fun _ => .ok answer) readOnlyDisk venueUrl) := by
  constructor
  · intro uses
    have nothing : carried isHexKey venueLib (fun _ => .ok page) venueUrl = none := by
      decide +kernel
    have cached := uses.cached nothing organiserKey (by decide +kernel)
    have raised : (loadOrganiserPubkey venueLib (fun _ => .ok page) cachedDisk venueUrl).2 =
        .error (.python .valueError) := by decide +kernel
    cases raised.symm.trans cached
  · intro uses
    have key : carried isHexKey venueLib (fun _ => .ok answer) venueUrl = some organiserKey := by
      decide +kernel
    have fetched := uses.fetched organiserKey key
    have raised : (loadOrganiserPubkey venueLib (fun _ => .ok answer) readOnlyDisk venueUrl).2 =
        .error .runtimeError := by decide +kernel
    cases raised.symm.trans fetched

end Sample

end MeshlinkNode.OrganiserKey
