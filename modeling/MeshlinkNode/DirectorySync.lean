import MeshlinkNode.Directory
import MeshlinkNode.JsonText
import MeshlinkNode.Lib.Runs

/-!
# The directory's disk copy

The cache file is what `read_text` makes of it: a text, or what reading it
raises. A write that fails may leave anything behind.
-/

namespace MeshlinkNode

variable {core : Core}

/-! ## What can be indexed -/

namespace Json

/-- A row with a hashable username and a hex key. -/
def Indexable (row : Json) : Prop :=
  (∃ name key, row.getItem (text "username") = .ok name ∧ name.hashKey = .ok key) ∧
  ∃ hex bytes, row.getItem (text "ed25519_pub") = .ok (.str hex) ∧ hexBytes hex = some bytes

end Json

theorem indexBy_from_ok {κ : Type} [DecidableEq κ] {key : Json → Except PyExc κ}
    (users : List Json) (start : Dict κ Json) :
    (∃ index, users.foldlM (fun index u => return index.insert (← key u) u) start = .ok index) ↔
      ∀ u ∈ users, ∃ k, key u = .ok k := by
  induction users generalizing start with
  | nil => exact ⟨fun _ u mem => absurd mem List.not_mem_nil, fun _ => ⟨start, rfl⟩⟩
  | cons v users ih =>
    rw [List.foldlM_cons]
    cases hv : key v with
    | error exc =>
      simp only [bind, Except.bind, reduceCtorEq, exists_false, false_iff]
      intro all
      obtain ⟨k, hk⟩ := all v List.mem_cons_self
      cases hv.symm.trans hk
    | ok k =>
      refine (ih (start.insert k v)).trans ?_
      constructor
      · intro rest u mem
        rcases List.mem_cons.mp mem with rfl | later
        · exact ⟨k, hv⟩
        · exact rest u later
      · intro all u mem
        exact all u (List.mem_cons_of_mem v mem)

theorem indexBy_ok {κ : Type} [DecidableEq κ] {key : Json → Except PyExc κ} {users : List Json} :
    (∃ index, indexBy key users = .ok index) ↔ ∀ u ∈ users, ∃ k, key u = .ok k :=
  indexBy_from_ok users ∅

theorem username_ok {row : Json} :
    (∃ k, (do (← row.getItem (text "username")).hashKey) = Except.ok k) ↔
      ∃ name key, row.getItem (text "username") = .ok name ∧ name.hashKey = .ok key := by
  cases row.getItem (text "username") with
  | error exc => simp [bind, Except.bind]
  | ok name => simp [bind, Except.bind]

theorem edId_ok {row : Json} :
    (∃ k, DirectoryCache.edId core row = .ok k) ↔
      ∃ hex bytes, row.getItem (text "ed25519_pub") = .ok (.str hex) ∧
        hexBytes hex = some bytes := by
  unfold DirectoryCache.edId rowEdPub
  cases row.getItem (text "ed25519_pub") with
  | error exc => simp [bind, Except.bind]
  | ok value =>
    cases value with
    | str hex =>
      cases bytes : hexBytes hex <;>
        simp [bind, Except.bind, pure, Except.pure, fromHex, bytes]
    | _ => simp [bind, Except.bind, fromHex]

namespace DirectoryCache

/-- **What `_index` takes**: something to iterate over, and every row
indexable. -/
theorem index_ok {users : Json} :
    (∃ cache, index core users = .ok cache) ↔
      ∃ rows, users.iter = .ok rows ∧ ∀ row ∈ rows, row.Indexable := by
  unfold index
  cases iter : users.iter with
  | error exc => simp [bind, Except.bind]
  | ok rows =>
    have names : (∃ index, indexBy (fun u : Json => do
        (← u.getItem (text "username")).hashKey) rows = .ok index) ↔ _ := indexBy_ok
    have ids : (∃ index, indexBy (edId core) rows = .ok index) ↔ _ := indexBy_ok
    simp only [username_ok] at names
    simp only [edId_ok] at ids
    simp only [Except.ok.injEq, exists_eq_left', Json.Indexable, bind, Except.bind] at names ⊢
    rw [forall₂_and, ← names, ← ids]
    split
    · rename_i exc failed
      simp [failed]
    · rename_i byUsername built
      simp only [built, Except.ok.injEq, exists_eq', true_and]
      split
      · rename_i exc failed
        simp [failed]
      · rename_i byEdId filed
        simp [filed]

/-- The classes `refresh` catches around the request. -/
def refreshCatches (exc : PyExc) : Prop := exc = .osError ∨ exc = .valueError ∨ exc = .keyError

instance (exc : PyExc) : Decidable (refreshCatches exc) := inferInstanceAs (Decidable (_ ∨ _ ∨ _))

end DirectoryCache

/-! ## The cache with its file -/

/-- What `read_text` makes of the cache file, if there is one. -/
abbrev DiskFile := Option (Except PyExc PyStr)

/-- `mkdir` and `write_text` succeed, or raise and leave something behind. -/
inductive DiskWrite where
  | succeeds
  | fails (left : DiskFile)

/-- One sync attempt: what the backend answers and what the disk does. -/
structure SyncAttempt where
  response : Except PyExc Json
  write : DiskWrite

/-- The backends and disks `refresh` is a match for: the request fails with a
class it catches, or the body is an object whose "users", if it has any, can be
indexed and written. -/
def SyncAttempt.Manageable : SyncAttempt → Prop
  | ⟨.error exc, _⟩ => DirectoryCache.refreshCatches exc
  | ⟨.ok (.obj fields), write⟩ => ∀ users, fields.lookup (text "users") = some users →
    (∃ rows, users.iter = .ok rows ∧ ∀ row ∈ rows, row.Indexable) ∧ write = .succeeds
  | ⟨.ok _, _⟩ => False

structure SyncedDirectory (core : Core) where
  cache : DirectoryCache core
  disk : DiskFile

namespace SyncedDirectory

open DirectoryCache

def refresh (lib : JsonLib) (d : SyncedDirectory core) (attempt : SyncAttempt) :
    SyncedDirectory core × Except PyExc Bool :=
  match attempt.response.bind fun body => body.getItem (text "users") with
  | .error exc => if refreshCatches exc then (d, .ok false) else (d, .error exc)
  | .ok users =>
    match index core users with
    | .error exc => (d, .error exc)
    | .ok fresh =>
      match attempt.write with
      | .succeeds => (⟨fresh, some (.ok (dumps lib.floatRepr .default users))⟩, .ok true)
      | .fails left => (⟨fresh, left⟩, .error .osError)

/-- The indexes go as without the file. -/
theorem refresh_cache (lib : JsonLib) (d : SyncedDirectory core) (attempt : SyncAttempt) :
    (d.refresh lib attempt).1.cache = (d.cache.refresh attempt.response).1 := by
  unfold refresh DirectoryCache.refresh refreshCatches
  cases attempt.response.bind fun body => body.getItem (text "users") with
  | error exc =>
    by_cases caught : exc = .osError ∨ exc = .valueError ∨ exc = .keyError
    · simp [caught]
    · simp [caught]
  | ok users =>
    simp only
    cases index core users with
    | error exc => rfl
    | ok fresh => cases attempt.write <;> rfl

variable (lib : JsonLib) (d : SyncedDirectory core) (attempt : SyncAttempt)

def Returns : Prop := ∃ synced, (d.refresh lib attempt).2 = .ok synced

/-- The whole of the new list is in the indexes and on the disk. -/
def Replaced : Prop :=
  ∃ body users fresh, attempt.response = .ok body ∧ body.getItem (text "users") = .ok users ∧
    index core users = .ok fresh ∧
    (d.refresh lib attempt).1 = ⟨fresh, some (.ok (dumps lib.floatRepr .default users))⟩

/-- What `refresh` promises: an answer, and with it all of the new copy or all
of the old one. -/
structure TotalAtomic : Prop where
  returns : d.Returns lib attempt
  kept : (d.refresh lib attempt).2 = .ok false → (d.refresh lib attempt).1 = d
  replaced : (d.refresh lib attempt).2 = .ok true → d.Replaced lib attempt

/-- Everything an attempt can do. -/
theorem refresh_cases :
    d.refresh lib attempt = (d, .ok false) ∧ SyncAttempt.Manageable attempt ∨
    (∃ exc, (d.refresh lib attempt).2 = .error exc) ∧ ¬ SyncAttempt.Manageable attempt ∨
    (d.refresh lib attempt).2 = .ok true ∧ d.Replaced lib attempt ∧
      SyncAttempt.Manageable attempt := by
  obtain ⟨response, write⟩ := attempt
  cases response with
  | error exc =>
    by_cases caught : refreshCatches exc
    · exact .inl ⟨by simp [refresh, Except.bind, caught], caught⟩
    · exact .inr (.inl ⟨⟨exc, by simp [refresh, Except.bind, caught]⟩, caught⟩)
  | ok body =>
    cases body with
    | obj fields =>
      cases found : fields.lookup (text "users") with
      | none =>
        refine .inl ⟨?_, ?_⟩
        · simp [refresh, Except.bind, Json.getItem, found, refreshCatches]
        · intro users some
          cases found.symm.trans some
      | some users =>
        have item : (Json.obj fields).getItem (text "users") = .ok users := by
          simp [Json.getItem, found]
        have manageable : SyncAttempt.Manageable ⟨.ok (.obj fields), write⟩ ↔
            (∃ cache, index core users = .ok cache) ∧ write = .succeeds := by
          rw [index_ok]
          simp [SyncAttempt.Manageable, found]
        rw [manageable]
        cases built : index core users with
        | error exc =>
          refine .inr (.inl ⟨⟨exc, ?_⟩, ?_⟩)
          · simp [refresh, Except.bind, item, built]
          · rintro ⟨⟨cache, ok⟩, -⟩
            cases ok
        | ok fresh =>
          cases write with
          | fails left =>
            refine .inr (.inl ⟨⟨.osError, ?_⟩, ?_⟩)
            · simp [refresh, Except.bind, item, built]
            · rintro ⟨-, never⟩
              cases never
          | succeeds =>
            refine .inr (.inr ⟨?_, ?_, ⟨fresh, rfl⟩, rfl⟩)
            · simp [refresh, Except.bind, item, built]
            · refine ⟨.obj fields, users, fresh, rfl, item, built, ?_⟩
              simp [refresh, Except.bind, item, built]
    | _ =>
      refine .inr (.inl ⟨⟨.typeError, ?_⟩, id⟩)
      simp [refresh, Except.bind, Json.getItem, refreshCatches]

/-- **When a refresh is total and atomic.** -/
theorem refresh_total_iff :
    d.TotalAtomic lib attempt ↔ SyncAttempt.Manageable attempt := by
  rcases d.refresh_cases lib attempt with
    ⟨same, good⟩ | ⟨⟨exc, raised⟩, bad⟩ | ⟨synced, replaced, good⟩
  · refine iff_of_true ⟨⟨false, by rw [same]⟩, fun _ => by rw [same], ?_⟩ good
    intro synced
    rw [same] at synced
    cases synced
  · refine iff_of_false ?_ bad
    rintro ⟨⟨synced, returned⟩, -, -⟩
    cases raised.symm.trans returned
  · refine iff_of_true ⟨⟨true, synced⟩, ?_, fun _ => replaced⟩ good
    intro failed
    cases synced.symm.trans failed

end SyncedDirectory

namespace Sample

/-- A library of which only `json.loads` of one text is asked. -/
def reads (written : PyStr) (value : Json) : JsonLib where
  jsonLoads := fun _ => .error .valueError
  str := fun _ => .ok []
  intOfStr := fun _ => .error .valueError
  loads := fun s => if s = written then .ok value else .error .valueError
  floatRepr := fun _ => []

def noCopy : SyncedDirectory Sample.core := ⟨.empty Sample.core, none⟩

/-- The backend answers with a list instead of an object. -/
theorem refresh_raises :
    (noCopy.refresh (reads [] .null) ⟨.ok (.arr []), .succeeds⟩).2 = .error .typeError ∧
    ¬ noCopy.TotalAtomic (reads [] .null) ⟨.ok (.arr []), .succeeds⟩ := by
  have raised : (noCopy.refresh (reads [] .null) ⟨.ok (.arr []), .succeeds⟩).2 =
      .error .typeError := rfl
  refine ⟨raised, ?_⟩
  rintro ⟨⟨synced, returned⟩, -, -⟩
  cases raised.symm.trans returned

end Sample

/-! ## Lookups, and a restart -/

namespace DirectoryCache

def byUsername? (cache : DirectoryCache core) (username : PyStr) : Option Json :=
  cache.byUsername.lookup (.str username)

/-- A malformed key is unknown. -/
def accountFor (cache : DirectoryCache core) (senderKey : Bytes) : Option Json :=
  if senderKey.length ≠ 32 then none else cache.byEd25519Id (core.pubkeyId senderKey)

def userCount (cache : DirectoryCache core) : Nat := cache.byUsername.keys.length

/-- Two caches no lookup tells apart. -/
structure SameAnswers (cache other : DirectoryCache core) : Prop where
  byUsername : ∀ username, cache.byUsername? username = other.byUsername? username
  byEd25519Id : ∀ id, cache.byEd25519Id id = other.byEd25519Id id
  accountFor : ∀ senderKey, cache.accountFor senderKey = other.accountFor senderKey
  userCount : cache.userCount = other.userCount

theorem SameAnswers.refl (cache : DirectoryCache core) : SameAnswers cache cache :=
  ⟨fun _ => rfl, fun _ => rfl, fun _ => rfl, rfl⟩

/-- The constructor, on a given file: an unreadable copy is passed over. -/
def construct (core : Core) (lib : JsonLib) : DiskFile → Except PyExc (DirectoryCache core)
  | none => .ok (.empty core)
  | some file =>
    match file >>= lib.loads >>= index core with
    | .ok cache => .ok cache
    | .error exc =>
      if exc = .valueError ∨ exc = .keyError then .ok (.empty core) else .error exc

end DirectoryCache

namespace SyncedDirectory

open DirectoryCache

variable (lib : JsonLib)

def step (d : SyncedDirectory core) (attempt : SyncAttempt) : SyncedDirectory core :=
  (d.refresh lib attempt).1

/-- `json.loads(json.dumps(users))` is `users`, for the users of an attempt. -/
def ReadsBack (attempt : SyncAttempt) : Prop :=
  ∀ body users, attempt.response = .ok body → body.getItem (text "users") = .ok users →
    lib.loads (dumps lib.floatRepr .default users) = .ok users

/-- A restart would load what the indexes hold. -/
def InStep (d : SyncedDirectory core) : Prop := construct core lib d.disk = .ok d.cache

variable {lib}

theorem inStep_step {d : SyncedDirectory core} {attempt : SyncAttempt} (kept : d.InStep lib)
    (returned : d.Returns lib attempt) (json : ReadsBack lib attempt) :
    (d.step lib attempt).InStep lib := by
  rcases d.refresh_cases lib attempt with ⟨same, -⟩ | ⟨⟨exc, raised⟩, -⟩ | ⟨-, replaced, -⟩
  · rw [step, same]
    exact kept
  · obtain ⟨synced, ok⟩ := returned
    cases raised.symm.trans ok
  · obtain ⟨body, users, fresh, response, item, built, new⟩ := replaced
    have loaded := json body users response item
    rw [step, new]
    simp [InStep, construct, loaded, built, bind, Except.bind]

/-- **A restart changes no answer.** After any run of attempts that return, a
cache constructed on the file answers like the live one. -/
theorem restart_same (lib : JsonLib) (disk : DiskFile) (live : DirectoryCache core)
    (booted : construct core lib disk = .ok live) (attempts : List SyncAttempt)
    (returned : Runs.Along (step lib) (Returns lib) ⟨live, disk⟩ attempts)
    (json : ∀ attempt ∈ attempts, ReadsBack lib attempt) :
    ∃ restarted, construct core lib (Runs.run (step lib) ⟨live, disk⟩ attempts).disk =
        .ok restarted ∧
      restarted.SameAnswers (Runs.run (step lib) ⟨live, disk⟩ attempts).cache := by
  have kept : (Runs.run (step lib) ⟨live, disk⟩ attempts).InStep lib :=
    Runs.invariant (fun _ _ held ok => inStep_step held ok.1 ok.2) booted (returned.and json)
  exact ⟨_, kept, .refl _⟩

end SyncedDirectory

namespace Sample

/-- Two rows under one name, the second with the key of the first, too. -/
def twins : Json := .arr [targetRow, requesterRow, targetRow]

def twinsText : PyStr := dumps (fun _ => []) .default twins

def twinsAttempts : List SyncAttempt :=
  [⟨.error .osError, .succeeds⟩, ⟨.ok (.obj [(text "users", twins)]), .succeeds⟩]

theorem restart_same_twins :
    ∃ restarted, DirectoryCache.construct Sample.core (reads twinsText twins)
        (Runs.run (SyncedDirectory.step (reads twinsText twins)) noCopy twinsAttempts).disk =
          .ok restarted ∧
      restarted.SameAnswers
        (Runs.run (SyncedDirectory.step (reads twinsText twins)) noCopy twinsAttempts).cache := by
  apply SyncedDirectory.restart_same
  · rfl
  · exact ⟨⟨false, rfl⟩, ⟨true, rfl⟩, trivial⟩
  · intro attempt mem body users response item
    simp only [twinsAttempts, List.mem_cons, List.not_mem_nil, or_false] at mem
    rcases mem with rfl | rfl
    · cases response
    · cases response
      have known : (Json.obj [(text "users", twins)]).getItem (text "users") = .ok twins := by
        simp [Json.getItem]
      obtain rfl : twins = users := Except.ok.inj (known.symm.trans item)
      simp only [reads, twinsText, if_true]

end Sample

end MeshlinkNode
