import MeshlinkNode.Deployment
import MeshlinkNode.Lib.Runs

/-!
# The Internet Sharing provisioner

On a Mac the node writes the deployment's identity into a system file that
others also configure. It copies the file away once, replaces it by a merged
one, and puts the copy back when it stops. Every call of the system may fail
and leave something half done; a crash is a failure after which nothing
follows.
-/

namespace MeshlinkNode

/-! ## Property lists -/

/-- A key of a dictionary; a binary property list can have others than strings. -/
inductive PlistKey where
  | str (s : PyStr)
  | other (value : Bytes)
  deriving DecidableEq

def plistKey (s : String) : PlistKey := .str (text s)

/-- A loaded property list; `raw` stands for data, dates, arrays, UIDs and numbers
that are no integers. -/
inductive Plist where
  | dict (entries : List (PlistKey × Plist))
  | str (s : PyStr)
  | int (n : Int)
  | raw (value : Bytes) (truthy : Bool)

inductive SharingExc where
  | valueError
  | typeError
  | overflowError
  | recursionError
  | attributeError
  | osError
  | parserError
  deriving DecidableEq

namespace Plist

/-- `d[key] = value`. -/
def assign (key : PlistKey) (value : Plist) : List (PlistKey × Plist) → List (PlistKey × Plist)
  | [] => [(key, value)]
  | (k, v) :: rest => if k = key then (k, value) :: rest else (k, v) :: assign key value rest

def truthy : Plist → Bool
  | .dict entries => !entries.isEmpty
  | .str s => !s.isEmpty
  | .int n => n ≠ 0
  | .raw _ truthy => truthy

def asStr : Plist → Option PyStr
  | .str s => some s
  | _ => none

/-- `value.get(key, default)`. -/
def get (value : Plist) (key : PlistKey) (default : Plist) : Except SharingExc Plist :=
  match value with
  | .dict entries => .ok ((entries.lookup key).getD default)
  | _ => .error .attributeError

/-- What is found along a path of keys: for a dictionary, that it is one. -/
def view : Plist → List PlistKey → Option Plist
  | .dict _, [] => some (.dict [])
  | .dict entries, key :: path => (entries.lookup key).bind fun value => value.view path
  | value, [] => some value
  | _, _ :: _ => none

end Plist

/-! ## What the system has and does -/

/-- `plistlib.load` and `plistlib.dump`. A file is not a property list (`true`), or
its parser gives up on it. What loads need not be a thing that can be dumped: what
was written by then comes with the exception. -/
structure PlistLib where
  load : Bytes → Except Bool Plist
  dump : Plist → Bytes × Except SharingExc Unit

structure Disk where
  natPlist : Option Bytes
  backup : Option Bytes
  tmp : Option Bytes
  deriving DecidableEq

structure Host where
  darwin : Bool
  root : Bool
  deriving DecidableEq

/-- How the calls of `start` turn out: whether the first read works, what a
failed copy, or a failure to open or write the new file, leaves behind, whether the
rename works, what `launchctl` returns or raises, and whether the last read works. -/
structure StartOutcome where
  reads : Bool
  copies : Except (Option Bytes) Unit
  writes : Except (Option Bytes) Unit
  replaces : Bool
  launches : Except SharingExc Int
  rereads : Bool

/-- The same for `stop`; a move that fails can have changed the file it was to
replace. -/
structure StopOutcome where
  launches : Except SharingExc Unit
  moves : Except (Option Bytes) Unit

/-! ## The provisioner -/

structure InternetSharing where
  config : WifiDeploymentConfig
  channel : Int

namespace InternetSharing

def buildNatAirportDict (config : WifiDeploymentConfig) (channel : Int) :
    Except SharingExc Plist :=
  if 1 ≤ channel ∧ channel ≤ 13 then
    .ok <| .dict [(plistKey "40BitWEP", .int 0), (plistKey "Channel", .int channel),
      (plistKey "Enabled", .int 1), (plistKey "NetworkName", .str config.ssid),
      (plistKey "NetworkPassword", .str config.passphrase), (plistKey "WPADisabled", .int 0)]
  else .error .valueError

def ssidFromNatPlist (plist : Plist) : Except SharingExc (Option Plist) := do
  let airport ←
    if plist.truthy then
      (← plist.get (plistKey "NAT") (.dict [])).get (plistKey "AirPort") (.dict [])
    else pure (.dict [])
  match airport with
  | .dict entries => return entries.lookup (plistKey "NetworkName")
  | _ => throw .attributeError

/-- Opening and loading the file, where `OSError` and `InvalidFileException`
count as no file. -/
def readPlist (lib : PlistLib) (file : Option Bytes) (reads : Bool) :
    Except SharingExc (Option Plist) :=
  match file, reads with
  | some bytes, true =>
    match lib.load bytes with
    | .ok plist => .ok (some plist)
    | .error invalid => if invalid then .ok none else .error .parserError
  | _, _ => .ok none

def configuredSsid (lib : PlistLib) (file : Option Bytes) (reads : Bool) :
    Except SharingExc (Option Plist) := do
  match ← readPlist lib file reads with
  | none => return none
  | some plist => ssidFromNatPlist plist

variable (self : InternetSharing) (lib : PlistLib)

/-- A name that is no string is not the deployment's. -/
def verifyConsistency (file : Option Bytes) (reads : Bool) : Except SharingExc Bool :=
  self.config.verifyConsistency <|
    (configuredSsid lib file reads).map fun name => name.bind Plist.asStr

/-- The settings go into the dictionary that was read. -/
def merge (plist : Plist) : Except SharingExc Plist :=
  match plist with
  | .dict entries => do
    let nat := (entries.lookup (plistKey "NAT")).getD (.dict [])
    let airport ← buildNatAirportDict self.config self.channel
    match nat with
    | .dict settings =>
      let settings := Plist.assign (plistKey "AirPort") airport settings
      let settings := Plist.assign (plistKey "Enabled") (.int 1) settings
      return .dict (Plist.assign (plistKey "NAT") (.dict settings) entries)
    | _ => throw .typeError
  | _ => .error .attributeError

/-- The file as it was read, or an empty dictionary. -/
def found (disk : Disk) (reads : Bool) : Except SharingExc Plist :=
  (readPlist lib disk.natPlist reads).map (·.getD (.dict []))

/-- `shutil.copy2`, the first time. -/
def backUp (disk : Disk) (copies : Except (Option Bytes) Unit) : Disk × Except SharingExc Unit :=
  match disk.natPlist, disk.backup with
  | some bytes, none =>
    match copies with
    | .ok () => ({ disk with backup := some bytes }, .ok ())
    | .error left => ({ disk with backup := left }, .error .osError)
  | _, _ => (disk, .ok ())

/-- Dump beside the file, and rename. -/
def install (disk : Disk) (dumped : Bytes × Except SharingExc Unit) (io : StartOutcome) :
    Disk × Except SharingExc Unit :=
  match io.writes, dumped with
  | .error left, _ => ({ disk with tmp := left }, .error .osError)
  | .ok (), (content, .error exc) => ({ disk with tmp := some content }, .error exc)
  | .ok (), (content, .ok ()) =>
    if io.replaces then ({ disk with natPlist := some content, tmp := none }, .ok ())
    else ({ disk with tmp := some content }, .error .osError)

def writeSharingConfig (io : StartOutcome) (disk : Disk) : Disk × Except SharingExc Unit :=
  match found lib disk io.reads with
  | .error exc => (disk, .error exc)
  | .ok plist =>
    match backUp disk io.copies with
    | (disk, .error exc) => (disk, .error exc)
    | (disk, .ok ()) =>
      match self.merge plist with
      | .error exc => (disk, .error exc)
      | .ok merged => install disk (lib.dump merged) io

def start (host : Host) (io : StartOutcome) (disk : Disk) : Disk × Except SharingExc Bool :=
  if host.darwin && host.root then
    match self.writeSharingConfig lib io disk with
    | (disk, .error exc) => (disk, if exc = .osError then .ok false else .error exc)
    | (disk, .ok ()) =>
      match io.launches with
      | .error exc => (disk, .error exc)
      | .ok code =>
        if code = 0 then (disk, self.verifyConsistency lib disk.natPlist io.rereads)
        else (disk, .ok false)
  else (disk, .ok false)

def stop (host : Host) (io : StopOutcome) (disk : Disk) : Disk × Except SharingExc Unit :=
  if host.darwin && host.root then
    match io.launches with
    | .error exc => (disk, .error exc)
    | .ok () =>
      match disk.backup, io.moves with
      | none, _ => (disk, .ok ())
      | some bytes, .ok () => ({ disk with natPlist := some bytes, backup := none }, .ok ())
      | some _, .error left => ({ disk with natPlist := left }, .ok ())
  else (disk, .ok ())

end InternetSharing

/-! ## What becomes of the file -/

/-- The node's runs on one machine. -/
inductive SharingEvent where
  | start (host : Host) (io : StartOutcome)
  | stop (host : Host) (io : StopOutcome)

namespace InternetSharing

variable (self : InternetSharing) (lib : PlistLib)

def step (disk : Disk) : SharingEvent → Disk
  | .start host io => (self.start lib host io disk).1
  | .stop host io => (stop host io disk).1

/-- The user's file is in its place, or the copy is the user's file. -/
def Recoverable (original : Bytes) (disk : Disk) : Prop :=
  disk.backup.or disk.natPlist = some original

/-- A copy that breaks off leaves nothing, or all of the file. -/
def Whole (original : Bytes) (disk : Disk) : SharingEvent → Prop
  | .start host io => host.darwin = true → host.root = true → disk.backup = none →
    (∃ plist, found lib disk io.reads = .ok plist) →
      ∀ left, io.copies = .error left → left = none ∨ left = some original
  | .stop _ _ => True

variable {self : InternetSharing} {lib : PlistLib} {original : Bytes} {disk : Disk}

theorem recoverable_cases (good : Recoverable original disk) :
    disk.backup = some original ∨ disk.backup = none ∧ disk.natPlist = some original := by
  unfold Recoverable at good
  cases kept : disk.backup with
  | none =>
    rw [kept] at good
    exact .inr ⟨rfl, good⟩
  | some bytes =>
    rw [kept] at good
    exact .inl good

theorem install_backup (dumped : Bytes × Except SharingExc Unit) (io : StartOutcome) :
    (install disk dumped io).1.backup = disk.backup := by
  unfold install
  split
  · rfl
  · rfl
  · split <;> rfl

/-- Once the copy is there, no call of `start` touches it. -/
theorem start_backup (kept : disk.backup = some original) (host : Host) (io : StartOutcome) :
    (self.start lib host io disk).1.backup = some original := by
  have backed (copies : Except (Option Bytes) Unit) : backUp disk copies = (disk, .ok ()) := by
    unfold backUp
    rw [kept]
    cases disk.natPlist <;> rfl
  have written : (self.writeSharingConfig lib io disk).1.backup = some original := by
    unfold writeSharingConfig
    cases found lib disk io.reads with
    | error exc => exact kept
    | ok plist =>
      simp only [backed]
      cases self.merge plist with
      | error exc => exact kept
      | ok merged => exact (install_backup _ _).trans kept
  unfold start
  split
  · split
    · rename_i after exc wrote
      rwa [wrote] at written
    · rename_i after wrote
      rw [wrote] at written
      split
      · exact written
      · split <;> exact written
  · exact kept

/-- The first call copies the file away, and goes no further where that fails. -/
theorem start_copies (none : disk.backup = none) (there : disk.natPlist = some original)
    (host : Host) (io : StartOutcome) :
    Recoverable original (self.start lib host io disk).1 ↔
      Whole lib original disk (.start host io) := by
  by_cases able : (host.darwin && host.root) = true
  · obtain ⟨darwin, root⟩ := Bool.and_eq_true _ _ |>.mp able
    cases read : found lib disk io.reads with
    | error exc =>
      have stays : (self.start lib host io disk).1 = disk := by
        simp [start, able, writeSharingConfig, read]
      rw [stays]
      refine iff_of_true (by simp [Recoverable, none, there]) ?_
      rintro - - - ⟨plist, works⟩
      rw [read] at works
      cases works
    | ok plist =>
      cases copied : io.copies with
      | error left =>
        have leaves : (self.start lib host io disk).1 = { disk with backup := left } := by
          simp [start, able, writeSharingConfig, read, backUp, there, none, copied]
        rw [leaves]
        constructor
        · intro good _ _ _ _ left' broke
          rw [copied] at broke
          cases broke
          rcases recoverable_cases good with kept | ⟨nothing, -⟩
          · exact .inr kept
          · exact .inl nothing
        · intro whole
          rcases whole darwin root none ⟨plist, read⟩ left copied with rfl | rfl
          · simp [Recoverable, there]
          · simp [Recoverable]
      | ok =>
        refine iff_of_true ?_ ?_
        · have kept : (self.start lib host io disk).1.backup = some original := by
            have readAgain : found lib ⟨some original, some original, disk.tmp⟩ io.reads =
                .ok plist := there ▸ read
            have same : self.start lib host io disk =
                self.start lib host io ⟨some original, some original, disk.tmp⟩ := by
              simp [start, able, writeSharingConfig, read, readAgain, backUp, there, none, copied]
            rw [same]
            exact start_backup rfl host io
          simp [Recoverable, kept]
        · rintro - - - - left broke
          rw [copied] at broke
          cases broke
  · have stays : (self.start lib host io disk).1 = disk := by
      simp [start, able]
    rw [stays]
    refine iff_of_true (by simp [Recoverable, none, there]) ?_
    intro darwin root
    simp [darwin, root] at able

theorem stop_recoverable (good : Recoverable original disk) (host : Host) (io : StopOutcome) :
    Recoverable original (stop host io disk).1 := by
  unfold stop
  split
  · split
    · exact good
    · split
      · exact good
      · rename_i bytes kept moved
        rcases recoverable_cases good with same | ⟨nothing, -⟩
        · rw [kept] at same
          simpa [Recoverable] using same
        · rw [kept] at nothing
          cases nothing
      · rename_i bytes left kept moved
        rcases recoverable_cases good with same | ⟨nothing, -⟩
        · simp [Recoverable, same]
        · rw [kept] at nothing
          cases nothing
  · exact good

/-- **One step** keeps the user's file recoverable exactly if it leaves no
broken copy. -/
theorem step_recoverable (event : SharingEvent) (good : Recoverable original disk) :
    Recoverable original (step self lib disk event) ↔ Whole lib original disk event := by
  cases event with
  | stop host io => exact iff_of_true (stop_recoverable good host io) trivial
  | start host io =>
    rcases recoverable_cases good with kept | ⟨nothing, there⟩
    · refine iff_of_true ?_ ?_
      · simp only [step, Recoverable, start_backup kept host io, Option.some_or]
      · rintro - - nothing
        rw [kept] at nothing
        cases nothing
    · exact start_copies nothing there host io

/-- What a `stop` that goes through leaves in the file's place. -/
def restored (disk : Disk) : Option Bytes :=
  (stop ⟨true, true⟩ ⟨.ok (), .ok ()⟩ disk).1.natPlist

theorem restored_iff : restored disk = some original ↔ Recoverable original disk := by
  unfold restored stop Recoverable
  cases kept : disk.backup with
  | none => simp
  | some bytes => simp

variable (self lib) in
/-- **The user's file comes back.** Whatever calls of `start` and `stop` were
made, wherever they failed or crashed, a `stop` that goes through restores the
file byte for byte, exactly if no copy broke off with a part of it. -/
theorem original_restored_iff (original : Bytes) (tmp : Option Bytes)
    (events : List SharingEvent) :
    (∀ past, past <+: events →
      restored (Runs.run (step self lib) ⟨some original, none, tmp⟩ past) = some original) ↔
    Runs.Along (step self lib) (Whole lib original) ⟨some original, none, tmp⟩ events := by
  have start : Recoverable original ⟨some original, none, tmp⟩ := rfl
  refine Iff.trans ?_ (Runs.always_iff (fun _ _ _ => trivial)
    (fun _ event (_ : True) good => step_recoverable event good) trivial start events)
  exact forall₂_congr fun past _ => restored_iff

/-! ## What `start` writes, returns and raises -/

/-- The dictionary can take the settings, and the channel is one of 2.4 GHz. -/
def Mergeable (self : InternetSharing) (plist : Plist) : Prop :=
  (1 ≤ self.channel ∧ self.channel ≤ 13) ∧ ∃ entries, plist = .dict entries ∧
    ∀ nat, entries.lookup (plistKey "NAT") = some nat → ∃ settings, nat = .dict settings

theorem lookup_assign (key : PlistKey) (value : Plist) (entries : List (PlistKey × Plist))
    (k : PlistKey) :
    (Plist.assign key value entries).lookup k =
      if k = key then some value else entries.lookup k := by
  induction entries with
  | nil =>
    by_cases same : k = key
    · simp [Plist.assign, same]
    · simp [Plist.assign, same, List.lookup_cons, beq_false_of_ne same]
  | cons entry rest ih =>
    obtain ⟨j, v⟩ := entry
    unfold Plist.assign
    by_cases here : j = key
    · subst here
      by_cases same : k = j
      · simp [same]
      · simp [same, List.lookup_cons, beq_false_of_ne same]
    · rw [if_neg here, List.lookup_cons, List.lookup_cons, ih]
      by_cases same : k = j
      · subst same
        simp [here]
      · simp [beq_false_of_ne same]

theorem merge_ok_iff {plist : Plist} :
    (∃ merged, self.merge plist = .ok merged) ↔ self.Mergeable plist := by
  unfold Mergeable merge buildNatAirportDict
  match plist with
  | .str _ | .int _ | .raw _ _ => simp
  | .dict entries =>
    by_cases channel : 1 ≤ self.channel ∧ self.channel ≤ 13
    · cases there : entries.lookup (plistKey "NAT") with
      | none => simp [channel, there, bind, Except.bind, pure, Except.pure]
      | some nat =>
        cases nat <;>
          simp [channel, there, bind, Except.bind, pure, Except.pure, throw, throwThe,
            MonadExceptOf.throw]
    · simp [channel, bind, Except.bind]

/-- The copy is there, or not needed, or `copy2` makes it. -/
def Copied (disk : Disk) (io : StartOutcome) : Prop :=
  disk.natPlist = none ∨ disk.backup ≠ none ∨ io.copies = .ok ()

theorem backUp_cases (disk : Disk) (io : StartOutcome) :
    (Copied disk io ∧
      backUp disk io.copies = ({ disk with backup := disk.backup.or disk.natPlist }, .ok ())) ∨
    (¬ Copied disk io ∧ ∃ after, after.natPlist = disk.natPlist ∧
      backUp disk io.copies = (after, .error .osError)) := by
  obtain ⟨natPlist, backup, tmp⟩ := disk
  unfold Copied backUp
  cases natPlist with
  | none => cases backup <;> simp
  | some bytes =>
    cases backup with
    | some kept => simp
    | none =>
      cases copied : io.copies with
      | ok => simp
      | error left => simp

theorem found_error {exc : SharingExc} {reads : Bool}
    (failed : found lib disk reads = .error exc) : exc = .parserError := by
  unfold found readPlist at failed
  split at failed
  · split at failed
    · cases failed
    · split at failed
      · cases failed
      · cases failed
        rfl
  · cases failed

theorem merge_error {plist : Plist} {exc : SharingExc} (failed : self.merge plist = .error exc) :
    exc ≠ .osError := by
  unfold merge buildNatAirportDict at failed
  rintro rfl
  split at failed
  · split_ifs at failed
    · simp only [bind, Except.bind] at failed
      split at failed <;> cases failed
    · cases failed
  · cases failed

/-- The settings are merged, and the new file is open for them. -/
def Opened (self : InternetSharing) (lib : PlistLib) (disk : Disk) (io : StartOutcome)
    (merged : Plist) : Prop :=
  Copied disk io ∧ io.writes = .ok () ∧
    ∃ old, found lib disk io.reads = .ok old ∧ self.merge old = .ok merged

/-- The new file, with this content, takes the place of the old one. -/
def Installed (self : InternetSharing) (lib : PlistLib) (disk : Disk) (io : StartOutcome)
    (content : Bytes) : Prop :=
  io.replaces = true ∧ ∃ merged, self.Opened lib disk io merged ∧
    lib.dump merged = (content, .ok ())

/-- What writing trips over: a file that cannot be parsed, settings that cannot be
merged once the copy is there, or values that load but cannot be dumped. -/
inductive Trips (self : InternetSharing) (lib : PlistLib) (disk : Disk) (io : StartOutcome) :
    Prop where
  | parser {exc : SharingExc} (raises : found lib disk io.reads = .error exc)
  | merge {old : Plist} (read : found lib disk io.reads = .ok old) (copied : Copied disk io)
      (unfit : ¬ self.Mergeable old)
  | dump {merged : Plist} {written : Bytes} {exc : SharingExc}
      (opened : self.Opened lib disk io merged)
      (raises : lib.dump merged = (written, .error exc)) (other : exc ≠ .osError)

theorem opened_unique {merged merged' : Plist} {io : StartOutcome}
    (opened : self.Opened lib disk io merged) (opened' : self.Opened lib disk io merged') :
    merged = merged' := by
  obtain ⟨-, -, old, read, merges⟩ := opened
  obtain ⟨-, -, old', read', merges'⟩ := opened'
  cases read.symm.trans read'
  cases merges.symm.trans merges'
  rfl

theorem installed_unique {content content' : Bytes} {io : StartOutcome}
    (installed : self.Installed lib disk io content)
    (installed' : self.Installed lib disk io content') : content = content' := by
  obtain ⟨-, merged, opened, dumped⟩ := installed
  obtain ⟨-, merged', opened', dumped'⟩ := installed'
  cases opened_unique opened opened'
  cases dumped.symm.trans dumped'
  rfl

/-- What is installed did not trip. -/
theorem installed_smooth {content : Bytes} {io : StartOutcome}
    (installed : self.Installed lib disk io content) : ¬ self.Trips lib disk io := by
  obtain ⟨-, merged, opened, dumped⟩ := installed
  obtain ⟨-, -, old, read, merges⟩ := id opened
  intro trips
  cases trips with
  | parser raises => cases read.symm.trans raises
  | merge read' _ unfit =>
    cases read.symm.trans read'
    exact unfit (merge_ok_iff.mp ⟨merged, merges⟩)
  | dump opened' raises =>
    cases opened_unique opened opened'
    cases dumped.symm.trans raises

/-- Nothing but an `OSError` is raised once the settings are merged, if the dump
raises nothing else. -/
theorem not_trips {io : StartOutcome} {old merged : Plist}
    (read : found lib disk io.reads = .ok old) (copied : Copied disk io)
    (merging : self.merge old = .ok merged)
    (calm : ∀ exc written, io.writes = .ok () → lib.dump merged = (written, .error exc) →
      exc = .osError) : ¬ self.Trips lib disk io := by
  intro trips
  cases trips with
  | parser raises => cases read.symm.trans raises
  | merge read' _ unfit =>
    cases read.symm.trans read'
    exact unfit (merge_ok_iff.mp ⟨merged, merging⟩)
  | dump opened raises other =>
    cases opened_unique opened ⟨copied, opened.2.1, old, read, merging⟩
    exact other (calm _ _ opened.2.1 raises)

theorem installed_only {io : StartOutcome} {old merged : Plist} {content : Bytes}
    (read : found lib disk io.reads = .ok old) (copied : Copied disk io)
    (merging : self.merge old = .ok merged) (installed : self.Installed lib disk io content) :
    io.writes = .ok () ∧ io.replaces = true ∧ lib.dump merged = (content, .ok ()) := by
  obtain ⟨replaced, merged', opened, dumped⟩ := installed
  cases opened_unique opened ⟨copied, opened.2.1, old, read, merging⟩
  exact ⟨opened.2.1, replaced, dumped⟩

/-- The same once the settings are merged. -/
theorem install_cases {io : StartOutcome} {old merged : Plist}
    (read : found lib disk io.reads = .ok old) (copied : Copied disk io)
    (merging : self.merge old = .ok merged) :
    let kept := { disk with backup := disk.backup.or disk.natPlist }
    (∃ content, self.Installed lib disk io content ∧ install kept (lib.dump merged) io =
        (⟨some content, disk.backup.or disk.natPlist, none⟩, .ok ())) ∨
    (∃ after, after.natPlist = disk.natPlist ∧ ¬ self.Trips lib disk io ∧
      (∀ content, ¬ self.Installed lib disk io content) ∧
      install kept (lib.dump merged) io = (after, .error .osError)) ∨
    ∃ after exc, after.natPlist = disk.natPlist ∧ exc ≠ .osError ∧ self.Trips lib disk io ∧
      install kept (lib.dump merged) io = (after, .error exc) := by
  intro kept
  unfold install
  cases wrote : io.writes with
  | error left =>
    refine .inr (.inl ⟨{ kept with tmp := left }, rfl, not_trips read copied merging ?_, ?_, rfl⟩)
    · intro exc written opens
      cases wrote.symm.trans opens
    · intro content installed
      cases wrote.symm.trans (installed_only read copied merging installed).1
  | ok =>
    cases dumped : lib.dump merged with
    | mk content result =>
      cases result with
      | error exc =>
        by_cases os : exc = .osError
        · subst os
          refine .inr (.inl ⟨{ kept with tmp := some content }, rfl,
            not_trips read copied merging ?_, ?_, rfl⟩)
          · intro exc written _ raises
            cases dumped.symm.trans raises
            rfl
          · intro content installed
            cases dumped.symm.trans (installed_only read copied merging installed).2.2
        · exact .inr (.inr ⟨{ kept with tmp := some content }, exc, rfl, os,
            .dump ⟨copied, wrote, old, read, merging⟩ dumped os, rfl⟩)
      | ok =>
        by_cases replaced : io.replaces = true
        · simp only [if_pos replaced]
          exact .inl ⟨content, ⟨replaced, merged, ⟨copied, wrote, old, read, merging⟩, dumped⟩, rfl⟩
        · simp only [if_neg replaced]
          refine .inr (.inl ⟨{ kept with tmp := some content }, rfl,
            not_trips read copied merging ?_, ?_, rfl⟩)
          · intro exc written _ raises
            cases dumped.symm.trans raises
          · intro content installed
            exact replaced (installed_only read copied merging installed).2.1

/-- **What writing comes to**: the new file in its place, an `OSError`, or
something else that is raised. -/
theorem write_cases (self : InternetSharing) (lib : PlistLib) (io : StartOutcome) (disk : Disk) :
    (∃ content, self.Installed lib disk io content ∧ self.writeSharingConfig lib io disk =
        (⟨some content, disk.backup.or disk.natPlist, none⟩, .ok ())) ∨
    (∃ after, after.natPlist = disk.natPlist ∧ ¬ self.Trips lib disk io ∧
      (∀ content, ¬ self.Installed lib disk io content) ∧
      self.writeSharingConfig lib io disk = (after, .error .osError)) ∨
    ∃ after exc, after.natPlist = disk.natPlist ∧ exc ≠ .osError ∧ self.Trips lib disk io ∧
      self.writeSharingConfig lib io disk = (after, .error exc) := by
  unfold writeSharingConfig
  cases read : found lib disk io.reads with
  | error exc =>
    refine .inr (.inr ⟨disk, exc, rfl, ?_, .parser read, rfl⟩)
    rw [found_error read]
    decide
  | ok old =>
    rcases backUp_cases disk io with ⟨copied, backed⟩ | ⟨broke, after, kept, backed⟩
    · simp only [backed]
      cases merging : self.merge old with
      | error exc =>
        have unfit : ¬ self.Mergeable old := by
          intro fits
          obtain ⟨merged, merges⟩ := merge_ok_iff.mpr fits
          cases merging.symm.trans merges
        exact .inr (.inr ⟨{ disk with backup := disk.backup.or disk.natPlist }, exc, rfl,
          merge_error merging, .merge read copied unfit, rfl⟩)
      | ok merged => exact install_cases read copied merging
    · simp only [backed]
      refine .inr (.inl ⟨after, kept, ?_, fun content installed => ?_, rfl⟩)
      · intro trips
        cases trips with
        | parser raises => cases read.symm.trans raises
        | merge _ copied => exact broke copied
        | dump opened => exact broke opened.1
      · obtain ⟨-, merged, opened, -⟩ := installed
        exact broke opened.1

/-! ## The merged file -/

theorem view_cons_some {value found : Plist} {key : PlistKey} {path : List PlistKey}
    (seen : value.view (key :: path) = some found) :
    ∃ entries next, value = .dict entries ∧ entries.lookup key = some next ∧
      next.view path = some found := by
  cases value with
  | dict entries =>
    obtain ⟨next, here, there⟩ := Option.bind_eq_some_iff.mp seen
    exact ⟨entries, next, rfl, here, there⟩
  | str | int | raw => cases seen

theorem view_nil_str {value : Plist} {s : PyStr} (seen : value.view [] = some (.str s)) :
    value = .str s := by
  cases value with
  | str t =>
    cases seen
    rfl
  | dict | int | raw => cases seen

theorem get_view {value next : Plist} {key : PlistKey}
    (got : value.get key (.dict []) = .ok next) {k : PlistKey} {path : List PlistKey} :
    value.view (key :: k :: path) = next.view (k :: path) := by
  cases value with
  | dict entries =>
    cases here : entries.lookup key with
    | none =>
      simp only [Plist.get, here, Option.getD_none, Except.ok.injEq] at got
      subst got
      simp [Plist.view, here]
    | some found =>
      simp only [Plist.get, here, Option.getD_some, Except.ok.injEq] at got
      subst got
      simp [Plist.view, here]
  | str | int | raw => cases got

/-- The name of the hosted network is what is found under `NAT`, `AirPort`. -/
theorem ssid_iff_view {plist : Plist} {ssid : PyStr} :
    ssidFromNatPlist plist = .ok (some (.str ssid)) ↔
      plist.view [plistKey "NAT", plistKey "AirPort", plistKey "NetworkName"] =
        some (.str ssid) := by
  constructor
  · intro named
    unfold ssidFromNatPlist at named
    cases filled : plist.truthy with
    | false => simp [filled, pure, Except.pure, bind, Except.bind] at named
    | true =>
      simp only [filled, if_true] at named
      obtain ⟨nat, here, named⟩ := bind_eq_ok.mp named
      obtain ⟨airport, there, named⟩ := bind_eq_ok.mp named
      rw [get_view here, get_view there]
      cases airport with
      | dict fields =>
        have name : fields.lookup (plistKey "NetworkName") = some (.str ssid) :=
          Except.ok.inj named
        simp [Plist.view, name]
      | str | int | raw => cases named
  · intro seen
    obtain ⟨entries, nat, rfl, natHere, seen⟩ := view_cons_some seen
    obtain ⟨settings, airport, rfl, airportHere, seen⟩ := view_cons_some seen
    obtain ⟨fields, name, rfl, nameHere, seen⟩ := view_cons_some seen
    cases view_nil_str seen
    have filled : (Plist.dict entries).truthy = true := by
      cases entries with
      | nil => cases natHere
      | cons => rfl
    simp [ssidFromNatPlist, filled, Plist.get, natHere, airportHere, nameHere, bind, Except.bind,
      pure, Except.pure]

/-- **What merging changes**: under `NAT`, `AirPort` becomes the deployment's
and `Enabled` 1; everything else stays. -/
theorem merge_view {old merged : Plist} (merging : self.merge old = .ok merged) :
    ∃ airport, buildNatAirportDict self.config self.channel = .ok airport ∧
      (∀ path, merged.view (plistKey "NAT" :: plistKey "AirPort" :: path) = airport.view path) ∧
      merged.view [plistKey "NAT", plistKey "Enabled"] = some (.int 1) ∧
      (∀ key path, key ≠ plistKey "NAT" → merged.view (key :: path) = old.view (key :: path)) ∧
      ∀ key path, key ≠ plistKey "AirPort" → key ≠ plistKey "Enabled" →
        merged.view (plistKey "NAT" :: key :: path) = old.view (plistKey "NAT" :: key :: path) := by
  obtain ⟨channel, entries, rfl, known⟩ := merge_ok_iff.mp ⟨merged, merging⟩
  obtain ⟨settings, before, mergedEq⟩ : ∃ settings,
      (∀ key path, (Plist.dict entries).view (plistKey "NAT" :: key :: path) =
        (Plist.dict settings).view (key :: path)) ∧
      ∃ airport, buildNatAirportDict self.config self.channel = .ok airport ∧
        merged = .dict (Plist.assign (plistKey "NAT") (.dict
          (Plist.assign (plistKey "Enabled") (.int 1)
            (Plist.assign (plistKey "AirPort") airport settings))) entries) := by
    unfold merge at merging
    cases build : buildNatAirportDict self.config self.channel with
    | error exc => simp [build, bind, Except.bind] at merging
    | ok airport =>
      cases there : entries.lookup (plistKey "NAT") with
      | none =>
        refine ⟨[], ?_, airport, rfl, ?_⟩
        · intro key path
          simp [Plist.view, there]
        · simp only [build, there, bind, Except.bind, pure, Except.pure, Option.getD_none,
            Except.ok.injEq] at merging
          exact merging.symm
      | some nat =>
        obtain ⟨settings, rfl⟩ := known nat there
        refine ⟨settings, ?_, airport, rfl, ?_⟩
        · intro key path
          simp [Plist.view, there]
        · simp only [build, there, bind, Except.bind, pure, Except.pure, Option.getD_some,
            Except.ok.injEq] at merging
          exact merging.symm
  obtain ⟨airport, build, rfl⟩ := mergedEq
  have distinct : plistKey "AirPort" ≠ plistKey "Enabled" := by decide
  refine ⟨airport, build, ?_, ?_, ?_, ?_⟩
  · intro path
    simp [Plist.view, lookup_assign, distinct]
  · simp [Plist.view, lookup_assign]
  · intro key path other
    simp [Plist.view, lookup_assign, other]
  · intro key path notAirport notEnabled
    rw [before]
    simp [Plist.view, lookup_assign, notAirport, notEnabled]

/-! ## The verdict -/

/-- The content reads back as a property list that names the SSID. -/
def Names (lib : PlistLib) (content : Bytes) (ssid : PyStr) : Prop :=
  ∃ loaded, lib.load content = .ok loaded ∧
    loaded.view [plistKey "NAT", plistKey "AirPort", plistKey "NetworkName"] = some (.str ssid)

/-- The parser gives up on the content, or finds something else than dictionaries
on the way to the SSID. -/
def Garbled (lib : PlistLib) (content : Bytes) : Prop :=
  lib.load content = .error false ∨
    ∃ loaded exc, lib.load content = .ok loaded ∧ ssidFromNatPlist loaded = .error exc

/-- **The self-check** of a file that is there. -/
theorem verify_cases (self : InternetSharing) (lib : PlistLib) (content : Bytes) (reads : Bool) :
    (self.verifyConsistency lib (some content) reads = .ok true ↔
      reads = true ∧ Names lib content self.config.ssid) ∧
    ((∃ exc, self.verifyConsistency lib (some content) reads = .error exc) ↔
      reads = true ∧ Garbled lib content) := by
  unfold verifyConsistency configuredSsid WifiDeploymentConfig.verifyConsistency Names Garbled
  cases reads with
  | false => simp [readPlist, Except.map, bind, Except.bind, pure, Except.pure]
  | true =>
    simp only [readPlist]
    cases loads : lib.load content with
    | error invalid =>
      cases invalid <;> simp [Except.map, bind, Except.bind, pure, Except.pure]
    | ok loaded =>
      simp only [← ssid_iff_view, Except.ok.injEq, exists_eq_left', true_and, reduceCtorEq,
        false_or]
      cases named : ssidFromNatPlist loaded with
      | error exc => simp [named, Except.map, bind, Except.bind]
      | ok name =>
        cases name with
        | none => simp [named, Except.map, bind, Except.bind, pure, Except.pure]
        | some value =>
          cases value <;>
            simp [named, Plist.asStr, Except.map, bind, Except.bind, pure, Except.pure]

/-- What `start` comes to once the new file is in its place. -/
theorem start_installed {host : Host} {io : StartOutcome} (able : (host.darwin && host.root) = true)
    {content : Bytes} {after : Disk} (there : after.natPlist = some content)
    (wrote : self.writeSharingConfig lib io disk = (after, .ok ())) :
    self.start lib host io disk = (after, io.launches.bind fun code =>
      if code = 0 then self.verifyConsistency lib (some content) io.rereads else .ok false) := by
  simp only [start, able, if_true, wrote, there]
  cases io.launches with
  | error exc => rfl
  | ok code => by_cases zero : code = 0 <;> simp [zero, Except.bind]

/-- The AP is up exactly if the node may act, the new file is installed, the job
runs, and the file names the deployment. -/
theorem start_up_iff {host : Host} {io : StartOutcome} :
    (self.start lib host io disk).2 = .ok true ↔
      host.darwin = true ∧ host.root = true ∧ ∃ content, self.Installed lib disk io content ∧
        io.launches = .ok 0 ∧ io.rereads = true ∧ Names lib content self.config.ssid := by
  by_cases able : (host.darwin && host.root) = true
  · obtain ⟨darwin, root⟩ := (Bool.and_eq_true _ _).mp able
    simp only [darwin, root, true_and]
    obtain ⟨content, installed, wrote⟩ | ⟨after, -, -, never, wrote⟩ |
      ⟨after, exc, -, other, trips, wrote⟩ := write_cases self lib io disk
    · have checked := (verify_cases self lib content io.rereads).1
      rw [start_installed able rfl wrote]
      constructor
      · intro up
        cases launched : io.launches with
        | error exc => simp [launched, Except.bind] at up
        | ok code =>
          by_cases zero : code = 0
          · simp only [launched, Except.bind, zero, if_true] at up
            exact ⟨content, installed, by rw [zero], checked.mp up⟩
          · simp [launched, Except.bind, zero] at up
      · rintro ⟨content', installed', launched, names⟩
        cases installed_unique installed installed'
        simp only [launched, Except.bind, if_true]
        exact checked.mpr names
    · simp only [start, able, if_true, wrote]
      refine iff_of_false (by simp) ?_
      rintro ⟨content, installed, -⟩
      exact never content installed
    · simp only [start, able, if_true, wrote, if_neg other]
      refine iff_of_false (by simp) ?_
      rintro ⟨content, installed, -⟩
      exact installed_smooth installed trips
  · rw [start, if_neg able]
    refine iff_of_false (by simp) ?_
    rintro ⟨darwin, root, -⟩
    exact able ((Bool.and_eq_true _ _).mpr ⟨darwin, root⟩)

/-- What makes `start` raise: writing trips, `launchctl` cannot be run, or the new
file cannot be read back. -/
def Fails (self : InternetSharing) (lib : PlistLib) (host : Host) (io : StartOutcome)
    (disk : Disk) : Prop :=
  host.darwin = true ∧ host.root = true ∧
    (self.Trips lib disk io ∨ ∃ content, self.Installed lib disk io content ∧
      ((∃ exc, io.launches = .error exc) ∨
        io.launches = .ok 0 ∧ io.rereads = true ∧ Garbled lib content))

theorem start_raises_iff {host : Host} {io : StartOutcome} :
    (∃ exc, (self.start lib host io disk).2 = .error exc) ↔ self.Fails lib host io disk := by
  unfold Fails
  by_cases able : (host.darwin && host.root) = true
  · obtain ⟨darwin, root⟩ := (Bool.and_eq_true _ _).mp able
    simp only [darwin, root, true_and]
    obtain ⟨content, installed, wrote⟩ | ⟨after, -, smooth, never, wrote⟩ |
      ⟨after, exc, -, other, trips, wrote⟩ := write_cases self lib io disk
    · have checked := (verify_cases self lib content io.rereads).2
      rw [start_installed able rfl wrote]
      constructor
      · rintro ⟨exc, raises⟩
        refine .inr ⟨content, installed, ?_⟩
        cases launched : io.launches with
        | error exc => exact .inl ⟨exc, rfl⟩
        | ok code =>
          by_cases zero : code = 0
          · simp only [launched, Except.bind, zero, if_true] at raises
            exact .inr ⟨by rw [zero], checked.mp ⟨exc, raises⟩⟩
          · simp [launched, Except.bind, zero] at raises
      · rintro (trips | ⟨content', installed', ⟨exc, launched⟩ | ⟨launched, garbled⟩⟩)
        · exact absurd trips (installed_smooth installed)
        · simp [launched, Except.bind]
        · cases installed_unique installed installed'
          simp only [launched, Except.bind, if_true]
          exact checked.mpr garbled
    · simp only [start, able, if_true, wrote]
      refine iff_of_false (by simp) ?_
      rintro (trips | ⟨content, installed, -⟩)
      · exact smooth trips
      · exact never content installed
    · simp only [start, able, if_true, wrote, if_neg other]
      exact iff_of_true ⟨exc, rfl⟩ (.inl trips)
  · rw [start, if_neg able]
    refine iff_of_false (by simp) ?_
    rintro ⟨darwin, root, -⟩
    exact able ((Bool.and_eq_true _ _).mpr ⟨darwin, root⟩)

/-- **When the AP comes up, and when `start` raises.** It is up exactly if the
node may act, the new file is installed, the job runs and the file reads back with
the SSID. For all that it is best effort, `start` raises exactly if the file cannot
be parsed; if it or its `NAT` is no dictionary or the channel is not one of 2.4
GHz, while the copy is made; if what it loaded cannot be dumped; if `launchctl`
cannot be run; or if the job runs and the new file cannot be read back. -/
theorem start_verdict (self : InternetSharing) (lib : PlistLib) (host : Host) (io : StartOutcome)
    (disk : Disk) :
    ((self.start lib host io disk).2 = .ok true ↔
      host.darwin = true ∧ host.root = true ∧ ∃ content, self.Installed lib disk io content ∧
        io.launches = .ok 0 ∧ io.rereads = true ∧ Names lib content self.config.ssid) ∧
    ((∃ exc, (self.start lib host io disk).2 = .error exc) ↔
      host.darwin = true ∧ host.root = true ∧
        (self.Trips lib disk io ∨ ∃ content, self.Installed lib disk io content ∧
          ((∃ exc, io.launches = .error exc) ∨
            io.launches = .ok 0 ∧ io.rereads = true ∧ Garbled lib content))) :=
  ⟨start_up_iff, start_raises_iff⟩

/-- **What `start` changes.** The file is as it was, or it is what is dumped of the
one that was read with the deployment's AP in `NAT`, `NAT` enabled and everything
else as it was read; and what was there before is in the copy unless there was
one. -/
theorem settings_merged (self : InternetSharing) (lib : PlistLib) (host : Host)
    (io : StartOutcome) (disk : Disk) :
    (self.start lib host io disk).1.natPlist = disk.natPlist ∨
    ∃ old merged content airport, found lib disk io.reads = .ok old ∧
      lib.dump merged = (content, .ok ()) ∧
      self.start lib host io disk =
        (⟨some content, disk.backup.or disk.natPlist, none⟩, (self.start lib host io disk).2) ∧
      buildNatAirportDict self.config self.channel = .ok airport ∧
      (∀ path, merged.view (plistKey "NAT" :: plistKey "AirPort" :: path) = airport.view path) ∧
      merged.view [plistKey "NAT", plistKey "Enabled"] = some (.int 1) ∧
      (∀ key path, key ≠ plistKey "NAT" → merged.view (key :: path) = old.view (key :: path)) ∧
      ∀ key path, key ≠ plistKey "AirPort" → key ≠ plistKey "Enabled" →
        merged.view (plistKey "NAT" :: key :: path) =
          old.view (plistKey "NAT" :: key :: path) := by
  by_cases able : (host.darwin && host.root) = true
  · rcases write_cases self lib io disk with ⟨content, installed, wrote⟩ |
      ⟨after, kept, -, -, wrote⟩ | ⟨after, exc, kept, -, -, wrote⟩
    · right
      obtain ⟨-, merged, ⟨-, -, old, read, merging⟩, dumped⟩ := installed
      obtain ⟨airport, build, views⟩ := merge_view merging
      refine ⟨old, merged, content, airport, read, dumped, ?_, build, views⟩
      rw [start_installed able rfl wrote]
    · left
      simp [start, able, wrote, kept]
    · left
      simp [start, able, wrote, kept]
  · left
    simp [start, able]

end InternetSharing

namespace Sample

/-- A Mac that shares another interface already. -/
def sharing : Plist :=
  .dict [(plistKey "NAT",
    .dict [(plistKey "Enabled", .int 0), (plistKey "SharingDevices", .raw [9] true)])]

def mac : InternetSharing := ⟨⟨text "MeshLink-Network", text "venue-secret-2026"⟩, 6⟩

/-- A library that reads the two files below, and dumps no UID. -/
def plistLib : PlistLib where
  load := fun bytes =>
    if bytes = [1] then .ok sharing
    else if bytes = [2] then (mac.merge sharing).mapError fun _ => true
    else if bytes = [3] then .ok (.dict [(plistKey "Owner", .raw [128] true)])
    else .error true
  dump := fun plist =>
    match plist.view [plistKey "Owner"] with
    | none => ([2], .ok ())
    | some _ => ([], .error .typeError)

def sharedDisk : Disk := ⟨some [1], none, none⟩

def allWell : StartOutcome := ⟨true, .ok (), .ok (), true, .ok 0, true⟩

example : (mac.start plistLib ⟨true, true⟩ allWell sharedDisk).2 = .ok true := by rfl

/-- A property list that loads and cannot be dumped ends `start`. -/
example : (mac.start plistLib ⟨true, true⟩ allWell ⟨some [3], none, none⟩).2 =
    .error .typeError := by rfl

end Sample

end MeshlinkNode
