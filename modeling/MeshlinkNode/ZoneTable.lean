import MeshlinkNode.Python
import MeshlinkNode.Lib.Assoc
import MeshlinkNode.Lib.Runs
import Mathlib.Algebra.Order.Ring.Rat
import Mathlib.Data.Set.Card
import Mathlib.Tactic.Linarith

/-!
# Dynamic zone table

Zone to node address. Announcements fill it; an entry that is not announced
again ages out. Zones the operator pinned never do, and serve as a fallback.
-/

namespace MeshlinkNode

structure DynamicZoneTable (α : Type) where
  entryTtlS : Seconds
  pinned : Dict Int α
  learned : Dict Int (α × Seconds)

namespace DynamicZoneTable

variable {α : Type}

def new (seed : Dict Int α) (entryTtlS : Seconds) : DynamicZoneTable α := ⟨entryTtlS, seed, ∅⟩

def expired (table : DynamicZoneTable α) (lastSeen now : Seconds) : Prop :=
  table.entryTtlS < now - lastSeen

instance (table : DynamicZoneTable α) (lastSeen now : Seconds) :
    Decidable (table.expired lastSeen now) :=
  inferInstanceAs (Decidable (_ < _))

def learn (table : DynamicZoneTable α) (zoneId : Int) (addr : α) (now : Seconds) :
    DynamicZoneTable α :=
  { table with learned := Assoc.set table.learned zoneId (addr, now) }

def addrFor (table : DynamicZoneTable α) (zoneId : Int) (now : Seconds) : Option α :=
  match table.learned.lookup zoneId with
  | some (addr, seen) =>
    if table.expired seen now then table.pinned.lookup zoneId else some addr
  | none => table.pinned.lookup zoneId

variable (table : DynamicZoneTable α) (zoneId : Int) (addr : α) (now : Seconds)

@[simp] theorem learned_learn_same :
    (table.learn zoneId addr now).learned.lookup zoneId = some (addr, now) :=
  (Assoc.lookup_set _ _ _ _).trans (if_pos rfl)

theorem learned_learn_ne {zoneId other : Int} (h : other ≠ zoneId) :
    (table.learn zoneId addr now).learned.lookup other = table.learned.lookup other :=
  (Assoc.lookup_set _ _ _ _).trans (if_neg h)

variable {table zoneId addr now}

theorem addrFor_fresh {seen : Seconds} (entry : table.learned.lookup zoneId = some (addr, seen))
    (fresh : ¬ table.expired seen now) : table.addrFor zoneId now = some addr := by
  simp only [addrFor, entry, if_neg fresh]

theorem addrFor_expired {seen : Seconds} (entry : table.learned.lookup zoneId = some (addr, seen))
    (old : table.expired seen now) : table.addrFor zoneId now = table.pinned.lookup zoneId := by
  simp only [addrFor, entry, if_pos old]

theorem addrFor_unlearned (none : table.learned.lookup zoneId = none) :
    table.addrFor zoneId now = table.pinned.lookup zoneId := by
  simp only [addrFor, none]

/-! ## The other queries -/

/-- `{z: addr for z, (addr, seen) in … if not self._expired(seen)}`. -/
def freshEntries (table : DynamicZoneTable α) (now : Seconds) : List (Int × α) :=
  table.learned.entries.filterMap fun e =>
    if table.expired e.2.2 now then none else some (e.1, e.2.1)

def knownZones (table : DynamicZoneTable α) (now : Seconds) : Finset Int :=
  ((table.freshEntries now).map Prod.fst ++ table.pinned.keys).toFinset

def peerCount (table : DynamicZoneTable α) (ownZoneId : Int) (now : Seconds) : Nat :=
  (table.knownZones now \ {ownZoneId}).card

def snapshot (table : DynamicZoneTable α) (now : Seconds) : Dict Int α :=
  Assoc.update table.pinned (table.freshEntries now)

/-- The clock is read again for each entry: `readings` says what it showed. -/
def forgetStale (table : DynamicZoneTable α) (readings : Int → Seconds) :
    DynamicZoneTable α × List Int :=
  let gone := (table.learned.entries.filter fun e => table.expired e.2.2 (readings e.1)).map
    Sigma.fst
  ({ table with learned := Assoc.eraseAll table.learned gone }, gone)

theorem mem_freshEntries {table : DynamicZoneTable α} {now : Seconds} {z : Int} {a : α} :
    (z, a) ∈ table.freshEntries now ↔
      ∃ seen, table.learned.lookup z = some (a, seen) ∧ ¬ table.expired seen now := by
  simp only [freshEntries, List.mem_filterMap]
  constructor
  · rintro ⟨⟨zone, addr, seen⟩, mem, kept⟩
    split at kept
    · cases kept
    · cases kept
      exact ⟨seen, AList.mem_lookup_iff.mpr mem, by assumption⟩
  · rintro ⟨seen, entry, fresh⟩
    exact ⟨⟨z, a, seen⟩, AList.mem_lookup_iff.mp entry, if_neg fresh⟩

theorem mem_freshZones {table : DynamicZoneTable α} {now : Seconds} {z : Int} :
    z ∈ (table.freshEntries now).map Prod.fst ↔
      ∃ a seen, table.learned.lookup z = some (a, seen) ∧ ¬ table.expired seen now := by
  constructor
  · intro mem
    obtain ⟨⟨zone, a⟩, entry, rfl⟩ := List.mem_map.mp mem
    exact ⟨a, mem_freshEntries.mp entry⟩
  · rintro ⟨a, entry⟩
    exact List.mem_map.mpr ⟨(z, a), mem_freshEntries.mpr entry, rfl⟩

theorem freshEntries_once (table : DynamicZoneTable α) (now : Seconds) :
    ((table.freshEntries now).map Prod.fst).Nodup := by
  have sub : ((table.freshEntries now).map Prod.fst).Sublist table.learned.keys := by
    simp only [freshEntries, AList.keys, List.keys]
    induction table.learned.entries with
    | nil => exact .slnil
    | cons e es ih =>
      by_cases old : table.expired e.2.2 now
      · simpa [old] using ih.cons e.1
      · simpa [old] using ih
  exact sub.nodup table.learned.keys_nodup

/-- **The views agree.** `known_zones` and `snapshot` are `addr_for`, taken over
all zones. -/
theorem snapshot_lookup (table : DynamicZoneTable α) (z : Int) (now : Seconds) :
    (table.snapshot now).lookup z = table.addrFor z now := by
  cases entry : table.learned.lookup z with
  | none =>
    have absent : z ∉ (table.freshEntries now).map Prod.fst := by
      simp [mem_freshZones, entry]
    rw [snapshot, Assoc.lookup_update_of_notMem absent, addrFor_unlearned entry]
  | some e =>
    obtain ⟨a, seen⟩ := e
    by_cases old : table.expired seen now
    · have absent : z ∉ (table.freshEntries now).map Prod.fst := by
        simp [mem_freshZones, entry, old]
      rw [snapshot, Assoc.lookup_update_of_notMem absent, addrFor_expired entry old]
    · have mem := mem_freshEntries.mpr ⟨seen, entry, old⟩
      rw [snapshot, Assoc.lookup_update_of_mem (table.freshEntries_once now) mem,
        addrFor_fresh entry old]

theorem mem_knownZones {table : DynamicZoneTable α} {z : Int} {now : Seconds} :
    z ∈ table.knownZones now ↔ (table.addrFor z now).isSome := by
  have keys : z ∈ table.pinned.keys ↔ (table.pinned.lookup z).isSome :=
    AList.mem_keys.symm.trans AList.lookup_isSome.symm
  rw [knownZones, List.mem_toFinset, List.mem_append, keys, mem_freshZones]
  cases entry : table.learned.lookup z with
  | none => simp [addrFor_unlearned entry]
  | some e =>
    obtain ⟨a, seen⟩ := e
    by_cases old : table.expired seen now
    · simp [addrFor_expired entry old, old]
    · simp [addrFor_fresh entry old, old]

theorem peerCount_eq (table : DynamicZoneTable α) (ownZoneId : Int) (now : Seconds) :
    table.peerCount ownZoneId now =
      {z | z ≠ ownZoneId ∧ (table.addrFor z now).isSome}.ncard := by
  have same : {z | z ≠ ownZoneId ∧ (table.addrFor z now).isSome} =
      (table.knownZones now \ {ownZoneId} : Finset Int) := by
    ext z
    simp [mem_knownZones, and_comm]
  rw [same, Set.ncard_coe_finset]
  rfl

theorem mem_gone {readings : Int → Seconds} {z : Int} :
    z ∈ (table.forgetStale readings).2 ↔
      ∃ a seen, table.learned.lookup z = some (a, seen) ∧ table.expired seen (readings z) := by
  simp only [forgetStale, List.mem_map, List.mem_filter]
  constructor
  · rintro ⟨⟨zone, a, seen⟩, ⟨mem, old⟩, rfl⟩
    exact ⟨a, seen, AList.mem_lookup_iff.mpr mem, of_decide_eq_true old⟩
  · rintro ⟨a, seen, entry, old⟩
    exact ⟨⟨z, a, seen⟩, ⟨AList.mem_lookup_iff.mp entry, decide_eq_true old⟩, rfl⟩

theorem forgetStale_lookup (readings : Int → Seconds) (z : Int) :
    (table.forgetStale readings).1.learned.lookup z =
      if z ∈ (table.forgetStale readings).2 then none else table.learned.lookup z :=
  Assoc.lookup_eraseAll _ _ z

/-- `forget_stale` answers what it removed, each zone once. -/
theorem forgetStale_answer (table : DynamicZoneTable α) (readings : Int → Seconds) :
    (table.forgetStale readings).2.Nodup ∧
    ∀ z, z ∈ (table.forgetStale readings).2 ↔
      z ∈ table.learned ∧ z ∉ (table.forgetStale readings).1.learned := by
  constructor
  · have sub : (table.forgetStale readings).2.Sublist table.learned.keys :=
      List.Sublist.map _ List.filter_sublist
    exact sub.nodup table.learned.keys_nodup
  · intro z
    rw [← AList.lookup_isSome, ← AList.lookup_eq_none, forgetStale_lookup]
    constructor
    · intro gone
      obtain ⟨a, seen, entry, -⟩ := mem_gone.mp gone
      exact ⟨by simp [entry], if_pos gone⟩
    · rintro ⟨held, now⟩
      by_contra kept
      rw [if_neg kept] at now
      simp [now] at held

/-! ## Runs -/

/-- A write to the table, with what the clock showed. -/
inductive Change (α : Type) where
  | learn (zoneId : Int) (addr : α) (reading : Seconds)
  | forgetStale (readings : Int → Seconds)

namespace Change

def isLearn : Change α → Bool
  | .learn .. => true
  | .forgetStale _ => false

/-- The clock showed `t` at some point of the call. -/
def Reads : Change α → Seconds → Prop
  | .learn _ _ reading, t => reading = t
  | .forgetStale readings, t => ∃ z, readings z = t

end Change

def apply (table : DynamicZoneTable α) : Change α → DynamicZoneTable α
  | .learn zoneId addr reading => table.learn zoneId addr reading
  | .forgetStale readings => (table.forgetStale readings).1

/-- The table after the changes, the oldest first. -/
abbrev after (seed : Dict Int α) (entryTtlS : Seconds) (changes : List (Change α)) :
    DynamicZoneTable α :=
  Runs.run apply (new seed entryTtlS) changes

/-- The last announcement of a zone, and when it was heard. -/
def lastLearn (zoneId : Int) (changes : List (Change α)) : Option (α × Seconds) :=
  changes.foldl (fun last change => match change with
    | .learn z addr reading => if z = zoneId then some (addr, reading) else last
    | .forgetStale _ => last) none

/-- Where a zone is to be found by its history alone: the last announcement if
it is at most the ttl old, else the seed. -/
def routed (seed : Dict Int α) (entryTtlS : Seconds) (changes : List (Change α)) (zoneId : Int)
    (now : Seconds) : Option α :=
  match lastLearn zoneId changes with
  | some (addr, seen) => if now - seen ≤ entryTtlS then some addr else seed.lookup zoneId
  | none => seed.lookup zoneId

theorem lastLearn_snoc_learn (changes : List (Change α)) (z zoneId : Int) (addr : α)
    (reading : Seconds) :
    lastLearn zoneId (changes ++ [.learn z addr reading]) =
      if z = zoneId then some (addr, reading) else lastLearn zoneId changes := by
  simp [lastLearn]

@[simp] theorem lastLearn_snoc_forget (changes : List (Change α)) (zoneId : Int)
    (readings : Int → Seconds) :
    lastLearn zoneId (changes ++ [.forgetStale readings]) = lastLearn zoneId changes := by
  simp [lastLearn]

theorem lastLearn_erase (changes : List (Change α)) (zoneId : Int) :
    lastLearn zoneId (changes.filter Change.isLearn) = lastLearn zoneId changes := by
  induction changes using List.reverseRecOn with
  | nil => rfl
  | append_singleton changes change ih =>
    cases change with
    | learn z addr reading =>
      have keep : (changes ++ [Change.learn z addr reading]).filter Change.isLearn =
          changes.filter Change.isLearn ++ [.learn z addr reading] := by simp [Change.isLearn]
      rw [keep, lastLearn_snoc_learn, lastLearn_snoc_learn, ih]
    | forgetStale readings =>
      have drop : (changes ++ [Change.forgetStale readings]).filter Change.isLearn =
          changes.filter Change.isLearn := by simp [Change.isLearn]
      rw [drop, ih, lastLearn_snoc_forget]

theorem lastLearn_mem {changes : List (Change α)} {z : Int} {addr : α} {seen : Seconds}
    (last : lastLearn z changes = some (addr, seen)) : .learn z addr seen ∈ changes := by
  induction changes using List.reverseRecOn with
  | nil => cases last
  | append_singleton changes change ih =>
    cases change with
    | forgetStale readings =>
      rw [lastLearn_snoc_forget] at last
      exact List.mem_append_left _ (ih last)
    | learn zone a reading =>
      rw [lastLearn_snoc_learn] at last
      by_cases same : zone = z
      · subst same
        rw [if_pos rfl] at last
        cases last
        exact List.mem_append_right _ List.mem_cons_self
      · rw [if_neg same] at last
        exact List.mem_append_left _ (ih last)

/-- What the table owes its history: each zone's entry is its last announcement,
or was dropped at a reading at which that was too old. -/
structure Remembers (seed : Dict Int α) (entryTtlS : Seconds) (changes : List (Change α))
    (table : DynamicZoneTable α) : Prop where
  pinned : table.pinned = seed
  ttl : table.entryTtlS = entryTtlS
  entries : ∀ z, table.learned.lookup z = lastLearn z changes ∨
    table.learned.lookup z = none ∧ ∃ addr seen reading,
      lastLearn z changes = some (addr, seen) ∧ entryTtlS < reading - seen ∧
      ∃ change ∈ changes, change.Reads reading

theorem remembers_after (seed : Dict Int α) (entryTtlS : Seconds) (changes : List (Change α)) :
    Remembers seed entryTtlS changes (after seed entryTtlS changes) := by
  refine Runs.history (s := new seed entryTtlS) (Remembers seed entryTtlS)
    ⟨rfl, rfl, fun z => .inl (AList.lookup_empty z)⟩ ?_ changes
  intro past table change kept
  cases change with
  | learn zoneId addr reading =>
    refine ⟨kept.pinned, kept.ttl, ?_⟩
    intro z
    rw [lastLearn_snoc_learn]
    by_cases same : zoneId = z
    · subst same
      exact .inl (by simp [apply])
    · have entry : (table.learn zoneId addr reading).learned.lookup z = table.learned.lookup z :=
        learned_learn_ne table addr reading (Ne.symm same)
      simp only [apply, entry, if_neg same]
      rcases kept.entries z with held | ⟨gone, a, seen, r, last, old, c, mem, reads⟩
      · exact .inl held
      · exact .inr ⟨gone, a, seen, r, last, old, c, List.mem_append_left _ mem, reads⟩
  | forgetStale readings =>
    refine ⟨kept.pinned, kept.ttl, ?_⟩
    intro z
    rw [lastLearn_snoc_forget]
    simp only [apply, forgetStale_lookup]
    rcases kept.entries z with held | ⟨gone, a, seen, r, last, old, c, mem, reads⟩
    · by_cases now : z ∈ (table.forgetStale readings).2
      · obtain ⟨a, seen, entry, old⟩ := mem_gone.mp now
        rw [expired, kept.ttl] at old
        refine .inr ⟨if_pos now, a, seen, readings z, held.symm.trans entry, old, ?_⟩
        exact ⟨.forgetStale readings, List.mem_append_right _ List.mem_cons_self, z, rfl⟩
      · exact .inl ((if_neg now).trans held)
    · refine .inr ⟨?_, a, seen, r, last, old, c, List.mem_append_left _ mem, reads⟩
      simp [gone]

/-- A table that remembers its history routes by it at every later reading. -/
theorem Remembers.addrFor {seed : Dict Int α} {entryTtlS : Seconds} {changes : List (Change α)}
    {table : DynamicZoneTable α} (kept : Remembers seed entryTtlS changes table) {now : Seconds}
    (later : ∀ change ∈ changes, ∀ reading, change.Reads reading → reading ≤ now) (z : Int) :
    table.addrFor z now = routed seed entryTtlS changes z now := by
  rcases kept.entries z with held | ⟨gone, a, seen, r, last, old, c, mem, reads⟩
  · cases last : lastLearn z changes with
    | none =>
      rw [addrFor_unlearned (held.trans last), kept.pinned]
      simp only [routed, last]
    | some entry =>
      obtain ⟨a, seen⟩ := entry
      simp only [routed, last]
      by_cases fresh : now - seen ≤ entryTtlS
      · rw [if_pos fresh, addrFor_fresh (held.trans last)]
        rw [expired, kept.ttl]
        exact not_lt.mpr fresh
      · rw [if_neg fresh, addrFor_expired (held.trans last), kept.pinned]
        rw [expired, kept.ttl]
        exact not_le.mp fresh
  · have past := later c mem r reads
    have still : ¬ now - seen ≤ entryTtlS := by linarith
    rw [addrFor_unlearned gone, kept.pinned]
    simp only [routed, last, if_neg still]

theorem routed_erase {seed : Dict Int α} {entryTtlS : Seconds} {changes others : List (Change α)}
    (same : others.filter Change.isLearn = changes.filter Change.isLearn) (z : Int)
    (now : Seconds) : routed seed entryTtlS others z now = routed seed entryTtlS changes z now := by
  have last : lastLearn z others = lastLearn z changes := by
    rw [← lastLearn_erase others, ← lastLearn_erase changes, same]
  simp only [routed, last]

theorem gone_stale {seed : Dict Int α} {entryTtlS : Seconds} {changes : List (Change α)}
    {table : DynamicZoneTable α} (kept : Remembers seed entryTtlS changes table)
    {readings : Int → Seconds} {z : Int} (gone : z ∈ (table.forgetStale readings).2) :
    ∃ addr seen, lastLearn z changes = some (addr, seen) ∧ entryTtlS < readings z - seen := by
  obtain ⟨a, seen, entry, old⟩ := mem_gone.mp gone
  rw [expired, kept.ttl] at old
  rcases kept.entries z with held | ⟨dropped, -⟩
  · exact ⟨a, seen, held.symm.trans entry, old⟩
  · cases dropped.symm.trans entry

/-- Two tables no query tells apart at `now`. -/
structure SameAnswers (table other : DynamicZoneTable α) (now : Seconds) : Prop where
  addrFor : ∀ z, table.addrFor z now = other.addrFor z now
  knownZones : table.knownZones now = other.knownZones now
  snapshot : ∀ z, (table.snapshot now).lookup z = (other.snapshot now).lookup z
  peerCount : ∀ own, table.peerCount own now = other.peerCount own now

theorem sameAnswers {table other : DynamicZoneTable α} {now : Seconds}
    (same : ∀ z, table.addrFor z now = other.addrFor z now) : SameAnswers table other now := by
  have zones : table.knownZones now = other.knownZones now := by
    ext z
    rw [mem_knownZones, mem_knownZones, same]
  refine ⟨same, zones, ?_, ?_⟩
  · intro z
    rw [snapshot_lookup, snapshot_lookup, same]
  · intro own
    rw [DynamicZoneTable.peerCount, zones, DynamicZoneTable.peerCount]

/-- What a table promises about its history, at one reading of the clock. -/
structure RefinesHistory (seed : Dict Int α) (entryTtlS : Seconds) (changes : List (Change α))
    (now : Seconds) : Prop where
  addrFor : ∀ z, (after seed entryTtlS changes).addrFor z now =
    routed seed entryTtlS changes z now
  knownZones : ∀ z, z ∈ (after seed entryTtlS changes).knownZones now ↔
    (routed seed entryTtlS changes z now).isSome
  snapshot : ∀ z, ((after seed entryTtlS changes).snapshot now).lookup z =
    routed seed entryTtlS changes z now
  peerCount : ∀ own, (after seed entryTtlS changes).peerCount own now =
    {z | z ≠ own ∧ (routed seed entryTtlS changes z now).isSome}.ncard
  forgets : ∀ readings, ((after seed entryTtlS changes).forgetStale readings).2.Nodup ∧
    ∀ z, (z ∈ ((after seed entryTtlS changes).forgetStale readings).2 ↔
      z ∈ (after seed entryTtlS changes).learned ∧
        z ∉ ((after seed entryTtlS changes).forgetStale readings).1.learned) ∧
      (z ∈ ((after seed entryTtlS changes).forgetStale readings).2 →
        ∃ addr seen, lastLearn z changes = some (addr, seen) ∧ entryTtlS < readings z - seen)
  erases : ∀ others : List (Change α),
    others.filter Change.isLearn = changes.filter Change.isLearn →
    (∀ change ∈ others, ∀ reading, change.Reads reading → reading ≤ now) →
    SameAnswers (after seed entryTtlS others) (after seed entryTtlS changes) now

/-- **The table refines its history**, whatever the order of the calls. Nothing
is asked of the clock but that it has not gone back since any of them. -/
theorem refines_history (seed : Dict Int α) (entryTtlS : Seconds) (changes : List (Change α))
    (now : Seconds)
    (later : ∀ change ∈ changes, ∀ reading, change.Reads reading → reading ≤ now) :
    RefinesHistory seed entryTtlS changes now := by
  have kept := remembers_after seed entryTtlS changes
  have route := kept.addrFor later
  refine ⟨route, ?_, ?_, ?_, ?_, ?_⟩
  · intro z
    rw [mem_knownZones, route]
  · intro z
    rw [snapshot_lookup, route]
  · intro own
    simp only [peerCount_eq, route]
  · intro readings
    obtain ⟨once, removed⟩ := forgetStale_answer (after seed entryTtlS changes) readings
    exact ⟨once, fun z => ⟨removed z, gone_stale kept⟩⟩
  · intro others same early
    apply sameAnswers
    intro z
    rw [(remembers_after seed entryTtlS others).addrFor early, route, routed_erase same]

/-- A zone announced once, looked at exactly one ttl later. -/
theorem refines_history_boundary :
    RefinesHistory (∅ : Dict Int String) 180
      [.learn 2 "10.77.0.2" 20, .forgetStale fun _ => 150] 200 := by
  apply refines_history
  intro change mem reading reads
  rcases List.mem_pair.mp mem with rfl | rfl
  · obtain rfl : (20 : Seconds) = reading := reads
    norm_num
  · obtain ⟨-, rfl⟩ := reads
    norm_num

end DynamicZoneTable

end MeshlinkNode
