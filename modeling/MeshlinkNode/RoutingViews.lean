import MeshlinkNode.ZoneSync
import MeshlinkNode.JsonText

/-!
# When the routing views agree

The table stores whatever address an announcement carried. A zone is known as
soon as it has a fresh entry; `addr_for` hands the entry's address out, be it one or
not. What counts as an address is left open, as long as what the operator
pinned is one.
-/

namespace MeshlinkNode

namespace DynamicZoneTable

variable {α : Type} (usable : α → Prop)

/-- `addr_for` yields an address. -/
def Yields (table : DynamicZoneTable α) (z : Int) (now : Seconds) : Prop :=
  ∃ addr, table.addrFor z now = some addr ∧ usable addr

/-- The views agree on a zone after some changes: it is known exactly when it
can be routed to, and while nothing usable is learned its pin is returned. -/
structure Agree (seed : Dict Int α) (entryTtlS : Seconds) (changes : List (Change α))
    (table : DynamicZoneTable α) (now : Seconds) (z : Int) : Prop where
  known : z ∈ table.knownZones now ↔ table.Yields usable z now
  pinned : ∀ pin, seed.lookup z = some pin →
    (∀ addr seen, .learn z addr seen ∈ changes → now - seen ≤ entryTtlS → ¬ usable addr) →
    table.addrFor z now = some pin

variable {usable} {seed : Dict Int α} {entryTtlS : Seconds} {changes : List (Change α)}
  {table : DynamicZoneTable α} {now : Seconds}

theorem yields_routed (pins : ∀ z pin, seed.lookup z = some pin → usable pin) {z : Int}
    (last : ∀ addr seen, lastLearn z changes = some (addr, seen) → now - seen ≤ entryTtlS →
      usable addr) {addr : α} (found : routed seed entryTtlS changes z now = some addr) :
    usable addr := by
  unfold routed at found
  split at found
  · rename_i a seen learned
    split at found
    · rename_i fresh
      cases found
      exact last _ _ learned fresh
    · exact pins z addr found
  · exact pins z addr found

/-- **When the views agree on a zone**: its last announcement, while fresh, has
an address in it. -/
theorem agree_iff (pins : ∀ z pin, seed.lookup z = some pin → usable pin) {z : Int}
    (route : table.addrFor z now = routed seed entryTtlS changes z now) :
    Agree usable seed entryTtlS changes table now z ↔
      ∀ addr seen, lastLearn z changes = some (addr, seen) → now - seen ≤ entryTtlS →
        usable addr := by
  constructor
  · intro agree addr seen last fresh
    have out : table.addrFor z now = some addr := by
      rw [route]
      simp only [routed, last, if_pos fresh]
    have known : z ∈ table.knownZones now := mem_knownZones.mpr (by simp [out])
    obtain ⟨found, yields, good⟩ := agree.known.mp known
    cases out.symm.trans yields
    exact good
  · intro last
    refine ⟨?_, ?_⟩
    · rw [mem_knownZones, Option.isSome_iff_exists]
      constructor
      · rintro ⟨addr, found⟩
        exact ⟨addr, found, yields_routed pins last (route.symm.trans found)⟩
      · rintro ⟨addr, found, -⟩
        exact ⟨addr, found⟩
    · intro pin seeded nothing
      rw [route]
      unfold routed
      split
      · rename_i a seen learned
        split
        · rename_i fresh
          exact absurd (last a seen learned fresh) (nothing a seen (lastLearn_mem learned) fresh)
        · exact seeded
      · exact seeded

/-- The views agree on every zone, so that `peer_count` counts the zones that
can be routed to. -/
structure ViewsAgree (usable : α → Prop) (seed : Dict Int α) (entryTtlS : Seconds)
    (changes : List (Change α)) (table : DynamicZoneTable α) (now : Seconds) : Prop where
  zones : ∀ z, Agree usable seed entryTtlS changes table now z
  counted : ∀ own, table.peerCount own now = {z | z ≠ own ∧ table.Yields usable z now}.ncard

theorem viewsAgree_of_zones
    (zones : ∀ z, Agree usable seed entryTtlS changes table now z) :
    ViewsAgree usable seed entryTtlS changes table now := by
  refine ⟨zones, ?_⟩
  intro own
  have same : ∀ z, (table.addrFor z now).isSome ↔ table.Yields usable z now :=
    fun z => mem_knownZones.symm.trans (zones z).known
  simp only [peerCount_eq, same]

end DynamicZoneTable

namespace ZoneSync

/-- **When the routing views agree.** After any control frames, at any later
reading, the views agree on every zone exactly when no zone's last
announcement, while it is fresh, carries something else than an address. -/
theorem views_agree_iff (lib : Stdlib) (sync : ZoneSync) (seed : Dict Int Addr)
    (entryTtlS : Seconds) (usable : Addr → Prop)
    (pins : ∀ z pin, seed.lookup z = some pin → usable pin) (events : List SyncEvent)
    (now : Seconds)
    (later : ∀ event ∈ events, ∀ reading, event.Reads reading → reading ≤ now) :
    DynamicZoneTable.ViewsAgree usable seed entryTtlS (events.filterMap (·.change lib sync))
        (Runs.run (sync.step lib) (.new seed entryTtlS) events) now ↔
      ∀ z addr seen, sync.lastTaught lib events z = some (addr, seen) →
        now - seen ≤ entryTtlS → usable addr := by
  have each := fun z =>
    DynamicZoneTable.agree_iff pins (sync.addrFor_run lib seed entryTtlS later z)
  constructor
  · intro agree z
    exact (each z).mp (agree.zones z)
  · intro last
    apply DynamicZoneTable.viewsAgree_of_zones
    intro z
    exact (each z).mpr (last z)

end ZoneSync

namespace Sample

/-- An announcement of zone 7 that says `"addr": null`. -/
def nullBody : Json :=
  .obj [(text "node_id", .str (text "b")), (text "zone_id", .int 7), (text "addr", .null)]

def nullText : Bytes := encodeAscii (dumps (fun _ => []) .default nullBody)

def nullLib : Stdlib where
  jsonLoads := fun raw => if raw = nullText then .ok nullBody else .error .valueError
  str := fun value =>
    match value with
    | .str s => .ok s
    | _ => .ok []
  intOfStr := fun _ => .error .valueError

def nullFrame : SyncEvent := .control (ZONE_SYNC_MAGIC ++ nullText) 0

def pinnedSeven : Dict Int Addr := AList.singleton 7 (.value (.str (text "10.77.0.7")))

theorem nullFrame_taught :
    (⟨text "a"⟩ : ZoneSync).lastTaught nullLib [nullFrame] 7 = some (.value .null, 0) := by
  have parsed : decodeAnnouncement nullLib (ZONE_SYNC_MAGIC ++ nullText) =
      .ok (some ⟨text "b", 7, .value .null⟩) := by
    have body : nullLib.jsonLoads ((ZONE_SYNC_MAGIC ++ nullText).drop ZONE_SYNC_MAGIC.length) =
        .ok nullBody := by
      rw [List.drop_left]
      simp only [nullLib, if_true]
    unfold decodeAnnouncement parseAnnouncement
    rw [if_pos (List.prefix_append _ _), body]
    rfl
  have other : text "b" ≠ text "a" := by decide
  simp [ZoneSync.lastTaught, DynamicZoneTable.lastLearn, nullFrame, SyncEvent.change,
    ZoneSync.announced, parsed, other]

theorem pinnedSeven_usable (z : Int) (pin : Addr) (seeded : pinnedSeven.lookup z = some pin) :
    pin ≠ .value .null := by
  have entry := AList.mem_lookup_iff.mp seeded
  rintro rfl
  simp [pinnedSeven] at entry

theorem nullFrame_past (event : SyncEvent) (mem : event ∈ [nullFrame]) (reading : Seconds)
    (reads : event.Reads reading) : reading ≤ 1 := by
  obtain rfl := List.mem_singleton.mp mem
  obtain rfl : (0 : Seconds) = reading := reads
  norm_num

/-- The zone is known, `addr_for` answers `None`, and the pin is hidden. -/
theorem null_address_hides_pin :
    ¬ DynamicZoneTable.ViewsAgree (· ≠ Addr.value .null) pinnedSeven 180
      ([nullFrame].filterMap (·.change nullLib ⟨text "a"⟩))
      (Runs.run (ZoneSync.step nullLib ⟨text "a"⟩) (.new pinnedSeven 180) [nullFrame]) 1 := by
  intro agree
  have route := (⟨text "a"⟩ : ZoneSync).addrFor_run nullLib pinnedSeven 180 nullFrame_past 7
  have last := (DynamicZoneTable.agree_iff pinnedSeven_usable route).mp (agree.zones 7)
  exact last (.value .null) 0 nullFrame_taught (by norm_num) rfl

theorem views_agree_iff_null :
    DynamicZoneTable.ViewsAgree (· ≠ Addr.value .null) pinnedSeven 180
        ([nullFrame].filterMap (·.change nullLib ⟨text "a"⟩))
        (Runs.run (ZoneSync.step nullLib ⟨text "a"⟩) (.new pinnedSeven 180) [nullFrame]) 1 ↔
      ∀ z addr seen,
        (⟨text "a"⟩ : ZoneSync).lastTaught nullLib [nullFrame] z = some (addr, seen) →
        1 - seen ≤ 180 → addr ≠ .value .null :=
  ZoneSync.views_agree_iff nullLib ⟨text "a"⟩ pinnedSeven 180 _ pinnedSeven_usable [nullFrame] 1
    nullFrame_past

end Sample

end MeshlinkNode
