import MeshlinkNode.ZoneTable

/-!
# Zone announcements

A control frame is `MLZS1` and a JSON object. The address in it goes into the
table as it was decoded: nothing looks at its type.
-/

namespace MeshlinkNode

/-- What the table holds for a zone: a decoded JSON value, a list turned into a
tuple. The operator's addresses are strings and (host, port) tuples. -/
inductive Addr where
  | value (v : Json)
  | tuple (items : List Json)

def Addr.ofJson : Json → Addr
  | .arr items => .tuple items
  | v => .value v

def ZONE_SYNC_MAGIC : Bytes := [0x4d, 0x4c, 0x5a, 0x53, 0x31]

structure Announcement where
  nodeId : PyStr
  zoneId : Int
  addr : Addr

/-- The body of the `try`. -/
def parseAnnouncement (lib : Stdlib) (frame : Bytes) : Except PyExc Announcement := do
  let body ← lib.jsonLoads (frame.drop ZONE_SYNC_MAGIC.length)
  let nodeId ← lib.str (← body.getItem (text "node_id"))
  let zoneId ← lib.int (← body.getItem (text "zone_id"))
  let rawAddr ← body.getItem (text "addr")
  return ⟨nodeId, zoneId, .ofJson rawAddr⟩

def decodeAnnouncement (lib : Stdlib) (frame : Bytes) : Except PyExc (Option Announcement) :=
  if ZONE_SYNC_MAGIC <+: frame then
    match parseAnnouncement lib frame with
    | .ok ann => .ok (some ann)
    | .error exc =>
      if exc = .valueError ∨ exc = .keyError ∨ exc = .typeError then .ok none else .error exc
  else .ok none

structure ZoneSync where
  nodeId : PyStr

/-- `_on_control`, and what it raises. -/
def ZoneSync.onControl (lib : Stdlib) (sync : ZoneSync) (table : DynamicZoneTable Addr)
    (frame : Bytes) (now : Seconds) : DynamicZoneTable Addr × Except PyExc Unit :=
  match decodeAnnouncement lib frame with
  | .error exc => (table, .error exc)
  | .ok none => (table, .ok ())
  | .ok (some ann) =>
    if ann.nodeId = sync.nodeId then (table, .ok ())
    else (table.learn ann.zoneId ann.addr now, .ok ())

/-- What a control frame teaches a node. -/
def ZoneSync.announced (lib : Stdlib) (sync : ZoneSync) (frame : Bytes) : Option Announcement :=
  match decodeAnnouncement lib frame with
  | .ok (some ann) => if ann.nodeId = sync.nodeId then none else some ann
  | _ => none

theorem ZoneSync.onControl_table (lib : Stdlib) (sync : ZoneSync) (table : DynamicZoneTable Addr)
    (frame : Bytes) (now : Seconds) :
    (sync.onControl lib table frame now).1 =
      (sync.announced lib frame).elim table fun ann => table.learn ann.zoneId ann.addr now := by
  unfold ZoneSync.onControl ZoneSync.announced
  cases decodeAnnouncement lib frame with
  | error exc => rfl
  | ok decoded =>
    cases decoded with
    | none => rfl
    | some ann =>
      by_cases own : ann.nodeId = sync.nodeId
      · simp [own]
      · simp [own]

/-! ## A node's table over a run -/

/-- A control frame that arrives, or a turn of `_loop`, with what the clock
showed. -/
inductive SyncEvent where
  | control (frame : Bytes) (reading : Seconds)
  | forgetStale (readings : Int → Seconds)

namespace SyncEvent

/-- What the event writes to the table. -/
def change (lib : Stdlib) (sync : ZoneSync) : SyncEvent → Option (DynamicZoneTable.Change Addr)
  | .control frame reading =>
    (sync.announced lib frame).map fun ann => .learn ann.zoneId ann.addr reading
  | .forgetStale readings => some (.forgetStale readings)

def Reads : SyncEvent → Seconds → Prop
  | .control _ reading, t => reading = t
  | .forgetStale readings, t => ∃ z, readings z = t

theorem reads_of_change {lib : Stdlib} {sync : ZoneSync} {event : SyncEvent}
    {change : DynamicZoneTable.Change Addr} (h : event.change lib sync = some change)
    {t : Seconds} (reads : change.Reads t) : event.Reads t := by
  cases event with
  | control frame reading =>
    obtain ⟨ann, -, rfl⟩ := Option.map_eq_some_iff.mp h
    exact reads
  | forgetStale readings =>
    cases h
    exact reads

end SyncEvent

namespace ZoneSync

def step (lib : Stdlib) (sync : ZoneSync) (table : DynamicZoneTable Addr) :
    SyncEvent → DynamicZoneTable Addr
  | .control frame reading => (sync.onControl lib table frame reading).1
  | .forgetStale readings => (table.forgetStale readings).1

/-- A node's table runs as the table of what its events write. -/
theorem run_step (lib : Stdlib) (sync : ZoneSync) (table : DynamicZoneTable Addr)
    (events : List SyncEvent) :
    Runs.run (sync.step lib) table events =
      Runs.run DynamicZoneTable.apply table (events.filterMap (·.change lib sync)) := by
  refine Runs.run_project id ?_ table events
  intro table event
  cases event with
  | control frame reading =>
    have table' := sync.onControl_table lib table frame reading
    cases taught : sync.announced lib frame <;>
      simpa [step, SyncEvent.change, DynamicZoneTable.apply, taught] using table'
  | forgetStale readings => rfl

/-- What the node's announcements so far taught it of a zone last, and when. -/
def lastTaught (lib : Stdlib) (sync : ZoneSync) (events : List SyncEvent) (zoneId : Int) :
    Option (Addr × Seconds) :=
  DynamicZoneTable.lastLearn zoneId (events.filterMap (·.change lib sync))

/-- The node's table routes by what its announcements taught. -/
theorem addrFor_run (lib : Stdlib) (sync : ZoneSync) (seed : Dict Int Addr)
    (entryTtlS : Seconds) {events : List SyncEvent} {now : Seconds}
    (later : ∀ event ∈ events, ∀ reading, event.Reads reading → reading ≤ now) (z : Int) :
    (Runs.run (sync.step lib) (.new seed entryTtlS) events).addrFor z now =
      DynamicZoneTable.routed seed entryTtlS (events.filterMap (·.change lib sync)) z now := by
  rw [run_step]
  refine (DynamicZoneTable.remembers_after seed entryTtlS _).addrFor ?_ z
  intro change mem reading reads
  obtain ⟨event, held, writes⟩ := List.mem_filterMap.mp mem
  exact later event held reading (SyncEvent.reads_of_change writes reads)

end ZoneSync

end MeshlinkNode
