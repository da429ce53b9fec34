import MeshlinkNode.ZoneSync
import MeshlinkNode.JsonText

/-!
# Zone gossip between nodes

Every node broadcasts who serves its zone and learns from what the others
broadcast. The network may lose, delay, reorder and repeat announcements, and
brings a node its own back.
-/

namespace MeshlinkNode

/-- What a node announces as its address: a host, or a host and a port. -/
inductive NodeAddr where
  | host (host : PyStr)
  | hostPort (host : PyStr) (port : Int)
  deriving DecidableEq

namespace NodeAddr

/-- `wire_addr`: a tuple goes out as a list. -/
def wire : NodeAddr → Json
  | .host h => .str h
  | .hostPort h port => .arr [.str h, .int port]

def addr : NodeAddr → Addr
  | .host h => .value (.str h)
  | .hostPort h port => .tuple [.str h, .int port]

@[simp] theorem ofJson_wire (a : NodeAddr) : Addr.ofJson a.wire = a.addr := by
  cases a <;> rfl

end NodeAddr

/-- A node's configuration, as far as it announces it. -/
structure GossipNode where
  nodeId : PyStr
  zoneId : Int
  ownAddr : NodeAddr

namespace GossipNode

def body (node : GossipNode) : Json :=
  .obj [(text "node_id", .str node.nodeId), (text "zone_id", .int node.zoneId),
    (text "addr", node.ownAddr.wire)]

def bodyText (lib : JsonLib) (node : GossipNode) : Bytes :=
  encodeAscii (dumps lib.floatRepr .default node.body)

def encodeAnnouncement (lib : JsonLib) (node : GossipNode) : Bytes :=
  ZONE_SYNC_MAGIC ++ node.bodyText lib

end GossipNode

/-- What gossip relies on in Python's `json` and `str`: an announcement comes
back as it was written, and a string is its own `str`. -/
structure ReadsBack (lib : JsonLib) (node : GossipNode) : Prop where
  loads : lib.jsonLoads (node.bodyText lib) = .ok node.body
  str : ∀ s, lib.str (.str s) = .ok s

theorem decode_encode {lib : JsonLib} {node : GossipNode} (json : ReadsBack lib node) :
    decodeAnnouncement lib.toStdlib (node.encodeAnnouncement lib) =
      .ok (some ⟨node.nodeId, node.zoneId, node.ownAddr.addr⟩) := by
  have body : lib.jsonLoads ((node.encodeAnnouncement lib).drop ZONE_SYNC_MAGIC.length) =
      .ok node.body := by
    rw [GossipNode.encodeAnnouncement, List.drop_left]
    exact json.loads
  have nodeId : node.body.getItem (text "node_id") = .ok (.str node.nodeId) := rfl
  have zoneId : node.body.getItem (text "zone_id") = .ok (.int node.zoneId) := rfl
  have addr : node.body.getItem (text "addr") = .ok node.ownAddr.wire := rfl
  have magic : ZONE_SYNC_MAGIC <+: node.encodeAnnouncement lib := List.prefix_append _ _
  have parsed : parseAnnouncement lib.toStdlib (node.encodeAnnouncement lib) =
      .ok ⟨node.nodeId, node.zoneId, node.ownAddr.addr⟩ := by
    simp only [parseAnnouncement, body, nodeId, zoneId, addr, json.str, Stdlib.int, bind,
      Except.bind, pure, Except.pure, NodeAddr.ofJson_wire]
  simp only [decodeAnnouncement, if_pos magic, parsed]

/-! ## The network -/

/-- Nodes with ids of their own, and how long each keeps an entry. -/
structure GossipNet (ι : Type) where
  node : ι → GossipNode
  distinct : Function.Injective fun i => (node i).nodeId
  entryTtlS : ι → Seconds

/-- The nodes' tables, and every announcement broadcast so far. -/
structure GossipState (ι : Type) where
  tables : ι → DynamicZoneTable Addr
  sent : List Bytes

/-- A broadcast, an announcement reaching a node, or a node's own cleaning up,
with the readings of that node's clock. -/
inductive GossipEvent (ι : Type) where
  | announceNow (i : ι)
  | deliver (i : ι) (frame : Bytes) (reading : Seconds)
  | forgetStale (i : ι) (readings : Int → Seconds)

namespace GossipNet

variable {ι : Type} [DecidableEq ι] (net : GossipNet ι) (lib : JsonLib)

def sync (i : ι) : ZoneSync := ⟨(net.node i).nodeId⟩

def frameOf (i : ι) : Bytes := (net.node i).encodeAnnouncement lib

def start : GossipState ι := ⟨fun i => .new ∅ (net.entryTtlS i), []⟩

def step (s : GossipState ι) : GossipEvent ι → GossipState ι
  | .announceNow i => { s with sent := s.sent ++ [net.frameOf lib i] }
  | .deliver i frame reading =>
    let table := ((net.sync i).onControl lib.toStdlib (s.tables i) frame reading).1
    { s with tables := Function.update s.tables i table }
  | .forgetStale i readings =>
    let table := ((s.tables i).forgetStale readings).1
    { s with tables := Function.update s.tables i table }

/-- The network delivers nothing that was not broadcast. -/
def Permits (s : GossipState ι) : GossipEvent ι → Prop
  | .deliver _ frame _ => frame ∈ s.sent
  | _ => True

/-- The event as the table of node `i` sees it. -/
def seenBy (i : ι) : GossipEvent ι → Option SyncEvent
  | .announceNow _ => none
  | .deliver j frame reading => if j = i then some (.control frame reading) else none
  | .forgetStale j readings => if j = i then some (.forgetStale readings) else none

abbrev after (events : List (GossipEvent ι)) : GossipState ι :=
  Runs.run (net.step lib) net.start events

/-- A node's table runs on what reaches that node. -/
theorem tables_after (events : List (GossipEvent ι)) (i : ι) :
    (net.after lib events).tables i =
      Runs.run ((net.sync i).step lib.toStdlib) (.new ∅ (net.entryTtlS i))
        (events.filterMap (seenBy i)) := by
  refine Runs.run_project (fun s : GossipState ι => s.tables i) ?_ net.start events
  intro s event
  cases event with
  | announceNow j => rfl
  | deliver j frame reading =>
    by_cases same : j = i
    · subst same
      simp [step, seenBy, ZoneSync.step]
    · simp [step, seenBy, same, Ne.symm same]
  | forgetStale j readings =>
    by_cases same : j = i
    · subst same
      simp [step, seenBy, ZoneSync.step]
    · simp [step, seenBy, same, Ne.symm same]

/-- Whatever is on its way is some node's announcement. -/
def Genuine (s : GossipState ι) : Prop := ∀ frame ∈ s.sent, ∃ j, frame = net.frameOf lib j

theorem genuine_step (s : GossipState ι) (event : GossipEvent ι) (known : net.Genuine lib s)
    (_permitted : Permits s event) : net.Genuine lib (net.step lib s event) := by
  cases event with
  | announceNow j =>
    intro frame mem
    rcases List.mem_append.mp mem with old | new
    · exact known frame old
    · exact ⟨j, List.mem_singleton.mp new⟩
  | deliver j frame reading => exact known
  | forgetStale j readings => exact known

/-- Whatever is delivered is, too. -/
theorem delivered_from {events : List (GossipEvent ι)}
    (along : Runs.Along (net.step lib) Permits net.start events) {i : ι} {frame : Bytes}
    {reading : Seconds} (mem : .deliver i frame reading ∈ events) :
    ∃ j, frame = net.frameOf lib j := by
  have holds : ∀ s event, net.Genuine lib s → Permits s event →
      ∀ i frame reading, event = .deliver i frame reading → ∃ j, frame = net.frameOf lib j := by
    rintro s event known permitted i frame reading rfl
    exact known frame permitted
  have start : net.Genuine lib net.start := by
    intro frame mem
    cases mem
  exact Runs.along_events (net.genuine_step lib) holds start along _ mem i frame reading rfl

/-- Node `i`'s clock showed `t` during the event. -/
def ReadsAt (i : ι) : GossipEvent ι → Seconds → Prop
  | .announceNow _, _ => False
  | .deliver j _ reading, t => j = i ∧ reading = t
  | .forgetStale j readings, t => j = i ∧ ∃ z, readings z = t

theorem reads_of_seenBy {i : ι} {event : GossipEvent ι} {seen : SyncEvent}
    (h : seenBy i event = some seen) {t : Seconds} (reads : seen.Reads t) : ReadsAt i event t := by
  cases event with
  | announceNow j => cases h
  | deliver j frame reading =>
    obtain ⟨same, eq⟩ := Option.ite_none_right_eq_some.mp h
    cases eq
    exact ⟨same, reads⟩
  | forgetStale j readings =>
    obtain ⟨same, eq⟩ := Option.ite_none_right_eq_some.mp h
    cases eq
    exact ⟨same, reads⟩

/-- An announcement of `j` reached `i` at most `i`'s ttl ago. -/
def HeardFrom (events : List (GossipEvent ι)) (now : Seconds) (i j : ι) : Prop :=
  ∃ seen, .deliver i (net.frameOf lib j) seen ∈ events ∧ now - seen ≤ net.entryTtlS i

/-- What an announcement of `j` teaches `i`. -/
theorem announced_frameOf {lib : JsonLib} (json : ∀ j, ReadsBack lib (net.node j)) (i j : ι) :
    (net.sync i).announced lib.toStdlib (net.frameOf lib j) =
      if j = i then none
      else some ⟨(net.node j).nodeId, (net.node j).zoneId, (net.node j).ownAddr.addr⟩ := by
  have decoded : decodeAnnouncement lib.toStdlib (net.frameOf lib j) = _ := decode_encode (json j)
  have same : (net.node j).nodeId = (net.sync i).nodeId ↔ j = i := net.distinct.eq_iff
  simp only [ZoneSync.announced, decoded, same]

/-- What a node learned, another node announced. -/
theorem learned_from {lib : JsonLib} (json : ∀ j, ReadsBack lib (net.node j))
    {events : List (GossipEvent ι)}
    (along : Runs.Along (net.step lib) Permits net.start events) {i : ι} {z : Int} {a : Addr}
    {seen : Seconds}
    (mem : .learn z a seen ∈
      (events.filterMap (seenBy i)).filterMap (·.change lib.toStdlib (net.sync i))) :
    ∃ j, j ≠ i ∧ (net.node j).zoneId = z ∧ (net.node j).ownAddr.addr = a ∧
      .deliver i (net.frameOf lib j) seen ∈ events := by
  obtain ⟨event, reached, wrote⟩ := List.mem_filterMap.mp mem
  obtain ⟨source, held, same⟩ := List.mem_filterMap.mp reached
  cases source with
  | announceNow j => cases same
  | forgetStale j readings =>
    obtain ⟨-, eq⟩ := Option.ite_none_right_eq_some.mp same
    cases eq
    cases wrote
  | deliver k frame reading =>
    obtain ⟨rfl, eq⟩ := Option.ite_none_right_eq_some.mp same
    cases eq
    obtain ⟨j, rfl⟩ := net.delivered_from lib along held
    simp only [SyncEvent.change, net.announced_frameOf json] at wrote
    by_cases own : j = k
    · rw [if_pos own] at wrote
      cases wrote
    · rw [if_neg own] at wrote
      cases wrote
      exact ⟨j, own, rfl, rfl, held⟩

/-- **Routes rest on announcements.** An address a node routes a zone to is that
of another node serving it, heard from recently. -/
theorem route_heard {lib : JsonLib} (json : ∀ j, ReadsBack lib (net.node j))
    {events : List (GossipEvent ι)}
    (along : Runs.Along (net.step lib) Permits net.start events) {i : ι} {now : Seconds}
    (later : ∀ event ∈ events, ∀ reading, ReadsAt i event reading → reading ≤ now)
    {z : Int} {a : Addr} (found : ((net.after lib events).tables i).addrFor z now = some a) :
    ∃ j, j ≠ i ∧ (net.node j).zoneId = z ∧ (net.node j).ownAddr.addr = a ∧
      net.HeardFrom lib events now i j := by
  have early : ∀ event ∈ events.filterMap (seenBy i), ∀ reading, event.Reads reading →
      reading ≤ now := by
    intro event mem reading reads
    obtain ⟨source, held, seen⟩ := List.mem_filterMap.mp mem
    exact later source held reading (reads_of_seenBy seen reads)
  rw [tables_after, ZoneSync.addrFor_run _ _ _ _ early] at found
  unfold DynamicZoneTable.routed at found
  split at found
  · rename_i addr seen last
    by_cases fresh : now - seen ≤ net.entryTtlS i
    · rw [if_pos fresh] at found
      cases found
      have wrote := DynamicZoneTable.lastLearn_mem last
      obtain ⟨j, other, zone, same, held⟩ := net.learned_from json along wrote
      exact ⟨j, other, zone, same, seen, held, fresh⟩
    · simp [fresh] at found
  · simp at found

/-- What gossip promises node `i` at a reading of its clock. -/
structure Safe (events : List (GossipEvent ι)) (i : ι) (now : Seconds) : Prop where
  route : ∀ z a, ((net.after lib events).tables i).addrFor z now = some a →
    ∃ j, j ≠ i ∧ (net.node j).zoneId = z ∧ (net.node j).ownAddr.addr = a ∧
      net.HeardFrom lib events now i j
  own : (net.node i).zoneId ∈ ((net.after lib events).tables i).knownZones now →
    ∃ j, j ≠ i ∧ (net.node j).zoneId = (net.node i).zoneId
  aged : ∀ j, ¬ net.HeardFrom lib events now i j →
    ∀ z a, ((net.after lib events).tables i).addrFor z now = some a →
      ∃ k, k ≠ i ∧ k ≠ j ∧ (net.node k).zoneId = z ∧ (net.node k).ownAddr.addr = a ∧
        net.HeardFrom lib events now i k
  silent : ∀ z, (∀ j, j ≠ i → (net.node j).zoneId = z → ¬ net.HeardFrom lib events now i j) →
    ((net.after lib events).tables i).addrFor z now = none

/-- **Gossip is safe.** However the network treats the announcements, and
however the nodes' own steps fall between them. -/
theorem gossip_safe (net : GossipNet ι) (lib : JsonLib)
    (json : ∀ j, ReadsBack lib (net.node j)) (events : List (GossipEvent ι))
    (along : Runs.Along (net.step lib) Permits net.start events) (i : ι) (now : Seconds)
    (later : ∀ event ∈ events, ∀ reading, ReadsAt i event reading → reading ≤ now) :
    net.Safe lib events i now := by
  have route := fun z a => net.route_heard json along later (z := z) (a := a)
  refine ⟨route, ?_, ?_, ?_⟩
  · intro known
    obtain ⟨a, found⟩ := Option.isSome_iff_exists.mp (DynamicZoneTable.mem_knownZones.mp known)
    obtain ⟨j, other, zone, -⟩ := route _ a found
    exact ⟨j, other, zone⟩
  · intro j unheard z a found
    obtain ⟨k, other, zone, addr, heard⟩ := route z a found
    refine ⟨k, other, ?_, zone, addr, heard⟩
    rintro rfl
    exact unheard heard
  · intro z unheard
    cases found : ((net.after lib events).tables i).addrFor z now with
    | none => rfl
    | some a =>
      obtain ⟨j, other, zone, -, heard⟩ := route z a found
      exact absurd heard (unheard j other zone)

end GossipNet

namespace Sample

def stage : GossipNode := ⟨text "a", 1, .host (text "10.77.0.1")⟩

def court : GossipNode := ⟨text "b", 2, .hostPort (text "10.77.0.2") 19788⟩

def stageText : Bytes := encodeAscii (dumps (fun _ => []) .default stage.body)

def courtText : Bytes := encodeAscii (dumps (fun _ => []) .default court.body)

/-- `json.loads` of the two announcements. -/
def gossipLib : JsonLib where
  jsonLoads := fun raw =>
    if raw = stageText then .ok stage.body
    else if raw = courtText then .ok court.body
    else .error .valueError
  str := fun value =>
    match value with
    | .str s => .ok s
    | _ => .ok []
  intOfStr := fun _ => .error .valueError
  loads := fun _ => .error .valueError
  floatRepr := fun _ => []

theorem loads_stage : gossipLib.jsonLoads stageText = .ok stage.body := by
  simp only [gossipLib, if_true]

theorem loads_court : gossipLib.jsonLoads courtText = .ok court.body := by
  have differ : courtText ≠ stageText := by decide +kernel
  simp only [gossipLib, if_neg differ, if_true]

inductive Place where
  | stage
  | court
  deriving DecidableEq

def venue : GossipNet Place where
  node := fun
    | .stage => stage
    | .court => court
  distinct := by
    intro i j same
    cases i <;> cases j <;> first | rfl | exact absurd same (by decide)
  entryTtlS := fun _ => 180

/-- The court announces itself; the stage hears it, and the court its echo. -/
def courtHeard : List (GossipEvent Place) :=
  [.announceNow .court, .deliver .stage (venue.frameOf gossipLib .court) 20,
    .deliver .court (venue.frameOf gossipLib .court) 7]

theorem gossip_safe_venue : venue.Safe gossipLib courtHeard .stage 200 := by
  apply GossipNet.gossip_safe
  · intro j
    refine ⟨?_, fun s => rfl⟩
    cases j with
    | stage => exact loads_stage
    | court => exact loads_court
  · refine ⟨trivial, ?_, ?_, trivial⟩ <;>
      simp [GossipNet.Permits, GossipNet.step, GossipNet.start]
  · intro event mem reading reads
    simp only [courtHeard, List.mem_cons, List.not_mem_nil, or_false] at mem
    rcases mem with rfl | rfl | rfl
    · exact reads.elim
    · obtain ⟨-, rfl⟩ := reads
      norm_num
    · obtain ⟨other, -⟩ := reads
      exact absurd other (by decide)

end Sample

end MeshlinkNode
