import MeshlinkNode.Delivery
import MeshlinkNode.Gossip

/-!
# Routing by gossip

A node that hears from the others often enough routes every zone they serve to
one of them, and what it accepts for such a zone goes there in one datagram.
-/

namespace MeshlinkNode

namespace DynamicZoneTable

variable {α : Type}

/-- The clock never went back while the changes were made. -/
def Change.Forward (changes : List (Change α)) : Prop :=
  changes.Pairwise fun earlier later => ∀ s, earlier.Reads s → ∀ t, later.Reads t → s ≤ t

/-- A zone's last announcement is the latest one. -/
theorem lastLearn_latest {changes : List (Change α)} (forward : Change.Forward changes) {z : Int}
    {addr : α} {seen : Seconds} (mem : .learn z addr seen ∈ changes) :
    ∃ last heard, lastLearn z changes = some (last, heard) ∧ seen ≤ heard := by
  induction changes using List.reverseRecOn with
  | nil => cases mem
  | append_singleton changes change ih =>
    obtain ⟨before, -, order⟩ := List.pairwise_append.mp forward
    rcases List.mem_append.mp mem with old | new
    · obtain ⟨last, heard, found, le⟩ := ih before old
      cases change with
      | forgetStale readings => exact ⟨last, heard, (lastLearn_snoc_forget _ _ _).trans found, le⟩
      | learn zone other reading =>
        rw [lastLearn_snoc_learn]
        by_cases same : zone = z
        · rw [if_pos same]
          exact ⟨other, reading, rfl, order _ old _ (List.mem_singleton.mpr rfl) _ rfl _ rfl⟩
        · rw [if_neg same]
          exact ⟨last, heard, found, le⟩
    · cases List.mem_singleton.mp new
      rw [lastLearn_snoc_learn, if_pos rfl]
      exact ⟨addr, seen, rfl, le_refl seen⟩

/-- What was announced within the ttl is routed. -/
theorem routed_recent (seed : Dict Int α) {entryTtlS : Seconds} {changes : List (Change α)}
    (forward : Change.Forward changes) {z : Int} {addr : α} {seen now : Seconds}
    (mem : .learn z addr seen ∈ changes) (fresh : now - seen ≤ entryTtlS) :
    ∃ last heard, .learn z last heard ∈ changes ∧ now - heard ≤ entryTtlS ∧
      routed seed entryTtlS changes z now = some last := by
  obtain ⟨last, heard, found, le⟩ := lastLearn_latest forward mem
  have recent : now - heard ≤ entryTtlS := by linarith
  refine ⟨last, heard, lastLearn_mem found, recent, ?_⟩
  rw [routed, found]
  exact if_pos recent

end DynamicZoneTable

namespace GossipNet

variable {ι : Type} [DecidableEq ι] (net : GossipNet ι) (lib : JsonLib)

/-- Node `i`'s clock never went back. -/
def ClockForward (i : ι) (events : List (GossipEvent ι)) : Prop :=
  events.Pairwise fun earlier later => ∀ s, ReadsAt i earlier s → ∀ t, ReadsAt i later t → s ≤ t

variable {net lib} {events : List (GossipEvent ι)} {i : ι} {now : Seconds}

/-- The changes to a node's table. -/
abbrev changesOf (net : GossipNet ι) (lib : JsonLib) (i : ι) (events : List (GossipEvent ι)) :
    List (DynamicZoneTable.Change Addr) :=
  (events.filterMap (seenBy i)).filterMap (·.change lib.toStdlib (net.sync i))

theorem changes_forward (forward : ClockForward i events) :
    DynamicZoneTable.Change.Forward (net.changesOf lib i events) := by
  unfold DynamicZoneTable.Change.Forward changesOf
  rw [List.filterMap_filterMap, List.pairwise_filterMap]
  apply forward.imp
  intro earlier later order change made change' made' s reads t reads'
  obtain ⟨seen, saw, wrote⟩ := Option.bind_eq_some_iff.mp made
  obtain ⟨seen', saw', wrote'⟩ := Option.bind_eq_some_iff.mp made'
  exact order s (reads_of_seenBy saw (SyncEvent.reads_of_change wrote reads)) t
    (reads_of_seenBy saw' (SyncEvent.reads_of_change wrote' reads'))

/-- A node's announcement that reaches another is a change to its table. -/
theorem change_of_deliver (json : ∀ j, ReadsBack lib (net.node j)) {j : ι} (other : j ≠ i)
    {seen : Seconds} (held : .deliver i (net.frameOf lib j) seen ∈ events) :
    .learn (net.node j).zoneId (net.node j).ownAddr.addr seen ∈ net.changesOf lib i events := by
  apply List.mem_filterMap.mpr
  refine ⟨.control (net.frameOf lib j) seen, List.mem_filterMap.mpr ⟨_, held, if_pos rfl⟩, ?_⟩
  simp only [SyncEvent.change, net.announced_frameOf json, if_neg other, Option.map_some]

theorem addrFor_after (later : ∀ event ∈ events, ∀ reading, ReadsAt i event reading → reading ≤ now)
    (z : Int) : ((net.after lib events).tables i).addrFor z now =
      DynamicZoneTable.routed ∅ (net.entryTtlS i) (net.changesOf lib i events) z now := by
  rw [tables_after]
  apply ZoneSync.addrFor_run
  intro event mem reading reads
  obtain ⟨source, held, seen⟩ := List.mem_filterMap.mp mem
  exact later source held reading (reads_of_seenBy seen reads)

/-- **What is heard is routed**, to a node serving the zone that was heard from
at least as recently. -/
theorem heard_routed (json : ∀ j, ReadsBack lib (net.node j))
    (along : Runs.Along (net.step lib) Permits net.start events)
    (forward : ClockForward i events)
    (later : ∀ event ∈ events, ∀ reading, ReadsAt i event reading → reading ≤ now) {j : ι}
    (other : j ≠ i) (heard : net.HeardFrom lib events now i j) :
    ∃ k, k ≠ i ∧ (net.node k).zoneId = (net.node j).zoneId ∧
      ((net.after lib events).tables i).addrFor (net.node j).zoneId now =
        some (net.node k).ownAddr.addr ∧ net.HeardFrom lib events now i k := by
  obtain ⟨seen, held, fresh⟩ := heard
  obtain ⟨last, reading, wrote, recent, found⟩ := DynamicZoneTable.routed_recent ∅
    (changes_forward forward) (change_of_deliver json other held) fresh
  obtain ⟨k, apart, zone, addr, reached⟩ := net.learned_from json along wrote
  refine ⟨k, apart, zone, ?_, reading, reached, recent⟩
  rw [addrFor_after later, found, addr]

/-- The zones that other nodes heard from serve. -/
def HeardZone (net : GossipNet ι) (lib : JsonLib) (events : List (GossipEvent ι)) (i : ι)
    (now : Seconds) (z : Int) : Prop :=
  ∃ j, j ≠ i ∧ (net.node j).zoneId = z ∧ net.HeardFrom lib events now i j

/-- What gossip achieves at node `i` at a reading of its clock. -/
structure Live (net : GossipNet ι) (lib : JsonLib) (events : List (GossipEvent ι)) (i : ι)
    (now : Seconds) : Prop where
  known : ∀ z, z ∈ ((net.after lib events).tables i).knownZones now ↔
    net.HeardZone lib events i now z
  counted : ∀ own, ((net.after lib events).tables i).peerCount own now =
    {z | z ≠ own ∧ net.HeardZone lib events i now z}.ncard
  sole : ∀ j, j ≠ i → net.HeardFrom lib events now i j →
    (∀ k, k ≠ i → (net.node k).zoneId = (net.node j).zoneId → k = j) →
      ((net.after lib events).tables i).addrFor (net.node j).zoneId now =
        some (net.node j).ownAddr.addr
  complete : (∀ j, j ≠ i → net.HeardFrom lib events now i j) →
    (∀ j k, (net.node j).zoneId = (net.node k).zoneId → j = k) → ∀ z a,
      ((net.after lib events).tables i).addrFor z now = some a ↔
        ∃ j, j ≠ i ∧ (net.node j).zoneId = z ∧ (net.node j).ownAddr.addr = a

/-- **Gossip is live.** A node knows and counts exactly the zones of the nodes it
heard from within its ttl; a zone with one server is routed to that server; and
where every node serves a zone of its own and all have been heard from, the
table is the map of the others. -/
theorem gossip_live (net : GossipNet ι) (lib : JsonLib) (json : ∀ j, ReadsBack lib (net.node j))
    (events : List (GossipEvent ι))
    (along : Runs.Along (net.step lib) Permits net.start events) (i : ι)
    (forward : ClockForward i events) (now : Seconds)
    (later : ∀ event ∈ events, ∀ reading, ReadsAt i event reading → reading ≤ now) :
    net.Live lib events i now := by
  have route {z : Int} {a : Addr}
      (found : ((net.after lib events).tables i).addrFor z now = some a) :=
    net.route_heard json along later found
  have known (z : Int) : (((net.after lib events).tables i).addrFor z now).isSome ↔
      net.HeardZone lib events i now z := by
    constructor
    · intro found
      obtain ⟨a, found⟩ := Option.isSome_iff_exists.mp found
      obtain ⟨j, other, zone, -, heard⟩ := route found
      exact ⟨j, other, zone, heard⟩
    · rintro ⟨j, other, rfl, heard⟩
      obtain ⟨k, -, -, found, -⟩ := heard_routed json along forward later other heard
      rw [found]
      rfl
  have sole : ∀ j, j ≠ i → net.HeardFrom lib events now i j →
      (∀ k, k ≠ i → (net.node k).zoneId = (net.node j).zoneId → k = j) →
        ((net.after lib events).tables i).addrFor (net.node j).zoneId now =
          some (net.node j).ownAddr.addr := by
    intro j other heard only
    obtain ⟨k, apart, zone, found, -⟩ := heard_routed json along forward later other heard
    rw [found, only k apart zone]
  refine ⟨fun z => DynamicZoneTable.mem_knownZones.trans (known z), ?_, sole, ?_⟩
  · intro own
    rw [DynamicZoneTable.peerCount_eq]
    simp only [known]
  · intro all apart z a
    constructor
    · intro found
      obtain ⟨j, other, zone, addr, -⟩ := route found
      exact ⟨j, other, zone, addr⟩
    · rintro ⟨j, other, rfl, rfl⟩
      exact sole j other (all j other) fun k _ zone => apart k j zone

end GossipNet

/-! ## Packets for a zone -/

variable {core : Core}

/-- A node's address is written into a table as an address. -/
theorem NodeAddr.addr_ne_null (a : NodeAddr) : a.addr ≠ .value .null := by
  cases a <;> simp [NodeAddr.addr]

namespace Relay

variable {relay : Relay core} (b : BatmanBackhaul) (m : Moment) (raw : Bytes) {z : Int}

/-- A packet for another zone is forwarded. -/
theorem zonePart_otherZone (other : z ≠ relay.zoneId) (single : z ≠ BROADCAST_ZONE) :
    relay.zonePart (.batman b) m z raw = b.forwardToZone m.sockets m.monotonic z raw := by
  simp only [zonePart, zoneCall, if_neg single, if_pos other, Option.elim_some, Backhaul.perform]

/-- A packet for the own zone goes to no other node. -/
theorem zonePart_ownZone (own : z = relay.zoneId) (single : z ≠ BROADCAST_ZONE) :
    relay.zonePart (.batman b) m z raw = ([], .ok ()) := by
  have nowhere : relay.zoneCall z raw = none := by
    rw [zoneCall, if_neg single, if_neg (not_not.mpr own)]
  simp only [zonePart, nowhere, Option.elim_none]

end Relay

namespace BatmanBackhaul

variable {b : BatmanBackhaul} {sockets : Sockets} {now : Seconds} {z : Int} {packet : Bytes}

theorem forward_routed {addr : Addr} (other : z ≠ b.zoneId)
    (found : b.table.addrFor z now = some addr) (present : addr ≠ .value .null) :
    (b.forwardToZone sockets now z packet).1 = [⟨endpoint b.udpPort addr, packet⟩] := by
  have route : b.zoneAddr now z = some addr := zoneAddr_eq_some.mpr ⟨found, present⟩
  rw [forwardToZone_eq, if_neg other, route]
  rfl

theorem forward_unrouted (other : z ≠ b.zoneId) (unknown : b.table.addrFor z now = none) :
    (b.forwardToZone sockets now z packet).1 =
      [⟨endpoint b.udpPort b.broadcastAddr, packet⟩] := by
  have nowhere : b.zoneAddr now z = none := by
    simp only [zoneAddr, unknown]
  rw [forwardToZone_eq, if_neg other, nowhere]
  rfl

end BatmanBackhaul

namespace GossipNet

variable {ι : Type} [DecidableEq ι] {net : GossipNet ι} {lib : JsonLib}

/-- Node `i` with the table that its gossip filled. -/
structure Station (net : GossipNet ι) (lib : JsonLib) (events : List (GossipEvent ι)) (i : ι)
    (relay : Relay core) (b : BatmanBackhaul) : Prop where
  relayZone : relay.zoneId = (net.node i).zoneId
  backhaulZone : b.zoneId = (net.node i).zoneId
  table : b.table = (net.after lib events).tables i

/-- What becomes of a packet for zone `z` at node `i`: it goes out once, unchanged,
to a node serving the zone that was heard from within the ttl, or to all nodes
where none was. -/
def Routed (net : GossipNet ι) (lib : JsonLib) (events : List (GossipEvent ι)) (i : ι)
    (b : BatmanBackhaul) (now : Seconds) (z : Int) (raw : Bytes) (sent : List Datagram) : Prop :=
  (∃ k, k ≠ i ∧ (net.node k).zoneId = z ∧ net.HeardFrom lib events now i k ∧
    sent = [⟨endpoint b.udpPort (net.node k).ownAddr.addr, raw⟩]) ∨
  (¬ net.HeardZone lib events i now z ∧ sent = [⟨endpoint b.udpPort b.broadcastAddr, raw⟩])

/-- **A packet for another zone** is sent to a server of that zone once gossip has
brought one, and to all nodes until then; where it arrives it is sent to no
further node. On both sides it goes to the node's own phones. -/
theorem zone_packet_routed (net : GossipNet ι) (lib : JsonLib)
    (json : ∀ j, ReadsBack lib (net.node j)) (events : List (GossipEvent ι))
    (along : Runs.Along (net.step lib) Permits net.start events)
    (i : ι) (forward : ClockForward i events) (relay : Relay core) (b : BatmanBackhaul)
    (station : Station net lib events i relay b) (m : Moment)
    (usable : ∀ j, (net.node j).ownAddr.addr.Usable b.takes m.sockets.resolves)
    (later : ∀ event ∈ events, ∀ reading, ReadsAt i event reading → reading ≤ m.monotonic)
    (peerId : PeerId) (raw : Bytes) (msg : Message) (copy : Option Bytes)
    (accepts : relay.accepted m raw = some (msg, copy)) (single : msg.zoneId ≠ BROADCAST_ZONE)
    (plain : msg.msgType ≠ .location ∧ msg.msgType ≠ .locationQuery) :
    (msg.zoneId ≠ (net.node i).zoneId → net.Routed lib events i b m.monotonic msg.zoneId raw
      (relay.handlePacket (.batman b) m peerId raw).datagrams) ∧
    (msg.zoneId = (net.node i).zoneId →
      (relay.handlePacket (.batman b) m peerId raw).datagrams = []) ∧
    Relay.transportSends (relay.handlePacket (.batman b) m peerId raw).calls =
      Relay.transportSends (Relay.localCopies m peerId raw copy) := by
  have live := gossip_live net lib json events along i forward m.monotonic later
  by_cases own : msg.zoneId = (net.node i).zoneId
  · have nothing := Relay.zonePart_ownZone b m raw
      (own.trans station.relayZone.symm) single
    obtain ⟨datagrams, sends⟩ := Relay.handlePacket_plain (.batman b) peerId accepts plain
      (by rw [nothing])
    rw [nothing] at datagrams
    exact ⟨fun other => absurd own other, fun _ => datagrams, sends⟩
  · have away := Relay.zonePart_otherZone b m raw
      (fun same => own (same.trans station.relayZone)) single
    have elsewhere : msg.zoneId ≠ b.zoneId := fun same => own (same.trans station.backhaulZone)
    have routes {a : Addr}
        (found : ((net.after lib events).tables i).addrFor msg.zoneId m.monotonic = some a) :=
      net.route_heard json along later found
    rw [← station.table] at routes
    have returns : (relay.zonePart (.batman b) m msg.zoneId raw).2 = .ok () := by
      rw [away, BatmanBackhaul.forward_returns]
      refine .inr fun addr found => ?_
      obtain ⟨found, -⟩ := BatmanBackhaul.zoneAddr_eq_some.mp found
      obtain ⟨k, -, -, rfl, -⟩ := routes found
      exact usable k
    obtain ⟨datagrams, sends⟩ := Relay.handlePacket_plain (.batman b) peerId accepts plain returns
    refine ⟨fun _ => ?_, fun same => absurd same own, sends⟩
    rw [datagrams, away]
    cases found : b.table.addrFor msg.zoneId m.monotonic with
    | some a =>
      obtain ⟨k, other, zone, rfl, heard⟩ := routes found
      exact .inl ⟨k, other, zone, heard,
        BatmanBackhaul.forward_routed elsewhere found (NodeAddr.addr_ne_null _)⟩
    | none =>
      refine .inr ⟨?_, BatmanBackhaul.forward_unrouted elsewhere found⟩
      rw [← live.known, DynamicZoneTable.mem_knownZones, ← station.table, found]
      simp

end GossipNet

namespace Sample

theorem venue_json (j : Place) : ReadsBack gossipLib (venue.node j) where
  loads := by
    cases j with
    | stage => exact loads_stage
    | court => exact loads_court
  str := fun _ => rfl

theorem courtHeard_along : Runs.Along (venue.step gossipLib) GossipNet.Permits venue.start
    courtHeard := by
  refine ⟨trivial, ?_, ?_, trivial⟩ <;> simp [GossipNet.Permits, GossipNet.step, GossipNet.start]

/-- The stage's clock shows one reading in all. -/
theorem courtHeard_reads {event : GossipEvent Place} (mem : event ∈ courtHeard) {t : Seconds}
    (reads : GossipNet.ReadsAt .stage event t) : t = 20 := by
  simp only [courtHeard, List.mem_cons, List.not_mem_nil, or_false] at mem
  rcases mem with rfl | rfl | rfl
  · exact reads.elim
  · exact reads.2.symm
  · exact absurd reads.1 (by decide)

theorem courtHeard_forward : GossipNet.ClockForward .stage courtHeard := by
  apply List.pairwise_of_forall_mem_list
  intro earlier mem later mem' s reads t reads'
  rw [courtHeard_reads mem reads, courtHeard_reads mem' reads']

/-- Two hundred seconds on, the announcement is one ttl old. -/
theorem courtHeard_past (event : GossipEvent Place) (mem : event ∈ courtHeard) (reading : Seconds)
    (reads : GossipNet.ReadsAt .stage event reading) : reading ≤ 200 := by
  rw [courtHeard_reads mem reads]
  norm_num

theorem gossip_live_venue : venue.Live gossipLib courtHeard .stage 200 :=
  GossipNet.gossip_live venue gossipLib venue_json courtHeard courtHeard_along .stage
    courtHeard_forward 200 courtHeard_past

def stageRelay : Relay Sample.core := .boot 1 none false none false

def stageBackhaul : BatmanBackhaul :=
  { backhaul with zoneId := 1, table := (venue.after gossipLib courtHeard).tables .stage }

/-- A packet for the court's zone. -/
def courtPacket : Bytes := packet 1 requester 5 2 1 []

def courtMessage : Message := ⟨List.replicate 16 1, 0, requester, 2, .other 1, []⟩

def stageMoment : Moment := ⟨⟨0, 0, 0⟩, 200, ["phone"], List.nodup_singleton _, .up⟩

theorem zone_packet_routed_court :
    venue.Routed gossipLib courtHeard .stage stageBackhaul 200 2 courtPacket
      (stageRelay.handlePacket (.batman stageBackhaul) stageMoment "origin"
        courtPacket).datagrams := by
  have usable (j : Place) : (venue.node j).ownAddr.addr.Usable stageBackhaul.takes
      stageMoment.sockets.resolves := by
    cases j <;> decide
  apply (GossipNet.zone_packet_routed venue gossipLib venue_json courtHeard courtHeard_along
    .stage courtHeard_forward stageRelay stageBackhaul ⟨rfl, rfl, rfl⟩ stageMoment usable
    courtHeard_past "origin" courtPacket courtMessage (some (courtPacket.set 68 4))
    (by decide +kernel) (by decide) (by decide)).1
  decide

end Sample

end MeshlinkNode
