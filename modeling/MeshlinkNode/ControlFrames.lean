import MeshlinkNode.Outbound

/-!
# What control frames can do to a relay

They fill the zone table, and the relay asks the backhaul before it sends to
the local cell. So one address that makes no endpoint takes the fan-out of its
zone's packets down.
-/

namespace MeshlinkNode

variable {core : Core}

/-- A control frame with an arbitrary body, from `source`, at the table's clock. -/
structure ControlDatagram where
  source : String × Int
  body : Bytes
  arrival : Seconds

def ControlDatagram.frame (d : ControlDatagram) : Bytes := ZONE_SYNC_MAGIC ++ d.body

namespace BatmanBackhaul

variable (lib : Stdlib) (sync : ZoneSync)

/-- One turn of `_recv_loop`. `_deliver` swallows what the handler raises. -/
def hear (b : BatmanBackhaul) (d : ControlDatagram) : BatmanBackhaul :=
  match b.receive d.source d.frame with
  | .control => { b with table := (sync.onControl lib b.table d.frame d.arrival).1 }
  | _ => b

/-- The announcement a datagram teaches. -/
def lesson (b : BatmanBackhaul) (d : ControlDatagram) : Option Announcement :=
  match b.receive d.source d.frame with
  | .control => sync.announced lib d.frame
  | _ => none

/-- The addresses that the datagrams taught for a zone, and when. -/
def lessons (b : BatmanBackhaul) (zoneId : Int) (ds : List ControlDatagram) :
    List (Addr × Seconds) :=
  ds.filterMap fun d => (lesson lib sync b d).bind fun ann =>
    if ann.zoneId = zoneId then some (ann.addr, d.arrival) else none

variable {lib sync} {b : BatmanBackhaul}

theorem hear_eq (b : BatmanBackhaul) (d : ControlDatagram) :
    hear lib sync b d =
      { b with table := (lesson lib sync b d).elim b.table fun ann =>
          b.table.learn ann.zoneId ann.addr d.arrival } := by
  unfold hear lesson
  cases b.receive d.source d.frame with
  | echo => rfl
  | data peerId => rfl
  | control => simp only [ZoneSync.onControl_table]

theorem lessons_snoc (b : BatmanBackhaul) (zoneId : Int) (past : List ControlDatagram)
    (d : ControlDatagram) :
    lessons lib sync b zoneId (past ++ [d]) =
      lessons lib sync b zoneId past ++ ((lesson lib sync b d).bind fun ann =>
        if ann.zoneId = zoneId then some (ann.addr, d.arrival) else none).toList := by
  rw [lessons, List.filterMap_append]
  rfl

variable (lib sync) in
/-- **The table stands for the last lessons**, and nothing else moved. -/
theorem heard (b : BatmanBackhaul) (fresh : b.table.learned = ∅) (ds : List ControlDatagram) :
    ∃ table : DynamicZoneTable Addr, Runs.run (hear lib sync) b ds = { b with table } ∧
      table.pinned = b.table.pinned ∧ table.entryTtlS = b.table.entryTtlS ∧
      ∀ zoneId, table.learned.lookup zoneId = (lessons lib sync b zoneId ds).getLast? := by
  apply Runs.history fun past (s : BatmanBackhaul) =>
    ∃ table : DynamicZoneTable Addr, s = { b with table } ∧ table.pinned = b.table.pinned ∧
      table.entryTtlS = b.table.entryTtlS ∧
      ∀ zoneId, table.learned.lookup zoneId = (lessons lib sync b zoneId past).getLast?
  · refine ⟨b.table, rfl, rfl, rfl, ?_⟩
    intro zoneId
    rw [fresh]
    rfl
  · rintro past _ d ⟨table, rfl, pinned, ttl, learned⟩
    have same : lesson lib sync { b with table } d = lesson lib sync b d := rfl
    rw [hear_eq, same]
    simp only [lessons_snoc]
    cases lesson lib sync b d with
    | none =>
      refine ⟨table, rfl, pinned, ttl, ?_⟩
      intro zoneId
      simpa using learned zoneId
    | some ann =>
      refine ⟨table.learn ann.zoneId ann.addr d.arrival, rfl, pinned, ttl, ?_⟩
      intro zoneId
      by_cases mine : ann.zoneId = zoneId
      · subst mine
        simp
      · rw [DynamicZoneTable.learned_learn_ne table ann.addr d.arrival (Ne.symm mine)]
        simpa [mine] using learned zoneId

end BatmanBackhaul

namespace Relay

/-- What stops an accepted packet before the zone rule. -/
def Stopped (relay : Relay core) (m : Moment) (msg : Message) : Prop :=
  (relay.location.isSome ∧ msg.msgType = .location) ∨
  ∃ svc, relay.location = some svc ∧ msg.msgType = .locationQuery ∧
    LocationAuthz.Unsealable svc.directory svc.store svc.authz msg m.clocks.authz m.clocks.store

/-- The packet is passed on to a zone: an accepted presentation, or an accepted
packet that nothing stopped. -/
def Spreads (relay : Relay core) (m : Moment) (raw : Bytes) (zoneId : Int) : Prop :=
  (∃ msg, relay.presented m raw = some msg ∧ msg.zoneId = zoneId) ∨
  ∃ msg forward, relay.accepted m raw = some (msg, forward) ∧ msg.zoneId = zoneId ∧
    ¬ relay.Stopped m msg

variable {relay : Relay core} {m : Moment} {peerId : PeerId} {raw : Bytes}

/-- Calls other than to the backhaul. -/
def Quiet (calls : List Call) : Prop := ∀ call, .backhaul call ∉ calls

theorem mem_zoneCalls {call : BackhaulCall} {zoneId : Int} :
    .backhaul call ∈ relay.zoneCalls zoneId raw ↔ relay.zoneCall zoneId raw = some call := by
  unfold zoneCalls
  cases relay.zoneCall zoneId raw <;> simp [eq_comm]

theorem quiet_nil : Quiet [] := by
  intro call
  exact List.not_mem_nil

theorem quiet_localCopies (forward : Option Bytes) :
    Quiet (localCopies m peerId raw forward) := by
  intro call here
  unfold localCopies at here
  split at here
  · split at here
    · obtain ⟨peer, -, same⟩ := List.mem_map.mp here
      cases same
    · cases here
  · cases here

theorem quiet_response (msg : Message) : Quiet (relay.response m peerId msg) := by
  intro call here
  unfold response at here
  split at here
  · cases here
  · split at here
    · split at here
      · cases List.mem_singleton.mp here
      · cases here
    · cases here

theorem calls_of_stopped {msg : Message} {forward : Option Bytes}
    (accepts : relay.accepted m raw = some (msg, forward)) (stopped : relay.Stopped m msg)
    (backhaul : Backhaul) : (relay.handlePacket backhaul m peerId raw).calls = [] := by
  rw [handlePacket_accepted accepts]
  rcases deliver_cases ((relay.judged m raw).count .accepted) backhaul m peerId raw msg forward with
    ⟨-, -, calls, -⟩ | ⟨-, -, -, -, -, calls, -⟩ | ⟨onward, answers, -⟩
  · exact calls
  · exact calls
  · rcases stopped with consumed | ⟨svc, here, query, unsealable⟩
    · exact absurd consumed onward
    · obtain ⟨exc, raises⟩ := LocationAuthz.handleQuery_raised.mpr unsealable
      exact absurd raises (answers svc exc here query)

theorem calls_of_not_stopped {msg : Message} {forward : Option Bytes}
    (accepts : relay.accepted m raw = some (msg, forward)) (onward : ¬ relay.Stopped m msg)
    (backhaul : Backhaul) :
    ((relay.zonePart backhaul m msg.zoneId raw).2 = .ok () ∧
      (relay.handlePacket backhaul m peerId raw).calls =
        relay.response m peerId msg ++ relay.zoneCalls msg.zoneId raw ++
          localCopies m peerId raw forward) ∨
    ((relay.zonePart backhaul m msg.zoneId raw).2 ≠ .ok () ∧
      (relay.handlePacket backhaul m peerId raw).calls =
        relay.response m peerId msg ++ relay.zoneCalls msg.zoneId raw) := by
  rw [handlePacket_accepted accepts]
  rcases deliver_cases ((relay.judged m raw).count .accepted) backhaul m peerId raw msg forward with
    ⟨present, beacon, -⟩ | ⟨svc, exc, here, query, raises, -⟩ | ⟨-, -, location, goes⟩
  · exact absurd (.inl ⟨present, beacon⟩) onward
  · exact absurd (.inr ⟨svc, here, query, LocationAuthz.handleQuery_raised.mp ⟨exc, raises⟩⟩) onward
  · rw [goes, List.append_assoc]
    obtain ⟨-, ⟨returns, calls, -⟩ | ⟨exc, raises, calls, -⟩⟩ :=
      relayOnward_cases { (relay.judged m raw).count .accepted with location } backhaul m peerId
        raw msg forward
    · exact .inl ⟨returns, congrArg (relay.response m peerId msg ++ ·) calls⟩
    · refine .inr ⟨?_, congrArg (relay.response m peerId msg ++ ·) calls⟩
      intro returns
      cases raises.symm.trans returns

theorem not_spreads (unpresented : relay.presented m raw = none)
    (unaccepted : relay.accepted m raw = none) (zoneId : Int) : ¬ relay.Spreads m raw zoneId := by
  rintro (⟨msg, presents, -⟩ | ⟨msg, forward, accepts, -⟩)
  · rw [unpresented] at presents
    cases presents
  · rw [unaccepted] at accepts
    cases accepts

/-- A frame for one of the node's own services goes there, if it is attached. -/
theorem calls_of_service (path : relay.demux raw = .telemetry ∨ relay.demux raw = .backendProxy) :
    ∃ calls, Quiet calls ∧
      ∀ backhaul, (relay.handlePacket backhaul m peerId raw).calls = calls := by
  rcases path with path | path
  · refine ⟨_, ?_, fun backhaul => by rw [handlePacket_telemetry path]⟩
    intro call here
    split at here <;> simp at here
  · refine ⟨_, ?_, fun backhaul => by rw [handlePacket_backendProxy path]⟩
    intro call here
    split at here <;> simp at here

variable (relay m peerId raw) in
/-- **Where the backhaul shows.** A packet that is passed on to a zone makes the
zone's calls, and what follows them is lost if they raise; on every other
packet the backhaul has no part. -/
theorem calls_shape :
    (∃ zoneId before after, relay.Spreads m raw zoneId ∧ Quiet before ∧ Quiet after ∧
      ∀ backhaul,
        ((relay.zonePart backhaul m zoneId raw).2 = .ok () ∧
          (relay.handlePacket backhaul m peerId raw).calls =
            before ++ relay.zoneCalls zoneId raw ++ after) ∨
        (relay.zonePart backhaul m zoneId raw).2 ≠ .ok () ∧
          (relay.handlePacket backhaul m peerId raw).calls =
            before ++ relay.zoneCalls zoneId raw) ∨
    (∃ calls, Quiet calls ∧ (∀ zoneId, ¬ relay.Spreads m raw zoneId) ∧
      ∀ backhaul, (relay.handlePacket backhaul m peerId raw).calls = calls) := by
  cases path : relay.demux raw with
  | telemetry | backendProxy =>
    right
    have service : relay.demux raw = .telemetry ∨ relay.demux raw = .backendProxy := by simp [path]
    obtain ⟨calls, quiet, same⟩ := calls_of_service service
    exact ⟨calls, quiet, not_spreads (presented_of_demux_ne (by simp [path]))
      (accepted_of_demux_ne_mesh (by simp [path])), same⟩
  | presentation cache =>
    have unaccepted : relay.accepted m raw = none := accepted_of_demux_ne_mesh (by simp [path])
    cases presents : relay.presented m raw with
    | none =>
      right
      refine ⟨[], quiet_nil, not_spreads presents unaccepted, ?_⟩
      intro backhaul
      obtain ⟨relay', -, -, handled⟩ := handlePacket_presented backhaul m peerId path
      rw [handled, presents]
      rfl
    | some msg =>
      left
      refine ⟨msg.zoneId, [], [], .inl ⟨msg, presents, rfl⟩, quiet_nil, quiet_nil, ?_⟩
      intro backhaul
      obtain ⟨relay', -, -, handled⟩ := handlePacket_presented backhaul m peerId path
      rw [handled, presents]
      by_cases returns : (relay.zonePart backhaul m msg.zoneId raw).2 = .ok ()
      · exact .inl ⟨returns, by simp⟩
      · exact .inr ⟨returns, by simp⟩
  | mesh =>
    have notPresented : relay.presented m raw = none :=
      presented_of_demux_ne (by simp [path])
    cases accepts : relay.accepted m raw with
    | none =>
      right
      exact ⟨[], quiet_nil, not_spreads notPresented accepts,
        fun backhaul => by rw [handlePacket_dropped path accepts]⟩
    | some taken =>
      obtain ⟨msg, forward⟩ := taken
      by_cases stopped : relay.Stopped m msg
      · right
        refine ⟨[], quiet_nil, ?_, calls_of_stopped accepts stopped⟩
        rintro zoneId (⟨_, presents, -⟩ | ⟨_, _, accepts', -, onward⟩)
        · rw [notPresented] at presents
          cases presents
        · cases accepts.symm.trans accepts'
          exact onward stopped
      · left
        exact ⟨msg.zoneId, relay.response m peerId msg, localCopies m peerId raw forward,
          .inr ⟨msg, forward, accepts, rfl, stopped⟩, quiet_response msg,
          quiet_localCopies forward, calls_of_not_stopped accepts stopped⟩

theorem Spreads.unique {zoneId other : Int} (h : relay.Spreads m raw zoneId)
    (k : relay.Spreads m raw other) : other = zoneId := by
  have exclusive {msg msg' : Message} {forward : Option Bytes}
      (presents : relay.presented m raw = some msg)
      (accepts : relay.accepted m raw = some (msg', forward)) : False := by
    rw [presented, demux_of_accepted accepts] at presents
    cases presents
  rcases h with ⟨msg, presents, rfl⟩ | ⟨msg, forward, accepts, rfl, -⟩
  · rcases k with ⟨msg', presents', rfl⟩ | ⟨msg', forward', accepts', rfl, -⟩
    · cases presents.symm.trans presents'
      rfl
    · exact (exclusive presents accepts').elim
  · rcases k with ⟨msg', presents', rfl⟩ | ⟨msg', forward', accepts', rfl, -⟩
    · exact (exclusive presents' accepts).elim
    · cases accepts.symm.trans accepts'
      rfl

variable (lib : Stdlib) (sync : ZoneSync)

/-- The last address taught for a zone, while it is fresh, is null or makes an
endpoint for the socket. -/
def Harmless (b : BatmanBackhaul) (m : Moment) (zoneId : Int) (ds : List ControlDatagram) : Prop :=
  ∀ addr seen, (b.lessons lib sync zoneId ds).getLast? = some (addr, seen) →
    ¬ b.table.expired seen m.monotonic →
      addr = .value .null ∨ addr.Usable b.takes m.sockets.resolves

variable {lib sync}

/-- With nothing learned before, a zone can be reached just when its last
lesson is harmless. -/
theorem zoneAddr_usable {b : BatmanBackhaul} (fresh : b.table.learned = ∅)
    (pinned : ∀ zoneId addr, b.table.pinned.lookup zoneId = some addr →
      addr.Usable b.takes fun _ => true)
    (ds : List ControlDatagram) (zoneId : Int) :
    (∀ addr, (Runs.run (BatmanBackhaul.hear lib sync) b ds).zoneAddr m.monotonic zoneId =
        some addr → addr.Usable b.takes m.sockets.resolves) ↔ Harmless lib sync b m zoneId ds := by
  obtain ⟨table, run, sameSeed, sameTtl, learned⟩ :=
    BatmanBackhaul.heard lib sync b fresh ds
  have seeded {addr : Addr} (found : table.pinned.lookup zoneId = some addr) :
      addr.Usable b.takes m.sockets.resolves := by
    rw [sameSeed] at found
    exact BatmanBackhaul.usable_mono (pinned zoneId addr found)
  have expiry (seen : Seconds) : table.expired seen m.monotonic ↔
      b.table.expired seen m.monotonic := by
    unfold DynamicZoneTable.expired
    rw [sameTtl]
  have entry := learned zoneId
  rw [run]
  simp only [BatmanBackhaul.zoneAddr_eq_some]
  unfold Harmless
  cases last : (b.lessons lib sync zoneId ds).getLast? with
  | none =>
    rw [last] at entry
    refine iff_of_true ?_ (by simp)
    rintro addr ⟨found, -⟩
    rw [DynamicZoneTable.addrFor_unlearned entry] at found
    exact seeded found
  | some lesson =>
    obtain ⟨addr, seen⟩ := lesson
    rw [last] at entry
    by_cases old : table.expired seen m.monotonic
    · rw [DynamicZoneTable.addrFor_expired entry old]
      refine iff_of_true (fun addr ⟨found, _⟩ => seeded found) ?_
      rintro _ _ ⟨⟩ young
      exact absurd ((expiry seen).mp old) young
    · rw [DynamicZoneTable.addrFor_fresh entry old]
      constructor
      · rintro usable _ _ ⟨⟩ -
        by_cases null : addr = .value .null
        · exact .inl null
        · exact .inr (usable addr ⟨rfl, null⟩)
      · rintro harmless _ ⟨⟨⟩, other⟩
        exact (harmless addr seen rfl fun h => old ((expiry seen).mpr h)).resolve_left other

variable (lib sync relay m raw) in
/-- The zone part of a packet returns just when the packet stays in its zone,
goes to all nodes, or the zone's last lesson is harmless. -/
theorem zonePart_heard {b : BatmanBackhaul} (fresh : b.table.learned = ∅)
    (pinned : ∀ zoneId addr, b.table.pinned.lookup zoneId = some addr →
      addr.Usable b.takes fun _ => true)
    (ds : List ControlDatagram) (zoneId : Int) :
    (relay.zonePart (.batman (Runs.run (BatmanBackhaul.hear lib sync) b ds)) m zoneId raw).2 =
        .ok () ↔
      zoneId = BROADCAST_ZONE ∨ zoneId = relay.zoneId ∨ zoneId = b.zoneId ∨
        Harmless lib sync b m zoneId ds := by
  have own : (Runs.run (BatmanBackhaul.hear lib sync) b ds).zoneId = b.zoneId ∧
      (Runs.run (BatmanBackhaul.hear lib sync) b ds).takes = b.takes := by
    obtain ⟨table, run, -⟩ := BatmanBackhaul.heard lib sync b fresh ds
    rw [run]
    exact ⟨rfl, rfl⟩
  rw [zonePart_returns, ← zoneAddr_usable fresh pinned ds zoneId]
  unfold zoneCall
  by_cases all : zoneId = BROADCAST_ZONE
  · rw [if_pos all]
    refine iff_of_true ?_ (.inl all)
    rintro _ ⟨⟩
    trivial
  · rw [if_neg all, or_iff_right all]
    by_cases mine : zoneId = relay.zoneId
    · simp [mine]
    · rw [if_pos mine, or_iff_right mine]
      simp only [Option.some.injEq, forall_eq', Backhaul.Reaches, own.1, own.2]

/-- **Control frames.** After any control datagrams a packet is handled as if
there had been none, with every backhaul call returning, just when the last
lesson for the zone it is passed on to is harmless. -/
theorem control_frames_harmless (b : BatmanBackhaul) (fresh : b.table.learned = ∅)
    (pinned : ∀ zoneId addr, b.table.pinned.lookup zoneId = some addr →
      addr.Usable b.takes fun _ => true)
    (ds : List ControlDatagram) (relay : Relay core) (m : Moment) (peerId : PeerId)
    (raw : Bytes) :
    ((∀ call, .backhaul call ∈ (relay.handlePacket
          (.batman (Runs.run (BatmanBackhaul.hear lib sync) b ds)) m peerId raw).calls →
        (Backhaul.perform (.batman (Runs.run (BatmanBackhaul.hear lib sync) b ds)) m call).2 =
          .ok ()) ∧
      transportSends (relay.handlePacket
          (.batman (Runs.run (BatmanBackhaul.hear lib sync) b ds)) m peerId raw).calls =
        transportSends (relay.handlePacket (.batman b) m peerId raw).calls) ↔
    ∀ zoneId, relay.Spreads m raw zoneId → zoneId = BROADCAST_ZONE ∨ zoneId = relay.zoneId ∨
      zoneId = b.zoneId ∨ Harmless lib sync b m zoneId ds := by
  obtain ⟨b', run⟩ : ∃ b', Runs.run (BatmanBackhaul.hear lib sync) b ds = b' := ⟨_, rfl⟩
  have part (zoneId : Int) := zonePart_heard relay m raw lib sync fresh pinned ds zoneId
  have before (zoneId : Int) : (relay.zonePart (.batman b) m zoneId raw).2 = .ok () := by
    apply (zonePart_heard relay m raw lib sync fresh pinned [] zoneId).mpr
    refine .inr (.inr (.inr ?_))
    rintro _ _ ⟨⟩
  rw [run] at part ⊢
  rcases calls_shape relay m peerId raw with
    ⟨zoneId, first, rest, spreads, quiet, quiet', shape⟩ | ⟨calls, quiet, unspread, same⟩
  · have onlyZone : (∀ zoneId, relay.Spreads m raw zoneId → zoneId = BROADCAST_ZONE ∨
        zoneId = relay.zoneId ∨ zoneId = b.zoneId ∨ Harmless lib sync b m zoneId ds) ↔
        (relay.zonePart (.batman b') m zoneId raw).2 = .ok () := by
      rw [part]
      constructor
      · intro h
        exact h zoneId spreads
      · intro h other spreads'
        rw [spreads.unique spreads']
        exact h
    have calls : (relay.handlePacket (.batman b) m peerId raw).calls =
        first ++ relay.zoneCalls zoneId raw ++ rest := by
      rcases shape (.batman b) with ⟨-, calls⟩ | ⟨raises, -⟩
      · exact calls
      · exact absurd (before zoneId) raises
    rw [onlyZone, calls]
    constructor
    · rintro ⟨returns, -⟩
      rw [zonePart_returns]
      intro call makes
      rw [← Backhaul.perform_returns]
      apply returns
      rcases shape (.batman b') with ⟨-, calls'⟩ | ⟨-, calls'⟩
      · rw [calls']
        exact List.mem_append_left _ (List.mem_append_right _ (mem_zoneCalls.mpr makes))
      · rw [calls']
        exact List.mem_append_right _ (mem_zoneCalls.mpr makes)
    · intro returns
      rcases shape (.batman b') with ⟨-, calls'⟩ | ⟨raises, -⟩
      · rw [calls']
        refine ⟨?_, rfl⟩
        intro call here
        rw [Backhaul.perform_returns]
        apply (zonePart_returns zoneId).mp returns
        rcases List.mem_append.mp here with here | here
        · exact mem_zoneCalls.mp ((List.mem_append.mp here).resolve_left (quiet call))
        · exact absurd here (quiet' call)
      · exact absurd returns raises
  · refine iff_of_true ⟨?_, ?_⟩ fun zoneId spreads => absurd spreads (unspread zoneId)
    · intro call here
      rw [same] at here
      exact absurd here (quiet call)
    · rw [same, same]

end Relay

namespace Sample

/-- `json.loads` of two announcements, and of what `{` begins otherwise. -/
def announcement (addr : Json) : Json :=
  .obj [(text "node_id", .str (text "b")), (text "zone_id", .int 7), (text "addr", addr)]

def bytes (s : String) : Bytes := s.toUTF8.toList

def badBody : Bytes := bytes "\x7b\"node_id\":\"b\",\"zone_id\":7,\"addr\":5\x7d"

def goodBody : Bytes := bytes "\x7b\"node_id\":\"b\",\"zone_id\":7,\"addr\":\"10.77.0.7\"\x7d"

def lib : Stdlib where
  jsonLoads := fun raw =>
    if raw = badBody then .ok (announcement (.int 5))
    else if raw = goodBody then .ok (announcement (.str (text "10.77.0.7")))
    else .error .valueError
  str := fun value =>
    match value with
    | .str s => .ok s
    | _ => .ok []
  intOfStr := fun _ => .error .valueError

def sync : ZoneSync := ⟨text "a"⟩

def plainRelay : Relay Sample.core := .boot 3 none false none false

def plainPacket : Bytes := packet 4 requester 5 7 1 []

/-- One frame from a peer node, and the packets of zone 7 reach no phone. -/
theorem control_frame_stops :
    (plainRelay.handlePacket
        (.batman (Runs.run (BatmanBackhaul.hear lib sync) backhaul
          [⟨("10.77.0.7", 19788), badBody, 0⟩])) queryMoment "phoneA" plainPacket).result =
      .error .typeError ∧
    Relay.transportSends (plainRelay.handlePacket
        (.batman (Runs.run (BatmanBackhaul.hear lib sync) backhaul
          [⟨("10.77.0.7", 19788), badBody, 0⟩])) queryMoment "phoneA" plainPacket).calls = [] ∧
    Relay.transportSends (plainRelay.handlePacket (.batman backhaul) queryMoment "phoneA"
        plainPacket).calls = [("phoneB", packet 4 requester 4 7 1 [])] := by
  decide +kernel

def goodFrame : ControlDatagram := ⟨("10.77.0.7", 19788), goodBody, 0⟩

/-- An address that is a host. -/
theorem control_frames_harmless_host :
    (∀ call, .backhaul call ∈ (plainRelay.handlePacket
          (.batman (Runs.run (BatmanBackhaul.hear lib sync) backhaul [goodFrame])) queryMoment
          "phoneA" plainPacket).calls →
        (Backhaul.perform (.batman (Runs.run (BatmanBackhaul.hear lib sync) backhaul [goodFrame]))
          queryMoment call).2 = .ok ()) ∧
      Relay.transportSends (plainRelay.handlePacket
          (.batman (Runs.run (BatmanBackhaul.hear lib sync) backhaul [goodFrame])) queryMoment
          "phoneA" plainPacket).calls =
        Relay.transportSends (plainRelay.handlePacket (.batman backhaul) queryMoment "phoneA"
          plainPacket).calls := by
  have usable : (backhaul.lesson lib sync goodFrame).map (fun ann =>
      decide (ann.addr.Usable backhaul.takes queryMoment.sockets.resolves)) =
      some true := by
    decide +kernel
  refine (Relay.control_frames_harmless backhaul rfl ?_ [goodFrame] plainRelay queryMoment "phoneA"
    plainPacket).mpr ?_
  · rintro zoneId addr ⟨⟩
  · intro zoneId _
    refine .inr (.inr (.inr ?_))
    intro addr seen last _
    obtain ⟨d, isGood, taught⟩ := List.mem_filterMap.mp (List.mem_of_getLast? last)
    obtain ⟨ann, lesson, mine⟩ := Option.bind_eq_some_iff.mp taught
    rw [List.mem_singleton.mp isGood] at lesson
    rw [lesson] at usable
    split at mine
    · cases mine
      exact .inr (of_decide_eq_true (Option.some.inj usable))
    · cases mine

end Sample

end MeshlinkNode
