import MeshlinkNode.Service
import MeshlinkNode.Batman

/-!
# NodeRelay

The dispatcher between transport, pipelines, location service and backhaul.
`transport.send` raises nothing for a packet of a size that pipelines accept
(both transports log and drop); everything else it calls may raise, and an
exception leaves what was sent before it.
-/

namespace MeshlinkNode

def BROADCAST_ZONE : Int := 0xFFFF

def TTL_OFFSET : Nat := 68

def SPRAY_OFFSET : Nat := 69

def PHONE_PING_MAGIC : Bytes := [0x4d, 0x4c, 0x50, 0x50, 0x31]

def BACKEND_PROXY_MAGIC : Bytes := [0x4d, 0x4c, 0x42, 0x50, 0x31]

def isTelemetryFrame (frame : Bytes) : Bool := PHONE_PING_MAGIC.isPrefixOf frame

def isBackendProxyFrame (frame : Bytes) : Bool := BACKEND_PROXY_MAGIC.isPrefixOf frame

/-- `bytes([ttl - 1])` refuses a ttl of 0. -/
def decrementTtl (raw : Bytes) : Except PyExc Bytes :=
  match raw[TTL_OFFSET]? with
  | none => .error .indexError
  | some ttl =>
    if ttl = 0 then .error .valueError
    else .ok (raw.take TTL_OFFSET ++ (ttl - 1) :: raw.drop (TTL_OFFSET + 1))

/-- The packet with one hop less. -/
def spent (raw : Bytes) : Bytes := raw.set TTL_OFFSET (raw.getD TTL_OFFSET 0 - 1)

theorem decrementTtl_eq {raw : Bytes} (long : TTL_OFFSET < raw.length)
    (hop : raw.getD TTL_OFFSET 0 ≠ 0) : decrementTtl raw = .ok (spent raw) := by
  have slot : raw[TTL_OFFSET]? = some (raw.getD TTL_OFFSET 0) := by
    rw [List.getD_eq_getElem?_getD, List.getElem?_eq_getElem long, Option.getD_some]
  rw [spent, List.set_eq_take_append_cons_drop, if_pos long]
  simp only [decrementTtl, slot, if_neg hop]

@[simp] theorem spent_length (raw : Bytes) : (spent raw).length = raw.length := List.length_set

/-- `payload.decode("ascii")`. -/
def asciiDecode (payload : Bytes) : Option PyStr :=
  if payload.all (· < 128) then some (payload.map UInt8.toNat) else none

inductive Counter where
  | received
  | accepted
  | dropped
  | relayedToPhones
  | forwardedCrossZone
  | broadcastToNodes
  | attestationsCached
  | locationTerminated
  deriving DecidableEq, Repr

inductive BackhaulCall where
  | forwardToZone (zoneId : Int) (packet : Bytes)
  | broadcastToAllNodes (packet : Bytes)
  deriving DecidableEq

/-- What a relay asks of its surroundings, in order. The two services get the
frames that are theirs, and answer on their own. -/
inductive Call where
  | send (peerId : PeerId) (packet : Bytes)
  | backhaul (call : BackhaulCall)
  | phonePing (peerId : PeerId) (frame : Bytes)
  | backendProxy (peerId : PeerId) (frame : Bytes)
  deriving DecidableEq

/-- What goes to phones. -/
def Relay.transportSends (calls : List Call) : List (PeerId × Bytes) :=
  calls.filterMap fun call =>
    match call with
    | .send peerId packet => some (peerId, packet)
    | _ => none

/-- `NodeBackhaul`: the stub logs, the other sends. -/
inductive Backhaul where
  | loggingStub
  | batman (b : BatmanBackhaul)

/-- What holds while one packet is handled: clocks (`monotonic` is the zone
table's), `transport.list_peers()`, and what the operating system makes of a
call of `sendto`. -/
structure Moment where
  clocks : Clocks
  monotonic : Seconds
  peers : List PeerId
  distinct : peers.Nodup
  sockets : Sockets

/-- The calls of `sendto` a backhaul call makes, and what it raises. -/
def Backhaul.perform (backhaul : Backhaul) (m : Moment) :
    BackhaulCall → List Datagram × Except PyExc Unit
  | .forwardToZone zoneId packet =>
    match backhaul with
    | .loggingStub => ([], .ok ())
    | .batman b => b.forwardToZone m.sockets m.monotonic zoneId packet
  | .broadcastToAllNodes packet =>
    match backhaul with
    | .loggingStub => ([], .ok ())
    | .batman b => b.broadcastToAllNodes m.sockets packet

structure Relay (core : Core) where
  zoneId : Int
  attestation : Option core.Attestation
  phonePing : Bool
  location : Option (LocationService core)
  backendProxy : Bool
  pipeline : core.Pipeline
  presentationPipeline : core.Pipeline
  stats : Counter → Nat

/-- How handling a packet leaves the relay, what it asked for on the way, what
went to the socket, and what it raises. -/
structure Handled (core : Core) where
  relay : Relay core
  calls : List Call
  datagrams : List Datagram
  result : Except PyExc Unit

def Handled.after {core : Core} (calls : List Call) (datagrams : List Datagram)
    (h : Handled core) : Handled core :=
  { h with calls := calls ++ h.calls, datagrams := datagrams ++ h.datagrams }

variable {core : Core}

def isAttestationPresentation (core : Core) (raw : Bytes) : Bool :=
  (core.parsePacket raw).map Message.msgType = some .attestationPresent

namespace Relay

def boot (zoneId : Int) (attestation : Option core.Attestation) (phonePing : Bool)
    (location : Option (LocationService core)) (backendProxy : Bool) : Relay core :=
  ⟨zoneId, attestation, phonePing, location, backendProxy, core.newPipeline, core.newPipeline,
    fun _ => 0⟩

def count (relay : Relay core) (key : Counter) : Relay core :=
  { relay with stats := Function.update relay.stats key (relay.stats key + 1) }

/-- The backhaul call for a packet of a zone, if it leaves the node's own. -/
def zoneCall (relay : Relay core) (zoneId : Int) (raw : Bytes) : Option BackhaulCall :=
  if zoneId = BROADCAST_ZONE then some (.broadcastToAllNodes raw)
  else if zoneId ≠ relay.zoneId then some (.forwardToZone zoneId raw)
  else none

/-- Where a call is counted once it has returned. -/
def zoneCounter : BackhaulCall → Counter
  | .forwardToZone _ _ => .forwardedCrossZone
  | .broadcastToAllNodes _ => .broadcastToNodes

/-- The copy the local cell gets: the pipeline's, or the packet one hop on. -/
def relayed (raw : Bytes) (forward : Option Bytes) : Except PyExc Bytes :=
  match forward with
  | some copy => .ok copy
  | none => decrementTtl raw

def sends (peers : List PeerId) (origin : PeerId) (copy : Bytes) : List Call :=
  (peers.filter fun peer => peer ≠ origin).map fun peer => .send peer copy

/-- The relay to the local cell. The log line after it reads both hop bytes. -/
def fanOut (relay : Relay core) (m : Moment) (peerId : PeerId) (raw : Bytes)
    (forward : Option Bytes) : Handled core :=
  match relayed raw forward with
  | .error exc => ⟨relay, [], [], .error exc⟩
  | .ok copy =>
    match copy[TTL_OFFSET]? with
    | none => ⟨relay, [], [], .error .indexError⟩
    | some ttl =>
      if ttl = 0 then ⟨relay, [], [], .ok ()⟩
      else ⟨relay.count .relayedToPhones, sends m.peers peerId copy, [],
        if copy[SPRAY_OFFSET]?.isSome then .ok () else .error .indexError⟩

/-- From the zone rule on. -/
def relayOnward (relay : Relay core) (backhaul : Backhaul) (m : Moment) (peerId : PeerId)
    (raw : Bytes) (msg : Message) (forward : Option Bytes) : Handled core :=
  match relay.zoneCall msg.zoneId raw with
  | none => relay.fanOut m peerId raw forward
  | some call =>
    match backhaul.perform m call with
    | (datagrams, .error exc) => ⟨relay, [.backhaul call], datagrams, .error exc⟩
    | (datagrams, .ok ()) =>
      ((relay.count (zoneCounter call)).fanOut m peerId raw forward).after
        [.backhaul call] datagrams

/-- What follows an accepted packet. -/
def deliver (relay : Relay core) (backhaul : Backhaul) (m : Moment) (peerId : PeerId)
    (raw : Bytes) (msg : Message) (forward : Option Bytes) : Handled core :=
  match relay.location with
  | none => relay.relayOnward backhaul m peerId raw msg forward
  | some svc =>
    let t := svc.handleNodeTerminated peerId msg m.clocks
    let sent := t.sent.map fun (peer, packet) => .send peer packet
    let relay := { relay with location := some t.service }
    match t.result with
    | .error exc => ⟨relay, sent, [], .error exc⟩
    | .ok true => ⟨relay.count .locationTerminated, sent, [], .ok ()⟩
    | .ok false => (relay.relayOnward backhaul m peerId raw msg forward).after sent []

/-- `_handle_presentation`, with the attestation cache it writes to. -/
def handlePresentation (relay : Relay core) (cache : core.Attestation) (backhaul : Backhaul)
    (m : Moment) (raw : Bytes) : Handled core :=
  let (result, pipeline) := core.process relay.presentationPipeline none m.clocks.core raw
  let relay := { relay with presentationPipeline := pipeline }
  match result with
  | .drop _ => ⟨relay.count .dropped, [], [], .ok ()⟩
  | .deliver msg _ =>
    match asciiDecode msg.payload with
    | none => ⟨relay.count .dropped, [], [], .ok ()⟩
    | some token =>
      let (senderKey, cache) := core.addToken cache m.clocks.core token
      let relay := { relay with attestation := some cache }
      match senderKey with
      | none => ⟨relay.count .dropped, [], [], .ok ()⟩
      | some _ =>
        let relay := relay.count .attestationsCached
        match relay.zoneCall msg.zoneId raw with
        | none => ⟨relay, [], [], .ok ()⟩
        | some call =>
          let (datagrams, result) := backhaul.perform m call
          ⟨relay, [.backhaul call], datagrams, result⟩

/-- The attestation-gated path of a mesh packet. -/
def handleMesh (relay : Relay core) (backhaul : Backhaul) (m : Moment) (peerId : PeerId)
    (raw : Bytes) : Handled core :=
  let (result, pipeline) := core.process relay.pipeline relay.attestation m.clocks.core raw
  let relay := { relay with pipeline }
  match result with
  | .drop _ => ⟨relay.count .dropped, [], [], .ok ()⟩
  | .deliver msg forward => (relay.count .accepted).deliver backhaul m peerId raw msg forward

def handlePacket (relay : Relay core) (backhaul : Backhaul) (m : Moment) (peerId : PeerId)
    (raw : Bytes) : Handled core :=
  if isTelemetryFrame raw then
    ⟨relay, if relay.phonePing then [.phonePing peerId raw] else [], [], .ok ()⟩
  else if isBackendProxyFrame raw then
    ⟨relay, if relay.backendProxy then [.backendProxy peerId raw] else [], [], .ok ()⟩
  else
    let relay := relay.count .received
    match relay.attestation, isAttestationPresentation core raw with
    | some cache, true => relay.handlePresentation cache backhaul m raw
    | _, _ => relay.handleMesh backhaul m peerId raw

/-! ## The paths of a packet -/

/-- Which of its paths a packet takes. -/
inductive Path (core : Core) where
  | telemetry
  | backendProxy
  | presentation (cache : core.Attestation)
  | mesh

def demux (relay : Relay core) (raw : Bytes) : Path core :=
  if isTelemetryFrame raw then .telemetry
  else if isBackendProxyFrame raw then .backendProxy
  else match relay.attestation, isAttestationPresentation core raw with
    | some cache, true => .presentation cache
    | _, _ => .mesh

/-- The message of a packet that the attestation-gated pipeline accepts, and
its forward copy. -/
def accepted (relay : Relay core) (m : Moment) (raw : Bytes) : Option (Message × Option Bytes) :=
  match relay.demux raw with
  | .mesh =>
    match (core.process relay.pipeline relay.attestation m.clocks.core raw).1 with
    | .deliver msg forward => some (msg, forward)
    | .drop _ => none
  | _ => none

/-- The message of a presentation that its pipeline and `add_token` accept. -/
def presented (relay : Relay core) (m : Moment) (raw : Bytes) : Option Message :=
  match relay.demux raw with
  | .presentation cache =>
    match (core.process relay.presentationPipeline none m.clocks.core raw).1 with
    | .deliver msg _ =>
      match (asciiDecode msg.payload).bind fun t => (core.addToken cache m.clocks.core t).1 with
      | some _ => some msg
      | none => none
    | .drop _ => none
  | _ => none

def zoneCalls (relay : Relay core) (zoneId : Int) (raw : Bytes) : List Call :=
  (relay.zoneCall zoneId raw).toList.map Call.backhaul

/-- The relay once the main pipeline has judged a packet. -/
def judged (relay : Relay core) (m : Moment) (raw : Bytes) : Relay core :=
  { relay.count .received with
    pipeline := (core.process relay.pipeline relay.attestation m.clocks.core raw).2 }

variable {relay : Relay core} {backhaul : Backhaul} {m : Moment} {peerId : PeerId} {raw : Bytes}

theorem handlePacket_telemetry (h : relay.demux raw = .telemetry) :
    relay.handlePacket backhaul m peerId raw =
      ⟨relay, if relay.phonePing then [.phonePing peerId raw] else [], [], .ok ()⟩ := by
  unfold demux at h
  split at h
  · rename_i telemetry
    exact if_pos telemetry
  · split at h
    · cases h
    · split at h <;> cases h

theorem handlePacket_backendProxy (h : relay.demux raw = .backendProxy) :
    relay.handlePacket backhaul m peerId raw =
      ⟨relay, if relay.backendProxy then [.backendProxy peerId raw] else [], [], .ok ()⟩ := by
  unfold demux at h
  split at h
  · cases h
  · rename_i notTelemetry
    split at h
    · rename_i proxy
      rw [handlePacket, if_neg notTelemetry, if_pos proxy]
    · split at h <;> cases h

theorem handlePacket_presentation {cache : core.Attestation}
    (h : relay.demux raw = .presentation cache) :
    relay.handlePacket backhaul m peerId raw =
      (relay.count .received).handlePresentation cache backhaul m raw := by
  unfold demux at h
  split at h
  · cases h
  · rename_i notTelemetry
    split at h
    · cases h
    · rename_i notProxy
      rw [handlePacket, if_neg notTelemetry, if_neg notProxy]
      split at h
      · rename_i attested presents
        cases h
        simp only [count, attested, presents]
      · cases h

theorem handlePacket_mesh (h : relay.demux raw = .mesh) :
    relay.handlePacket backhaul m peerId raw =
      (relay.count .received).handleMesh backhaul m peerId raw := by
  unfold demux at h
  split at h
  · cases h
  · rename_i notTelemetry
    split at h
    · cases h
    · rename_i notProxy
      rw [handlePacket, if_neg notTelemetry, if_neg notProxy]
      split at h
      · cases h
      · rename_i other
        simp only [count]

theorem accepted_of_demux_ne_mesh (h : relay.demux raw ≠ .mesh) : relay.accepted m raw = none := by
  unfold accepted
  split
  · rename_i mesh
    exact absurd mesh h
  · rfl

theorem presented_of_demux_ne (h : ∀ cache, relay.demux raw ≠ .presentation cache) :
    relay.presented m raw = none := by
  unfold presented
  split
  · rename_i path
    exact absurd path (h _)
  · rfl

theorem demux_of_accepted {msg : Message} {forward : Option Bytes}
    (h : relay.accepted m raw = some (msg, forward)) : relay.demux raw = .mesh := by
  unfold accepted at h
  split at h
  · assumption
  · cases h

theorem process_of_accepted {msg : Message} {forward : Option Bytes}
    (h : relay.accepted m raw = some (msg, forward)) :
    (core.process relay.pipeline relay.attestation m.clocks.core raw).1 =
      .deliver msg forward := by
  rw [accepted, demux_of_accepted h] at h
  dsimp only at h
  split at h
  · rename_i delivered
    cases h
    exact delivered
  · cases h

/-- **An accepted packet** goes on to the location service. -/
theorem handlePacket_accepted {msg : Message} {forward : Option Bytes}
    (h : relay.accepted m raw = some (msg, forward)) :
    relay.handlePacket backhaul m peerId raw =
      ((relay.judged m raw).count .accepted).deliver backhaul m peerId raw msg forward := by
  have delivered := process_of_accepted h
  rw [handlePacket_mesh (demux_of_accepted h), handleMesh]
  simp only [count] at delivered ⊢
  rw [delivered]
  rfl

theorem handlePacket_dropped (mesh : relay.demux raw = .mesh) (h : relay.accepted m raw = none) :
    relay.handlePacket backhaul m peerId raw =
      ⟨(relay.judged m raw).count .dropped, [], [], .ok ()⟩ := by
  rw [accepted, mesh] at h
  dsimp only at h
  rw [handlePacket_mesh mesh, handleMesh]
  split at h
  · cases h
  · rename_i why dropped
    simp only [count] at dropped ⊢
    rw [dropped]
    rfl

/-- The calls of `sendto` for a packet under the zone rule, and what they
raise. -/
def zonePart (relay : Relay core) (backhaul : Backhaul) (m : Moment) (zoneId : Int)
    (raw : Bytes) : List Datagram × Except PyExc Unit :=
  (relay.zoneCall zoneId raw).elim ([], .ok ()) (backhaul.perform m)

variable (backhaul m peerId) in
/-- **A presentation** makes the backhaul call of its zone, if both its
pipeline and the attestation cache accept it, and touches one pipeline. -/
theorem handlePacket_presented {cache : core.Attestation}
    (h : relay.demux raw = .presentation cache) :
    ∃ relay' : Relay core, relay'.pipeline = relay.pipeline ∧
      relay'.presentationPipeline =
        (core.process relay.presentationPipeline none m.clocks.core raw).2 ∧
      relay.handlePacket backhaul m peerId raw =
        (relay.presented m raw).elim ⟨relay', [], [], .ok ()⟩ fun msg =>
          ⟨relay', relay.zoneCalls msg.zoneId raw,
            (relay.zonePart backhaul m msg.zoneId raw).1,
            (relay.zonePart backhaul m msg.zoneId raw).2⟩ := by
  rw [handlePacket_presentation h, presented, h, handlePresentation]
  simp only [count]
  cases result : (core.process relay.presentationPipeline none m.clocks.core raw).1 with
  | drop why =>
    refine ⟨_, ?_, ?_, rfl⟩ <;> rfl
  | deliver msg forward =>
    simp only
    cases decoded : asciiDecode msg.payload with
    | none => refine ⟨_, ?_, ?_, rfl⟩ <;> rfl
    | some token =>
      simp only [Option.bind_some]
      cases key : (core.addToken cache m.clocks.core token).1 with
      | none => refine ⟨_, ?_, ?_, rfl⟩ <;> rfl
      | some senderKey =>
        simp only [Option.elim_some, zoneCalls, zonePart, zoneCall]
        by_cases all : msg.zoneId = BROADCAST_ZONE
        · simp only [if_pos all]
          refine ⟨_, ?_, ?_, rfl⟩ <;> rfl
        · by_cases other : msg.zoneId ≠ relay.zoneId
          · simp only [if_neg all, if_pos other]
            refine ⟨_, ?_, ?_, rfl⟩ <;> rfl
          · simp only [if_neg all, if_neg other]
            refine ⟨_, ?_, ?_, rfl⟩ <;> rfl

/-! ## What an accepted packet leads to -/

/-- One relayed copy for every peer but the origin, if its ttl lets it. -/
def localCopies (m : Moment) (peerId : PeerId) (raw : Bytes) (forward : Option Bytes) :
    List Call :=
  match relayed raw forward with
  | .ok copy => if 0 < copy.getD TTL_OFFSET 0 then sends m.peers peerId copy else []
  | .error _ => []

/-- The response the location service has for the sender. -/
def response (relay : Relay core) (m : Moment) (peerId : PeerId) (msg : Message) : List Call :=
  match relay.location with
  | none => []
  | some svc =>
    if msg.msgType = .locationQuery then
      match (svc.answer msg m.clocks).1 with
      | .served _ response => [.send peerId (svc.responsePacket m.clocks response)]
      | _ => []
    else []

variable {msg : Message} {forward : Option Bytes}

theorem fanOut_calls : (relay.fanOut m peerId raw forward).calls =
    localCopies m peerId raw forward := by
  unfold fanOut localCopies
  cases relayed raw forward with
  | error exc => rfl
  | ok copy =>
    simp only [List.getD_eq_getElem?_getD]
    cases copy[TTL_OFFSET]? with
    | none => rfl
    | some ttl =>
      simp only [Option.getD_some]
      by_cases exhausted : ttl = 0
      · simp [exhausted]
      · rw [if_neg exhausted, if_pos (UInt8.pos_iff_ne_zero.mpr exhausted)]

theorem fanOut_datagrams : (relay.fanOut m peerId raw forward).datagrams = [] := by
  unfold fanOut
  split
  · rfl
  · split
    · rfl
    · split <;> rfl

theorem fanOut_pipelines :
    (relay.fanOut m peerId raw forward).relay.pipeline = relay.pipeline ∧
    (relay.fanOut m peerId raw forward).relay.presentationPipeline =
      relay.presentationPipeline := by
  unfold fanOut
  split
  · exact ⟨rfl, rfl⟩
  · split
    · exact ⟨rfl, rfl⟩
    · split <;> exact ⟨rfl, rfl⟩

/-- With both hop bytes in the copy, the fan-out returns. -/
theorem fanOut_returns {copy : Bytes} (h : relayed raw forward = .ok copy)
    (long : SPRAY_OFFSET < copy.length) :
    (relay.fanOut m peerId raw forward).result = .ok () := by
  have ttl : TTL_OFFSET < copy.length := Nat.lt_of_succ_lt long
  unfold fanOut
  simp only [h, List.getElem?_eq_getElem ttl, List.getElem?_eq_getElem long]
  split <;> rfl

variable (relay backhaul m peerId raw msg forward) in
/-- The backhaul call is made first: if it raises, nothing follows. -/
theorem relayOnward_cases :
    (relay.relayOnward backhaul m peerId raw msg forward).datagrams =
      (relay.zonePart backhaul m msg.zoneId raw).1 ∧
    (((relay.zonePart backhaul m msg.zoneId raw).2 = .ok () ∧
        (relay.relayOnward backhaul m peerId raw msg forward).calls =
          relay.zoneCalls msg.zoneId raw ++ localCopies m peerId raw forward ∧
        ∃ counted : Relay core, (relay.relayOnward backhaul m peerId raw msg forward).result =
          (counted.fanOut m peerId raw forward).result) ∨
      ∃ exc, (relay.zonePart backhaul m msg.zoneId raw).2 = .error exc ∧
        (relay.relayOnward backhaul m peerId raw msg forward).calls =
          relay.zoneCalls msg.zoneId raw ∧
        (relay.relayOnward backhaul m peerId raw msg forward).result = .error exc) := by
  unfold relayOnward zonePart zoneCalls
  cases relay.zoneCall msg.zoneId raw with
  | none => exact ⟨fanOut_datagrams, .inl ⟨rfl, fanOut_calls, relay, rfl⟩⟩
  | some call =>
    simp only [Option.elim_some]
    obtain ⟨datagrams, result⟩ := backhaul.perform m call
    cases result with
    | error exc => exact ⟨rfl, .inr ⟨exc, rfl, rfl, rfl⟩⟩
    | ok u =>
      refine ⟨?_, .inl ⟨rfl, ?_, relay.count (zoneCounter call), rfl⟩⟩
      · simp [Handled.after, fanOut_datagrams]
      · simp [Handled.after, fanOut_calls]

theorem relayOnward_pipelines :
    (relay.relayOnward backhaul m peerId raw msg forward).relay.pipeline = relay.pipeline ∧
    (relay.relayOnward backhaul m peerId raw msg forward).relay.presentationPipeline =
      relay.presentationPipeline := by
  unfold relayOnward
  split
  · exact fanOut_pipelines
  · split
    · exact ⟨rfl, rfl⟩
    · exact fanOut_pipelines

theorem deliver_none (h : relay.location = none) :
    relay.deliver backhaul m peerId raw msg forward =
      relay.relayOnward backhaul m peerId raw msg forward := by
  simp only [deliver, h]

/-- A packet the location service neither consumes nor fails on goes on. -/
theorem deliver_onward {svc : LocationService core} (h : relay.location = some svc)
    (onward : (svc.handleNodeTerminated peerId msg m.clocks).result = .ok false) :
    relay.deliver backhaul m peerId raw msg forward =
      (({ relay with
          location := some (svc.handleNodeTerminated peerId msg m.clocks).service } :
          Relay core).relayOnward backhaul m peerId raw msg forward).after
        ((svc.handleNodeTerminated peerId msg m.clocks).sent.map fun (peer, packet) =>
          .send peer packet) [] := by
  simp only [deliver, h, onward]

variable (backhaul raw forward) in
theorem deliver_consumed {svc : LocationService core} (h : relay.location = some svc)
    (consumed : (svc.handleNodeTerminated peerId msg m.clocks).result = .ok true) :
    (relay.deliver backhaul m peerId raw msg forward).calls =
      (svc.handleNodeTerminated peerId msg m.clocks).sent.map (fun (peer, packet) =>
        .send peer packet) ∧
    (relay.deliver backhaul m peerId raw msg forward).datagrams = [] ∧
    (relay.deliver backhaul m peerId raw msg forward).result = .ok () := by
  simp only [deliver, h, consumed, and_self]

variable (backhaul raw forward) in
theorem deliver_failed {svc : LocationService core} {exc : PyExc} (h : relay.location = some svc)
    (failed : (svc.handleNodeTerminated peerId msg m.clocks).result = .error exc) :
    (relay.deliver backhaul m peerId raw msg forward).calls =
      (svc.handleNodeTerminated peerId msg m.clocks).sent.map (fun (peer, packet) =>
        .send peer packet) ∧
    (relay.deliver backhaul m peerId raw msg forward).datagrams = [] ∧
    (relay.deliver backhaul m peerId raw msg forward).result = .error exc := by
  simp only [deliver, h, failed, and_self]

/-- So does one it answers, after the response. -/
theorem deliver_responds {svc : LocationService core} (here : relay.location = some svc)
    (onward : (svc.handleNodeTerminated peerId msg m.clocks).result = .ok false)
    (responds : (svc.handleNodeTerminated peerId msg m.clocks).sent.map
      (fun (peer, packet) => Call.send peer packet) = relay.response m peerId msg) :
    ∃ location, relay.deliver backhaul m peerId raw msg forward =
      (({ relay with location } : Relay core).relayOnward backhaul m peerId raw msg forward).after
        (relay.response m peerId msg) [] := by
  rw [← responds]
  exact ⟨_, deliver_onward here onward⟩

variable (relay backhaul m peerId raw msg forward) in
/-- **The location service comes first**: it consumes a beacon, an exception in
an answer ends everything, and every other packet goes on after the response. -/
theorem deliver_cases :
    (relay.location.isSome ∧ msg.msgType = .location ∧
      (relay.deliver backhaul m peerId raw msg forward).calls = [] ∧
      (relay.deliver backhaul m peerId raw msg forward).datagrams = [] ∧
      (relay.deliver backhaul m peerId raw msg forward).result = .ok ()) ∨
    (∃ svc exc, relay.location = some svc ∧ msg.msgType = .locationQuery ∧
      (svc.answer msg m.clocks).1 = .raised exc ∧
      (relay.deliver backhaul m peerId raw msg forward).calls = [] ∧
      (relay.deliver backhaul m peerId raw msg forward).datagrams = [] ∧
      (relay.deliver backhaul m peerId raw msg forward).result = .error exc) ∨
    (¬ (relay.location.isSome ∧ msg.msgType = .location) ∧
      (∀ svc exc, relay.location = some svc → msg.msgType = .locationQuery →
        (svc.answer msg m.clocks).1 ≠ .raised exc) ∧
      ∃ location, relay.deliver backhaul m peerId raw msg forward =
        (({ relay with location } : Relay core).relayOnward backhaul m peerId raw msg forward).after
          (relay.response m peerId msg) []) := by
  cases here : relay.location with
  | none =>
    have silent : relay.response m peerId msg = [] := by simp only [response, here]
    refine .inr (.inr ⟨by simp, by simp, none, ?_⟩)
    rw [deliver_none here, silent, ← here]
    rfl
  | some svc =>
    by_cases beacon : msg.msgType = .location
    · obtain ⟨silent, consumed⟩ := svc.terminated_beacon peerId m.clocks beacon
      have done := deliver_consumed backhaul raw forward here consumed
      rw [silent] at done
      exact .inl ⟨rfl, beacon, done⟩
    · by_cases query : msg.msgType = .locationQuery
      · obtain ⟨sent, result⟩ := svc.terminated_query peerId m.clocks query
        cases answered : (svc.answer msg m.clocks).1 with
        | raised exc =>
          rw [answered] at sent result
          have done := deliver_failed backhaul raw forward here result
          rw [sent] at done
          exact .inr (.inl ⟨svc, exc, rfl, query, answered, done⟩)
        | refused why =>
          rw [answered] at sent result
          refine .inr (.inr ⟨by simp [beacon], by rintro _ exc ⟨⟩ -; simp [answered], ?_⟩)
          apply deliver_responds here result
          simp only [sent, response, here, query, answered]
          rfl
        | served payload response =>
          rw [answered] at sent result
          refine .inr (.inr ⟨by simp [beacon], by rintro _ exc ⟨⟩ -; simp [answered], ?_⟩)
          apply deliver_responds here result
          simp only [sent, Relay.response, here, query, answered]
          rfl
      · obtain ⟨sent, result⟩ := svc.terminated_other peerId m.clocks beacon query
        refine .inr (.inr ⟨by simp [beacon], fun _ _ _ isQuery => absurd isQuery query, ?_⟩)
        apply deliver_responds here result
        simp only [sent, response, here, query]
        rfl

variable (relay backhaul m peerId raw msg forward) in
theorem deliver_pipelines :
    (relay.deliver backhaul m peerId raw msg forward).relay.pipeline = relay.pipeline ∧
    (relay.deliver backhaul m peerId raw msg forward).relay.presentationPipeline =
      relay.presentationPipeline := by
  unfold deliver
  split
  · exact relayOnward_pipelines
  · dsimp only
    split
    · exact ⟨rfl, rfl⟩
    · exact ⟨rfl, rfl⟩
    · exact relayOnward_pipelines

theorem zonePart_at_most_one (zoneId : Int) :
    (relay.zonePart backhaul m zoneId raw).1.length ≤ 1 := by
  unfold zonePart
  cases relay.zoneCall zoneId raw with
  | none => exact Nat.zero_le 1
  | some call =>
    cases backhaul with
    | loggingStub => cases call <;> exact Nat.zero_le 1
    | batman b =>
      cases call with
      | forwardToZone zoneId packet => exact b.forward_at_most_one m.monotonic zoneId packet
      | broadcastToAllNodes packet => exact le_refl 1

end Relay

end MeshlinkNode
