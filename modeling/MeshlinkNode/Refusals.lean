import MeshlinkNode.Outbound

/-!
# Refusals look alike

A query that is not answered goes on like any other packet. What a sender can
see of it does not depend on why, except where an exception stops it.
-/

namespace MeshlinkNode.Relay

variable {core : Core}

/-- Two nodes, each at its moment, that may differ in what their location
services hold, in what the services' clocks show and in what the operating
system makes of a call of `sendto`. -/
structure Twins (r s : Relay core) (m n : Moment) : Prop where
  zoneId : r.zoneId = s.zoneId
  attestation : r.attestation = s.attestation
  pipeline : r.pipeline = s.pipeline
  coreClock : m.clocks.core = n.clocks.core
  monotonic : m.monotonic = n.monotonic
  peers : m.peers = n.peers

variable {relay r s : Relay core} {backhaul : Backhaul} {m n : Moment} {peerId : PeerId}
  {raw : Bytes} {msg : Message} {forward : Option Bytes}

theorem Twins.accepted (h : Twins r s m n) : r.accepted m raw = s.accepted n raw := by
  unfold Relay.accepted demux
  rw [h.attestation, h.pipeline, h.coreClock]

/-- An accepted packet has a relayed copy with both hop bytes. -/
theorem relayed_of_accepted (lawful : core.HopBytes)
    (h : relay.accepted m raw = some (msg, forward)) :
    ∃ copy, relayed raw forward = .ok copy ∧ SPRAY_OFFSET < copy.length := by
  have delivered := process_of_accepted h
  cases forward with
  | some copy => exact ⟨copy, rfl, lawful.copy delivered⟩
  | none =>
    obtain ⟨long, hop⟩ := lawful.packet delivered
    have ttl : TTL_OFFSET < raw.length := Nat.lt_of_succ_lt long
    refine ⟨spent raw, decrementTtl_eq ttl hop, ?_⟩
    rw [spent_length]
    exact long

/-- An accepted query is handled without an exception just when its answer
raises none and the backhaul call gets past the table. -/
theorem query_returns (lawful : core.HopBytes) {svc : LocationService core}
    (accepts : relay.accepted m raw = some (msg, forward)) (here : relay.location = some svc)
    (query : msg.msgType = .locationQuery) :
    (relay.handlePacket backhaul m peerId raw).result = .ok () ↔
      ¬ LocationAuthz.Unsealable svc.directory svc.store svc.authz msg m.clocks.authz
        m.clocks.store ∧
      ∀ call, relay.zoneCall msg.zoneId raw = some call → backhaul.Reaches m call := by
  obtain ⟨copy, isCopy, long⟩ := relayed_of_accepted lawful accepts
  rw [handlePacket_accepted accepts, ← LocationAuthz.handleQuery_raised, ← zonePart_returns]
  rcases deliver_cases ((relay.judged m raw).count .accepted) backhaul m peerId raw msg forward with
    ⟨-, beacon, -⟩ | ⟨svc', exc, here', -, raises, -, -, result⟩ | ⟨-, answers, location, goes⟩
  · rw [query] at beacon
    cases beacon
  · have same : svc' = svc := Option.some.inj (here'.symm.trans here)
    subst same
    rw [result]
    refine iff_of_false (by simp) ?_
    rintro ⟨sealable, -⟩
    exact sealable ⟨exc, raises⟩
  · have sealable : ¬ ∃ exc, (LocationAuthz.handleQuery core svc.directory svc.store svc.authz msg
        m.clocks.authz m.clocks.store).1 = .raised exc :=
      fun ⟨exc, raises⟩ => answers svc exc here query raises
    rw [goes, and_iff_right sealable]
    obtain ⟨-, ⟨returns, -, counted, result⟩ | ⟨exc, raises, -, result⟩⟩ :=
      relayOnward_cases { (relay.judged m raw).count .accepted with location } backhaul m peerId
        raw msg forward
    · refine iff_of_true ?_ returns
      exact result.trans (fanOut_returns isCopy long)
    · refine iff_of_false ?_ ?_
      · intro returned
        cases result.symm.trans returned
      · intro returns
        cases raises.symm.trans returns

/-- An accepted query that is not answered makes the same calls as any packet. -/
theorem query_calls {svc : LocationService core}
    (accepts : relay.accepted m raw = some (msg, forward)) (here : relay.location = some svc)
    (query : msg.msgType = .locationQuery) (silent : relay.response m peerId msg = [])
    (sealable : ¬ LocationAuthz.Unsealable svc.directory svc.store svc.authz msg m.clocks.authz
      m.clocks.store)
    (reaches : ∀ call, relay.zoneCall msg.zoneId raw = some call → backhaul.Reaches m call) :
    (relay.handlePacket backhaul m peerId raw).calls =
      relay.zoneCalls msg.zoneId raw ++ localCopies m peerId raw forward := by
  have unhindered : Unhindered ((relay.judged m raw).count .accepted) backhaul m peerId raw msg
      forward := by
    constructor
    · intro svc' here' _ unsealable
      have same : svc' = svc := Option.some.inj (here'.symm.trans here)
      subst same
      exact absurd unsealable sealable
    · intro _ _
      exact reaches
  have onward : ¬ (((relay.judged m raw).count .accepted).location.isSome ∧
      msg.msgType = .location) := by
    rw [query]
    rintro ⟨-, ⟨⟩⟩
  rw [handlePacket_accepted accepts, (deliver_due _ _ _ _ _ _ _).mpr unhindered, if_neg onward]
  have quiet : ((relay.judged m raw).count .accepted).response m peerId msg = [] := silent
  rw [quiet, List.nil_append]
  rfl

/-- **Uniform refusals.** Where neither of two twins responds to an accepted
query, both return and make the same calls just when neither has a requester
row without a usable key at the end of checks that all pass, and the backhaul
call gets past the table in both. -/
theorem refusals_alike (lawful : core.HopBytes) {svc svc' : LocationService core}
    (twins : Twins r s m n) (here : r.location = some svc) (here' : s.location = some svc')
    (accepts : r.accepted m raw = some (msg, forward)) (query : msg.msgType = .locationQuery)
    (silent : r.response m peerId msg = []) (silent' : s.response n peerId msg = []) :
    ((r.handlePacket backhaul m peerId raw).calls = (s.handlePacket backhaul n peerId raw).calls ∧
      (r.handlePacket backhaul m peerId raw).result = .ok () ∧
      (s.handlePacket backhaul n peerId raw).result = .ok ()) ↔
    ¬ LocationAuthz.Unsealable svc.directory svc.store svc.authz msg m.clocks.authz
        m.clocks.store ∧
    ¬ LocationAuthz.Unsealable svc'.directory svc'.store svc'.authz msg n.clocks.authz
        n.clocks.store ∧
    ∀ call, r.zoneCall msg.zoneId raw = some call →
      backhaul.Reaches m call ∧ backhaul.Reaches n call := by
  have accepts' : s.accepted n raw = some (msg, forward) := twins.accepted.symm.trans accepts
  have zone : r.zoneCall msg.zoneId raw = s.zoneCall msg.zoneId raw := by
    unfold zoneCall
    rw [twins.zoneId]
  rw [query_returns lawful accepts here query, query_returns lawful accepts' here' query, ← zone]
  constructor
  · rintro ⟨-, ⟨sealable, reaches⟩, sealable', reaches'⟩
    exact ⟨sealable, sealable', fun call makes => ⟨reaches call makes, reaches' call makes⟩⟩
  · rintro ⟨sealable, sealable', both⟩
    have reaches : ∀ call, r.zoneCall msg.zoneId raw = some call → backhaul.Reaches m call :=
      fun call makes => (both call makes).1
    have reaches' : ∀ call, r.zoneCall msg.zoneId raw = some call → backhaul.Reaches n call :=
      fun call makes => (both call makes).2
    refine ⟨?_, ⟨sealable, reaches⟩, sealable', reaches'⟩
    rw [query_calls accepts here query silent sealable reaches,
      query_calls accepts' here' query silent' sealable' (zone ▸ reaches')]
    unfold zoneCalls localCopies
    rw [zone, twins.peers]

end MeshlinkNode.Relay

namespace MeshlinkNode.Sample

/-- The service before the target's beacon arrived. -/
def beaconlessService : LocationService Sample.core :=
  (LocationService.boot 60 (.empty Sample.core) () [] 3).after
    [.refresh (.ok (users [targetRow, keylessRow]))]

def beaconlessRelay : Relay Sample.core := .boot 3 none true (some beaconlessService) true

/-- The service before it knew anyone. -/
def strangerService : LocationService Sample.core := .boot 60 (.empty Sample.core) () [] 3

def strangerRelay : Relay Sample.core := .boot 3 none true (some strangerService) true

/-- Neither node answers, and only one passes the query on. -/
theorem keyless_refusal_visible :
    Relay.Twins keylessRelay beaconlessRelay queryMoment queryMoment ∧
    keylessRelay.accepted queryMoment queryPacket =
      some (queryMessage, some (packet 2 requester 4 9 7 token)) ∧
    keylessRelay.response queryMoment "phoneA" queryMessage = [] ∧
    beaconlessRelay.response queryMoment "phoneA" queryMessage = [] ∧
    (keylessRelay.handlePacket .loggingStub queryMoment "phoneA" queryPacket).calls = [] ∧
    (beaconlessRelay.handlePacket .loggingStub queryMoment "phoneA" queryPacket).calls =
      [.backhaul (.forwardToZone 9 queryPacket),
        .send "phoneB" (packet 2 requester 4 9 7 token)] := by
  refine ⟨⟨rfl, rfl, rfl, rfl, rfl, rfl⟩, ?_⟩
  decide +kernel

/-- An unknown issuer and a missing beacon. -/
theorem refusals_alike_sample :
    ((beaconlessRelay.handlePacket .loggingStub queryMoment "phoneA" queryPacket).calls =
        (strangerRelay.handlePacket .loggingStub queryMoment "phoneA" queryPacket).calls ∧
      (beaconlessRelay.handlePacket .loggingStub queryMoment "phoneA" queryPacket).result = .ok () ∧
      (strangerRelay.handlePacket .loggingStub queryMoment "phoneA" queryPacket).result =
        .ok ()) := by
  have accepts : beaconlessRelay.accepted queryMoment queryPacket =
      some (queryMessage, some (packet 2 requester 4 9 7 token)) := by
    decide +kernel
  have noBeacon : (beaconlessService.answer queryMessage queryMoment.clocks).1 =
      .refused .noBeacon := by
    decide +kernel
  have unknown : (strangerService.answer queryMessage queryMoment.clocks).1 =
      .refused .unknownIssuer := by
    decide +kernel
  have twins : Relay.Twins beaconlessRelay strangerRelay queryMoment queryMoment :=
    ⟨rfl, rfl, rfl, rfl, rfl, rfl⟩
  have here : beaconlessRelay.location = some beaconlessService := rfl
  have here' : strangerRelay.location = some strangerService := rfl
  have query : queryMessage.msgType = .locationQuery := rfl
  refine (Relay.refusals_alike core_hopBytes twins here here' accepts query ?_ ?_).mpr
    ⟨?_, ?_, fun _ _ => ?_⟩
  · decide +kernel
  · decide +kernel
  · rw [← LocationAuthz.handleQuery_raised]
    rintro ⟨exc, raises⟩
    cases noBeacon.symm.trans raises
  · rw [← LocationAuthz.handleQuery_raised]
    rintro ⟨exc, raises⟩
    cases unknown.symm.trans raises
  · unfold Backhaul.Reaches
    split <;> trivial

end MeshlinkNode.Sample
