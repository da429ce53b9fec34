import MeshlinkNode.Relay

/-!
# What a relay sends for a packet

`due` is what a packet calls for, whatever fails on the way. The relay does
exactly that unless an exception stops it first.
-/

namespace MeshlinkNode

variable {core : Core}

/-- A backhaul call gets past the table: it goes to all nodes, or the address
held for the zone makes an endpoint. -/
def Backhaul.Reaches (backhaul : Backhaul) (m : Moment) : BackhaulCall → Prop
  | .broadcastToAllNodes _ => True
  | .forwardToZone zoneId _ =>
    match backhaul with
    | .loggingStub => True
    | .batman b =>
      zoneId = b.zoneId ∨ ∀ addr, b.zoneAddr m.monotonic zoneId = some addr →
        addr.Usable b.takes m.sockets.resolves

theorem Backhaul.perform_returns (backhaul : Backhaul) (m : Moment) (call : BackhaulCall) :
    (backhaul.perform m call).2 = .ok () ↔ backhaul.Reaches m call := by
  cases call with
  | forwardToZone zoneId packet =>
    cases backhaul with
    | loggingStub => exact iff_of_true rfl trivial
    | batman b => exact BatmanBackhaul.forward_returns m.monotonic zoneId packet
  | broadcastToAllNodes packet =>
    cases backhaul with
    | loggingStub => exact iff_of_true rfl trivial
    | batman b => exact iff_of_true (BatmanBackhaul.broadcast_returns packet) trivial

namespace Relay

variable {relay : Relay core} {backhaul : Backhaul} {m : Moment} {peerId : PeerId} {raw : Bytes}
  {msg : Message} {forward : Option Bytes}

theorem zonePart_returns (zoneId : Int) : (relay.zonePart backhaul m zoneId raw).2 = .ok () ↔
    ∀ call, relay.zoneCall zoneId raw = some call → backhaul.Reaches m call := by
  unfold zonePart
  cases relay.zoneCall zoneId raw with
  | none => simp
  | some call => simp [Backhaul.perform_returns]

/-- **What a packet calls for.** Frames of the two services go to them alone;
an accepted presentation to the backhaul under the zone rule; an accepted
beacon nowhere, where there is a location service; every other accepted packet
to the backhaul under the zone rule and to the other peers, after the response
if it is a query that is answered. -/
def due (relay : Relay core) (m : Moment) (peerId : PeerId) (raw : Bytes) : List Call :=
  match relay.demux raw with
  | .telemetry => if relay.phonePing then [.phonePing peerId raw] else []
  | .backendProxy => if relay.backendProxy then [.backendProxy peerId raw] else []
  | .presentation _ => (relay.presented m raw).elim [] fun msg => relay.zoneCalls msg.zoneId raw
  | .mesh =>
    match relay.accepted m raw with
    | none => []
    | some (msg, forward) =>
      if relay.location.isSome ∧ msg.msgType = .location then []
      else relay.response m peerId msg ++ relay.zoneCalls msg.zoneId raw ++
        localCopies m peerId raw forward

/-- The local cell is due a copy: its ttl lets it, and a peer other than the
origin is connected. -/
def HasCopies (m : Moment) (peerId : PeerId) (raw : Bytes) (forward : Option Bytes) : Prop :=
  (∃ copy, relayed raw forward = .ok copy ∧ 0 < copy.getD TTL_OFFSET 0) ∧
    ∃ peer ∈ m.peers, peer ≠ peerId

theorem localCopies_ne_nil :
    localCopies m peerId raw forward ≠ [] ↔ HasCopies m peerId raw forward := by
  have others (copy : Bytes) :
      sends m.peers peerId copy ≠ [] ↔ ∃ peer ∈ m.peers, peer ≠ peerId := by
    simp [sends]
  unfold localCopies HasCopies
  cases relayed raw forward with
  | error exc => simp
  | ok copy =>
    dsimp only
    by_cases hop : 0 < copy.getD TTL_OFFSET 0
    · have passes : ∃ taken, (Except.ok copy : Except PyExc Bytes) = .ok taken ∧
          0 < taken.getD TTL_OFFSET 0 := ⟨copy, rfl, hop⟩
      rw [if_pos hop, others, and_iff_right passes]
    · rw [if_neg hop]
      refine iff_of_false (fun some => some rfl) ?_
      rintro ⟨⟨_, ⟨⟩, left⟩, -⟩
      exact hop left

/-- What an accepted packet needs so that nothing due is lost: no query passes
every check for a requester whose row holds no usable key, unless nothing is
due after it; and the backhaul call gets past the table, unless there are no
copies to send after it. -/
structure Unhindered (relay : Relay core) (backhaul : Backhaul) (m : Moment) (peerId : PeerId)
    (raw : Bytes) (msg : Message) (forward : Option Bytes) : Prop where
  sealable : ∀ svc, relay.location = some svc → msg.msgType = .locationQuery →
    LocationAuthz.Unsealable svc.directory svc.store svc.authz msg m.clocks.authz
      m.clocks.store →
    relay.zoneCall msg.zoneId raw = none ∧ ¬ HasCopies m peerId raw forward
  reaches : ¬ (relay.location.isSome ∧ msg.msgType = .location) →
    HasCopies m peerId raw forward →
    ∀ call, relay.zoneCall msg.zoneId raw = some call → backhaul.Reaches m call

theorem zoneCalls_eq_nil (zoneId : Int) :
    relay.zoneCalls zoneId raw = [] ↔ relay.zoneCall zoneId raw = none := by
  unfold zoneCalls
  cases relay.zoneCall zoneId raw <;> simp

variable (relay backhaul m peerId raw msg forward) in
/-- From the zone rule on, all that is due is done or there was nothing after
a backhaul call that raised. -/
theorem relayOnward_due :
    (relay.relayOnward backhaul m peerId raw msg forward).calls =
        relay.zoneCalls msg.zoneId raw ++ localCopies m peerId raw forward ↔
      (HasCopies m peerId raw forward →
        ∀ call, relay.zoneCall msg.zoneId raw = some call → backhaul.Reaches m call) := by
  rw [← zonePart_returns, ← localCopies_ne_nil]
  obtain ⟨-, ⟨returns, calls, -⟩ | ⟨exc, raises, calls, -⟩⟩ :=
    relayOnward_cases relay backhaul m peerId raw msg forward
  · exact iff_of_true calls fun _ => returns
  · rw [calls, raises]
    constructor
    · intro same copies
      exact absurd (List.self_eq_append_right.mp same) copies
    · intro needed
      by_cases copies : localCopies m peerId raw forward = []
      · rw [copies, List.append_nil]
      · cases needed copies

variable (relay backhaul m peerId raw msg forward) in
theorem deliver_due :
    (relay.deliver backhaul m peerId raw msg forward).calls =
        (if relay.location.isSome ∧ msg.msgType = .location then []
          else relay.response m peerId msg ++ relay.zoneCalls msg.zoneId raw ++
            localCopies m peerId raw forward) ↔
      relay.Unhindered backhaul m peerId raw msg forward := by
  rcases deliver_cases relay backhaul m peerId raw msg forward with
    ⟨present, beacon, calls, -⟩ | ⟨svc, exc, here, query, raises, calls, -⟩ |
    ⟨onward, answers, location, goes⟩
  · rw [if_pos ⟨present, beacon⟩]
    refine iff_of_true calls ⟨?_, fun other => absurd ⟨present, beacon⟩ other⟩
    intro _ _ query
    rw [beacon] at query
    cases query
  · have onward : ¬ (relay.location.isSome ∧ msg.msgType = .location) := by
      rw [query]
      rintro ⟨-, ⟨⟩⟩
    have silent : relay.response m peerId msg = [] := by
      simp only [response, here, query, raises, if_true]
    rw [if_neg onward, calls, silent, List.nil_append]
    constructor
    · intro nothing
      obtain ⟨zone, copies⟩ := List.append_eq_nil_iff.mp nothing.symm
      have copyless : ¬ HasCopies m peerId raw forward :=
        fun some => localCopies_ne_nil.mpr some copies
      exact ⟨fun _ _ _ _ => ⟨(zoneCalls_eq_nil _).mp zone, copyless⟩,
        fun _ some => absurd some copyless⟩
    · intro h
      obtain ⟨zone, copyless⟩ := h.sealable svc here query
        (LocationAuthz.handleQuery_raised.mp ⟨exc, raises⟩)
      have copies : localCopies m peerId raw forward = [] := by
        by_contra some
        exact copyless (localCopies_ne_nil.mp some)
      rw [(zoneCalls_eq_nil _).mpr zone, copies, List.append_nil]
  · have calls : (relay.deliver backhaul m peerId raw msg forward).calls =
        relay.response m peerId msg ++
          (({ relay with location } : Relay core).relayOnward backhaul m peerId raw msg
            forward).calls := by
      rw [goes]
      rfl
    have onwardDue := relayOnward_due { relay with location } backhaul m peerId raw msg forward
    rw [if_neg onward, calls, List.append_assoc, List.append_cancel_left_eq]
    refine Iff.trans onwardDue ?_
    constructor
    · intro reaches
      refine ⟨?_, fun _ => reaches⟩
      intro svc here query unsealable
      obtain ⟨exc, raises⟩ := LocationAuthz.handleQuery_raised.mpr unsealable
      exact absurd raises (answers svc exc here query)
    · intro h
      exact h.reaches onward

theorem demux_of_control (relay : Relay core)
    (control : isTelemetryFrame raw ∨ isBackendProxyFrame raw) :
    relay.demux raw = .telemetry ∨ relay.demux raw = .backendProxy := by
  unfold demux
  by_cases telemetry : isTelemetryFrame raw = true
  · exact .inl (if_pos telemetry)
  · have proxy : isBackendProxyFrame raw = true := control.resolve_left telemetry
    rw [if_neg telemetry, if_pos proxy]
    exact .inr rfl

/-- **Outbound behaviour.** A relay does exactly what a packet calls for,
whatever its services, just when an accepted packet is unhindered; frames of
the two services leave it as it was. -/
theorem emits_due (relay : Relay core) (backhaul : Backhaul) (m : Moment) (peerId : PeerId)
    (raw : Bytes) :
    ((relay.handlePacket backhaul m peerId raw).calls = relay.due m peerId raw ∧
      (isTelemetryFrame raw ∨ isBackendProxyFrame raw →
        (relay.handlePacket backhaul m peerId raw).relay = relay)) ↔
      ∀ msg forward, relay.accepted m raw = some (msg, forward) →
        relay.Unhindered backhaul m peerId raw msg forward := by
  have control : isTelemetryFrame raw ∨ isBackendProxyFrame raw →
      (relay.handlePacket backhaul m peerId raw).relay = relay := by
    intro control
    rcases demux_of_control relay control with path | path
    · rw [handlePacket_telemetry path]
    · rw [handlePacket_backendProxy path]
  rw [and_iff_left control]
  have unaccepted (other : relay.demux raw ≠ .mesh)
      (same : (relay.handlePacket backhaul m peerId raw).calls = relay.due m peerId raw) :
      (relay.handlePacket backhaul m peerId raw).calls = relay.due m peerId raw ↔
        ∀ msg forward, relay.accepted m raw = some (msg, forward) →
          relay.Unhindered backhaul m peerId raw msg forward := by
    refine iff_of_true same ?_
    intro msg forward accepts
    rw [accepted_of_demux_ne_mesh other] at accepts
    cases accepts
  cases path : relay.demux raw with
  | telemetry =>
    apply unaccepted (by simp [path])
    rw [handlePacket_telemetry path, due, path]
  | backendProxy =>
    apply unaccepted (by simp [path])
    rw [handlePacket_backendProxy path, due, path]
  | presentation cache =>
    apply unaccepted (by simp [path])
    obtain ⟨relay', -, -, handled⟩ := handlePacket_presented backhaul m peerId path
    rw [handled, due, path]
    cases relay.presented m raw <;> rfl
  | mesh =>
    unfold due
    simp only [path]
    cases accepts : relay.accepted m raw with
    | none =>
      rw [handlePacket_dropped path accepts]
      simp
    | some taken =>
      obtain ⟨msg, forward⟩ := taken
      have whole := deliver_due ((relay.judged m raw).count .accepted) backhaul m peerId raw msg
        forward
      rw [handlePacket_accepted accepts]
      refine Iff.trans whole ?_
      constructor
      · rintro ⟨sealable, reaches⟩ _ _ ⟨⟩
        exact ⟨sealable, reaches⟩
      · intro h
        obtain ⟨sealable, reaches⟩ := h msg forward rfl
        exact ⟨sealable, reaches⟩

end Relay

/-! ## A requester without an encryption key -/

namespace Sample

/-- The target's row and beacon are there; the requester's row lacks its
`curve25519_pub`. -/
def keylessService : LocationService Sample.core :=
  (LocationService.boot 60 (.empty Sample.core) () [] 3).after
    [.refresh (.ok (users [targetRow, keylessRow])),
      .message "phoneA" ⟨[1], 0, target, 3, .location, [7, 8, 9]⟩ ⟨100, 100, 100⟩]

def keylessRelay : Relay Sample.core := .boot 3 none true (some keylessService) true

def queryPacket : Bytes := packet 2 requester 5 9 7 token

def queryMessage : Message :=
  ⟨List.replicate 16 2, 0, requester, 9, .locationQuery, token⟩

def queryMoment : Moment := ⟨⟨140, 140, 140⟩, 0, ["phoneA", "phoneB"], by decide, .up⟩

/-- The query is due to zone 9 and to the other phone, and goes nowhere. -/
theorem keyless_query_stops :
    (keylessRelay.handlePacket .loggingStub queryMoment "phoneA" queryPacket).calls = [] ∧
    (keylessRelay.handlePacket .loggingStub queryMoment "phoneA" queryPacket).result =
      .error .keyError ∧
    keylessRelay.due queryMoment "phoneA" queryPacket =
      [.backhaul (.forwardToZone 9 queryPacket),
        .send "phoneB" (packet 2 requester 4 9 7 token)] := by
  decide +kernel

end Sample

end MeshlinkNode
