import MeshlinkNode.BackendProxy
import MeshlinkNode.Flooding
import MeshlinkNode.PhonePing

/-!
# The phone side of a node

One handler serves phones and nodes. Its three services answer to the id a
frame came in under, whichever side that names: the location service at once,
the proxy when a worker is done, and telemetry by filing a report.
-/

namespace MeshlinkNode

/-! ## Peer ids -/

/-- An id that `_recv_loop` gives to the source of a datagram. -/
def IsBackhaulId (peerId : PeerId) : Prop := "backhaul:".toList <+: peerId.toList

instance (peerId : PeerId) : Decidable (IsBackhaulId peerId) :=
  inferInstanceAs (Decidable (_ <+: _))

/-- A phone's id is a device path, an identifier or a `wifi:` address. -/
structure PhoneId where
  id : PeerId
  phone : ¬ IsBackhaulId id

/-- Where a frame came in. -/
inductive Session where
  | phone (phone : PhoneId)
  | backhaul (host : String) (port : Int)

namespace Session

def peerId : Session → PeerId
  | .phone p => p.id
  | .backhaul host port => "backhaul:" ++ host ++ ":" ++ toString port

def FromBackhaul : Session → Prop
  | .phone _ => False
  | .backhaul _ _ => True

theorem fromBackhaul_iff (session : Session) :
    session.FromBackhaul ↔ IsBackhaulId session.peerId := by
  cases session with
  | phone p => exact iff_of_false not_false p.phone
  | backhaul host port =>
    refine iff_of_true trivial ?_
    simp only [IsBackhaulId, peerId, String.toList_append, List.append_assoc]
    exact List.prefix_append _ _

end Session

/-! ## The phone side of a node -/

/-- The part of a node that calls `transport.send`. -/
inductive Sender where
  | relay
  | location
  | proxy
  deriving DecidableEq

/-- A call of `transport.send`: what came in that led to it, and the peers the
transport lists at that moment. -/
structure Sending where
  session : Session
  sender : Sender
  peerId : PeerId
  packet : Bytes
  listed : List PeerId

/-- A request waiting for a worker or at one. -/
structure Job where
  session : Session
  peerId : PeerId
  req : Fields

structure PhoneSide (core : Core) where
  relay : Relay core
  ping : PhonePing
  jobs : List Job
  stopped : Bool
  sent : List Sending

/-- What happens at a node: frames from phones and datagrams, a worker
finishing a job, `reports()` for a heartbeat, a directory refresh, and the end
of the pool, which the requests being served survive. -/
inductive NodeEvent where
  | phone (phone : PhoneId) (backhaul : Backhaul) (m : Moment) (raw : Bytes) (now : Seconds)
  | datagram (b : BatmanBackhaul) (m : Moment) (source : String × Int) (data : Bytes)
    (now : Seconds)
  | serve (i : Nat) (uplink : BackendProxy.HttpRequest → BackendProxy.Uplink)
    (listed : List PeerId)
  | heartbeat (now : Seconds)
  | refresh (response : Except PyExc Json)
  | stopProxy (running : Job → Bool)

variable {core : Core}

/-- The responses of the location service while a packet is handled. They
come before the relayed copies. -/
def Relay.responses (relay : Relay core) (m : Moment) (peerId : PeerId) (raw : Bytes) :
    List (PeerId × Bytes) :=
  match relay.accepted m raw, relay.location with
  | some (msg, _), some svc => (svc.handleNodeTerminated peerId msg m.clocks).sent
  | _, _ => []

namespace PhoneSide

def boot (relay : Relay core) (intervalS : Seconds) : PhoneSide core :=
  ⟨relay, ⟨intervalS, ∅⟩, [], false, []⟩

variable (lib : JsonLib) (baseUrl : PyStr)

/-- The proxy's `handle_frame`. -/
def submit (s : PhoneSide core) (session : Session) (peerId : PeerId) (frame : Bytes) :
    PhoneSide core :=
  match BackendProxy.handleFrame lib frame with
  | .ok (some req) =>
    if s.stopped then s else { s with jobs := s.jobs ++ [⟨session, peerId, req⟩] }
  | _ => s

/-- What the two services make of a frame that is theirs. -/
def consume (session : Session) (now : Seconds) (s : PhoneSide core) : Call → PhoneSide core
  | .phonePing peerId frame => { s with ping := s.ping.heard lib peerId frame now }
  | .backendProxy peerId frame => s.submit lib session peerId frame
  | _ => s

def record (session : Session) (sender : Sender) (m : Moment) (send : PeerId × Bytes) : Sending :=
  ⟨session, sender, send.1, send.2, m.peers⟩

/-- The calls of `transport.send` while a packet is handled go on record. -/
def logged (s : PhoneSide core) (session : Session) (backhaul : Backhaul) (m : Moment)
    (peerId : PeerId) (raw : Bytes) : PhoneSide core :=
  let handled := s.relay.handlePacket backhaul m peerId raw
  let responses := s.relay.responses m peerId raw
  let copies := (Relay.transportSends handled.calls).drop responses.length
  { s with
    relay := handled.relay
    sent := s.sent ++ (responses.map (record session .location m) ++
      copies.map (record session .relay m)) }

/-- `_handle_packet`. -/
def receive (s : PhoneSide core) (session : Session) (backhaul : Backhaul) (m : Moment)
    (peerId : PeerId) (raw : Bytes) (now : Seconds) : PhoneSide core :=
  (s.relay.handlePacket backhaul m peerId raw).calls.foldl (consume lib session now)
    (s.logged session backhaul m peerId raw)

/-- `_serve`, by a worker that took the request at some point. -/
def serve (s : PhoneSide core) (i : Nat)
    (uplink : BackendProxy.HttpRequest → BackendProxy.Uplink) (listed : List PeerId) :
    PhoneSide core :=
  match s.jobs[i]? with
  | none => s
  | some job =>
    let s := { s with jobs := s.jobs.eraseIdx i }
    match BackendProxy.execute lib baseUrl uplink job.req with
    | .error _ => s
    | .ok reply => { s with sent := s.sent ++ [⟨job.session, .proxy, job.peerId, reply, listed⟩] }

def step (s : PhoneSide core) : NodeEvent → PhoneSide core
  | .phone phone backhaul m raw now => s.receive lib (.phone phone) backhaul m phone.id raw now
  | .datagram b m source data now =>
    match b.receive source data with
    | .data peerId =>
      s.receive lib (.backhaul source.1 source.2) (.batman b) m peerId data now
    | .echo | .control => s
  | .serve i uplink listed => s.serve lib baseUrl i uplink listed
  | .heartbeat now => { s with ping := (s.ping.takeReports now).2 }
  | .refresh response =>
    let location := s.relay.location.map fun svc => svc.step (.refresh response)
    { s with relay := { s.relay with location } }
  | .stopProxy running => { s with jobs := s.jobs.filter running, stopped := true }

abbrev after (s : PhoneSide core) (events : List NodeEvent) : PhoneSide core :=
  Runs.run (step lib baseUrl) s events

end PhoneSide

/-! ## What the relay itself sends -/

/-- Calls that hand no frame to a service, and send copies to listed peers
after the responses. -/
structure Outward (m : Moment) (responses : List (PeerId × Bytes)) (calls : List Call) : Prop where
  hands : ∀ call ∈ calls, (∃ peerId packet, call = .send peerId packet) ∨
    ∃ backhaulCall, call = .backhaul backhaulCall
  copies : ∃ copies, Relay.transportSends calls = responses ++ copies ∧
    ∀ copy ∈ copies, copy.1 ∈ m.peers

/-- An accepted query that passes every check, and whose requester's row holds
a key to seal to. -/
def Relay.AnswersQuery (relay : Relay core) (m : Moment) (raw : Bytes) : Prop :=
  ∃ msg forward svc, relay.accepted m raw = some (msg, forward) ∧ relay.location = some svc ∧
    msg.msgType = .locationQuery ∧
    LocationAuthz.Serves svc.directory svc.store svc.authz msg m.clocks.authz m.clocks.store

/-- The service sends to the session a message came in on, or not at all. -/
theorem LocationService.sent_cases (svc : LocationService core) (peerId : PeerId) (msg : Message)
    (clocks : Clocks) :
    (∃ packet, (svc.handleNodeTerminated peerId msg clocks).sent = [(peerId, packet)] ∧
      msg.msgType = .locationQuery ∧
      LocationAuthz.Serves svc.directory svc.store svc.authz msg clocks.authz clocks.store) ∨
    ((svc.handleNodeTerminated peerId msg clocks).sent = [] ∧
      ¬ (msg.msgType = .locationQuery ∧
        LocationAuthz.Serves svc.directory svc.store svc.authz msg clocks.authz clocks.store)) := by
  by_cases query : msg.msgType = .locationQuery
  · have sent := (svc.terminated_query peerId clocks query).1
    rw [and_iff_right query, ← LocationAuthz.handleQuery_serves]
    cases answered : (svc.answer msg clocks).1 with
    | served payload response =>
      rw [answered] at sent
      exact .inl ⟨_, sent, payload, response, answered⟩
    | refused why =>
      rw [answered] at sent
      refine .inr ⟨sent, ?_⟩
      rintro ⟨payload, response, served⟩
      cases answered.symm.trans served
    | raised exc =>
      rw [answered] at sent
      refine .inr ⟨sent, ?_⟩
      rintro ⟨payload, response, served⟩
      cases answered.symm.trans served
  · refine .inr ⟨?_, fun served => query served.1⟩
    by_cases beacon : msg.msgType = .location
    · exact (svc.terminated_beacon peerId clocks beacon).1
    · exact (svc.terminated_other peerId clocks beacon query).1

namespace Relay

variable {relay : Relay core} {backhaul : Backhaul} {m : Moment} {peerId : PeerId} {raw : Bytes}
  {msg : Message} {forward : Option Bytes}

/-- **Responses** go where the packet came from, and there is one exactly when
a query is answered. -/
theorem responses_cases (relay : Relay core) (m : Moment) (peerId : PeerId) (raw : Bytes) :
    (∃ packet, relay.responses m peerId raw = [(peerId, packet)] ∧ relay.AnswersQuery m raw) ∨
    (relay.responses m peerId raw = [] ∧ ¬ relay.AnswersQuery m raw) := by
  unfold responses
  cases accepts : relay.accepted m raw with
  | none =>
    refine .inr ⟨rfl, ?_⟩
    rintro ⟨msg, forward, svc, accepted, -⟩
    cases accepts.symm.trans accepted
  | some taken =>
    obtain ⟨msg, forward⟩ := taken
    cases here : relay.location with
    | none =>
      refine .inr ⟨rfl, ?_⟩
      rintro ⟨-, -, svc, -, there, -⟩
      cases here.symm.trans there
    | some svc =>
      rcases svc.sent_cases peerId msg m.clocks with ⟨packet, sent, query, serves⟩ | ⟨sent, not⟩
      · exact .inl ⟨packet, sent, msg, forward, svc, accepts, here, query, serves⟩
      · refine .inr ⟨sent, ?_⟩
        rintro ⟨msg', forward', svc', accepts', here', query, serves⟩
        cases accepts.symm.trans accepts'
        cases here.symm.trans here'
        exact not ⟨query, serves⟩

theorem responses_of_demux_ne_mesh (m : Moment) (peerId : PeerId)
    (other : relay.demux raw ≠ .mesh) : relay.responses m peerId raw = [] := by
  rw [responses, accepted_of_demux_ne_mesh other]

theorem zoneCalls_backhaul {zoneId : Int} {call : Call} (mem : call ∈ relay.zoneCalls zoneId raw) :
    ∃ backhaulCall, call = .backhaul backhaulCall := by
  obtain ⟨made, -, rfl⟩ := List.mem_map.mp mem
  exact ⟨made, rfl⟩

theorem localCopies_send {call : Call} (mem : call ∈ localCopies m peerId raw forward) :
    ∃ peer packet, call = .send peer packet := by
  unfold localCopies at mem
  split at mem
  · split at mem
    · obtain ⟨peer, -, rfl⟩ := List.mem_map.mp mem
      exact ⟨peer, _, rfl⟩
    · cases mem
  · cases mem

variable (relay backhaul m peerId raw msg forward) in
theorem relayOnward_outward :
    Outward m [] (relay.relayOnward backhaul m peerId raw msg forward).calls := by
  obtain ⟨-, ⟨-, calls, -⟩ | ⟨-, -, calls, -⟩⟩ :=
    relayOnward_cases relay backhaul m peerId raw msg forward
  · rw [calls]
    constructor
    · intro call mem
      rcases List.mem_append.mp mem with zone | copy
      · exact .inr (zoneCalls_backhaul zone)
      · exact .inl (localCopies_send copy)
    · refine ⟨transportSends (localCopies m peerId raw forward), ?_, ?_⟩
      · rw [transportSends_append, transportSends_zoneCalls]
      · intro copy mem
        have listed := (peers_localCopies m peerId raw forward).subset (List.mem_map_of_mem mem)
        exact (List.mem_filter.mp listed).1
  · rw [calls]
    constructor
    · intro call mem
      exact .inr (zoneCalls_backhaul mem)
    · refine ⟨[], transportSends_zoneCalls msg.zoneId, ?_⟩
      intro copy mem
      cases mem

/-- What the location service sends of an accepted message, and then the
copies. -/
theorem deliver_outward {svc : LocationService core} (here : relay.location = some svc) :
    Outward m (svc.handleNodeTerminated peerId msg m.clocks).sent
      (relay.deliver backhaul m peerId raw msg forward).calls := by
  let sent := (svc.handleNodeTerminated peerId msg m.clocks).sent
  have asCalls : transportSends (sent.map fun send => .send send.1 send.2) = sent := by
    simp [transportSends, List.filterMap_map]
  have alone : Outward m sent (sent.map fun send => .send send.1 send.2) := by
    constructor
    · intro call mem
      obtain ⟨send, -, rfl⟩ := List.mem_map.mp mem
      exact .inl ⟨send.1, send.2, rfl⟩
    · refine ⟨[], asCalls.trans (List.append_nil sent).symm, ?_⟩
      intro copy mem
      cases mem
  cases result : (svc.handleNodeTerminated peerId msg m.clocks).result with
  | error exc =>
    rw [(deliver_failed backhaul raw forward here result).1]
    exact alone
  | ok consumed =>
    cases consumed with
    | true =>
      rw [(deliver_consumed backhaul raw forward here result).1]
      exact alone
    | false =>
      rw [deliver_onward here result]
      have onward := relayOnward_outward ({ relay with
        location := some (svc.handleNodeTerminated peerId msg m.clocks).service } : Relay core)
        backhaul m peerId raw msg forward
      obtain ⟨copies, sends, listed⟩ := onward.copies
      constructor
      · intro call mem
        rcases List.mem_append.mp mem with response | later
        · exact alone.hands call response
        · exact onward.hands call later
      · refine ⟨copies, ?_, listed⟩
        exact (transportSends_append _ _).trans (congrArg₂ _ asCalls sends)

theorem demux_of_mesh_frame (telemetry : isTelemetryFrame raw = false)
    (proxy : isBackendProxyFrame raw = false) :
    relay.demux raw = .mesh ∨ ∃ cache, relay.demux raw = .presentation cache := by
  unfold demux
  rw [if_neg (by simp [telemetry]), if_neg (by simp [proxy])]
  split
  · exact .inr ⟨_, rfl⟩
  · exact .inl rfl

variable (relay backhaul m peerId) in
/-- **A mesh packet** hands nothing to the two services of control frames. -/
theorem handlePacket_outward (telemetry : isTelemetryFrame raw = false)
    (proxy : isBackendProxyFrame raw = false) :
    Outward m (relay.responses m peerId raw) (relay.handlePacket backhaul m peerId raw).calls := by
  have nothing : Outward m [] [] := ⟨by simp, [], rfl, by simp⟩
  have zone (zoneId : Int) : Outward m [] (relay.zoneCalls zoneId raw) := by
    refine ⟨fun call mem => .inr (zoneCalls_backhaul mem), [], ?_, by simp⟩
    rw [transportSends_zoneCalls, List.append_nil]
  rcases demux_of_mesh_frame telemetry proxy with mesh | ⟨cache, presentation⟩
  · cases accepts : relay.accepted m raw with
    | none =>
      rw [handlePacket_dropped mesh accepts, responses, accepts]
      exact nothing
    | some taken =>
      obtain ⟨msg, forward⟩ := taken
      rw [handlePacket_accepted accepts, responses, accepts]
      cases here : relay.location with
      | none =>
        have judged : ((relay.judged m raw).count .accepted).location = none := here
        rw [deliver_none judged]
        exact relayOnward_outward _ backhaul m peerId raw msg forward
      | some svc =>
        have judged : ((relay.judged m raw).count .accepted).location = some svc := here
        exact deliver_outward judged
  · obtain ⟨relay', -, -, handled⟩ := handlePacket_presented backhaul m peerId presentation
    rw [handled, responses_of_demux_ne_mesh m peerId (by simp [presentation])]
    cases relay.presented m raw with
    | none => exact nothing
    | some msg => exact zone msg.zoneId

variable (relay backhaul m peerId) in
theorem handlePacket_pong (telemetry : isTelemetryFrame raw = true) :
    (relay.handlePacket backhaul m peerId raw).calls =
      (if relay.phonePing then [.phonePing peerId raw] else []) ∧
    relay.responses m peerId raw = [] := by
  have path : relay.demux raw = .telemetry := if_pos telemetry
  rw [handlePacket_telemetry path]
  exact ⟨rfl, responses_of_demux_ne_mesh m peerId (by simp [path])⟩

variable (relay backhaul m peerId) in
theorem handlePacket_request (telemetry : isTelemetryFrame raw = false)
    (proxy : isBackendProxyFrame raw = true) :
    (relay.handlePacket backhaul m peerId raw).calls =
      (if relay.backendProxy then [.backendProxy peerId raw] else []) ∧
    relay.responses m peerId raw = [] := by
  have path : relay.demux raw = .backendProxy := by
    rw [demux, if_neg (by simp [telemetry]), if_pos proxy]
  rw [handlePacket_backendProxy path]
  exact ⟨rfl, responses_of_demux_ne_mesh m peerId (by simp [path])⟩

end Relay

/-! ## What a frame adds -/

namespace PhoneSide

variable {lib : JsonLib} {baseUrl : PyStr}

/-- A pong, at a node that collects them. -/
def Reports (lib : JsonLib) (relay : Relay core) (raw : Bytes) : Prop :=
  relay.phonePing = true ∧ PhonePing.Reportable lib raw

theorem not_reports {relay : Relay core} {raw : Bytes} (other : isTelemetryFrame raw = false) :
    ¬ Reports lib relay raw := by
  rintro ⟨-, body, decoded, -⟩
  rw [PhonePing.decode, decodeFields_other other] at decoded
  cases decoded

/-- Calls that hand nothing over leave the services alone. -/
theorem consume_outward {m : Moment} {responses : List (PeerId × Bytes)} {calls : List Call}
    (session : Session) (now : Seconds) (s : PhoneSide core) (h : Outward m responses calls) :
    calls.foldl (consume lib session now) s = s := by
  have each : ∀ call ∈ calls, ∀ t : PhoneSide core, consume lib session now t call = t := by
    intro call mem t
    rcases h.hands call mem with ⟨peer, packet, rfl⟩ | ⟨made, rfl⟩
    · rfl
    · rfl
  clear h
  induction calls with
  | nil => rfl
  | cons call calls ih =>
    rw [List.foldl_cons, each call List.mem_cons_self]
    exact ih fun later mem => each later (List.mem_cons_of_mem call mem)

/-- A submitted request keeps the session it came in on. -/
theorem jobs_submit (lib : JsonLib) (s : PhoneSide core) (session : Session) (peerId : PeerId)
    (frame : Bytes) :
    ∃ jobs, s.submit lib session peerId frame = { s with jobs } ∧
      ∀ job ∈ jobs, job ∈ s.jobs ∨ (job.session = session ∧ job.peerId = peerId) := by
  have unchanged : ∃ jobs, s = { s with jobs } ∧
      ∀ job ∈ jobs, job ∈ s.jobs ∨ (job.session = session ∧ job.peerId = peerId) :=
    ⟨s.jobs, rfl, fun job mem => .inl mem⟩
  unfold submit
  split
  · rename_i req _
    by_cases stopped : s.stopped = true
    · rw [if_pos stopped]
      exact unchanged
    · rw [if_neg stopped]
      refine ⟨_, rfl, ?_⟩
      intro job mem
      rcases List.mem_append.mp mem with old | new
      · exact .inl old
      · rw [List.mem_singleton.mp new]
        exact .inr ⟨rfl, rfl⟩
  · exact unchanged

/-- What handling a frame adds: every send on record, the responses first and
the copies after them, at most one report, and at most one request. -/
structure Effect (lib : JsonLib) (s after : PhoneSide core) (session : Session)
    (backhaul : Backhaul) (m : Moment) (peerId : PeerId) (raw : Bytes) : Prop where
  sent : ∃ copies, Relay.transportSends (s.relay.handlePacket backhaul m peerId raw).calls =
      s.relay.responses m peerId raw ++ copies ∧ (∀ copy ∈ copies, copy.1 ∈ m.peers) ∧
    after.sent = s.sent ++ ((s.relay.responses m peerId raw).map (record session .location m) ++
      copies.map (record session .relay m))
  reports : ∀ peer, peer ∈ after.ping.reports ↔
    (peer = peerId ∧ Reports lib s.relay raw) ∨ peer ∈ s.ping.reports
  jobs : ∀ job ∈ after.jobs, job ∈ s.jobs ∨ (job.session = session ∧ job.peerId = peerId)

variable {session : Session} {backhaul : Backhaul} {m : Moment} {peerId : PeerId} {raw : Bytes}

/-- A frame that leads to no send adds a report or a request, or nothing. -/
theorem silent_effect {s t : PhoneSide core} {calls : List Call}
    (handled : (s.relay.handlePacket backhaul m peerId raw).calls = calls)
    (responses : s.relay.responses m peerId raw = []) (silent : Relay.transportSends calls = [])
    (sent : t.sent = (s.logged session backhaul m peerId raw).sent)
    (reports : ∀ peer, peer ∈ t.ping.reports ↔
      (peer = peerId ∧ Reports lib s.relay raw) ∨ peer ∈ s.ping.reports)
    (jobs : ∀ job ∈ t.jobs, job ∈ s.jobs ∨ (job.session = session ∧ job.peerId = peerId)) :
    Effect lib s t session backhaul m peerId raw := by
  refine ⟨⟨[], ?_, by simp, ?_⟩, reports, jobs⟩
  · rw [handled, silent, responses, List.append_nil]
  · rw [sent]
    simp [logged, handled, silent, responses]

/-- **One frame**, from whichever side. -/
theorem receive_effect (lib : JsonLib) (s : PhoneSide core) (session : Session)
    (backhaul : Backhaul) (m : Moment) (peerId : PeerId) (raw : Bytes) (now : Seconds) :
    Effect lib s (s.receive lib session backhaul m peerId raw now) session backhaul m peerId
      raw := by
  unfold receive
  cases telemetry : isTelemetryFrame raw with
  | true =>
    obtain ⟨calls, responses⟩ := s.relay.handlePacket_pong backhaul m peerId telemetry
    cases on : s.relay.phonePing with
    | false =>
      rw [on, if_neg Bool.false_ne_true] at calls
      have off : ¬ Reports lib s.relay raw := fun reports => by simp [reports.1] at on
      rw [calls]
      refine silent_effect calls responses rfl rfl (fun peer => ?_) fun job mem => .inl mem
      exact (or_iff_right fun own => off own.2).symm
    | true =>
      rw [on, if_pos rfl] at calls
      have same : Reports lib s.relay raw ↔ PhonePing.Reportable lib raw := and_iff_right on
      rw [calls]
      refine silent_effect calls responses rfl rfl (fun peer => ?_) fun job mem => .inl mem
      rw [same]
      exact PhonePing.mem_heard
  | false =>
    have unreported (peer : PeerId) : peer ∈ s.ping.reports ↔
        (peer = peerId ∧ Reports lib s.relay raw) ∨ peer ∈ s.ping.reports :=
      (or_iff_right fun own => not_reports telemetry own.2).symm
    cases proxy : isBackendProxyFrame raw with
    | true =>
      obtain ⟨calls, responses⟩ := s.relay.handlePacket_request backhaul m peerId telemetry proxy
      cases on : s.relay.backendProxy with
      | false =>
        rw [on, if_neg Bool.false_ne_true] at calls
        rw [calls]
        exact silent_effect calls responses rfl rfl unreported fun job mem => .inl mem
      | true =>
        rw [on, if_pos rfl] at calls
        obtain ⟨jobs, submitted, each⟩ :=
          jobs_submit lib (s.logged session backhaul m peerId raw) session peerId raw
        rw [calls, List.foldl_cons, List.foldl_nil, consume, submitted]
        exact silent_effect calls responses rfl rfl unreported each
    | false =>
      have outward := s.relay.handlePacket_outward backhaul m peerId telemetry proxy
      obtain ⟨copies, sends, listed⟩ := outward.copies
      rw [consume_outward session now _ outward]
      refine ⟨⟨copies, sends, listed, ?_⟩, unreported, fun job mem => .inl mem⟩
      simp only [logged, sends, List.drop_left]

end PhoneSide

end MeshlinkNode
