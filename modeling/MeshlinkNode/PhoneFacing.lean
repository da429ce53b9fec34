import MeshlinkNode.Outbound
import MeshlinkNode.PhoneSide

/-!
# What a datagram sets off towards phones

Nothing, where the three services of the handler stay out of it.
-/

namespace MeshlinkNode

def WIFI_PEER_PREFIX : String := "wifi:"

/-- The children of a `MultiTransport`. -/
inductive Child where
  | ble
  | wifi
  deriving DecidableEq

/-- The child `MultiTransport.send` hands a packet to. -/
def MultiTransport.child (peerId : PeerId) : Child :=
  if WIFI_PEER_PREFIX.toList <+: peerId.toList then .wifi else .ble

/-- A backhaul id is no WiFi peer, so its packets go out over BLE. -/
theorem MultiTransport.child_backhaul {peerId : PeerId} (h : IsBackhaulId peerId) :
    MultiTransport.child peerId = .ble := by
  obtain ⟨tail, chars⟩ := h
  refine if_neg ?_
  rw [← chars]
  rintro ⟨rest, same⟩
  have first : 'w' = 'b' := congrArg (fun s => s.headD ' ') same
  exact absurd first (by decide)

variable {core : Core}

/-- What a datagram set off goes to a listed peer, and an answer goes to the
session that asked, which is a phone's. -/
structure Sending.Proper (sending : Sending) : Prop where
  listed : sending.session.FromBackhaul → sending.peerId ∈ sending.listed
  own : sending.sender ≠ .relay →
    sending.peerId = sending.session.peerId ∧ ¬ IsBackhaulId sending.peerId

/-- An answer to a datagram is never in order, and one to a phone always. -/
theorem Sending.proper_answer {sending : Sending} (answer : sending.sender ≠ .relay)
    (own : sending.peerId = sending.session.peerId) :
    sending.Proper ↔ ¬ sending.session.FromBackhaul := by
  rw [Session.fromBackhaul_iff, ← own]
  constructor
  · intro proper
    exact (proper.own answer).2
  · intro phone
    refine ⟨?_, fun _ => ⟨own, phone⟩⟩
    intro backhaul
    rw [Session.fromBackhaul_iff, ← own] at backhaul
    exact absurd backhaul phone

namespace PhoneSide

variable {lib : JsonLib} {baseUrl : PyStr} {session : Session} {backhaul : Backhaul} {m : Moment}
  {peerId : PeerId} {raw : Bytes}

/-- Every send is in order, and no telemetry stands under a backhaul id. -/
structure PhoneFacing (s : PhoneSide core) : Prop where
  sent : ∀ sending ∈ s.sent, sending.Proper
  reports : ∀ peer ∈ s.ping.reports, ¬ IsBackhaulId peer

/-- Requests are answered to the session they came in on. -/
def OwnJobs (s : PhoneSide core) : Prop := ∀ job ∈ s.jobs, job.peerId = job.session.peerId

variable (lib baseUrl) in
/-- The step answers no datagram: it reports none as a pong, answers none as a
query, and finishes no request that came in one. -/
def Spares (s : PhoneSide core) : NodeEvent → Prop
  | .datagram b m source data _ => (∃ peerId, b.receive source data = .data peerId) →
    ¬ Reports lib s.relay data ∧ ¬ s.relay.AnswersQuery m data
  | .serve i uplink _ => ∀ job, s.jobs[i]? = some job → job.session.FromBackhaul →
    ¬ BackendProxy.Answerable lib baseUrl uplink job.req
  | _ => True

variable {s t : PhoneSide core}

theorem Effect.ownJobs (h : Effect lib s t session backhaul m peerId raw)
    (own : peerId = session.peerId) (jobs : s.OwnJobs) : t.OwnJobs := by
  intro job mem
  rcases h.jobs job mem with old | ⟨sameSession, samePeer⟩
  · exact jobs job old
  · rw [sameSession, samePeer, own]

/-- **A frame keeps the phone side in order** unless it came from the backhaul
and was answered or reported. -/
theorem Effect.phoneFacing (h : Effect lib s t session backhaul m peerId raw)
    (own : peerId = session.peerId) (good : s.PhoneFacing) :
    t.PhoneFacing ↔ (session.FromBackhaul →
      ¬ Reports lib s.relay raw ∧ ¬ s.relay.AnswersQuery m raw) := by
  obtain ⟨copies, -, listed, sent⟩ := h.sent
  have fromBackhaul := own ▸ session.fromBackhaul_iff
  have response {sending : Sending}
      (mem : sending ∈ (s.relay.responses m peerId raw).map (record session .location m)) :
      sending.Proper ↔ ¬ session.FromBackhaul := by
    obtain ⟨send, responded, rfl⟩ := List.mem_map.mp mem
    have back : send.1 = peerId := by
      rcases s.relay.responses_cases m peerId raw with ⟨packet, one, -⟩ | ⟨none, -⟩
      · rw [one] at responded
        rw [List.mem_singleton.mp responded]
      · rw [none] at responded
        cases responded
    exact Sending.proper_answer (by simp [record]) (back.trans own)
  have copy {sending : Sending} (mem : sending ∈ copies.map (record session .relay m)) :
      sending.Proper := by
    obtain ⟨send, copied, rfl⟩ := List.mem_map.mp mem
    exact ⟨fun _ => listed send copied, fun answer => absurd rfl answer⟩
  constructor
  · intro good' backhaul
    constructor
    · intro reports
      exact good'.reports peerId ((h.reports peerId).mpr (.inl ⟨rfl, reports⟩))
        (fromBackhaul.mp backhaul)
    · intro answers
      rcases s.relay.responses_cases m peerId raw with ⟨packet, one, -⟩ | ⟨-, silent⟩
      · have mem : record session .location m (peerId, packet) ∈
            (s.relay.responses m peerId raw).map (record session .location m) := by
          rw [one]
          exact List.mem_singleton_self _
        have logged : record session .location m (peerId, packet) ∈ t.sent := by
          rw [sent]
          exact List.mem_append_right _ (List.mem_append_left _ mem)
        exact (response mem).mp (good'.sent _ logged) backhaul
      · exact silent answers
  · intro spared
    constructor
    · intro sending mem
      rw [sent] at mem
      rcases List.mem_append.mp mem with old | new
      · exact good.sent sending old
      · rcases List.mem_append.mp new with responded | copied
        · refine (response responded).mpr ?_
          intro backhaul
          rcases s.relay.responses_cases m peerId raw with ⟨-, -, answers⟩ | ⟨none, -⟩
          · exact (spared backhaul).2 answers
          · rw [none] at responded
            cases responded
        · exact copy copied
    · intro peer mem
      rcases (h.reports peer).mp mem with ⟨rfl, reports⟩ | old
      · intro backhaul
        exact (spared (fromBackhaul.mpr backhaul)).1 reports
      · exact good.reports peer old

theorem PhoneFacing.of_same_sent (good : s.PhoneFacing) (sent : t.sent = s.sent)
    (reports : ∀ peer ∈ t.ping.reports, peer ∈ s.ping.reports) : t.PhoneFacing := by
  constructor
  · intro sending mem
    exact good.sent sending (sent ▸ mem)
  · intro peer mem
    exact good.reports peer (reports peer mem)

/-- **A worker** keeps the phone side in order unless it answers a datagram. -/
theorem serve_phoneFacing (lib : JsonLib) (baseUrl : PyStr) (i : Nat)
    (uplink : BackendProxy.HttpRequest → BackendProxy.Uplink) (listed : List PeerId)
    (jobs : s.OwnJobs) (good : s.PhoneFacing) :
    (s.serve lib baseUrl i uplink listed).PhoneFacing ↔
      ∀ job, s.jobs[i]? = some job → job.session.FromBackhaul →
        ¬ BackendProxy.Answerable lib baseUrl uplink job.req := by
  unfold serve
  cases found : s.jobs[i]? with
  | none => exact iff_of_true good (fun job here => nomatch here)
  | some job =>
    have own : job.peerId = job.session.peerId := jobs job (List.mem_of_getElem? found)
    simp only [Option.some.injEq, forall_eq', ← BackendProxy.execute_ok]
    cases executed : BackendProxy.execute lib baseUrl uplink job.req with
    | error exc =>
      refine iff_of_true (good.of_same_sent rfl fun peer mem => mem) ?_
      rintro - ⟨reply, ⟨⟩⟩
    | ok reply =>
      let answer : Sending := ⟨job.session, .proxy, job.peerId, reply, listed⟩
      have proper : answer.Proper ↔ ¬ job.session.FromBackhaul :=
        Sending.proper_answer (by simp [answer]) own
      constructor
      · intro good' backhaul
        have made := good'.sent answer (List.mem_append_right _ (List.mem_singleton_self _))
        exact absurd backhaul (proper.mp made)
      · intro spared
        have phone : ¬ job.session.FromBackhaul := fun backhaul => spared backhaul ⟨reply, rfl⟩
        refine ⟨?_, good.reports⟩
        intro sending mem
        rcases List.mem_append.mp mem with old | new
        · exact good.sent sending old
        · rw [List.mem_singleton.mp new]
          exact proper.mpr phone

theorem receive_source {b : BatmanBackhaul} {source : String × Int} {data : Bytes}
    (received : b.receive source data = .data peerId) :
    peerId = (Session.backhaul source.1 source.2).peerId := by
  unfold BatmanBackhaul.receive at received
  split at received
  · cases received
  · split at received
    · cases received
    · cases received
      rfl

theorem step_ownJobs (lib : JsonLib) (baseUrl : PyStr) (s : PhoneSide core) (e : NodeEvent)
    (jobs : s.OwnJobs) : (s.step lib baseUrl e).OwnJobs := by
  cases e with
  | phone phone backhaul m raw now =>
    exact (receive_effect lib s (.phone phone) backhaul m phone.id raw now).ownJobs rfl jobs
  | datagram b m source data now =>
    simp only [step]
    cases received : b.receive source data with
    | echo => exact jobs
    | control => exact jobs
    | data peerId =>
      exact (receive_effect lib s (.backhaul source.1 source.2) (.batman b) m peerId data
        now).ownJobs (receive_source received) jobs
  | serve i uplink listed =>
    simp only [step, serve]
    split
    · exact jobs
    · have rest : ∀ job ∈ s.jobs.eraseIdx i, job.peerId = job.session.peerId :=
        fun job mem => jobs job ((List.eraseIdx_sublist s.jobs i).subset mem)
      split
      · exact rest
      · exact rest
  | heartbeat now => exact jobs
  | refresh response => exact jobs
  | stopProxy running => exact fun job mem => jobs job (List.mem_filter.mp mem).1

theorem step_phoneFacing (lib : JsonLib) (baseUrl : PyStr) (s : PhoneSide core) (e : NodeEvent)
    (jobs : s.OwnJobs) (good : s.PhoneFacing) :
    (s.step lib baseUrl e).PhoneFacing ↔ s.Spares lib baseUrl e := by
  cases e with
  | phone phone backhaul m raw now =>
    have effect := receive_effect lib s (.phone phone) backhaul m phone.id raw now
    refine (effect.phoneFacing rfl good).trans (iff_of_true ?_ trivial)
    intro fromBackhaul
    cases fromBackhaul
  | datagram b m source data now =>
    simp only [step, Spares]
    cases received : b.receive source data with
    | echo => exact iff_of_true good (fun ⟨peerId, data⟩ => nomatch data)
    | control => exact iff_of_true good (fun ⟨peerId, data⟩ => nomatch data)
    | data peerId =>
      have effect := receive_effect lib s (.backhaul source.1 source.2) (.batman b) m peerId data
        now
      refine (effect.phoneFacing (receive_source received) good).trans ?_
      exact ⟨fun spared _ => spared trivial, fun spared _ => spared ⟨peerId, rfl⟩⟩
  | serve i uplink listed => exact serve_phoneFacing lib baseUrl i uplink listed jobs good
  | heartbeat now =>
    exact iff_of_true (good.of_same_sent rfl fun peer kept => PhonePing.mem_takeReports kept)
      trivial
  | refresh response => exact iff_of_true (good.of_same_sent rfl fun peer mem => mem) trivial
  | stopProxy running => exact iff_of_true (good.of_same_sent rfl fun peer mem => mem) trivial

/-- **What a datagram sets off towards phones.** From boot, sends stay in order
and reports stay those of phones in every state of a run exactly if no step of
it reports a datagram as a pong, answers one as a query, or finishes a request
that came in one. -/
theorem phoneFacing_iff (lib : JsonLib) (baseUrl : PyStr) (relay : Relay core)
    (intervalS : Seconds) (events : List NodeEvent) :
    (∀ past, past <+: events → ((boot relay intervalS).after lib baseUrl past).PhoneFacing) ↔
      Runs.Along (step lib baseUrl) (Spares lib baseUrl) (boot relay intervalS) events := by
  apply Runs.always_iff (step_ownJobs lib baseUrl) (step_phoneFacing lib baseUrl)
  · intro job mem
    cases mem
  · constructor
    · intro sending mem
      cases mem
    · intro peer mem
      exact absurd mem (AList.notMem_empty peer)

end PhoneSide

namespace Sample

def pong : Fields := [(text "t", .str (text "pong"))]

def jsonFrame (magic : Bytes) (body : Fields) : Bytes :=
  magic ++ encodeAscii (dumps json.floatRepr .compact (.obj body))

/-- A library that reads the bodies of the two frames below. -/
def reader : JsonLib :=
  { json with
    loads := fun s =>
      if s = dumps json.floatRepr .compact (.obj pong) then .ok (.obj pong)
      else if s = dumps json.floatRepr .compact (.obj healthRequest) then .ok (.obj healthRequest)
      else .error .valueError }

/-- A node that has everything a query asks for. -/
def servingService : LocationService Sample.core :=
  (LocationService.boot 60 (.empty Sample.core) () [] 3).after
    [.refresh (.ok (users [targetRow, requesterRow])),
      .message "phoneA" ⟨[1], 0, target, 3, .location, [7, 8, 9]⟩ ⟨100, 100, 100⟩]

def servingNode : PhoneSide Sample.core :=
  .boot (.boot 3 none true (some servingService) true) 90

def fromNode (data : Bytes) : NodeEvent :=
  .datagram backhaul queryMoment ("10.77.0.9", 19788) data 0

/-- A pong, a query and a request from another node, and the worker. -/
def answered : List NodeEvent :=
  [fromNode (jsonFrame PHONE_PING_MAGIC pong), fromNode queryPacket,
    fromNode (jsonFrame BACKEND_PROXY_MAGIC healthRequest),
    .serve 0 (fun _ => .response 200 (.whole [0x61])) ["phoneA", "phoneB"]]

/-- All three services answer the other node, over BLE. -/
theorem datagrams_answered :
    ((servingNode.after reader (text "http://10.77.0.254:8000") answered).sent.map fun sending =>
      (sending.sender, sending.peerId, MultiTransport.child sending.peerId)) =
      [(.location, "backhaul:10.77.0.9:19788", .ble), (.relay, "phoneA", .ble),
        (.relay, "phoneB", .ble), (.proxy, "backhaul:10.77.0.9:19788", .ble)] ∧
    (servingNode.after reader (text "http://10.77.0.254:8000") answered).ping.reports.keys =
      ["backhaul:10.77.0.9:19788"] ∧
    ¬ ∀ past, past <+: answered →
      (servingNode.after reader (text "http://10.77.0.254:8000") past).PhoneFacing := by
  refine ⟨by decide +kernel, ?_⟩
  have keys : (servingNode.after reader (text "http://10.77.0.254:8000")
      answered).ping.reports.keys = ["backhaul:10.77.0.9:19788"] := by
    decide +kernel
  refine ⟨keys, ?_⟩
  intro all
  have reported : "backhaul:10.77.0.9:19788" ∈ (servingNode.after reader
      (text "http://10.77.0.254:8000") answered).ping.reports := by
    rw [AList.mem_keys, keys]
    exact List.mem_singleton_self _
  exact (all answered (List.prefix_refl answered)).reports _ reported (by decide)

end Sample

end MeshlinkNode
