import MeshlinkNode.Relay
import Mathlib.Data.Fintype.Prod
import Mathlib.Data.Fintype.Card

/-!
# Flooding across nodes

A packet that comes in from another node is handled like one from a phone, and
goes out again with its ttl as it was. What ends the flood is that a pipeline
delivers a msg_id once.
-/

namespace MeshlinkNode

variable {core : Core}

inductive PipelineKind where
  | main
  | presentation
  deriving DecidableEq, Repr

instance : Fintype PipelineKind where
  elems := {.main, .presentation}
  complete kind := by cases kind <;> simp

namespace Relay

def pipelineOf (relay : Relay core) : PipelineKind → core.Pipeline
  | .main => relay.pipeline
  | .presentation => relay.presentationPipeline

/-- The pipeline that a packet passes, and the msg_id it delivers there. -/
def passed (relay : Relay core) (m : Moment) (raw : Bytes) : Option (PipelineKind × Bytes) :=
  match relay.accepted m raw with
  | some (msg, _) => some (.main, msg.msgId)
  | none => (relay.presented m raw).map fun msg => (.presentation, msg.msgId)

variable {relay : Relay core} {backhaul : Backhaul} {m : Moment} {peerId : PeerId} {raw : Bytes}
  {msg : Message} {forward : Option Bytes}

theorem transportSends_append (calls more : List Call) :
    transportSends (calls ++ more) = transportSends calls ++ transportSends more :=
  List.filterMap_append

theorem transportSends_zoneCalls (zoneId : Int) :
    transportSends (relay.zoneCalls zoneId raw) = [] := by
  unfold zoneCalls
  cases relay.zoneCall zoneId raw <;> rfl

variable (m peerId raw forward) in
theorem peers_localCopies :
    ((transportSends (localCopies m peerId raw forward)).map Prod.fst).Sublist
      (m.peers.filter fun peer => peer ≠ peerId) := by
  unfold localCopies
  split
  · rename_i copy _
    split
    · have sent : (transportSends (sends m.peers peerId copy)).map Prod.fst =
          m.peers.filter fun peer => peer ≠ peerId := by
        simp [transportSends, sends, List.filterMap_map, Function.comp_def]
      rw [sent]
    · exact List.nil_sublist _
  · exact List.nil_sublist _

variable (relay m peerId msg) in
theorem peers_response :
    ((transportSends (relay.response m peerId msg)).map Prod.fst).Sublist [peerId] := by
  unfold response
  split
  · exact List.nil_sublist _
  · split
    · split
      · exact List.Sublist.refl _
      · exact List.nil_sublist _
    · exact List.nil_sublist _

variable (relay backhaul m peerId raw msg forward) in
/-- An accepted packet goes to the socket once at most, and once to a peer. -/
theorem deliver_once :
    (relay.deliver backhaul m peerId raw msg forward).datagrams.length ≤ 1 ∧
    ((transportSends (relay.deliver backhaul m peerId raw msg forward).calls).map
      Prod.fst).Nodup := by
  have responded : ((transportSends (relay.response m peerId msg)).map Prod.fst).Nodup :=
    (peers_response relay m peerId msg).nodup (List.nodup_singleton peerId)
  rcases deliver_cases relay backhaul m peerId raw msg forward with
    ⟨-, -, calls, datagrams, -⟩ | ⟨-, -, -, -, -, calls, datagrams, -⟩ | ⟨-, -, location, goes⟩
  · rw [calls, datagrams]
    exact ⟨Nat.zero_le 1, List.nodup_nil⟩
  · rw [calls, datagrams]
    exact ⟨Nat.zero_le 1, List.nodup_nil⟩
  · rw [goes]
    obtain ⟨datagrams, sent⟩ :=
      relayOnward_cases ({ relay with location } : Relay core) backhaul m peerId raw msg forward
    constructor
    · simp only [Handled.after, List.nil_append, datagrams]
      exact zonePart_at_most_one msg.zoneId
    · simp only [Handled.after, transportSends_append, List.map_append]
      rcases sent with ⟨-, calls, -⟩ | ⟨-, -, calls, -⟩
      · rw [calls, transportSends_append, transportSends_zoneCalls, List.nil_append]
        have both := (peers_response relay m peerId msg).append
          (peers_localCopies m peerId raw forward)
        have others : peerId ∉ m.peers.filter fun peer => peer ≠ peerId := by simp
        exact both.nodup (List.nodup_cons.mpr ⟨others, m.distinct.filter _⟩)
      · rw [calls, transportSends_zoneCalls]
        simpa using responded

/-- What handling a packet does that calls one pipeline: it goes out only if
the call delivers, and to phones only from the main pipeline. -/
structure Judged (relay : Relay core) (m : Moment) (raw : Bytes) (h : Handled core)
    (kind : PipelineKind) (call : core.PipelineCall) : Prop where
  steps : h.relay.pipelineOf =
    Function.update relay.pipelineOf kind (core.pipelineStep (relay.pipelineOf kind) call)
  passes : ∀ k id, relay.passed m raw = some (k, id) → k = kind ∧
    core.deliveredId (relay.pipelineOf kind) call = some id
  silent : relay.passed m raw = none → h.datagrams = [] ∧ transportSends h.calls = []
  mainOnly : transportSends h.calls ≠ [] → kind = .main
  datagrams : h.datagrams.length ≤ 1
  sends : ((transportSends h.calls).map Prod.fst).Nodup

/-- What handling one packet does to the pipelines, and what goes out for it. -/
inductive Effect (relay : Relay core) (m : Moment) (raw : Bytes) (h : Handled core) : Prop where
  | idle (same : h.relay.pipelineOf = relay.pipelineOf) (silent : relay.passed m raw = none)
    (datagrams : h.datagrams = []) (sends : transportSends h.calls = [])
  | judged (kind : PipelineKind) (call : core.PipelineCall)
    (judged : Judged relay m raw h kind call)

theorem passed_of_accepted (h : relay.accepted m raw = some (msg, forward)) :
    relay.passed m raw = some (.main, msg.msgId) := by
  simp only [passed, h]

theorem passed_of_unaccepted (h : relay.accepted m raw = none) :
    relay.passed m raw = (relay.presented m raw).map fun msg => (.presentation, msg.msgId) := by
  simp only [passed, h]

theorem presented_delivers {cache : core.Attestation} (path : relay.demux raw = .presentation cache)
    (h : relay.presented m raw = some msg) :
    core.deliveredId relay.presentationPipeline (none, m.clocks.core, raw) = some msg.msgId := by
  rw [presented, path] at h
  dsimp only at h
  split at h
  · rename_i delivered
    split at h
    · cases h
      simp only [Core.deliveredId, delivered]
    · cases h
  · cases h

/-- A packet that only calls a pipeline, and is not passed, stays. -/
theorem Judged.stays {h : Handled core} {kind : PipelineKind} {call : core.PipelineCall}
    (steps : h.relay.pipelineOf =
      Function.update relay.pipelineOf kind (core.pipelineStep (relay.pipelineOf kind) call))
    (unpassed : relay.passed m raw = none) (datagrams : h.datagrams = [])
    (calls : h.calls = []) : Judged relay m raw h kind call := by
  have sends : transportSends h.calls = [] := by
    rw [calls]
    rfl
  constructor
  · exact steps
  · intro k id passes
    rw [unpassed] at passes
    cases passes
  · exact fun _ => ⟨datagrams, sends⟩
  · exact fun some => absurd sends some
  · simp [datagrams]
  · simp [sends]

theorem pipelineOf_presentation {after : Relay core} (main : after.pipeline = relay.pipeline)
    (steps : after.presentationPipeline =
      (core.process relay.presentationPipeline none m.clocks.core raw).2) :
    after.pipelineOf = Function.update relay.pipelineOf .presentation
      (core.pipelineStep relay.presentationPipeline (none, m.clocks.core, raw)) := by
  funext kind
  cases kind with
  | main => exact main
  | presentation => exact steps

theorem pipelineOf_main {after : Relay core}
    (steps : after.pipeline = (relay.judged m raw).pipeline)
    (other : after.presentationPipeline = relay.presentationPipeline) :
    after.pipelineOf = Function.update relay.pipelineOf .main
      (core.pipelineStep relay.pipeline (relay.attestation, m.clocks.core, raw)) := by
  funext kind
  cases kind with
  | main => exact steps
  | presentation => exact other

variable (relay backhaul m peerId raw) in
theorem presentation_judged {cache : core.Attestation}
    (path : relay.demux raw = .presentation cache) :
    Judged relay m raw (relay.handlePacket backhaul m peerId raw) .presentation
      (none, m.clocks.core, raw) := by
  have unaccepted : relay.accepted m raw = none := accepted_of_demux_ne_mesh (by simp [path])
  have passes := passed_of_unaccepted unaccepted
  obtain ⟨relay', main, steps, handled⟩ := handlePacket_presented backhaul m peerId path
  have pipelines := pipelineOf_presentation main steps
  rw [handled]
  cases presents : relay.presented m raw with
  | none =>
    rw [presents] at passes
    exact .stays pipelines passes rfl rfl
  | some msg =>
    rw [presents] at passes
    have nothing : transportSends (relay.zoneCalls msg.zoneId raw) = [] :=
      transportSends_zoneCalls msg.zoneId
    constructor
    · exact pipelines
    · rintro k id some
      cases passes.symm.trans some
      exact ⟨rfl, presented_delivers path presents⟩
    · intro none
      cases passes.symm.trans none
    · exact fun some => absurd nothing some
    · exact zonePart_at_most_one msg.zoneId
    · simp only [Option.elim_some, nothing]
      exact List.nodup_nil

variable (relay backhaul m peerId raw) in
theorem mesh_judged (path : relay.demux raw = .mesh) :
    Judged relay m raw (relay.handlePacket backhaul m peerId raw) .main
      (relay.attestation, m.clocks.core, raw) := by
  cases accepts : relay.accepted m raw with
  | none =>
    have unpresented : relay.presented m raw = none := presented_of_demux_ne (by simp [path])
    have unpassed := passed_of_unaccepted accepts
    rw [unpresented] at unpassed
    rw [handlePacket_dropped path accepts]
    exact .stays (pipelineOf_main rfl rfl) unpassed rfl rfl
  | some taken =>
    obtain ⟨msg, forward⟩ := taken
    have passes := passed_of_accepted accepts
    have delivered : core.deliveredId relay.pipeline (relay.attestation, m.clocks.core, raw) =
        some msg.msgId := by
      simp only [Core.deliveredId, process_of_accepted accepts]
    rw [handlePacket_accepted accepts]
    obtain ⟨steps, other⟩ := deliver_pipelines ((relay.judged m raw).count .accepted)
      backhaul m peerId raw msg forward
    obtain ⟨datagrams, sends⟩ := deliver_once ((relay.judged m raw).count .accepted) backhaul m
      peerId raw msg forward
    constructor
    · exact pipelineOf_main steps other
    · rintro k id some
      cases passes.symm.trans some
      exact ⟨rfl, delivered⟩
    · intro none
      cases passes.symm.trans none
    · exact fun _ => rfl
    · exact datagrams
    · exact sends

variable (relay backhaul m peerId raw) in
/-- **One packet**: it passes one pipeline at most, and only then goes out. -/
theorem handlePacket_effect :
    Effect relay m raw (relay.handlePacket backhaul m peerId raw) := by
  have unpassed (other : relay.demux raw ≠ .mesh)
      (another : ∀ cache, relay.demux raw ≠ .presentation cache) : relay.passed m raw = none := by
    rw [passed_of_unaccepted (accepted_of_demux_ne_mesh other), presented_of_demux_ne another]
    rfl
  cases path : relay.demux raw with
  | telemetry =>
    rw [handlePacket_telemetry path]
    refine .idle rfl (unpassed (by simp [path]) (by simp [path])) rfl ?_
    cases relay.phonePing <;> rfl
  | backendProxy =>
    rw [handlePacket_backendProxy path]
    refine .idle rfl (unpassed (by simp [path]) (by simp [path])) rfl ?_
    cases relay.backendProxy <;> rfl
  | presentation cache =>
    exact .judged .presentation _ (presentation_judged relay backhaul m peerId raw path)
  | mesh => exact .judged .main _ (mesh_judged relay backhaul m peerId raw path)

end Relay

/-! ## The network -/

structure Node (core : Core) where
  relay : Relay core
  backhaul : BatmanBackhaul

/-- A call of `sendto`, with the pipeline and msg_id of the packet it was for. -/
structure Transmission (n : Nat) where
  node : Fin n
  message : Option (PipelineKind × Bytes)
  datagram : Datagram

/-- A packet a node sent to a phone. -/
structure Copy (n : Nat) where
  node : Fin n
  message : Option (PipelineKind × Bytes)
  peerId : PeerId
  packet : Bytes

/-- The nodes, and all they have sent. -/
structure Network (core : Core) (n : Nat) where
  nodes : Fin n → Node core
  transmissions : List (Transmission n)
  copies : List (Copy n)

/-- A phone injects a packet; a node receives anything that was ever sent, as
often as it likes and in any order; a zone table becomes anything. -/
inductive Event (n : Nat) where
  | phone (node : Fin n) (peerId : PeerId) (raw : Bytes) (m : Moment)
  | datagram (node : Fin n) (transmission : Nat) (source : String × Int) (m : Moment)
  | retable (node : Fin n) (table : DynamicZoneTable Addr)

namespace Network

variable {n : Nat}

/-- Node `i` has handled a packet, which passed as `message` says. -/
def record (w : Network core n) (i : Fin n) (h : Handled core)
    (message : Option (PipelineKind × Bytes)) : Network core n where
  nodes := Function.update w.nodes i { w.nodes i with relay := h.relay }
  transmissions := w.transmissions ++ h.datagrams.map fun d => ⟨i, message, d⟩
  copies := w.copies ++ (Relay.transportSends h.calls).map fun (peer, packet) =>
    ⟨i, message, peer, packet⟩

def handle (w : Network core n) (i : Fin n) (peerId : PeerId) (raw : Bytes) (m : Moment) :
    Network core n :=
  let relay := (w.nodes i).relay
  w.record i (relay.handlePacket (.batman (w.nodes i).backhaul) m peerId raw) (relay.passed m raw)

def step (w : Network core n) : Event n → Network core n
  | .phone i peerId raw m => w.handle i peerId raw m
  | .datagram i k source m =>
    match w.transmissions[k]? with
    | none => w
    | some t =>
      match (w.nodes i).backhaul.receive source t.datagram.packet with
      | .data peerId => w.handle i peerId t.datagram.packet m
      | _ => w
  | .retable i table =>
    let backhaul := { (w.nodes i).backhaul with table }
    { w with nodes := Function.update w.nodes i { w.nodes i with backhaul } }

/-- The msg_ids a new pipeline delivers over the calls. -/
def delivered (core : Core) (calls : List core.PipelineCall) : List Bytes :=
  Runs.outputs core.pipelineStep core.deliveredId core.newPipeline calls

/-- The calls that each pipeline of each node has taken. -/
abbrev Calls (core : Core) (n : Nat) : Type := Fin n → PipelineKind → List core.PipelineCall

/-- What went out, told by the calls each pipeline has taken: nothing without a
delivered msg_id, and nothing twice for one. -/
structure Accounted (w : Network core n) (calls : Calls core n) : Prop where
  pipelines : ∀ i kind, (w.nodes i).relay.pipelineOf kind =
    Runs.run core.pipelineStep core.newPipeline (calls i kind)
  sentOnce : (w.transmissions.map fun t => (t.node, t.message)).Nodup
  sent : ∀ t ∈ w.transmissions, ∃ kind id, t.message = some (kind, id) ∧
    id ∈ delivered core (calls t.node kind)
  copiedOnce : (w.copies.map fun c => (c.node, c.message, c.peerId)).Nodup
  copied : ∀ c ∈ w.copies, ∃ id, c.message = some (.main, id) ∧
    id ∈ delivered core (calls c.node .main)

theorem delivered_snoc (calls : List core.PipelineCall) (call : core.PipelineCall) :
    delivered core (calls ++ [call]) = delivered core calls ++
      (core.deliveredId (Runs.run core.pipelineStep core.newPipeline calls) call).toList :=
  Runs.outputs_snoc _ _ _ _

/-- One more call of one pipeline of one node. -/
def extend (calls : Calls core n) (i : Fin n) (kind : PipelineKind) (call : core.PipelineCall) :
    Calls core n :=
  Function.update calls i (Function.update (calls i) kind (calls i kind ++ [call]))

theorem extend_self (calls : Calls core n) (i : Fin n) (kind : PipelineKind)
    (call : core.PipelineCall) : extend calls i kind call i kind = calls i kind ++ [call] := by
  simp [extend]

theorem extend_other (calls : Calls core n) (call : core.PipelineCall)
    {i j : Fin n} {kind k : PipelineKind} (ne : ¬ (j = i ∧ k = kind)) :
    extend calls i kind call j k = calls j k := by
  unfold extend
  by_cases mine : j = i
  · subst mine
    have other : k ≠ kind := fun same => ne ⟨rfl, same⟩
    rw [Function.update_self, Function.update_of_ne other]
  · rw [Function.update_of_ne mine]

theorem delivered_extend {calls : Calls core n} {i j : Fin n} {kind k : PipelineKind}
    {call : core.PipelineCall} {id : Bytes} (h : id ∈ delivered core (calls j k)) :
    id ∈ delivered core (extend calls i kind call j k) := by
  by_cases here : j = i ∧ k = kind
  · obtain ⟨rfl, rfl⟩ := here
    rw [extend_self, delivered_snoc]
    exact List.mem_append_left _ h
  · rwa [extend_other calls call here]

/-- A msg_id that a pipeline delivers is one it has not delivered before. -/
theorem delivered_fresh (dedup : core.Dedup) {calls : Calls core n} {i : Fin n}
    {kind : PipelineKind} {call : core.PipelineCall} {id : Bytes}
    (delivers : core.deliveredId (Runs.run core.pipelineStep core.newPipeline (calls i kind)) call =
      some id) :
    id ∉ delivered core (calls i kind) ∧ id ∈ delivered core (extend calls i kind call i kind) := by
  have grown : delivered core (calls i kind ++ [call]) = delivered core (calls i kind) ++ [id] := by
    rw [delivered_snoc, delivers]
    rfl
  constructor
  · have nodup : (delivered core (calls i kind ++ [call])).Nodup := dedup _
    rw [grown] at nodup
    intro here
    exact (List.nodup_append.mp nodup).2.2 id here id (List.mem_singleton.mpr rfl) rfl
  · rw [extend_self, grown]
    exact List.mem_append_right _ (List.mem_singleton.mpr rfl)

theorem pipelines_record {w : Network core n} {calls : Calls core n} (h : Accounted w calls)
    {i : Fin n} {raw : Bytes} {m : Moment} {handled : Handled core} {kind : PipelineKind}
    {call : core.PipelineCall} (judged : (w.nodes i).relay.Judged m raw handled kind call)
    (message : Option (PipelineKind × Bytes)) (j : Fin n) (k : PipelineKind) :
    ((w.record i handled message).nodes j).relay.pipelineOf k =
      Runs.run core.pipelineStep core.newPipeline (extend calls i kind call j k) := by
  by_cases here : j = i ∧ k = kind
  · obtain ⟨rfl, rfl⟩ := here
    rw [extend_self, Runs.run_append, ← h.pipelines]
    simp only [record, Function.update_self, judged.steps, Runs.run_cons, Runs.run_nil]
  · rw [extend_other calls call here, ← h.pipelines]
    by_cases mine : j = i
    · subst mine
      have other : k ≠ kind := fun same => here ⟨rfl, same⟩
      simp only [record, Function.update_self, judged.steps, Function.update_of_ne other]
    · simp only [record, Function.update_of_ne mine]

/-! Nothing has gone out for a msg_id that the pipeline has not delivered. -/

theorem Accounted.no_transmission {w : Network core n} {calls : Calls core n}
    (h : Accounted w calls) {i : Fin n} {kind : PipelineKind} {id : Bytes}
    (unknown : id ∉ delivered core (calls i kind)) :
    ∀ t ∈ w.transmissions, (t.node, t.message) ≠ (i, some (kind, id)) := by
  intro t mem same
  obtain ⟨rfl, tagged⟩ := Prod.mk.inj same
  obtain ⟨kind', id', tagged', known⟩ := h.sent t mem
  cases tagged.symm.trans tagged'
  exact unknown known

theorem Accounted.no_copy {w : Network core n} {calls : Calls core n}
    (h : Accounted w calls) {i : Fin n} {kind : PipelineKind} {id : Bytes}
    (unknown : id ∉ delivered core (calls i kind)) :
    ∀ c ∈ w.copies, (c.node, c.message) ≠ (i, some (kind, id)) := by
  intro c mem same
  obtain ⟨rfl, tagged⟩ := Prod.mk.inj same
  obtain ⟨id', tagged', known⟩ := h.copied c mem
  cases tagged.symm.trans tagged'
  exact unknown known

/-- What goes out for a newly delivered msg_id keeps the account. -/
theorem accounted_judged (dedup : core.Dedup) {w : Network core n} {calls : Calls core n}
    (h : Accounted w calls) {i : Fin n} {raw : Bytes} {m : Moment} {handled : Handled core}
    {kind : PipelineKind} {call : core.PipelineCall}
    (judged : (w.nodes i).relay.Judged m raw handled kind call) :
    Accounted (w.record i handled ((w.nodes i).relay.passed m raw)) (extend calls i kind call) := by
  have pipelines := pipelines_record h judged
  have keptSent : ∀ t ∈ w.transmissions, ∃ kind' id, t.message = some (kind', id) ∧
      id ∈ delivered core (extend calls i kind call t.node kind') := by
    intro t ht
    obtain ⟨kind', id, tagged, known⟩ := h.sent t ht
    exact ⟨kind', id, tagged, delivered_extend known⟩
  have keptCopied : ∀ c ∈ w.copies, ∃ id, c.message = some (.main, id) ∧
      id ∈ delivered core (extend calls i kind call c.node .main) := by
    intro c hc
    obtain ⟨id, tagged, known⟩ := h.copied c hc
    exact ⟨id, tagged, delivered_extend known⟩
  cases message : (w.nodes i).relay.passed m raw with
  | none =>
    obtain ⟨noDatagrams, noSends⟩ := judged.silent message
    constructor
    · exact pipelines none
    · simpa [record, noDatagrams] using h.sentOnce
    · simpa [record, noDatagrams] using keptSent
    · simpa [record, noSends] using h.copiedOnce
    · simpa [record, noSends] using keptCopied
  | some passed =>
    obtain ⟨k, id⟩ := passed
    obtain ⟨rfl, delivers⟩ := judged.passes k id message
    rw [h.pipelines] at delivers
    -- The msg_id is new to the pipeline, so nothing went out for it before.
    obtain ⟨unknown, known⟩ := delivered_fresh dedup delivers
    constructor
    · exact pipelines (some (k, id))
    · rw [record, List.map_append, List.map_map]
      refine List.nodup_append.mpr ⟨h.sentOnce, ?_, ?_⟩
      · rcases few : handled.datagrams with _ | ⟨d, _ | ⟨e, rest⟩⟩
        · exact List.nodup_nil
        · exact List.nodup_singleton _
        · have most := judged.datagrams
          simp [few] at most
      · rintro _ old _ new rfl
        obtain ⟨t, ht, key⟩ := List.mem_map.mp old
        obtain ⟨d, -, key'⟩ := List.mem_map.mp new
        exact h.no_transmission unknown t ht (key.trans key'.symm)
    · intro t ht
      rcases List.mem_append.mp ht with old | new
      · exact keptSent t old
      · obtain ⟨d, -, rfl⟩ := List.mem_map.mp new
        exact ⟨k, id, rfl, known⟩
    · rw [record, List.map_append, List.map_map]
      refine List.nodup_append.mpr ⟨h.copiedOnce, ?_, ?_⟩
      · have keyed := judged.sends.map (f := fun peer => (i, some (k, id), peer)) fun p q same =>
          (Prod.mk.inj (Prod.mk.inj same).2).2
        rwa [List.map_map] at keyed
      · rintro _ old _ new rfl
        obtain ⟨c, hc, key⟩ := List.mem_map.mp old
        obtain ⟨send, here, key'⟩ := List.mem_map.mp new
        have same := key.trans key'.symm
        exact h.no_copy unknown c hc (congrArg (fun key => (key.1, key.2.1)) same)
    · intro c hc
      rcases List.mem_append.mp hc with old | new
      · exact keptCopied c old
      · obtain ⟨send, here, rfl⟩ := List.mem_map.mp new
        have isMain : k = .main := judged.mainOnly (List.ne_nil_of_mem here)
        subst isMain
        exact ⟨id, rfl, known⟩

theorem accounted_handle (dedup : core.Dedup) {w : Network core n} {calls : Calls core n}
    (h : Accounted w calls) (i : Fin n)
    (peerId : PeerId) (raw : Bytes) (m : Moment) :
    ∃ calls', Accounted (w.handle i peerId raw m) calls' := by
  unfold handle
  cases Relay.handlePacket_effect (w.nodes i).relay (.batman (w.nodes i).backhaul) m peerId raw with
  | idle same silent datagrams sends =>
    refine ⟨calls, ?_⟩
    constructor
    · intro j kind
      rw [← h.pipelines j kind]
      by_cases mine : j = i
      · subst mine
        simp only [record, Function.update_self, same]
      · simp only [record, Function.update_of_ne mine]
    · simpa [record, datagrams] using h.sentOnce
    · simpa [record, datagrams] using h.sent
    · simpa [record, sends] using h.copiedOnce
    · simpa [record, sends] using h.copied
  | judged kind call judged => exact ⟨_, accounted_judged dedup h judged⟩

theorem accounted_step (dedup : core.Dedup) (w : Network core n) (e : Event n)
    (h : ∃ calls, Accounted w calls) : ∃ calls, Accounted (w.step e) calls := by
  obtain ⟨calls, h⟩ := h
  cases e with
  | phone i peerId raw m => exact accounted_handle dedup h i peerId raw m
  | datagram i k source m =>
    simp only [step]
    cases w.transmissions[k]? with
    | none => exact ⟨calls, h⟩
    | some t =>
      simp only
      cases (w.nodes i).backhaul.receive source t.datagram.packet with
      | data peerId => exact accounted_handle dedup h i peerId t.datagram.packet m
      | echo => exact ⟨calls, h⟩
      | control => exact ⟨calls, h⟩
  | retable i table =>
    refine ⟨calls, ?_, h.sentOnce, h.sent, h.copiedOnce, h.copied⟩
    intro j kind
    rw [← h.pipelines j kind]
    by_cases mine : j = i
    · subst mine
      simp only [step, Function.update_self]
    · simp only [step, Function.update_of_ne mine]

/-- Where the keys of a list are distinct, one element at most has a given key. -/
theorem countP_key_le_one {α κ : Type*} [DecidableEq κ] {key : α → κ} {l : List α}
    (once : (l.map key).Nodup) (k : κ) : l.countP (fun a => key a = k) ≤ 1 := by
  have counted := List.nodup_iff_count_le_one.mp once k
  rw [List.count, List.countP_map] at counted
  exact counted

theorem Accounted.per_node {w : Network core n} {calls : Calls core n}
    (h : Accounted w calls) (i : Fin n)
    (kind : PipelineKind) (id : Bytes) :
    w.transmissions.countP (fun t => t.node = i ∧ t.message = some (kind, id)) ≤ 1 := by
  simpa using countP_key_le_one h.sentOnce (i, some (kind, id))

theorem Accounted.per_peer {w : Network core n} {calls : Calls core n}
    (h : Accounted w calls) (i : Fin n)
    (id : Bytes) (peerId : PeerId) :
    w.copies.countP (fun c => c.node = i ∧ c.message.map Prod.snd = some id ∧ c.peerId = peerId) ≤
      1 := by
  apply le_trans _ (countP_key_le_one h.copiedOnce (i, some (PipelineKind.main, id), peerId))
  apply List.countP_mono_left
  intro c hc same
  obtain ⟨id', tagged, -⟩ := h.copied c hc
  simp only [decide_eq_true_eq, tagged, Option.map_some, Option.some.injEq] at same ⊢
  obtain ⟨rfl, rfl, rfl⟩ := same
  rfl

/-- A transmission for a given msg_id is told by its node and pipeline. -/
theorem Accounted.in_all {w : Network core n} {calls : Calls core n}
    (h : Accounted w calls) (id : Bytes) :
    w.transmissions.countP (fun t => t.message.map Prod.snd = some id) ≤ 2 * n := by
  rw [List.countP_eq_length_filter]
  obtain ⟨those, isThose⟩ : ∃ those, w.transmissions.filter
      (fun t => t.message.map Prod.snd = some id) = those := ⟨_, rfl⟩
  rw [isThose]
  have once : (those.map fun t => (t.node, t.message)).Nodup := by
    rw [← isThose]
    exact h.sentOnce.sublist (List.filter_sublist.map _)
  have tagged : ∀ key ∈ those.map fun t => (t.node, t.message),
      ∃ kind, key.2 = some (kind, id) := by
    intro key hkey
    obtain ⟨t, ht, rfl⟩ := List.mem_map.mp hkey
    rw [← isThose] at ht
    obtain ⟨⟨kind, id'⟩, message, rfl⟩ :=
      Option.map_eq_some_iff.mp (of_decide_eq_true (List.mem_filter.mp ht).2)
    exact ⟨kind, message⟩
  have distinct : ((those.map fun t => (t.node, t.message)).map fun key =>
      (key.1, (key.2.map Prod.fst).getD PipelineKind.main)).Nodup := by
    apply once.map_on
    rintro ⟨i, message⟩ hkey ⟨j, message'⟩ hkey' same
    obtain ⟨kind, rfl⟩ := tagged _ hkey
    obtain ⟨kind', rfl⟩ := tagged _ hkey'
    cases same
    rfl
  have bound := distinct.length_le_card
  simp only [List.length_map, Fintype.card_prod, Fintype.card_fin] at bound
  have kinds : Fintype.card PipelineKind = 2 := rfl
  rw [kinds] at bound
  omega

/-- **Flooding is bounded.** Among nodes with new pipelines, whatever phones
inject, datagrams do and zone tables say: all that goes out is for a msg_id; a
node makes one transmission at most for a msg_id and pipeline, and one copy at
most for a msg_id and peer, and all nodes together make two transmissions a
node at most for a msg_id. -/
theorem flooding_bounded (dedup : core.Dedup) (nodes : Fin n → Node core)
    (booted : ∀ i kind, (nodes i).relay.pipelineOf kind = core.newPipeline)
    (es : List (Event n)) :
    (∀ t ∈ (Runs.run step ⟨nodes, [], []⟩ es).transmissions, t.message.isSome) ∧
    (∀ c ∈ (Runs.run step ⟨nodes, [], []⟩ es).copies, c.message.isSome) ∧
    (∀ i kind id, (Runs.run step ⟨nodes, [], []⟩ es).transmissions.countP
      (fun t => t.node = i ∧ t.message = some (kind, id)) ≤ 1) ∧
    (∀ i id peerId, (Runs.run step ⟨nodes, [], []⟩ es).copies.countP
      (fun c => c.node = i ∧ c.message.map Prod.snd = some id ∧ c.peerId = peerId) ≤ 1) ∧
    (∀ id, (Runs.run step ⟨nodes, [], []⟩ es).transmissions.countP
      (fun t => t.message.map Prod.snd = some id) ≤ 2 * n) := by
  have start : ∃ calls, Accounted (⟨nodes, [], []⟩ : Network core n) calls := by
    refine ⟨fun _ _ => [], ?_⟩
    constructor
    · exact booted
    · exact List.nodup_nil
    · exact fun _ => nofun
    · exact List.nodup_nil
    · exact fun _ => nofun
  obtain ⟨calls, account⟩ := Runs.invariant_always (accounted_step dedup) start es
  have sent : ∀ t ∈ (Runs.run step ⟨nodes, [], []⟩ es).transmissions, t.message.isSome := by
    intro t ht
    obtain ⟨kind, id, tagged, -⟩ := account.sent t ht
    rw [tagged]
    rfl
  have copied : ∀ c ∈ (Runs.run step ⟨nodes, [], []⟩ es).copies, c.message.isSome := by
    intro c hc
    obtain ⟨id, tagged, -⟩ := account.copied c hc
    rw [tagged]
    rfl
  exact ⟨sent, copied, account.per_node, account.per_peer, account.in_all⟩

/-- Two neighbours that only know the broadcast address. -/
def neighbours (i : Fin 2) : Node Sample.core :=
  ⟨.boot i.val none false none false, { Sample.backhaul with zoneId := i.val }⟩

/-- A packet for every zone, its echo from the other node, and a duplicate. -/
def echoes : List (Event 2) :=
  [.phone 0 "phone" (Sample.packet 1 Sample.requester 5 255 1 [])
      ⟨⟨0, 0, 0⟩, 0, ["phone"], by decide, .up⟩,
    .datagram 1 0 ("10.77.0.7", 19788) ⟨⟨0, 0, 0⟩, 0, [], by decide, .up⟩,
    .datagram 0 1 ("10.77.0.7", 19788) ⟨⟨0, 0, 0⟩, 0, ["phone"], by decide, .up⟩,
    .datagram 1 0 ("10.77.0.7", 19788) ⟨⟨0, 0, 0⟩, 0, [], by decide, .up⟩]

theorem flooding_bounded_echoes :
    (Runs.run step ⟨neighbours, [], []⟩ echoes).transmissions.countP
      (fun t => t.message.map Prod.snd = some (List.replicate 16 1)) ≤ 2 * 2 := by
  have booted : ∀ i kind, (neighbours i).relay.pipelineOf kind = Sample.core.newPipeline := by
    intro i kind
    cases kind <;> rfl
  exact (flooding_bounded Sample.core_dedup neighbours booted echoes).2.2.2.2 _

end Network

end MeshlinkNode
