import MeshlinkNode.Relay
import MeshlinkNode.Lib.Runs

/-!
# Traffic counters under concurrent handlers

BLE, WiFi and backhaul receives call `_handle_packet` on threads of their own.
Each counter is bumped under a lock, but between two bumps of one handler any
other may run.
-/

namespace MeshlinkNode.RelayThreads

variable {core : Core}

/-- What a pipeline made of a packet, before it is counted. -/
inductive Outcome where
  | dropped
  | cached (msg : Message)
  | accepted (msg : Message) (forward : Option Bytes)

/-- Where a call of `_handle_packet` stands. -/
inductive Stage where
  | entered
  | arrived
  | received
  | presenting (msg : Message)
  | judged (outcome : Outcome)
  | cached (msg : Message)
  | accepted (msg : Message) (forward : Option Bytes)
  | terminated
  | onward (msg : Message) (forward : Option Bytes)
  | zoned (call : BackhaulCall) (forward : Option Bytes)
  | fanning (forward : Option Bytes)
  | fanned (copy : Bytes)
  | finished (result : Except PyExc Unit)

/-- A stage's effects on the way to the next. -/
structure Progress (core : Core) where
  stage : Stage
  relay : Relay core
  calls : List Call
  datagrams : List Datagram
  counted : Option Counter

/-- Nothing happens but a move to the next stage. -/
def moved (relay : Relay core) (stage : Stage) : Progress core := ⟨stage, relay, [], [], none⟩

/-- `_count(key)`. -/
def counting (relay : Relay core) (key : Counter) (stage : Stage) : Progress core :=
  ⟨stage, relay.count key, [], [], some key⟩

/-- One stage of `_handle_packet`. `self._attestation` stays once it is there,
so a presentation always finds the cache. -/
def Stage.advance (relay : Relay core) (backhaul : Backhaul) (m : Moment) (peerId : PeerId)
    (raw : Bytes) : Stage → Progress core
  | .entered =>
    if isTelemetryFrame raw then
      ⟨.finished (.ok ()), relay, if relay.phonePing then [.phonePing peerId raw] else [], [], none⟩
    else if isBackendProxyFrame raw then
      ⟨.finished (.ok ()), relay, if relay.backendProxy then [.backendProxy peerId raw] else [], [],
        none⟩
    else moved relay .arrived
  | .arrived => counting relay .received .received
  | .received =>
    match relay.attestation, isAttestationPresentation core raw with
    | some _, true =>
      let (result, pipeline) := core.process relay.presentationPipeline none m.clocks.core raw
      let relay := { relay with presentationPipeline := pipeline }
      match result with
      | .drop _ => moved relay (.judged .dropped)
      | .deliver msg _ => moved relay (.presenting msg)
    | _, _ =>
      let (result, pipeline) := core.process relay.pipeline relay.attestation m.clocks.core raw
      let relay := { relay with pipeline }
      match result with
      | .drop _ => moved relay (.judged .dropped)
      | .deliver msg forward => moved relay (.judged (.accepted msg forward))
  | .presenting msg =>
    match relay.attestation, asciiDecode msg.payload with
    | some cache, some token =>
      let (senderKey, cache) := core.addToken cache m.clocks.core token
      moved { relay with attestation := some cache }
        (.judged (if senderKey.isSome then .cached msg else .dropped))
    | _, _ => moved relay (.judged .dropped)
  | .judged .dropped => counting relay .dropped (.finished (.ok ()))
  | .judged (.cached msg) => counting relay .attestationsCached (.cached msg)
  | .judged (.accepted msg forward) => counting relay .accepted (.accepted msg forward)
  | .cached msg =>
    match relay.zoneCall msg.zoneId raw with
    | none => moved relay (.finished (.ok ()))
    | some call =>
      let (datagrams, result) := backhaul.perform m call
      ⟨.finished result, relay, [.backhaul call], datagrams, none⟩
  | .accepted msg forward =>
    match relay.location with
    | none => moved relay (.onward msg forward)
    | some svc =>
      let t := svc.handleNodeTerminated peerId msg m.clocks
      let sent := t.sent.map fun (peer, packet) => .send peer packet
      let relay := { relay with location := some t.service }
      match t.result with
      | .error exc => ⟨.finished (.error exc), relay, sent, [], none⟩
      | .ok true => ⟨.terminated, relay, sent, [], none⟩
      | .ok false => ⟨.onward msg forward, relay, sent, [], none⟩
  | .terminated => counting relay .locationTerminated (.finished (.ok ()))
  | .onward msg forward =>
    match relay.zoneCall msg.zoneId raw with
    | none => moved relay (.fanning forward)
    | some call =>
      match backhaul.perform m call with
      | (datagrams, .error exc) =>
        ⟨.finished (.error exc), relay, [.backhaul call], datagrams, none⟩
      | (datagrams, .ok ()) => ⟨.zoned call forward, relay, [.backhaul call], datagrams, none⟩
  | .zoned call forward => counting relay (Relay.zoneCounter call) (.fanning forward)
  | .fanning forward =>
    match Relay.relayed raw forward with
    | .error exc => moved relay (.finished (.error exc))
    | .ok copy =>
      match copy[TTL_OFFSET]? with
      | none => moved relay (.finished (.error .indexError))
      | some ttl =>
        if ttl = 0 then moved relay (.finished (.ok ()))
        else ⟨.fanned copy, relay, Relay.sends m.peers peerId copy, [], none⟩
  | .fanned copy => counting relay .relayedToPhones
      (.finished (if copy[SPRAY_OFFSET]?.isSome then .ok () else .error .indexError))
  | .finished result => moved relay (.finished result)

/-- A call of `_handle_packet`, with what it has asked for and counted so far. -/
structure Handler where
  peerId : PeerId
  raw : Bytes
  stage : Stage
  calls : List Call
  datagrams : List Datagram
  counted : List Counter

def Handler.entering (peerId : PeerId) (raw : Bytes) : Handler :=
  ⟨peerId, raw, .entered, [], [], []⟩

def Handler.advance (backhaul : Backhaul) (m : Moment) (h : Handler) (relay : Relay core) :
    Handler × Relay core :=
  let p := h.stage.advance relay backhaul m h.peerId h.raw
  ({ h with
      stage := p.stage
      calls := h.calls ++ p.calls
      datagrams := h.datagrams ++ p.datagrams
      counted := h.counted ++ p.counted.toList }, p.relay)

/-- The handlers share the relay. -/
structure Threads (core : Core) where
  relay : Relay core
  handlers : List Handler

inductive Event where
  | arrive (peerId : PeerId) (raw : Bytes)
  | advance (handler : Nat) (backhaul : Backhaul) (m : Moment)

def step (t : Threads core) : Event → Threads core
  | .arrive peerId raw => { t with handlers := t.handlers ++ [.entering peerId raw] }
  | .advance handler backhaul m =>
    match t.handlers[handler]? with
    | none => t
    | some h =>
      let (h, relay) := h.advance backhaul m t.relay
      ⟨relay, t.handlers.set handler h⟩

/-! ## A handler nobody interrupts -/

section Uninterrupted

variable (backhaul : Backhaul) (m : Moment) (peerId : PeerId) (raw : Bytes)

/-- `_handle_packet` after `received` is counted. -/
def process (relay : Relay core) : Handled core :=
  match relay.attestation, isAttestationPresentation core raw with
  | some cache, true => relay.handlePresentation cache backhaul m raw
  | _, _ => relay.handleMesh backhaul m peerId raw

/-- The end of `_handle_presentation`. -/
def spread (relay : Relay core) (msg : Message) : Handled core :=
  match relay.zoneCall msg.zoneId raw with
  | none => ⟨relay, [], [], .ok ()⟩
  | some call =>
    let (datagrams, result) := backhaul.perform m call
    ⟨relay, [.backhaul call], datagrams, result⟩

def settle (relay : Relay core) : Outcome → Handled core
  | .dropped => ⟨relay.count .dropped, [], [], .ok ()⟩
  | .cached msg => spread backhaul m raw (relay.count .attestationsCached) msg
  | .accepted msg forward => (relay.count .accepted).deliver backhaul m peerId raw msg forward

/-- What is left of `_handle_packet` from a stage on. -/
def Stage.rest (relay : Relay core) : Stage → Handled core
  | .entered => relay.handlePacket backhaul m peerId raw
  | .arrived => process backhaul m peerId raw (relay.count .received)
  | .received => process backhaul m peerId raw relay
  | .presenting msg =>
    match relay.attestation, asciiDecode msg.payload with
    | some cache, some token =>
      let (senderKey, cache) := core.addToken cache m.clocks.core token
      settle backhaul m peerId raw { relay with attestation := some cache }
        (if senderKey.isSome then .cached msg else .dropped)
    | _, _ => settle backhaul m peerId raw relay .dropped
  | .judged outcome => settle backhaul m peerId raw relay outcome
  | .cached msg => spread backhaul m raw relay msg
  | .accepted msg forward => relay.deliver backhaul m peerId raw msg forward
  | .terminated => ⟨relay.count .locationTerminated, [], [], .ok ()⟩
  | .onward msg forward => relay.relayOnward backhaul m peerId raw msg forward
  | .zoned call forward => (relay.count (Relay.zoneCounter call)).fanOut m peerId raw forward
  | .fanning forward => relay.fanOut m peerId raw forward
  | .fanned copy => ⟨relay.count .relayedToPhones, [], [],
      if copy[SPRAY_OFFSET]?.isSome then .ok () else .error .indexError⟩
  | .finished result => ⟨relay, [], [], result⟩

variable {backhaul m peerId raw}

theorem rest_received (relay : Relay core) :
    process backhaul m peerId raw relay =
      let p := Stage.advance relay backhaul m peerId raw .received
      (p.stage.rest backhaul m peerId raw p.relay).after p.calls p.datagrams := by
  unfold process
  simp only [Stage.advance]
  split
  · rename_i cache present presents
    simp only [Relay.handlePresentation]
    cases (core.process relay.presentationPipeline none m.clocks.core raw).1 with
    | drop why => rfl
    | deliver msg forward =>
      simp only [moved, Stage.rest, present]
      cases asciiDecode msg.payload with
      | none => rfl
      | some token =>
        simp only
        cases (core.addToken cache m.clocks.core token).1 with
        | none => rfl
        | some key =>
          simp only [Option.isSome_some, if_true, settle, spread, Relay.count]
          rfl
  · simp only [Relay.handleMesh]
    cases (core.process relay.pipeline relay.attestation m.clocks.core raw).1 with
    | drop why => rfl
    | deliver msg forward => rfl

/-- **A stage at a time.** What is left from a stage on is what the stage does,
and what is left after it. -/
theorem rest_advance (relay : Relay core) (stage : Stage) :
    stage.rest backhaul m peerId raw relay =
      let p := stage.advance relay backhaul m peerId raw
      (p.stage.rest backhaul m peerId raw p.relay).after p.calls p.datagrams := by
  cases stage with
  | received => exact rest_received relay
  | entered =>
    simp only [Stage.rest, Stage.advance, Relay.handlePacket]
    split
    · simp [Handled.after]
    · split
      · simp [Handled.after]
      · rfl
  | arrived => rfl
  | presenting msg =>
    simp only [Stage.rest, Stage.advance]
    split <;> rfl
  | judged outcome => cases outcome <;> rfl
  | cached msg =>
    simp only [Stage.rest, Stage.advance, spread]
    cases relay.zoneCall msg.zoneId raw with
    | none => rfl
    | some call => simp [Handled.after]
  | accepted msg forward =>
    simp only [Stage.rest, Stage.advance, Relay.deliver]
    cases relay.location with
    | none => rfl
    | some svc =>
      simp only
      cases (svc.handleNodeTerminated peerId msg m.clocks).result with
      | error exc => simp [Handled.after]
      | ok consumed => cases consumed <;> simp [Handled.after]
  | terminated => rfl
  | onward msg forward =>
    simp only [Stage.rest, Stage.advance, Relay.relayOnward]
    cases relay.zoneCall msg.zoneId raw with
    | none => rfl
    | some call =>
      simp only
      cases backhaul.perform m call with
      | mk datagrams result =>
        cases result with
        | error exc => simp [Handled.after]
        | ok u => rfl
  | zoned call forward => rfl
  | fanning forward =>
    simp only [Stage.rest, Stage.advance, Relay.fanOut]
    cases Relay.relayed raw forward with
    | error exc => rfl
    | ok copy =>
      simp only
      cases copy[TTL_OFFSET]? with
      | none => rfl
      | some ttl =>
        by_cases last : ttl = 0
        · simp [last, moved, Handled.after]
        · simp [last, Handled.after]
  | fanned copy => rfl
  | finished result => rfl

/-- An upper bound on the stages still to come. -/
def Stage.left : Stage → Nat
  | .entered => 10
  | .arrived => 9
  | .received => 8
  | .presenting _ => 7
  | .judged _ => 6
  | .cached _ | .accepted _ _ => 5
  | .terminated | .onward _ _ => 4
  | .zoned _ _ => 3
  | .fanning _ => 2
  | .fanned _ => 1
  | .finished _ => 0

end Uninterrupted

/-! ## What a stage can lead to and count -/

/-- The stages a handler can go through, with what it counts on the way;
`control` says that its frame is for one of the two phone services. -/
inductive Flow (control : Bool) : Stage → Option Counter → Stage → Prop
  | demuxed {result} : control = true → Flow control .entered none (.finished result)
  | arrives : control = false → Flow control .entered none .arrived
  | receives : Flow control .arrived (some .received) .received
  | presents {msg} : Flow control .received none (.presenting msg)
  | judges {outcome} : Flow control .received none (.judged outcome)
  | checks {msg outcome} : Flow control (.presenting msg) none (.judged outcome)
  | drops {result} : Flow control (.judged .dropped) (some .dropped) (.finished result)
  | caches {msg} : Flow control (.judged (.cached msg)) (some .attestationsCached) (.cached msg)
  | accepts {msg forward} :
      Flow control (.judged (.accepted msg forward)) (some .accepted) (.accepted msg forward)
  | spreads {msg result} : Flow control (.cached msg) none (.finished result)
  | fails {msg forward result} : Flow control (.accepted msg forward) none (.finished result)
  | consumes {msg forward} : Flow control (.accepted msg forward) none .terminated
  | relays {msg forward} : Flow control (.accepted msg forward) none (.onward msg forward)
  | terminates {result} : Flow control .terminated (some .locationTerminated) (.finished result)
  | refuses {msg forward result} : Flow control (.onward msg forward) none (.finished result)
  | calls {msg forward call} : Flow control (.onward msg forward) none (.zoned call forward)
  | stays {msg forward} : Flow control (.onward msg forward) none (.fanning forward)
  | zones {call forward} :
      Flow control (.zoned call forward) (some (Relay.zoneCounter call)) (.fanning forward)
  | ends {forward result} : Flow control (.fanning forward) none (.finished result)
  | sends {forward copy} : Flow control (.fanning forward) none (.fanned copy)
  | fans {copy result} : Flow control (.fanned copy) (some .relayedToPhones) (.finished result)
  | rests {result} : Flow control (.finished result) none (.finished result)

def isControl (raw : Bytes) : Bool := isTelemetryFrame raw || isBackendProxyFrame raw

/-- The counters after a stage are those before, and one more of what it
counts. -/
def Progress.Tallies (relay : Relay core) (p : Progress core) : Prop :=
  p.relay.stats = p.counted.elim relay.stats fun key => (relay.count key).stats

theorem Progress.Tallies.key {relay : Relay core} {p : Progress core} (tallies : p.Tallies relay)
    (key : Counter) : p.relay.stats key = relay.stats key + p.counted.toList.count key := by
  rw [tallies]
  cases p.counted with
  | none => rfl
  | some counted =>
    by_cases same : key = counted
    · subst same
      simp [Relay.count]
    · simp [Relay.count, same, Ne.symm same]

/-- The stage leads where `Flow` says, and counts what it says. -/
def Stage.Flows (relay : Relay core) (backhaul : Backhaul) (m : Moment) (peerId : PeerId)
    (raw : Bytes) (stage : Stage) : Prop :=
  Flow (isControl raw) stage (stage.advance relay backhaul m peerId raw).counted
      (stage.advance relay backhaul m peerId raw).stage ∧
    (stage.advance relay backhaul m peerId raw).Tallies relay

section Stages

variable {relay : Relay core} {backhaul : Backhaul} {m : Moment} {peerId : PeerId} {raw : Bytes}

theorem entered_flow : Stage.Flows relay backhaul m peerId raw .entered := by
  simp only [Stage.Flows, Stage.advance]
  split
  · rename_i telemetry
    exact ⟨.demuxed (by simp [isControl, telemetry]), rfl⟩
  · rename_i notTelemetry
    split
    · rename_i proxy
      exact ⟨.demuxed (by simp [isControl, proxy]), rfl⟩
    · rename_i notProxy
      exact ⟨.arrives (by simp [isControl, notTelemetry, notProxy]), rfl⟩

theorem received_flow : Stage.Flows relay backhaul m peerId raw .received := by
  simp only [Stage.Flows, Stage.advance]
  split
  · cases (core.process relay.presentationPipeline none m.clocks.core raw).1 with
    | drop why => exact ⟨.judges, rfl⟩
    | deliver msg forward => exact ⟨.presents, rfl⟩
  · cases (core.process relay.pipeline relay.attestation m.clocks.core raw).1 with
    | drop why => exact ⟨.judges, rfl⟩
    | deliver msg forward => exact ⟨.judges, rfl⟩

theorem presenting_flow (msg : Message) :
    Stage.Flows relay backhaul m peerId raw (.presenting msg) := by
  simp only [Stage.Flows, Stage.advance]
  split
  · exact ⟨.checks, rfl⟩
  · exact ⟨.checks, rfl⟩

theorem judged_flow (outcome : Outcome) :
    Stage.Flows relay backhaul m peerId raw (.judged outcome) := by
  cases outcome with
  | dropped => exact ⟨.drops, rfl⟩
  | cached msg => exact ⟨.caches, rfl⟩
  | accepted msg forward => exact ⟨.accepts, rfl⟩

theorem cached_flow (msg : Message) : Stage.Flows relay backhaul m peerId raw (.cached msg) := by
  simp only [Stage.Flows, Stage.advance]
  cases relay.zoneCall msg.zoneId raw with
  | none => exact ⟨.spreads, rfl⟩
  | some call => exact ⟨.spreads, rfl⟩

theorem accepted_flow (msg : Message) (forward : Option Bytes) :
    Stage.Flows relay backhaul m peerId raw (.accepted msg forward) := by
  simp only [Stage.Flows, Stage.advance]
  cases relay.location with
  | none => exact ⟨.relays, rfl⟩
  | some svc =>
    simp only
    cases (svc.handleNodeTerminated peerId msg m.clocks).result with
    | error exc => exact ⟨.fails, rfl⟩
    | ok consumed =>
      cases consumed with
      | true => exact ⟨.consumes, rfl⟩
      | false => exact ⟨.relays, rfl⟩

theorem onward_flow (msg : Message) (forward : Option Bytes) :
    Stage.Flows relay backhaul m peerId raw (.onward msg forward) := by
  simp only [Stage.Flows, Stage.advance]
  cases relay.zoneCall msg.zoneId raw with
  | none => exact ⟨.stays, rfl⟩
  | some call =>
    simp only
    cases backhaul.perform m call with
    | mk datagrams result =>
      cases result with
      | error exc => exact ⟨.refuses, rfl⟩
      | ok u => exact ⟨.calls, rfl⟩

theorem fanning_flow (forward : Option Bytes) :
    Stage.Flows relay backhaul m peerId raw (.fanning forward) := by
  simp only [Stage.Flows, Stage.advance]
  cases Relay.relayed raw forward with
  | error exc => exact ⟨.ends, rfl⟩
  | ok copy =>
    simp only
    cases copy[TTL_OFFSET]? with
    | none => exact ⟨.ends, rfl⟩
    | some ttl =>
      by_cases last : ttl = 0
      · simp only [if_pos last]
        exact ⟨.ends, rfl⟩
      · simp only [if_neg last]
        exact ⟨.sends, rfl⟩

end Stages

/-- **One stage.** -/
theorem advance_flow (relay : Relay core) (backhaul : Backhaul) (m : Moment) (peerId : PeerId)
    (raw : Bytes) (stage : Stage) : stage.Flows relay backhaul m peerId raw := by
  cases stage with
  | entered => exact entered_flow
  | arrived => exact ⟨.receives, rfl⟩
  | received => exact received_flow
  | presenting msg => exact presenting_flow msg
  | judged outcome => exact judged_flow outcome
  | cached msg => exact cached_flow msg
  | accepted msg forward => exact accepted_flow msg forward
  | terminated => exact ⟨.terminates, rfl⟩
  | onward msg forward => exact onward_flow msg forward
  | zoned call forward => exact ⟨.zones, rfl⟩
  | fanning forward => exact fanning_flow forward
  | fanned copy => exact ⟨.fans, rfl⟩
  | finished result => exact ⟨.rests, rfl⟩

theorem left_flow {control : Bool} {stage next : Stage} {counted : Option Counter}
    (flow : Flow control stage counted next) : next.left ≤ stage.left - 1 := by
  cases flow <;> simp [Stage.left]

theorem step_advance {t : Threads core} {handler : Nat} {h : Handler}
    (here : t.handlers[handler]? = some h) (backhaul : Backhaul) (m : Moment) :
    step t (.advance handler backhaul m) =
      ⟨(h.advance backhaul m t.relay).2,
        t.handlers.set handler (h.advance backhaul m t.relay).1⟩ := by
  simp only [step, here]

theorem set_here {l : List Handler} {i : Nat} {h : Handler} (here : l[i]? = some h) :
    l.set i h = l := by
  obtain ⟨bound, rfl⟩ := List.getElem?_eq_some_iff.mp here
  exact List.set_getElem_self bound

/-- The handler once what was left of it is done. -/
def Handler.done (h : Handler) (left : Handled core) (counted : List Counter) : Handler :=
  ⟨h.peerId, h.raw, .finished left.result, h.calls ++ left.calls, h.datagrams ++ left.datagrams,
    counted⟩

/-- A handler that is left alone ends with what was left of it. -/
theorem run_rest (backhaul : Backhaul) (m : Moment) (handler n : Nat) (t : Threads core)
    {h : Handler} (here : t.handlers[handler]? = some h) (enough : h.stage.left ≤ n) :
    ∃ counted, Runs.run step t (List.replicate n (.advance handler backhaul m)) =
      ⟨(h.stage.rest backhaul m h.peerId h.raw t.relay).relay, t.handlers.set handler
        (h.done (h.stage.rest backhaul m h.peerId h.raw t.relay) counted)⟩ := by
  induction n generalizing t h with
  | zero =>
    cases stage : h.stage with
    | finished result =>
      have same : h.done (Stage.rest backhaul m h.peerId h.raw t.relay (.finished result))
          h.counted = h := by
        simp [Handler.done, Stage.rest, ← stage]
      exact ⟨h.counted, by rw [same, set_here here]; rfl⟩
    | _ => simp [stage, Stage.left] at enough
  | succ n ih =>
    obtain ⟨flow, -⟩ := advance_flow t.relay backhaul m h.peerId h.raw h.stage
    have bound : handler < t.handlers.length := (List.getElem?_eq_some_iff.mp here).1
    have next : (step t (.advance handler backhaul m)).handlers[handler]? =
        some (h.advance backhaul m t.relay).1 := by
      rw [step_advance here]
      exact List.getElem?_set_self bound
    have fewer : (h.advance backhaul m t.relay).1.stage.left ≤ n := by
      have := left_flow flow
      simp only [Handler.advance]
      omega
    obtain ⟨counted, ran⟩ := ih (step t (.advance handler backhaul m)) next fewer
    refine ⟨counted, ?_⟩
    rw [List.replicate_succ, Runs.run_cons, ran, step_advance here,
      rest_advance t.relay h.stage]
    simp [Handler.done, Handler.advance, Handled.after, List.set_set]

/-- **A handler nobody interrupts is `_handle_packet`.** -/
theorem uninterrupted (backhaul : Backhaul) (m : Moment) (handler : Nat) (t : Threads core)
    (peerId : PeerId) (raw : Bytes)
    (here : t.handlers[handler]? = some (.entering peerId raw)) :
    ∃ counted, Runs.run step t (List.replicate 10 (.advance handler backhaul m)) =
      ⟨(t.relay.handlePacket backhaul m peerId raw).relay, t.handlers.set handler
        ((Handler.entering peerId raw).done (t.relay.handlePacket backhaul m peerId raw)
          counted)⟩ :=
  run_rest backhaul m handler 10 t here (Nat.le_refl 10)

/-! ## What a handler has counted by a stage -/

def ZoneTrail (zone : List Counter) : Prop :=
  zone = [] ∨ zone = [.forwardedCrossZone] ∨ zone = [.broadcastToNodes]

/-- The counts of a handler that has ended. -/
inductive Complete : List Counter → Prop
  | dropped : Complete [.received, .dropped]
  | cached : Complete [.received, .attestationsCached]
  | terminated : Complete [.received, .accepted, .locationTerminated]
  | onward {zone} : ZoneTrail zone → Complete (.received :: .accepted :: zone)
  | relayed {zone} : ZoneTrail zone →
    Complete (.received :: .accepted :: zone ++ [.relayedToPhones])

/-- The counts of a handler at a stage. -/
def Trail (control : Bool) : Stage → List Counter → Prop
  | .entered, counted => counted = []
  | .arrived, counted => control = false ∧ counted = []
  | .received, counted | .presenting _, counted | .judged _, counted =>
    control = false ∧ counted = [.received]
  | .cached _, counted => control = false ∧ counted = [.received, .attestationsCached]
  | .accepted _ _, counted | .terminated, counted | .onward _ _, counted | .zoned _ _, counted =>
    control = false ∧ counted = [.received, .accepted]
  | .fanning _, counted | .fanned _, counted =>
    control = false ∧ ∃ zone, ZoneTrail zone ∧ counted = .received :: .accepted :: zone
  | .finished _, counted => if control then counted = [] else Complete counted

theorem zoneTrail_zoneCounter (call : BackhaulCall) : ZoneTrail [Relay.zoneCounter call] := by
  cases call with
  | forwardToZone => exact .inr (.inl rfl)
  | broadcastToAllNodes => exact .inr (.inr rfl)

theorem trail_flow {control : Bool} {stage next : Stage} {counted : List Counter}
    {more : Option Counter} (trail : Trail control stage counted)
    (flow : Flow control stage more next) : Trail control next (counted ++ more.toList) := by
  cases flow with
  | demuxed on =>
    obtain rfl := trail
    simp [Trail, on]
  | arrives off =>
    obtain rfl := trail
    exact ⟨off, rfl⟩
  | receives | caches | accepts =>
    obtain ⟨off, rfl⟩ := trail
    exact ⟨off, rfl⟩
  | presents | judges | checks | consumes | relays | calls =>
    obtain ⟨off, rfl⟩ := trail
    exact ⟨off, rfl⟩
  | drops =>
    obtain ⟨off, rfl⟩ := trail
    simpa [Trail, off] using Complete.dropped
  | spreads =>
    obtain ⟨off, rfl⟩ := trail
    simpa [Trail, off] using Complete.cached
  | fails | refuses =>
    obtain ⟨off, rfl⟩ := trail
    simpa [Trail, off] using Complete.onward (.inl rfl)
  | terminates =>
    obtain ⟨off, rfl⟩ := trail
    simpa [Trail, off] using Complete.terminated
  | stays =>
    obtain ⟨off, rfl⟩ := trail
    exact ⟨off, [], .inl rfl, rfl⟩
  | zones =>
    obtain ⟨off, rfl⟩ := trail
    exact ⟨off, _, zoneTrail_zoneCounter _, rfl⟩
  | ends =>
    obtain ⟨off, zone, part, rfl⟩ := trail
    simpa [Trail, off] using Complete.onward part
  | sends =>
    obtain ⟨off, zone, part, rfl⟩ := trail
    exact ⟨off, zone, part, by simp⟩
  | fans =>
    obtain ⟨off, zone, part, rfl⟩ := trail
    simpa [Trail, off] using Complete.relayed part
  | rests => simpa using trail

/-- Between counting `received` and counting an outcome. -/
def Stage.pending : Stage → Bool
  | .received | .presenting _ | .judged _ => true
  | _ => false

def Stage.ended : Stage → Bool
  | .finished _ => true
  | _ => false

/-- How often one of the three outcomes was counted. -/
def outcomes (counted : List Counter) : Nat :=
  counted.count .accepted + counted.count .dropped + counted.count .attestationsCached

/-- The relay counters of a handler that counted an accepted packet or none. -/
def Relays (counted : List Counter) : Prop :=
  counted.count .relayedToPhones + counted.count .locationTerminated ≤ counted.count .accepted ∧
  counted.count .forwardedCrossZone + counted.count .broadcastToNodes +
    counted.count .locationTerminated ≤ counted.count .accepted

instance (counted : List Counter) : Decidable (Relays counted) :=
  inferInstanceAs (Decidable (_ ∧ _))

/-- What one handler's counts satisfy. -/
structure Handler.Balanced (h : Handler) : Prop where
  received : h.counted.count .received =
    outcomes h.counted + if h.stage.pending then 1 else 0
  once : outcomes h.counted ≤ 1
  outcome : isControl h.raw = false → h.stage.ended = true → outcomes h.counted = 1
  control : isControl h.raw = true → h.counted = []
  relays : Relays h.counted

theorem complete_counts {counted : List Counter} (complete : Complete counted) :
    counted.count .received = 1 ∧ outcomes counted = 1 ∧ Relays counted := by
  cases complete with
  | dropped | cached | terminated => decide
  | onward part | relayed part =>
    rcases part with rfl | rfl | rfl
    · decide
    · decide
    · decide

/-- A handler that has counted its outcome is balanced. -/
theorem balanced_judged {h : Handler} (off : isControl h.raw = false)
    (pending : h.stage.pending = false)
    (counts : h.counted.count .received = 1 ∧ outcomes h.counted = 1 ∧ Relays h.counted) :
    h.Balanced := by
  obtain ⟨received, outcome, relays⟩ := counts
  refine ⟨?_, outcome.le, fun _ _ => outcome, ?_, relays⟩
  · simp [received, outcome, pending]
  · intro on
    cases off.symm.trans on

/-- One that has only counted `received` is waiting for its outcome. -/
theorem balanced_pending {h : Handler} (off : isControl h.raw = false)
    (pending : h.stage.pending = true) (ended : h.stage.ended = false)
    (counts : h.counted = [.received]) : h.Balanced := by
  refine ⟨?_, ?_, ?_, ?_, ?_⟩
  · rw [counts, if_pos pending]
    rfl
  · rw [counts]
    decide
  · intro _ finished
    cases ended.symm.trans finished
  · intro on
    cases off.symm.trans on
  · rw [counts]
    decide

/-- One that has counted nothing has not got that far, or never will. -/
theorem balanced_silent {h : Handler} (pending : h.stage.pending = false)
    (never : isControl h.raw = true ∨ h.stage.ended = false) (counts : h.counted = []) :
    h.Balanced := by
  refine ⟨?_, ?_, ?_, fun _ => counts, ?_⟩
  · rw [counts, pending]
    rfl
  · rw [counts]
    decide
  · intro off finished
    rcases never with on | open_
    · cases off.symm.trans on
    · cases finished.symm.trans open_
  · rw [counts]
    decide

theorem balanced_of_trail {h : Handler} (trail : Trail (isControl h.raw) h.stage h.counted) :
    h.Balanced := by
  obtain ⟨peerId, raw, stage, calls, datagrams, counted⟩ := h
  cases stage with
  | entered => exact balanced_silent rfl (.inr rfl) trail
  | arrived => exact balanced_silent rfl (.inr rfl) trail.2
  | received | presenting | judged => exact balanced_pending trail.1 rfl rfl trail.2
  | cached =>
    obtain ⟨off, rfl⟩ := trail
    exact balanced_judged off rfl (complete_counts .cached)
  | accepted | terminated | onward | zoned =>
    obtain ⟨off, rfl⟩ := trail
    exact balanced_judged off rfl (complete_counts (.onward (.inl rfl)))
  | fanning | fanned =>
    obtain ⟨off, zone, part, rfl⟩ := trail
    exact balanced_judged off rfl (complete_counts (.onward part))
  | finished result =>
    by_cases on : isControl raw = true
    · exact balanced_silent rfl (.inl on) (by simpa [Trail, on] using trail)
    · have off : isControl raw = false := by simpa using on
      have complete : Complete counted := by simpa [Trail, off] using trail
      exact balanced_judged off rfl (complete_counts complete)

/-! ## All handlers together -/

/-- The counters are the sums of what the handlers counted, each of which has
counted what fits its stage. -/
structure Sound (t : Threads core) : Prop where
  stats : ∀ key, t.relay.stats key = (t.handlers.map fun h => h.counted.count key).sum
  trails : ∀ h ∈ t.handlers, Trail (isControl h.raw) h.stage h.counted

theorem sum_set {l : List Handler} {i : Nat} {a : Handler} (here : l[i]? = some a)
    (f : Handler → Nat) (b : Handler) :
    ((l.set i b).map f).sum + f a = (l.map f).sum + f b := by
  induction l generalizing i with
  | nil => simp at here
  | cons c l ih =>
    cases i with
    | zero =>
      obtain rfl : c = a := by simpa using here
      simp only [List.set_cons_zero, List.map_cons, List.sum_cons]
      omega
    | succ i =>
      have tail := ih (by simpa using here)
      simp only [List.set_cons_succ, List.map_cons, List.sum_cons]
      omega

theorem sound_step (t : Threads core) (event : Event) (sound : Sound t) :
    Sound (step t event) := by
  cases event with
  | arrive peerId raw =>
    refine ⟨?_, ?_⟩
    · intro key
      simp [step, sound.stats key, Handler.entering]
    · intro h mem
      rcases List.mem_append.mp mem with old | new
      · exact sound.trails h old
      · obtain rfl := List.mem_singleton.mp new
        rfl
  | advance handler backhaul m =>
    cases here : t.handlers[handler]? with
    | none =>
      simp only [step, here]
      exact sound
    | some h =>
      obtain ⟨flow, tallies⟩ := advance_flow t.relay backhaul m h.peerId h.raw h.stage
      have mem : h ∈ t.handlers := List.mem_of_getElem? here
      rw [step_advance here]
      refine ⟨?_, ?_⟩
      · intro key
        have total := sum_set here (fun h => h.counted.count key) (h.advance backhaul m t.relay).1
        have before := sound.stats key
        have more := tallies.key key
        simp only [Handler.advance, List.count_append] at total ⊢
        omega
      · intro other held
        rcases List.mem_or_eq_of_mem_set held with old | rfl
        · exact sound.trails other old
        · exact trail_flow (sound.trails h mem) flow

theorem sound_run (relay : Relay core) (fresh : ∀ key, relay.stats key = 0)
    (events : List Event) : Sound (Runs.run step ⟨relay, []⟩ events) := by
  refine Runs.invariant_always sound_step ⟨?_, ?_⟩ events
  · intro key
    exact fresh key
  · intro h mem
    cases mem

def total (handlers : List Handler) (key : Counter) : Nat :=
  (handlers.map fun h => h.counted.count key).sum

theorem total_cons (h : Handler) (handlers : List Handler) (key : Counter) :
    total (h :: handlers) key = h.counted.count key + total handlers key := rfl

theorem total_balanced {handlers : List Handler} (each : ∀ h ∈ handlers, h.Balanced) :
    total handlers .received = total handlers .accepted + total handlers .dropped +
        total handlers .attestationsCached + handlers.countP (·.stage.pending) ∧
      total handlers .relayedToPhones + total handlers .locationTerminated ≤
        total handlers .accepted ∧
      total handlers .forwardedCrossZone + total handlers .broadcastToNodes +
        total handlers .locationTerminated ≤ total handlers .accepted := by
  induction handlers with
  | nil => decide
  | cons h handlers ih =>
    obtain ⟨received, relayed, zones⟩ := ih fun k mem => each k (List.mem_cons_of_mem h mem)
    have own := each h List.mem_cons_self
    have first := own.received
    obtain ⟨relays, passes⟩ := own.relays
    simp only [total_cons, List.countP_cons, outcomes] at first ⊢
    omega

/-- What the traffic counters promise in a state. -/
structure Threads.Balanced (t : Threads core) : Prop where
  received : t.relay.stats .received = t.relay.stats .accepted + t.relay.stats .dropped +
    t.relay.stats .attestationsCached + t.handlers.countP (·.stage.pending)
  stats : ∀ key, t.relay.stats key = total t.handlers key
  handlers : ∀ h ∈ t.handlers, h.Balanced
  relayed : t.relay.stats .relayedToPhones + t.relay.stats .locationTerminated ≤
    t.relay.stats .accepted
  zones : t.relay.stats .forwardedCrossZone + t.relay.stats .broadcastToNodes +
    t.relay.stats .locationTerminated ≤ t.relay.stats .accepted
  quiet : (∀ h ∈ t.handlers, h.stage.ended = true) →
    t.relay.stats .received = t.relay.stats .accepted + t.relay.stats .dropped +
      t.relay.stats .attestationsCached

theorem pending_of_ended {stage : Stage} (ended : stage.ended = true) : stage.pending = false := by
  cases stage with
  | finished result => rfl
  | _ => cases ended

/-- **The traffic counters balance**, whatever the frames and however their
handlers interleave. -/
theorem counters_balance (zoneId : Int) (attestation : Option core.Attestation)
    (phonePing : Bool) (location : Option (LocationService core)) (backendProxy : Bool)
    (events : List Event) :
    (Runs.run step ⟨.boot zoneId attestation phonePing location backendProxy, []⟩
      events).Balanced := by
  have sound := sound_run (.boot zoneId attestation phonePing location backendProxy)
    (fun _ => rfl) events
  generalize Runs.run step ⟨.boot zoneId attestation phonePing location backendProxy, []⟩
    events = t at sound ⊢
  have each : ∀ h ∈ t.handlers, h.Balanced := fun h mem => balanced_of_trail (sound.trails h mem)
  have stats : ∀ key, t.relay.stats key = total t.handlers key := sound.stats
  obtain ⟨received, relayed, zones⟩ := total_balanced each
  simp only [← stats] at received relayed zones
  refine ⟨received, stats, each, relayed, zones, ?_⟩
  intro ended
  have none : t.handlers.countP (·.stage.pending) = 0 := by
    apply List.countP_eq_zero.mpr
    intro h mem
    simp [pending_of_ended (ended h mem)]
  rw [received, none, Nat.add_zero]

end MeshlinkNode.RelayThreads
