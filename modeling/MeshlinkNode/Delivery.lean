import MeshlinkNode.Flooding

/-!
# Venue-wide messages

A packet for every zone goes out again from each node that accepts it, and to
that node's phones. Where every node gets hold of it somehow, and no pipeline
has another reason to drop it than having had it, each phone is sent one copy.
-/

namespace MeshlinkNode

variable {core : Core}

namespace Relay

variable {relay : Relay core} {m : Moment} {peerId : PeerId} {raw : Bytes} {msg : Message}
  {forward : Option Bytes}

theorem accepted_of_passed {id : Bytes} (h : relay.passed m raw = some (.main, id)) :
    ∃ msg forward, relay.accepted m raw = some (msg, forward) ∧ msg.msgId = id := by
  cases accepts : relay.accepted m raw with
  | none =>
    rw [passed_of_unaccepted accepts] at h
    cases presents : relay.presented m raw <;> simp [presents] at h
  | some taken =>
    obtain ⟨msg, forward⟩ := taken
    rw [passed_of_accepted accepts] at h
    cases h
    exact ⟨msg, forward, rfl, rfl⟩

/-- What is sent of a packet whose relayed copy has a hop left. -/
theorem mem_localSends {copy : Bytes} {peer : PeerId} (made : relayed raw forward = .ok copy)
    (hop : 0 < copy.getD TTL_OFFSET 0) (listed : peer ∈ m.peers) (other : peer ≠ peerId) :
    (peer, copy) ∈ transportSends (localCopies m peerId raw forward) := by
  have copies : localCopies m peerId raw forward = sends m.peers peerId copy := by
    simp only [localCopies, made]
    exact if_pos hop
  rw [copies]
  simp [transportSends, sends, listed, other]

/-- **A packet the location service has no hand in** makes the backhaul call of
its zone and goes to the local cell, unless that call raises. -/
theorem handlePacket_plain (backhaul : Backhaul) (peerId : PeerId)
    (accepts : relay.accepted m raw = some (msg, forward))
    (plain : msg.msgType ≠ .location ∧ msg.msgType ≠ .locationQuery)
    (returns : (relay.zonePart backhaul m msg.zoneId raw).2 = .ok ()) :
    (relay.handlePacket backhaul m peerId raw).datagrams =
      (relay.zonePart backhaul m msg.zoneId raw).1 ∧
    transportSends (relay.handlePacket backhaul m peerId raw).calls =
      transportSends (localCopies m peerId raw forward) := by
  have silent (r : Relay core) : r.response m peerId msg = [] := by
    unfold response
    split
    · rfl
    · exact if_neg plain.2
  rw [handlePacket_accepted accepts]
  rcases deliver_cases ((relay.judged m raw).count .accepted) backhaul m peerId raw msg
    forward with ⟨-, beacon, -⟩ | ⟨_, _, -, query, -⟩ | ⟨-, -, location, goes⟩
  · exact absurd beacon plain.1
  · exact absurd query plain.2
  · rw [goes, silent]
    obtain ⟨datagrams, sent⟩ := relayOnward_cases
      ({ (relay.judged m raw).count .accepted with location } : Relay core) backhaul m peerId
      raw msg forward
    rcases sent with ⟨-, calls, -⟩ | ⟨exc, failed, -⟩
    · constructor
      · simp only [Handled.after, List.nil_append, datagrams]
        rfl
      · simp only [Handled.after, List.nil_append, calls, transportSends_append,
          transportSends_zoneCalls]
    · cases returns.symm.trans failed

/-- A packet for every zone goes to all nodes. -/
theorem zonePart_venueWide (relay : Relay core) (b : BatmanBackhaul) (m : Moment) (raw : Bytes) :
    relay.zonePart (.batman b) m BROADCAST_ZONE raw = b.broadcastToAllNodes m.sockets raw := by
  simp only [zonePart, zoneCall, if_pos, Option.elim_some, Backhaul.perform]

end Relay

namespace Network

variable {n : Nat}

/-! ## What an event has a node handle -/

/-- The node that handles a packet, the id it came in under, and the packet. -/
def handles (w : Network core n) : Event n → Option (Fin n × PeerId × Bytes × Moment)
  | .phone i peerId raw m => some (i, peerId, raw, m)
  | .datagram i k source m =>
    (w.transmissions[k]?).bind fun t =>
      match (w.nodes i).backhaul.receive source t.datagram.packet with
      | .data peerId => some (i, peerId, t.datagram.packet, m)
      | _ => none
  | .retable _ _ => none

/-- Everything else an event does is to replace a zone table. -/
theorem step_handles (w : Network core n) (e : Event n) :
    (∃ i peerId raw m, w.handles e = some (i, peerId, raw, m) ∧
      w.step e = w.handle i peerId raw m) ∨
    (w.handles e = none ∧ (w.step e).transmissions = w.transmissions ∧
      (w.step e).copies = w.copies) := by
  cases e with
  | phone i peerId raw m => exact .inl ⟨i, peerId, raw, m, rfl, rfl⟩
  | datagram i k source m =>
    simp only [handles, step]
    cases w.transmissions[k]? with
    | none => exact .inr ⟨rfl, rfl, rfl⟩
    | some t =>
      simp only [Option.bind_some]
      cases (w.nodes i).backhaul.receive source t.datagram.packet with
      | data peerId => exact .inl ⟨i, peerId, _, m, rfl, rfl⟩
      | echo => exact .inr ⟨rfl, rfl, rfl⟩
      | control => exact .inr ⟨rfl, rfl, rfl⟩
  | retable i table => exact .inr ⟨rfl, rfl, rfl⟩

/-- What has gone out stays on record. -/
theorem step_grows (w : Network core n) (e : Event n) :
    w.transmissions ⊆ (w.step e).transmissions ∧ w.copies ⊆ (w.step e).copies := by
  rcases step_handles w e with ⟨i, peerId, raw, m, -, stepped⟩ | ⟨-, transmissions, copies⟩
  · rw [stepped]
    exact ⟨List.subset_append_left _ _, List.subset_append_left _ _⟩
  · rw [transmissions, copies]
    exact ⟨List.Subset.refl _, List.Subset.refl _⟩

/-! ## One message -/

/-- The node has sent the message to the other nodes. -/
def Sent (w : Network core n) (id : Bytes) (i : Fin n) : Prop :=
  ∃ t ∈ w.transmissions, t.node = i ∧ t.message = some (.main, id)

/-- The node has sent the peer a copy. -/
def Copied (w : Network core n) (id : Bytes) (i : Fin n) (peer : PeerId) : Prop :=
  ∃ c ∈ w.copies, c.node = i ∧ c.message = some (.main, id) ∧ c.peerId = peer

theorem sent_step {w : Network core n} {id : Bytes} {i : Fin n} (h : w.Sent id i) (e : Event n) :
    (w.step e).Sent id i := by
  obtain ⟨t, mem, tagged⟩ := h
  exact ⟨t, (step_grows w e).1 mem, tagged⟩

theorem copied_step {w : Network core n} {id : Bytes} {i : Fin n} {peer : PeerId}
    (h : w.Copied id i peer) (e : Event n) : (w.step e).Copied id i peer := by
  obtain ⟨c, mem, tagged⟩ := h
  exact ⟨c, (step_grows w e).2 mem, tagged⟩

/-- The event brings the node the message: a phone's packet that the node takes as
such, or a datagram that went out for it. -/
def Brings (w : Network core n) (id : Bytes) (i : Fin n) (e : Event n) : Prop :=
  ∃ peerId raw m, w.handles e = some (i, peerId, raw, m) ∧
    match e with
    | .phone .. => (w.nodes i).relay.passed m raw = some (.main, id)
    | .datagram _ k _ _ => ∃ t, w.transmissions[k]? = some t ∧ t.message = some (.main, id)
    | .retable .. => False

/-- Its message is for every zone, not one the location service has a hand in,
and the relayed copy has a hop left. -/
structure VenueWide (raw : Bytes) (msg : Message) (forward : Option Bytes) : Prop where
  zone : msg.zoneId = BROADCAST_ZONE
  plain : msg.msgType ≠ .location ∧ msg.msgType ≠ .locationQuery
  hop : ∃ copy, Relay.relayed raw forward = .ok copy ∧ 0 < copy.getD TTL_OFFSET 0

/-- What a step must not do to the message: a node that takes a packet of its
msg_id finds it venue-wide and has its phones connected, none of them the
origin; and a node that has not had it takes it when a datagram brings it. -/
structure Carries (phones : Fin n → List PeerId) (id : Bytes) (w : Network core n)
    (e : Event n) : Prop where
  taken : ∀ i peerId raw m, w.handles e = some (i, peerId, raw, m) → ∀ msg forward,
    (w.nodes i).relay.accepted m raw = some (msg, forward) → msg.msgId = id →
      VenueWide raw msg forward ∧ ∀ peer ∈ phones i, peer ∈ m.peers ∧ peer ≠ peerId
  welcome : ∀ i peerId raw m, w.handles e = some (i, peerId, raw, m) → w.Brings id i e →
    ¬ w.Sent id i → (w.nodes i).relay.passed m raw = some (.main, id)

variable {phones : Fin n → List PeerId} {id : Bytes}

/-- A node that takes the message sends it to the others and to its phones. -/
theorem taken_spreads {w : Network core n} {i : Fin n} {peerId : PeerId} {raw : Bytes} {m : Moment}
    {msg : Message} {forward : Option Bytes}
    (accepts : (w.nodes i).relay.accepted m raw = some (msg, forward))
    (wide : VenueWide raw msg forward)
    (connected : ∀ peer ∈ phones i, peer ∈ m.peers ∧ peer ≠ peerId) :
    (w.handle i peerId raw m).Sent msg.msgId i ∧
      ∀ peer ∈ phones i, (w.handle i peerId raw m).Copied msg.msgId i peer := by
  let b := (w.nodes i).backhaul
  have everywhere : (w.nodes i).relay.zonePart (.batman b) m msg.zoneId raw =
      b.broadcastToAllNodes m.sockets raw := by
    rw [wide.zone, Relay.zonePart_venueWide]
  have returns : ((w.nodes i).relay.zonePart (.batman b) m msg.zoneId raw).2 = .ok () := by
    rw [everywhere]
    exact BatmanBackhaul.broadcast_returns raw
  obtain ⟨datagrams, sends⟩ :=
    Relay.handlePacket_plain (.batman b) peerId accepts wide.plain returns
  rw [everywhere] at datagrams
  obtain ⟨copy, made, hop⟩ := wide.hop
  have passes := Relay.passed_of_accepted accepts
  constructor
  · refine ⟨⟨i, some (.main, msg.msgId), ⟨endpoint b.udpPort b.broadcastAddr, raw⟩⟩,
      List.mem_append_right _ ?_, rfl, rfl⟩
    rw [datagrams, passes]
    exact List.mem_singleton.mpr rfl
  · intro peer mem
    obtain ⟨listed, other⟩ := connected peer mem
    have sent := Relay.mem_localSends made hop listed other
    refine ⟨⟨i, some (.main, msg.msgId), peer, copy⟩, List.mem_append_right _ ?_, rfl, rfl,
      rfl⟩
    rw [sends, passes]
    exact List.mem_map.mpr ⟨(peer, copy), sent, rfl⟩

/-! A step that brings a packet, by what the node makes of it. -/

theorem carries_taken {w : Network core n} {e : Event n} {i : Fin n} {peerId : PeerId}
    {raw : Bytes} {m : Moment} {msg : Message} {forward : Option Bytes}
    (handles : w.handles e = some (i, peerId, raw, m))
    (accepts : (w.nodes i).relay.accepted m raw = some (msg, forward))
    (wide : VenueWide raw msg forward)
    (connected : ∀ peer ∈ phones i, peer ∈ m.peers ∧ peer ≠ peerId) :
    Carries phones msg.msgId w e where
  taken := by
    intro j peerId' raw' m' handles' msg' forward' accepts' _
    cases handles.symm.trans handles'
    cases accepts.symm.trans accepts'
    exact ⟨wide, connected⟩
  welcome := by
    intro j peerId' raw' m' handles' _ _
    cases handles.symm.trans handles'
    exact Relay.passed_of_accepted accepts

theorem carries_had {w : Network core n} {e : Event n} {i : Fin n} {peerId : PeerId} {raw : Bytes}
    {m : Moment} (handles : w.handles e = some (i, peerId, raw, m))
    (rejects : (w.nodes i).relay.accepted m raw = none) (had : w.Sent id i) :
    Carries phones id w e where
  taken := by
    intro j peerId' raw' m' handles' msg forward accepts
    cases handles.symm.trans handles'
    cases rejects.symm.trans accepts
  welcome := by
    intro j peerId' raw' m' handles' _ new
    cases handles.symm.trans handles'
    exact absurd had new

/-- Every node that has sent the message on has sent it to its phones. -/
def Spread (phones : Fin n → List PeerId) (id : Bytes) (w : Network core n) : Prop :=
  ∀ i, w.Sent id i → ∀ peer ∈ phones i, w.Copied id i peer

/-- A node's first transmission for the message is that of a packet it takes. -/
theorem sent_new {w : Network core n} {e : Event n} {i : Fin n} (now : (w.step e).Sent id i)
    (before : ¬ w.Sent id i) : ∃ peerId raw m, w.handles e = some (i, peerId, raw, m) ∧
      w.step e = w.handle i peerId raw m ∧
      (w.nodes i).relay.passed m raw = some (.main, id) := by
  obtain ⟨t, mem, node, message⟩ := now
  rcases step_handles w e with ⟨j, peerId, raw, m, handles, stepped⟩ | ⟨-, transmissions, -⟩
  · rw [stepped] at mem
    rcases List.mem_append.mp mem with old | new
    · exact absurd ⟨t, old, node, message⟩ before
    · obtain ⟨d, -, rfl⟩ := List.mem_map.mp new
      cases node
      exact ⟨peerId, raw, m, handles, stepped, message⟩
  · rw [transmissions] at mem
    exact absurd ⟨t, mem, node, message⟩ before

theorem spread_step (w : Network core n) (e : Event n) (spread : Spread phones id w)
    (carries : Carries phones id w e) : Spread phones id (w.step e) := by
  intro i now peer mem
  by_cases before : w.Sent id i
  · exact copied_step (spread i before peer mem) e
  · obtain ⟨peerId, raw, m, handles, stepped, passes⟩ := sent_new now before
    obtain ⟨msg, forward, accepts, rfl⟩ := Relay.accepted_of_passed passes
    obtain ⟨wide, connected⟩ := carries.taken i peerId raw m handles msg forward accepts rfl
    rw [stepped]
    exact (taken_spreads accepts wide connected).2 peer mem

/-- Where the message is brought to, it has been sent on from then. -/
theorem sent_brought {w : Network core n} {e : Event n} {i : Fin n}
    (carries : Carries phones id w e) (brings : w.Brings id i e) : (w.step e).Sent id i := by
  by_cases before : w.Sent id i
  · exact sent_step before e
  · have ⟨peerId, raw, m, handles, _⟩ := brings
    have passes := carries.welcome i peerId raw m handles brings before
    obtain ⟨msg, forward, accepts, rfl⟩ := Relay.accepted_of_passed passes
    obtain ⟨wide, connected⟩ := carries.taken i peerId raw m handles msg forward accepts rfl
    rcases step_handles w e with ⟨_, _, _, _, handles', stepped⟩ | ⟨none, -⟩
    · cases handles.symm.trans handles'
      rw [stepped]
      exact (taken_spreads accepts wide connected).1
    · cases handles.symm.trans none

theorem sent_run {w : Network core n} {i : Fin n} (h : w.Sent id i) (es : List (Event n)) :
    (Runs.run step w es).Sent id i := by
  induction es generalizing w with
  | nil => exact h
  | cons e es ih => exact ih (sent_step h e)

/-- A node that is brought the message during a run has sent it on in the end. -/
theorem sent_after {w : Network core n} {es past : List (Event n)} {e : Event n} {i : Fin n}
    (along : Runs.Along step (Carries phones id) w es) (here : past ++ [e] <+: es)
    (brings : (Runs.run step w past).Brings id i e) : (Runs.run step w es).Sent id i := by
  obtain ⟨rest, rfl⟩ := here
  have carries := (Runs.along_iff.mp along) past e (List.prefix_append _ _)
  have sent := sent_run (sent_brought carries brings) rest
  simpa using sent

/-- New pipelines, and nothing sent. -/
theorem accounted_start {nodes : Fin n → Node core}
    (booted : ∀ i kind, (nodes i).relay.pipelineOf kind = core.newPipeline) :
    ∃ calls, Accounted (⟨nodes, [], []⟩ : Network core n) calls :=
  ⟨fun _ _ => [], booted, List.nodup_nil, fun _ => nofun, List.nodup_nil, fun _ => nofun⟩

theorem countP_eq_one {α : Type*} {p : α → Bool} {l : List α} {a : α} (most : l.countP p ≤ 1)
    (mem : a ∈ l) (holds : p a = true) : l.countP p = 1 :=
  Nat.le_antisymm most (List.countP_pos_iff.mpr ⟨a, mem, holds⟩)

/-- One transmission from each node makes `n` of them. -/
theorem one_each {w : Network core n} {calls : Calls core n} (account : Accounted w calls)
    (sent : ∀ i, w.Sent id i) :
    w.transmissions.countP (fun t => t.message = some (.main, id)) = n := by
  obtain ⟨those, isThose⟩ : ∃ those, w.transmissions.filter
      (fun t => t.message = some (.main, id)) = those := ⟨_, rfl⟩
  have tagged : ∀ t ∈ those, t.message = some (.main, id) := by
    intro t mem
    rw [← isThose] at mem
    exact of_decide_eq_true (List.mem_filter.mp mem).2
  have once : (those.map Transmission.node).Nodup := by
    have keyed : (those.map fun t => (t.node, t.message)).Nodup := by
      rw [← isThose]
      exact account.sentOnce.sublist (List.filter_sublist.map _)
    have nodes : those.map Transmission.node =
        (those.map fun t => (t.node, t.message)).map Prod.fst := by
      rw [List.map_map]
      rfl
    rw [nodes]
    apply keyed.map_on
    intro p hp q hq same
    obtain ⟨t, ht, rfl⟩ := List.mem_map.mp hp
    obtain ⟨u, hu, rfl⟩ := List.mem_map.mp hq
    exact Prod.ext same ((tagged t ht).trans (tagged u hu).symm)
  have every (i : Fin n) : i ∈ those.map Transmission.node := by
    obtain ⟨t, mem, rfl, message⟩ := sent i
    apply List.mem_map_of_mem
    rw [← isThose]
    exact List.mem_filter.mpr ⟨mem, decide_eq_true message⟩
  have all : (those.map Transmission.node).toFinset = Finset.univ := by
    ext i
    simpa using every i
  have counted := congrArg Finset.card all
  rw [List.toFinset_card_of_nodup once, Finset.card_univ, Fintype.card_fin,
    List.length_map] at counted
  rw [List.countP_eq_length_filter, isThose]
  exact counted

/-- **Venue-wide messages reach everybody once.** Nodes with new pipelines run as
phones and datagrams have it, and each of them is brought the message at least
once, by whatever way. In the end each node has sent it to the others exactly
once, and to each of its phones but the origin exactly once, however often it came
in. -/
theorem reaches_everybody_once (dedup : core.Dedup) (nodes : Fin n → Node core)
    (booted : ∀ i kind, (nodes i).relay.pipelineOf kind = core.newPipeline)
    (phones : Fin n → List PeerId) (id : Bytes) (es : List (Event n))
    (along : Runs.Along step (Carries phones id) ⟨nodes, [], []⟩ es)
    (brought : ∀ i, ∃ past e, past ++ [e] <+: es ∧
      (Runs.run step ⟨nodes, [], []⟩ past).Brings id i e) :
    (∀ i, (Runs.run step ⟨nodes, [], []⟩ es).transmissions.countP
      (fun t => t.node = i ∧ t.message = some (.main, id)) = 1) ∧
    (Runs.run step ⟨nodes, [], []⟩ es).transmissions.countP
      (fun t => t.message = some (.main, id)) = n ∧
    ∀ i, ∀ peer ∈ phones i, (Runs.run step ⟨nodes, [], []⟩ es).copies.countP
      (fun c => c.node = i ∧ c.message.map Prod.snd = some id ∧ c.peerId = peer) = 1 := by
  have start : Spread phones id (⟨nodes, [], []⟩ : Network core n) := by
    rintro i ⟨t, mem, -⟩
    cases mem
  have spread := Runs.invariant spread_step start along
  obtain ⟨calls, account⟩ :=
    Runs.invariant_always (accounted_step dedup) (accounted_start booted) es
  have sent (i : Fin n) : (Runs.run step ⟨nodes, [], []⟩ es).Sent id i := by
    obtain ⟨past, e, here, brings⟩ := brought i
    exact sent_after along here brings
  refine ⟨?_, one_each account sent, ?_⟩
  · intro i
    obtain ⟨t, mem, node, message⟩ := sent i
    exact countP_eq_one (account.per_node i .main id) mem (by simp [node, message])
  · intro i peer mem
    obtain ⟨c, copied, node, message, addressed⟩ := spread i (sent i) peer mem
    exact countP_eq_one (account.per_peer i id peer) copied (by simp [node, message, addressed])

/-- A packet for every zone. -/
def notice : Bytes := (Sample.packet 1 Sample.requester 5 255 1 []).set 70 255

def noticed : Message :=
  ⟨List.replicate 16 1, 0, Sample.requester, BROADCAST_ZONE, .other 1, []⟩

def onePeer : Moment := ⟨⟨0, 0, 0⟩, 0, ["phone"], List.nodup_singleton _, .up⟩

def bothPeers : Moment :=
  ⟨⟨0, 0, 0⟩, 0, ["origin", "phone"], List.nodup_cons.mpr ⟨by decide, List.nodup_singleton _⟩,
    .up⟩

/-- The other node hears it twice. -/
def heardTwice : List (Event 2) :=
  [.phone ⟨0, Nat.zero_lt_two⟩ "origin" notice bothPeers,
    .datagram ⟨1, Nat.one_lt_two⟩ 0 ("10.77.0.9", 19788) onePeer,
    .datagram ⟨1, Nat.one_lt_two⟩ 0 ("10.77.0.9", 19788) onePeer]

def heard (k : Nat) : Network Sample.core 2 :=
  Runs.run step ⟨neighbours, [], []⟩ (heardTwice.take k)

theorem notice_wide :
    VenueWide notice noticed (some (notice.set 68 4)) where
  zone := rfl
  plain := by decide
  hop := ⟨_, rfl, by decide⟩

set_option maxRecDepth 2000 in
theorem reaches_everybody_once_heardTwice :
    (∀ i, (heard 3).transmissions.countP
      (fun t => t.node = i ∧ t.message = some (.main, List.replicate 16 1)) = 1) ∧
    (heard 3).transmissions.countP (fun t => t.message = some (.main, List.replicate 16 1)) = 2 ∧
    ∀ i, ∀ peer ∈ ["phone"], (heard 3).copies.countP
      (fun c => c.node = i ∧ c.message.map Prod.snd = some (List.replicate 16 1) ∧
        c.peerId = peer) = 1 := by
  have booted : ∀ i kind, (neighbours i).relay.pipelineOf kind = Sample.core.newPipeline := by
    intro i kind
    cases kind <;> rfl
  have first : Carries (fun _ => ["phone"]) noticed.msgId (heard 0)
      (.phone 0 "origin" notice bothPeers) :=
    carries_taken rfl (by decide +kernel) notice_wide (by decide)
  have second : Carries (fun _ => ["phone"]) noticed.msgId (heard 1)
      (.datagram 1 0 ("10.77.0.9", 19788) onePeer) :=
    carries_taken rfl (by decide +kernel) notice_wide (by decide)
  have third : Carries (fun _ => ["phone"]) noticed.msgId (heard 2)
      (.datagram 1 0 ("10.77.0.9", 19788) onePeer) :=
    carries_had rfl (by decide +kernel)
      ⟨_, List.mem_cons_of_mem _ (List.mem_singleton.mpr rfl), rfl, rfl⟩
  apply reaches_everybody_once Sample.core_dedup neighbours booted (fun _ => ["phone"])
    noticed.msgId heardTwice ⟨first, second, third, trivial⟩
  intro i
  match i with
  | 0 =>
    refine ⟨[], _, List.prefix_append [_] _, "origin", _, _, rfl, ?_⟩
    have accepts : (neighbours 0).relay.accepted bothPeers
        notice = some (noticed, some (notice.set 68 4)) := by
      decide +kernel
    exact Relay.passed_of_accepted accepts
  | 1 =>
    exact ⟨[_], _, List.prefix_append [_, _] _, "backhaul:10.77.0.9:19788", _, _, rfl, _, rfl, rfl⟩

end Network

end MeshlinkNode
