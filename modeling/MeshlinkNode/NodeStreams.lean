import MeshlinkNode.CorruptStream
import MeshlinkNode.PhoneFacing

/-!
# Chunks in, copies out

The two radios bring chunks, and the relay's callback gets packets. In between
the GATT server reassembles for each central and a reader for each connection, at
their own pace: the GLib loop makes the callbacks of one chunk before it takes the
next event, and a reader dispatches one packet after the other. On the way out a
handler asks each radio for its peers and then sends a copy to one after the
other, while the phones come and go.
-/

namespace MeshlinkNode

/-! ## Ids of the two radios -/

/-- A central's id is a device path or an identifier. -/
structure BlePeer where
  id : PeerId
  central : ¬ WIFI_PEER_PREFIX.toList <+: id.toList
  deriving DecidableEq

theorem SockAddr.wifi_prefix (addr : SockAddr) :
    WIFI_PEER_PREFIX.toList <+: addr.peerId.toList := by
  simp only [SockAddr.peerId, WIFI_PEER_PREFIX, String.toList_append, List.append_assoc]
  exact List.prefix_append _ _

/-- What the stack reports of one central. -/
inductive BleInput where
  | chunk (data : Bytes)
  | connected
  | disconnected

def BleInput.of (peer : BlePeer) : BleInput → RadioEvent
  | .chunk data => .chunk peer.id data
  | .connected => .connected peer.id
  | .disconnected => .disconnected peer.id

/-- Where a stream comes in. -/
inductive Source where
  | central (peer : BlePeer)
  | conn (n : Nat)
  deriving DecidableEq

/-- What `MultiTransport.send` does with a copy: it is notified, written to a
connection, or nobody is registered under the id. -/
inductive Target where
  | notified
  | conn (n : Nat)
  | nobody
  deriving DecidableEq

/-- A handler that relays a packet from `origin`: what the radios listed, as far
as it has asked them, and the copies it has sent. -/
structure Fan where
  origin : PeerId
  centrals : Option (List PeerId)
  addresses : Option (List PeerId)
  sent : List (PeerId × Target)
  deriving DecidableEq

/-- The peers that get a copy, once both radios were asked. -/
def Fan.targets (fan : Fan) : List PeerId :=
  match fan.centrals, fan.addresses with
  | some centrals, some addresses => (centrals ++ addresses).filter (· ≠ fan.origin)
  | _, _ => []

/-- What happens at the radios' end: the stack reports to the GLib loop, the
loop makes its next callback, a thread of the WiFi transport takes a step; a
handler begins to relay a packet, and takes its next step. -/
inductive StreamEvent where
  | ble (peer : BlePeer) (input : BleInput)
  | callback
  | wifi (event : WifiEvent)
  | relay (origin : PeerId)
  | fan (k : Nat)

/-- The radios of a node; `owed` are the packets of the last chunk whose
callbacks the GLib loop has yet to make. -/
structure RadioNode where
  ble : GattServer
  owed : List (BlePeer × Bytes)
  wifi : Wifi
  fans : List Fan
  centrals : ∀ id ∈ ble.connected, ¬ WIFI_PEER_PREFIX.toList <+: id.toList
  addresses : ∀ id ∈ wifi.conns, WIFI_PEER_PREFIX.toList <+: id.toList

namespace GattServer

theorem connected_handle {server : GattServer} {peer : BlePeer} {input : BleInput} {id : PeerId}
    (here : id ∈ (server.handle (input.of peer)).1.connected) :
    id = peer.id ∨ id ∈ server.connected := by
  cases input with
  | chunk data =>
    rw [BleInput.of, handle, handleChunk_connected] at here
    exact Finset.mem_insert.mp here
  | connected => exact Finset.mem_insert.mp here
  | disconnected => exact .inr (Finset.mem_of_mem_erase here)

end GattServer

namespace Wifi

/-- The registry has no names but those of addresses. -/
theorem conns_step {s : Wifi} {event : WifiEvent} {id : PeerId}
    (here : id ∈ (s.step event).conns) : (∃ addr : SockAddr, id = addr.peerId) ∨ id ∈ s.conns := by
  cases event with
  | acceptLoop arrival =>
    simp only [step, acceptLoop] at here
    split at here
    case h_4 conn addr _ =>
      rcases AList.mem_insert _ |>.mp here with rfl | old
      · exact .inl ⟨addr, rfl⟩
      · exact .inr old
    case h_3 =>
      split at here
      · exact .inr here
      · split at here <;> exact .inr here
    all_goals exact .inr here
  | reader m received =>
    simp only [step, reader] at here
    split at here
    · split at here
      · exact .inr (AList.mem_erase.mp here).2
      · exact .inr here
    · exact .inr here
  | drop m => exact .inr here
  | stop =>
    simp only [step, stop] at here
    split at here
    case h_3 => exact absurd here (AList.notMem_empty _)
    all_goals exact .inr here

end Wifi

namespace RadioNode

/-- The id a stream's packets come in under. -/
def idOf (s : RadioNode) : Source → Option PeerId
  | .central peer => some peer.id
  | .conn n => s.wifi.accepted[n]?.map Conn.peerId

/-- The packet that a step takes past the gate of its transport, to the
callback of the relay. -/
def hands (s : RadioNode) : StreamEvent → Option (Source × Bytes)
  | .callback => s.owed.head?.bind fun owed =>
    (dispatch owed.2).map (Source.central owed.1, ·)
  | .wifi (.reader n _) => (s.wifi.accepted[n]?.bind Conn.dispatches).map (Source.conn n, ·)
  | _ => none

/-- That call of the callback. -/
def calls (s : RadioNode) (e : StreamEvent) : Option (PeerId × Bytes) :=
  (s.hands e).bind fun handed => (s.idOf handed.1).map (·, handed.2)

/-- The report that the GLib loop takes, which it does between callbacks. -/
def takes (s : RadioNode) : StreamEvent → Option RadioEvent
  | .ble peer input => if s.owed = [] then some (input.of peer) else none
  | _ => none

/-- `MultiTransport.send`, which looks a connection up when it is called. -/
def target (s : RadioNode) (id : PeerId) : Target :=
  match MultiTransport.child id with
  | .ble => .notified
  | .wifi => (s.wifi.conns.lookup id).elim .nobody .conn

/-- The copy that the next step of a handler sends. -/
def sends (s : RadioNode) (fan : Fan) : Option (PeerId × Target) :=
  fan.targets[fan.sent.length]?.map fun id => (id, s.target id)

/-- The next step of a handler: `MultiTransport.list_peers` asks the radios one
after the other, and each copy is a call of `send`. -/
def advance (s : RadioNode) (fan : Fan) : Fan :=
  match fan.centrals, fan.addresses with
  | none, _ => { fan with centrals := some s.ble.peers }
  | some _, none => { fan with addresses := some s.wifi.listPeers }
  | some _, some _ => { fan with sent := fan.sent ++ (s.sends fan).toList }

def step (s : RadioNode) : StreamEvent → RadioNode
  | .ble peer input =>
    match s.owed with
    | [] =>
      let out := s.ble.handle (input.of peer)
      { s with
        ble := out.1
        owed := (out.2.filterMap (·.packetFrom peer.id)).map (peer, ·)
        centrals := by
          intro id here
          rcases GattServer.connected_handle here with rfl | old
          · exact peer.central
          · exact s.centrals id old }
    | _ => s
  | .callback => { s with owed := s.owed.tail }
  | .wifi event =>
    { s with
      wifi := s.wifi.step event
      addresses := by
        intro id here
        rcases Wifi.conns_step here with ⟨addr, rfl⟩ | old
        · exact addr.wifi_prefix
        · exact s.addresses id old }
  | .relay origin => { s with fans := s.fans ++ [⟨origin, none, none, []⟩] }
  | .fan k => { s with fans := s.fans.modify k s.advance }

/-- A node as it is started: nobody is connected. -/
def boot : RadioNode := ⟨.fresh, [], .boot, [], by simp [GattServer.fresh], by simp [Wifi.boot]⟩

abbrev after (events : List StreamEvent) : RadioNode := Runs.run step boot events

end RadioNode

/-! ## One reader -/

namespace Conn

/-- The packets that the reader has yet to dispatch. -/
def waiting (conn : Conn) : List Bytes :=
  match conn.stage with
  | .dispatching packets => packets
  | _ => []

theorem elsewhere_waiting {c d : Conn} (h : Wifi.Elsewhere c d) :
    d.waiting = c.waiting ∧ d.assembler = c.assembler := by
  refine ⟨?_, h.assembler⟩
  unfold waiting
  rcases h.stage with same | ⟨unstarted, started⟩
  · rw [same]
  · rw [unstarted, started]

/-- **A step of a reader** dispatches the next packet or reassembles what it
receives. -/
theorem advance_stream (conn : Conn) (received : Except PyExc Bytes) :
    let fed := conn.assembler.deliver ((conn.receives received).map some).toList
    conn.dispatches.toList ++ (conn.advance received).waiting.filterMap dispatch =
        conn.waiting.filterMap dispatch ++ fed.1.filterMap dispatch ∧
      (conn.advance received).assembler = fed.2 := by
  obtain ⟨addr, stage, assembler, dropped, closed⟩ := conn
  cases stage with
  | looping =>
    cases closed <;> exact ⟨rfl, rfl⟩
  | receiving =>
    cases received with
    | error exc => exact ⟨rfl, rfl⟩
    | ok bytes =>
      cases bytes with
      | nil => exact ⟨rfl, rfl⟩
      | cons b data =>
        simp only [advance, receives, dispatches, Option.map_some, Option.toList_some,
          Option.toList_none, FrameAssembler.deliver, List.append_nil]
        cases fed : assembler.feed (b :: data) with
        | mk answer rest =>
          cases answer with
          | error exc => exact ⟨rfl, rfl⟩
          | ok packets => exact ⟨rfl, rfl⟩
  | dispatching packets =>
    cases packets with
    | nil => exact ⟨rfl, rfl⟩
    | cons packet packets =>
      refine ⟨?_, rfl⟩
      simp only [advance, receives, dispatches, waiting, Option.map_none, Option.toList_none,
        FrameAssembler.deliver, List.filterMap_nil, List.append_nil]
      cases gate : dispatch packet with
      | none => simp [gate]
      | some passed => simp [gate]
  | unstarted | leaving | closing | exited => exact ⟨rfl, rfl⟩

end Conn

namespace Wifi

/-- What a connection's reader has yet to dispatch, and its reassembler. -/
def stream (s : Wifi) (n : Nat) : List Bytes × FrameAssembler :=
  (s.accepted[n]?.map fun conn => (conn.waiting, conn.assembler)).getD ([], .fresh)

theorem stream_some {s : Wifi} {n : Nat} {conn : Conn} (here : s.accepted[n]? = some conn) :
    s.stream n = (conn.waiting, conn.assembler) := by
  simp [stream, here]

theorem stream_none {s : Wifi} {n : Nat} (none : s.accepted[n]? = none) :
    s.stream n = ([], .fresh) := by
  simp [stream, none]

/-- **A step of any thread**, seen from one connection. -/
theorem step_stream {s : Wifi} (sound : Sound s) (event : WifiEvent) (n : Nat) :
    let fed := (s.stream n).2.deliver ((receivedFrom n s event).map some).toList
    (calledFrom n s event).toList ++ ((s.step event).stream n).1.filterMap dispatch =
        (s.stream n).1.filterMap dispatch ++ fed.1.filterMap dispatch ∧
      ((s.step event).stream n).2 = fed.2 := by
  have quiet (other : (∀ r, event ≠ .reader n r) ∨ s.accepted[n]? = none) :
      receivedFrom n s event = none ∧ calledFrom n s event = none := by
    refine ⟨(silent_elsewhere other).1, ?_⟩
    rcases other with other | none
    · cases event with
      | reader m r =>
        have ne : m ≠ n := by
          rintro rfl
          exact other r rfl
        exact if_neg ne
      | acceptLoop | drop | stop => rfl
    · cases event with
      | reader m r => simp [calledFrom, none]
      | acceptLoop | drop | stop => rfl
  cases next : (s.step event).accepted[n]? with
  | none =>
    have before : s.accepted[n]? = none := by
      cases hc : s.accepted[n]? with
      | none => rfl
      | some c =>
        obtain ⟨d, hd⟩ := accepted_stays s event hc
        rw [next] at hd
        cases hd
    obtain ⟨noBytes, noCall⟩ := quiet (.inr before)
    simp [stream_none next, stream_none before, noBytes, noCall, FrameAssembler.deliver]
  | some d =>
    rw [stream_some next]
    rcases step_accepted sound event next with
      ⟨c, r, here, rfl, rfl⟩ | ⟨other, c, here, same⟩ | ⟨before, addr, rfl⟩
    · have own := c.advance_stream r
      simpa [stream_some here, receivedFrom, calledFrom, here] using own
    · obtain ⟨noBytes, noCall⟩ := quiet (.inl other)
      obtain ⟨waits, assembler⟩ := Conn.elsewhere_waiting same
      simp [stream_some here, noBytes, noCall, waits, assembler, FrameAssembler.deliver]
    · obtain ⟨noBytes, noCall⟩ := quiet (.inr before)
      rw [stream_none before, noBytes, noCall]
      exact ⟨rfl, rfl⟩

end Wifi

/-! ## Every stream of a node -/

theorem BlePeer.id_ne {p peer : BlePeer} (other : p ≠ peer) : p.id ≠ peer.id := by
  intro same
  apply other
  cases p
  cases peer
  cases same
  rfl

theorem BleInput.of_peer (peer : BlePeer) (input : BleInput) : (input.of peer).peer = peer.id := by
  cases input <;> rfl

namespace RadioNode

/-- The packet that a step takes to the relay from one stream. -/
def handsFrom (source : Source) (s : RadioNode) (e : StreamEvent) : Option Bytes :=
  (s.hands e).bind fun handed => if handed.1 = source then some handed.2 else none

/-- What a step feeds the reassembler of a stream; `none` is a restart. -/
def hears (source : Source) (s : RadioNode) (e : StreamEvent) : Option (Option Bytes) :=
  match source, e with
  | .central peer, e => (s.takes e).bind (·.input peer.id)
  | .conn n, .wifi event => (Wifi.receivedFrom n s.wifi event).map some
  | .conn _, _ => none

def owedFrom (peer : BlePeer) (owed : BlePeer × Bytes) : Option Bytes :=
  if owed.1 = peer then some owed.2 else none

/-- The packets of a stream that are reassembled and not dispatched, and the
stream's reassembler. -/
def stream (s : RadioNode) : Source → List Bytes × FrameAssembler
  | .central peer => (s.owed.filterMap (owedFrom peer), s.ble.assembler peer.id)
  | .conn n => s.wifi.stream n

theorem owed_same (peer : BlePeer) (packets : List Bytes) :
    (packets.map (peer, ·)).filterMap (owedFrom peer) = packets := by
  induction packets with
  | nil => rfl
  | cons packet packets ih => simp [owedFrom, ih]

theorem owed_other {p peer : BlePeer} (other : p ≠ peer) (packets : List Bytes) :
    (packets.map (p, ·)).filterMap (owedFrom peer) = [] := by
  induction packets with
  | nil => rfl
  | cons packet packets ih => simp [owedFrom, ih, other]

/-- **One step, one central.** What a step hands to the relay and leaves to
dispatch is what was left before, and what the central's own reassembler makes
of its own bytes. -/
theorem step_central (s : RadioNode) (e : StreamEvent) (peer : BlePeer) :
    let fed := (s.stream (.central peer)).2.deliver (s.hears (.central peer) e).toList
    (s.handsFrom (.central peer) e).toList ++
        ((s.step e).stream (.central peer)).1.filterMap dispatch =
        (s.stream (.central peer)).1.filterMap dispatch ++ fed.1.filterMap dispatch ∧
      ((s.step e).stream (.central peer)).2 = fed.2 := by
  cases e with
  | ble p input =>
    cases busy : s.owed with
    | cons owed rest =>
      simp [handsFrom, hands, hears, takes, stream, step, busy, FrameAssembler.deliver]
    | nil =>
      have one := s.ble.handle_deliver (input.of p) peer.id
      obtain ⟨packets, left⟩ := Prod.mk.injEq .. ▸ one
      simp only [handsFrom, hands, hears, takes, stream, step, busy, if_pos, Option.bind_none,
        Option.bind_some, Option.toList_none, List.filterMap_nil, List.nil_append, ← packets,
        ← left, and_true]
      by_cases same : p = peer
      · subst same
        rw [owed_same]
      · have ids : (input.of p).peer ≠ peer.id := BleInput.of_peer p input ▸ BlePeer.id_ne same
        rw [owed_other same, packets, RadioEvent.input_ne ids]
        rfl
  | callback =>
    refine ⟨?_, rfl⟩
    cases owes : s.owed with
    | nil => simp [handsFrom, hands, hears, takes, stream, step, owes, FrameAssembler.deliver]
    | cons owed rest =>
      simp only [handsFrom, hands, hears, takes, stream, step, owes, List.head?_cons,
        List.tail_cons, Option.bind_some, Option.bind_none, Option.toList_none,
        FrameAssembler.deliver, List.filterMap_nil, List.append_nil, List.filterMap_cons, owedFrom]
      by_cases own : owed.1 = peer
      · cases gate : dispatch owed.2 <;> simp [own, gate]
      · cases gate : dispatch owed.2 <;> simp [own]
  | wifi event =>
    refine ⟨?_, rfl⟩
    have nobody : s.handsFrom (.central peer) (.wifi event) = none := by
      cases event with
      | reader n received =>
        simp only [handsFrom, hands]
        cases s.wifi.accepted[n]?.bind Conn.dispatches <;> simp
      | acceptLoop | drop | stop => rfl
    rw [nobody]
    simp [hears, takes, stream, step, FrameAssembler.deliver]
  | relay | fan => simp [handsFrom, hands, hears, takes, stream, step, FrameAssembler.deliver]

/-- The same of a connection. -/
theorem step_conn {s : RadioNode} (sound : s.wifi.Sound) (e : StreamEvent) (n : Nat) :
    let fed := (s.stream (.conn n)).2.deliver (s.hears (.conn n) e).toList
    (s.handsFrom (.conn n) e).toList ++
        ((s.step e).stream (.conn n)).1.filterMap dispatch =
        (s.stream (.conn n)).1.filterMap dispatch ++ fed.1.filterMap dispatch ∧
      ((s.step e).stream (.conn n)).2 = fed.2 := by
  cases e with
  | ble p input =>
    have same : (s.step (.ble p input)).wifi = s.wifi := by
      simp only [step]
      split <;> rfl
    simp [handsFrom, hands, hears, stream, same, FrameAssembler.deliver]
  | callback =>
    have nobody : s.handsFrom (.conn n) (.callback) = none := by
      simp only [handsFrom, hands]
      cases s.owed.head? with
      | none => rfl
      | some owed => cases gate : dispatch owed.2 <;> simp [gate]
    rw [nobody]
    simp [hears, stream, step, FrameAssembler.deliver]
  | wifi event =>
    have called : s.handsFrom (.conn n) (.wifi event) =
        Wifi.calledFrom n s.wifi event := by
      cases event with
      | reader k received =>
        simp only [handsFrom, hands, Wifi.calledFrom]
        by_cases own : k = n
        · subst own
          cases s.wifi.accepted[k]?.bind Conn.dispatches <;> simp
        · cases s.wifi.accepted[k]?.bind Conn.dispatches <;> simp [own]
      | acceptLoop | drop | stop => rfl
    rw [called]
    exact s.wifi.step_stream sound event n
  | relay | fan => simp [handsFrom, hands, hears, stream, step, FrameAssembler.deliver]

theorem step_sound (s : RadioNode) (e : StreamEvent) (sound : s.wifi.Sound) :
    (s.step e).wifi.Sound := by
  cases e with
  | ble p input =>
    simp only [step]
    split <;> exact sound
  | wifi event => exact Wifi.sound_step s.wifi event sound
  | callback | relay | fan => exact sound

theorem sound_after (events : List StreamEvent) : (after events).wifi.Sound :=
  Runs.invariant_always step_sound Wifi.sound_boot events

/-- **One step, one stream.** -/
theorem step_stream {s : RadioNode} (sound : s.wifi.Sound) (e : StreamEvent)
    (source : Source) :
    let fed := (s.stream source).2.deliver (s.hears source e).toList
    (s.handsFrom source e).toList ++ ((s.step e).stream source).1.filterMap dispatch =
        (s.stream source).1.filterMap dispatch ++ fed.1.filterMap dispatch ∧
      ((s.step e).stream source).2 = fed.2 := by
  cases source with
  | central peer => exact s.step_central e peer
  | conn n => exact step_conn sound e n

/-- The packets that the events take to the relay, with their streams. -/
def handled (events : List StreamEvent) : List (Source × Bytes) :=
  Runs.outputs step hands boot events

/-- What the events feed the reassembler of a stream. -/
def heard (source : Source) (events : List StreamEvent) : List (Option Bytes) :=
  Runs.outputs step (hears source) boot events

def ofSource (source : Source) (handed : Source × Bytes) : Option Bytes :=
  if handed.1 = source then some handed.2 else none

theorem stream_after (events : List StreamEvent) (source : Source) :
    let s := after events
    let fed := FrameAssembler.fresh.deliver (heard source events)
    (handled events).filterMap (ofSource source) ++ (s.stream source).1.filterMap dispatch =
        fed.1.filterMap dispatch ∧
      (s.stream source).2 = fed.2 := by
  have own (es : List StreamEvent) : (handled es).filterMap (ofSource source) =
      Runs.outputs step (handsFrom source) boot es :=
    (Runs.outputs_bind hands (ofSource source) boot es).symm
  induction events using List.reverseRecOn with
  | nil =>
    cases source with
    | central peer => exact ⟨rfl, rfl⟩
    | conn n => exact ⟨rfl, rfl⟩
  | append_singleton past e ih =>
    obtain ⟨packets, left⟩ := ih
    obtain ⟨now, kept⟩ := step_stream (sound_after past) e source
    rw [own] at packets ⊢
    simp only [heard, Runs.outputs_snoc, after, Runs.run_append, Runs.run_cons, Runs.run_nil,
      FrameAssembler.deliver_append, List.filterMap_append, List.append_assoc] at packets left ⊢
    rw [now, kept, ← left, ← List.append_assoc, packets]
    exact ⟨rfl, rfl⟩

/-- The calls of the relay's callback. -/
def called (events : List StreamEvent) : List (PeerId × Bytes) :=
  Runs.outputs step calls boot events

/-- **What a phone frames is handled**, once and in order: from a stream whose
bytes so far begin the frames of `ps`, however they were cut and whatever other
streams did, the relay was handed the packets complete by then, but for those
that wait their turn. -/
theorem framed_packets_handled (events : List StreamEvent)
    (source : Source) (ps chunks : List Bytes)
    (fits : ∀ p ∈ ps, p ≠ [] ∧ p.length ≤ MAX_PACKET)
    (sent : heard source events = chunks.map some)
    (cut : chunks.flatten <+: frames.stream ps) :
    (handled events).filterMap (ofSource source) ++
        ((after events).stream source).1.filterMap dispatch =
      ps.take (frames.complete ps chunks.flatten.length) := by
  have all : ∀ p ∈ ps, frames.Fits p := fun p mem => (fits p mem).2
  have bytes : chunks.flatten = (frames.stream ps).take chunks.flatten.length :=
    List.prefix_iff_eq_take.mp cut
  obtain ⟨rest, drained⟩ := Drain.drain_take (C := frames) all chunks.flatten.length
  rw [← bytes] at drained
  have delivered := FrameAssembler.deliver_drained (a := .fresh) rfl drained
  rw [(stream_after events source).1, sent, delivered]
  -- the gate lets every packet that a phone may frame pass
  apply (List.filterMap_congr fun p mem => ?_).trans List.filterMap_some
  obtain ⟨content, short⟩ := fits p (List.mem_of_mem_take mem)
  exact if_neg (not_or.mpr ⟨content, not_lt.mpr short⟩)

end RadioNode

namespace Sample

def central : BlePeer := ⟨"/org/bluez/hci0/dev_A", by decide⟩

/-- A frame in two chunks, with a word from another central in between. -/
def twoChunks : List StreamEvent :=
  [.ble central (.chunk [0, 1]), .ble ⟨"/org/bluez/hci0/dev_B", by decide⟩ (.chunk [9]),
    .ble central (.chunk [7]), .callback]

theorem framed_packets_handled_chunks :
    (RadioNode.handled twoChunks).filterMap (RadioNode.ofSource (.central central)) ++
        ((RadioNode.after twoChunks).stream (.central central)).1.filterMap dispatch =
      [[7]].take (frames.complete [[7]] 3) :=
  RadioNode.framed_packets_handled twoChunks (.central central) [[7]] [[0, 1], [7]] (by decide)
    (by decide +kernel) (by decide)

end Sample

/-! ## Copies on their way out -/

/-- What a handler has listed and sent: the radios' ids differ, and the copies
sent so far are the first that are due. -/
structure Fan.Sound (fan : Fan) : Prop where
  centrals : ∀ ids, fan.centrals = some ids →
    ids.Nodup ∧ ∀ id ∈ ids, MultiTransport.child id = .ble
  addresses : ∀ ids, fan.addresses = some ids →
    ids.Nodup ∧ ∀ id ∈ ids, MultiTransport.child id = .wifi
  inOrder : fan.sent.map Prod.fst <+: fan.targets

namespace Fan.Sound

variable {fan : Fan}

/-- Nobody is due two copies. -/
theorem distinct (sound : fan.Sound) : fan.targets.Nodup := by
  unfold targets
  split
  case h_1 centrals addresses asked told =>
    obtain ⟨once, ble⟩ := sound.centrals centrals asked
    obtain ⟨once', wifi⟩ := sound.addresses addresses told
    refine List.Nodup.filter _ (once.append once' ?_)
    intro id central address
    cases (ble id central).symm.trans (wifi id address)
  case h_2 => exact List.nodup_nil

end Fan.Sound

namespace RadioNode

/-- The copy goes to the radio that listed the peer: it is notified, or written
to the connection registered under its address, unless it has left. -/
def Routed (s : RadioNode) (fan : Fan) (id : PeerId) (target : Target) : Prop :=
  (id ∈ fan.centrals.getD [] ∧ target = .notified) ∨
  (id ∈ fan.addresses.getD [] ∧
    ((id ∉ s.wifi.conns ∧ target = .nobody) ∨
      ∃ n conn, s.wifi.conns.lookup id = some n ∧ s.wifi.accepted[n]? = some conn ∧
        conn.peerId = id ∧ target = .conn n))

end RadioNode

namespace Sample

end Sample

end MeshlinkNode
