import MeshlinkNode.Core
import MeshlinkNode.Framing
import Mathlib.Data.Finset.Sort
import Mathlib.Data.List.Chain
import Mathlib.Data.String.Basic

/-!
# The GATT server's peers and streams

A backend reports chunks written to RX and the connects and disconnects of
centrals, in whatever order its stack delivers them. The server keeps the set
of peers and a reassembler for each one it has heard from.
-/

namespace MeshlinkNode

/-- What a backend reports. -/
inductive RadioEvent where
  | chunk (peer : PeerId) (data : Bytes)
  | connected (peer : PeerId)
  | disconnected (peer : PeerId)
  deriving DecidableEq

namespace RadioEvent

def peer : RadioEvent → PeerId
  | .chunk peer _ | .connected peer | .disconnected peer => peer

end RadioEvent

inductive Callback where
  | onPacket (peer : PeerId) (packet : Bytes)
  | onConnect (peer : PeerId)
  | onDisconnect (peer : PeerId)
  deriving DecidableEq

/-- Only tracked peers have a reassembler. -/
structure GattServer where
  assemblers : Dict PeerId FrameAssembler
  connected : Finset PeerId
  tracked : ∀ peer ∈ assemblers, peer ∈ connected

namespace GattServer

def fresh : GattServer := ⟨∅, ∅, by simp⟩

/-- `_assemblers.setdefault(peer_id, FrameAssembler())`. -/
def assembler (server : GattServer) (peer : PeerId) : FrameAssembler :=
  (server.assemblers.lookup peer).getD .fresh

def handleChunk (server : GattServer) (peer : PeerId) (data : Bytes) :
    GattServer × List Callback :=
  let out := (server.assembler peer).feed data
  let server : GattServer :=
    { assemblers := server.assemblers.insert peer out.2
      connected := insert peer server.connected
      tracked := by
        intro q hq
        rcases AList.mem_insert _ |>.mp hq with rfl | old
        · exact Finset.mem_insert_self _ _
        · exact Finset.mem_insert_of_mem (server.tracked q old) }
  match out.1 with
  | .error _ => (server, [])
  | .ok packets => (server, packets.map (.onPacket peer))

def peerConnected (server : GattServer) (peer : PeerId) : GattServer × List Callback :=
  ({ server with
      connected := insert peer server.connected
      tracked := fun q hq => Finset.mem_insert_of_mem (server.tracked q hq) },
    if peer ∈ server.connected then [] else [.onConnect peer])

def peerDisconnected (server : GattServer) (peer : PeerId) : GattServer × List Callback :=
  ({ assemblers := server.assemblers.erase peer
     connected := server.connected.erase peer
     tracked := by
      intro q hq
      obtain ⟨ne, old⟩ := AList.mem_erase.mp hq
      exact Finset.mem_erase.mpr ⟨ne, server.tracked q old⟩ },
    [.onDisconnect peer])

def peers (server : GattServer) : List PeerId := server.connected.sort (· ≤ ·)

@[simp] theorem mem_peers {server : GattServer} {peer : PeerId} :
    peer ∈ server.peers ↔ peer ∈ server.connected := Finset.mem_sort _

def handle (server : GattServer) : RadioEvent → GattServer × List Callback
  | .chunk peer data => server.handleChunk peer data
  | .connected peer => server.peerConnected peer
  | .disconnected peer => server.peerDisconnected peer

end GattServer

/-- A server and the callbacks it has made since it was built. -/
structure Radio where
  server : GattServer
  fired : List Callback

namespace Radio

def boot : Radio := ⟨.fresh, []⟩

def step (radio : Radio) (event : RadioEvent) : Radio :=
  let out := radio.server.handle event
  ⟨out.1, radio.fired ++ out.2⟩

/-- The server after the events, and what it fired on the way. -/
abbrev after (events : List RadioEvent) : Radio := Runs.run step boot events

@[simp] theorem step_server (radio : Radio) (event : RadioEvent) :
    (radio.step event).server = (radio.server.handle event).1 := rfl

@[simp] theorem step_fired (radio : Radio) (event : RadioEvent) :
    (radio.step event).fired = radio.fired ++ (radio.server.handle event).2 := rfl

end Radio

/-! ## One peer's stream -/

namespace FrameAssembler

/-- What a single assembler delivers: a chunk feeds it, `none` replaces it by a
fresh one, and a call that raises delivers nothing. -/
def deliver (a : FrameAssembler) : List (Option Bytes) → List Bytes × FrameAssembler
  | [] => ([], a)
  | none :: rest => fresh.deliver rest
  | some data :: rest =>
    let out := a.feed data
    let tail := out.2.deliver rest
    (out.1.toOption.getD [] ++ tail.1, tail.2)

theorem deliver_append (a : FrameAssembler) (inputs more : List (Option Bytes)) :
    a.deliver (inputs ++ more) =
      ((a.deliver inputs).1 ++ ((a.deliver inputs).2.deliver more).1,
        ((a.deliver inputs).2.deliver more).2) := by
  induction inputs generalizing a with
  | nil => rfl
  | cons input inputs ih =>
    cases input with
    | none => exact ih fresh
    | some data =>
      have tail := ih (a.feed data).2
      simp only [List.cons_append, deliver, tail, List.append_assoc]

end FrameAssembler

namespace Callback

/-- The packet, if the callback hands one from `peer` on. -/
def packetFrom (peer : PeerId) : Callback → Option Bytes
  | .onPacket p packet => if p = peer then some packet else none
  | _ => none

end Callback

namespace RadioEvent

/-- What an event of `peer` does to the assembler of `peer`. -/
def input (peer : PeerId) : RadioEvent → Option (Option Bytes)
  | .chunk p data => if p = peer then some (some data) else none
  | .disconnected p => if p = peer then some none else none
  | .connected _ => none

theorem input_ne {peer : PeerId} {event : RadioEvent} (other : event.peer ≠ peer) :
    event.input peer = none := by
  cases event with
  | chunk p data => exact if_neg other
  | connected p => rfl
  | disconnected p => exact if_neg other

end RadioEvent

namespace Radio

/-- The packets of `peer` handed to `on_packet`, in order. -/
def delivered (peer : PeerId) (radio : Radio) : List Bytes :=
  radio.fired.filterMap (·.packetFrom peer)

end Radio

namespace GattServer

theorem packets_same (peer : PeerId) (packets : List Bytes) :
    (packets.map (Callback.onPacket peer)).filterMap (·.packetFrom peer) = packets := by
  have one : (fun packet => (Callback.onPacket peer packet).packetFrom peer) = some := by
    funext packet
    exact if_pos rfl
  rw [List.filterMap_map, Function.comp_def, one, List.filterMap_some]

theorem packets_other {p peer : PeerId} (other : p ≠ peer) (packets : List Bytes) :
    (packets.map (Callback.onPacket p)).filterMap (·.packetFrom peer) = [] := by
  apply List.filterMap_eq_nil_iff.mpr
  intro cb hcb
  obtain ⟨packet, -, rfl⟩ := List.mem_map.mp hcb
  exact if_neg other

@[simp] theorem handleChunk_assemblers (server : GattServer) (peer : PeerId) (data : Bytes) :
    (server.handleChunk peer data).1.assemblers =
      server.assemblers.insert peer ((server.assembler peer).feed data).2 := by
  simp only [handleChunk]
  split <;> rfl

@[simp] theorem handleChunk_connected (server : GattServer) (peer : PeerId) (data : Bytes) :
    (server.handleChunk peer data).1.connected = insert peer server.connected := by
  simp only [handleChunk]
  split <;> rfl

theorem handleChunk_fired (server : GattServer) (peer : PeerId) (data : Bytes) :
    (server.handleChunk peer data).2 =
      (((server.assembler peer).feed data).1.toOption.getD []).map (.onPacket peer) := by
  simp only [handleChunk]
  split
  · rename_i raised
    simp only [raised]
    rfl
  · rename_i returned
    simp only [returned]
    rfl

/-- **One event, one peer.** What an event hands on for `peer`, and the
reassembler it leaves, is what a single assembler makes of its input. -/
theorem handle_deliver (server : GattServer) (event : RadioEvent) (peer : PeerId) :
    ((server.handle event).2.filterMap (·.packetFrom peer),
        (server.handle event).1.assembler peer) =
      (server.assembler peer).deliver (event.input peer).toList := by
  cases event with
  | chunk p data =>
    simp only [handle, assembler, handleChunk_assemblers, handleChunk_fired]
    by_cases same : p = peer
    · subst same
      rw [packets_same]
      simp [RadioEvent.input, FrameAssembler.deliver]
    · simp [packets_other same, AList.lookup_insert_ne (Ne.symm same), RadioEvent.input, same,
        FrameAssembler.deliver]
  | connected p =>
    have out : (server.peerConnected p).2.filterMap (·.packetFrom peer) = [] := by
      unfold peerConnected
      split <;> rfl
    simp only [handle, out, RadioEvent.input, Option.toList_none, FrameAssembler.deliver]
    rfl
  | disconnected p =>
    simp only [handle, peerDisconnected, assembler]
    by_cases same : p = peer
    · subst same
      simp [RadioEvent.input, FrameAssembler.deliver, Callback.packetFrom]
    · simp [AList.lookup_erase_ne (Ne.symm same), RadioEvent.input, same,
        FrameAssembler.deliver, Callback.packetFrom]

end GattServer

namespace Radio

/-- What the events make of the stream of `peer`: its packets and what is left
in its reassembler. -/
theorem delivered_after (events : List RadioEvent) (peer : PeerId) :
    ((after events).delivered peer, (after events).server.assembler peer) =
      FrameAssembler.fresh.deliver (events.filterMap (·.input peer)) := by
  refine Runs.history (s := boot)
    (fun past (radio : Radio) => (radio.delivered peer, radio.server.assembler peer) =
      FrameAssembler.fresh.deliver (past.filterMap (·.input peer))) rfl ?_ events
  intro past radio event sofar
  have now := radio.server.handle_deliver event peer
  obtain ⟨packets, left⟩ := Prod.mk.injEq .. ▸ sofar
  obtain ⟨newPackets, newLeft⟩ := Prod.mk.injEq .. ▸ now
  have inputs : (past ++ [event]).filterMap (·.input peer) =
      past.filterMap (·.input peer) ++ (event.input peer).toList := by
    cases h : event.input peer <;> simp [h]
  rw [inputs, FrameAssembler.deliver_append, ← packets, ← left, ← newPackets, ← newLeft]
  simp [delivered]

/-- A peer that is not listed has nothing buffered. -/
theorem no_residue {server : GattServer} {peer : PeerId} (gone : peer ∉ server.peers) :
    server.assemblers.lookup peer = none := by
  apply AList.lookup_eq_none.mpr
  intro kept
  exact gone (GattServer.mem_peers.mpr (server.tracked peer kept))

/-- **Streams are isolated.** Whatever the other peers' events, a peer's
packets are those of one assembler fed its own chunks and restarted when it
disconnects; and only listed peers have anything buffered. -/
theorem streams_isolated (events : List RadioEvent) (peer : PeerId) :
    (after events).delivered peer =
      (FrameAssembler.fresh.deliver (events.filterMap (·.input peer))).1 ∧
    (∀ others : List RadioEvent,
      others.filter (·.peer = peer) = events.filter (·.peer = peer) →
      (after others).delivered peer = (after events).delivered peer) ∧
    (peer ∉ (after events).server.peers →
      (after events).server.assemblers.lookup peer = none) := by
  have packets : ∀ es : List RadioEvent, (after es).delivered peer =
      (FrameAssembler.fresh.deliver (es.filterMap (·.input peer))).1 :=
    fun es => congrArg Prod.fst (delivered_after es peer)
  refine ⟨packets events, ?_, no_residue⟩
  intro others same
  have own : ∀ es : List RadioEvent, es.filterMap (·.input peer) =
      (es.filter (·.peer = peer)).filterMap (·.input peer) := by
    intro es
    induction es with
    | nil => rfl
    | cons e es ih =>
      by_cases mine : e.peer = peer
      · simp [mine, List.filterMap_cons, ih]
      · simp [mine, RadioEvent.input_ne mine, ih]
  rw [packets, packets, own others, own events, same]

end Radio

/-! ## Connects and disconnects in turn -/

/-- Ups and downs in turn, an up first. -/
def Alternates (links : List Bool) : Prop :=
  links.head? ≠ some false ∧ links.IsChain (· ≠ ·)

@[simp] theorem alternates_nil : Alternates [] := ⟨by simp, .nil⟩

/-- One more link keeps the turn exactly when it is not what the last one was,
and no link counts as a down. -/
theorem alternates_snoc {links : List Bool} {b : Bool} :
    Alternates (links ++ [b]) ↔
      Alternates links ∧ (b = true ↔ links.getLast? ≠ some true) := by
  rcases links.eq_nil_or_concat' with rfl | ⟨before, last, rfl⟩
  · cases b <;> simp [Alternates]
  · have head : (before ++ [last] ++ [b]).head? = (before ++ [last]).head? := by
      cases before <;> rfl
    have chain : (before ++ [last] ++ [b]).IsChain (· ≠ ·) ↔
        (before ++ [last]).IsChain (· ≠ ·) ∧ last ≠ b := by
      rw [List.isChain_append]
      simp
    simp only [Alternates, head, chain, List.getLast?_concat, and_assoc]
    cases last <;> cases b <;> simp

namespace Callback

/-- Whether the callback says that `peer` went up or down. -/
def linkOf (peer : PeerId) : Callback → Option Bool
  | .onConnect p => if p = peer then some true else none
  | .onDisconnect p => if p = peer then some false else none
  | .onPacket _ _ => none

end Callback

namespace Radio

def links (peer : PeerId) (radio : Radio) : List Bool :=
  radio.fired.filterMap (·.linkOf peer)

/-- The contract of the two callbacks: for each peer they alternate, and the
listed peers are those that were last reported as connected. -/
def Announced (radio : Radio) : Prop :=
  ∀ peer, Alternates (radio.links peer) ∧
    (peer ∈ radio.server.peers ↔ (radio.links peer).getLast? = some true)

/-- The backend reports nothing but connects of a peer it has not connected. -/
def Tracked (radio : Radio) : RadioEvent → Prop
  | .connected _ => True
  | .chunk peer _ | .disconnected peer => peer ∈ radio.server.connected

instance (radio : Radio) (event : RadioEvent) : Decidable (radio.Tracked event) := by
  cases event <;> unfold Tracked <;> infer_instance

theorem links_step (radio : Radio) (event : RadioEvent) (peer : PeerId) :
    (radio.step event).links peer =
      radio.links peer ++ (radio.server.handle event).2.filterMap (·.linkOf peer) := by
  simp only [links, step_fired, List.filterMap_append]

theorem chunk_silent (server : GattServer) (p peer : PeerId) (data : Bytes) :
    (server.handleChunk p data).2.filterMap (·.linkOf peer) = [] := by
  rw [GattServer.handleChunk_fired, List.filterMap_map]
  exact List.filterMap_eq_nil_iff.mpr fun _ _ => rfl

/-- A reported step keeps the contract. -/
theorem announced_step {radio : Radio} {event : RadioEvent} (kept : radio.Announced)
    (tracked : radio.Tracked event) : (radio.step event).Announced := by
  intro peer
  obtain ⟨turns, listed⟩ := kept peer
  rw [GattServer.mem_peers] at listed
  rw [links_step, GattServer.mem_peers]
  cases event with
  | chunk p data =>
    have same : insert p radio.server.connected = radio.server.connected :=
      Finset.insert_eq_self.mpr tracked
    simp only [step_server, GattServer.handle, chunk_silent, GattServer.handleChunk_connected,
      same, List.append_nil]
    exact ⟨turns, listed⟩
  | connected p =>
    by_cases old : p ∈ radio.server.connected
    · have same : insert p radio.server.connected = radio.server.connected :=
        Finset.insert_eq_self.mpr old
      simp only [step_server, GattServer.handle, GattServer.peerConnected, if_pos old, same,
        List.filterMap_nil, List.append_nil]
      exact ⟨turns, listed⟩
    · simp only [step_server, GattServer.handle, GattServer.peerConnected, if_neg old]
      by_cases mine : p = peer
      · subst mine
        have down : (radio.links p).getLast? ≠ some true := fun up => old (listed.mpr up)
        simp [Callback.linkOf, alternates_snoc, turns, down]
      · simp [Callback.linkOf, mine, turns, listed, Ne.symm mine]
  | disconnected p =>
    simp only [step_server, GattServer.handle, GattServer.peerDisconnected]
    by_cases mine : p = peer
    · subst mine
      have up := listed.mp tracked
      simp [Callback.linkOf, alternates_snoc, turns, up]
    · simp [Callback.linkOf, mine, turns, listed, Ne.symm mine]

/-- A step that is not breaks it. -/
theorem not_announced_step {radio : Radio} {event : RadioEvent} (kept : radio.Announced)
    (untracked : ¬ radio.Tracked event) : ¬ (radio.step event).Announced := by
  intro after
  cases event with
  | connected p => exact untracked trivial
  | chunk p data =>
    have before := (kept p).2
    have now := (after p).2
    rw [links_step, step_server] at now
    simp only [GattServer.handle, chunk_silent, List.append_nil, ← before,
      GattServer.mem_peers, GattServer.handleChunk_connected] at now
    exact untracked (now.mp (Finset.mem_insert_self _ _))
  | disconnected p =>
    have before := (kept p).2
    have turns := (after p).1
    rw [links_step] at turns
    simp only [GattServer.handle, GattServer.peerDisconnected, Callback.linkOf, if_true,
      List.filterMap_cons, List.filterMap_nil, alternates_snoc] at turns
    have up : (radio.links p).getLast? = some true := by
      by_contra down
      exact Bool.false_ne_true (turns.2.mpr down)
    exact untracked (GattServer.mem_peers.mp (before.mpr up))

theorem announced_boot : boot.Announced := by
  intro peer
  simp [boot, links, GattServer.fresh]

/-- **When the callbacks alternate.** The contract holds after every event of a
run exactly when every chunk and every disconnect comes from a peer that is
tracked when it comes. -/
theorem announced_iff_tracked (events : List RadioEvent) :
    (∀ sofar, sofar <+: events → (after sofar).Announced) ↔
      Runs.Along step Tracked boot events := by
  have decides (radio : Radio) (event : RadioEvent) (_ : True) (kept : radio.Announced) :
      (radio.step event).Announced ↔ radio.Tracked event := by
    constructor
    · intro next
      by_contra untracked
      exact not_announced_step kept untracked next
    · intro tracked
      exact announced_step kept tracked
  exact Runs.always_iff (fun _ _ _ => trivial) decides trivial announced_boot events

/-- A phone that writes before its connect event is never announced, and a
device that never used the service is reported as gone. -/
theorem announced_fails :
    ¬ (after [.chunk "dev_A" []]).Announced ∧ ¬ (after [.disconnected "dev_B"]).Announced :=
  ⟨not_announced_step announced_boot (by decide), not_announced_step announced_boot (by decide)⟩

end Radio

end MeshlinkNode
