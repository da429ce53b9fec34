import MeshlinkNode.ControlFrames

/-!
# Hop rewriting

A relayed copy differs from its packet in the two hop bytes alone, and the
sender's signature leaves these out. So a packet keeps its signature along any
chain of nodes, and its ttl bounds the chain.
-/

namespace MeshlinkNode

variable {core : Core}

def ttl (raw : Bytes) : Nat := (raw.getD TTL_OFFSET 0).toNat

/-- The big-endian payload_len before the payload at 75. -/
def payloadLen (raw : Bytes) : Nat := 256 * (raw.getD 73 0).toNat + (raw.getD 74 0).toNat

/-- raw[0:68] ‖ raw[70 : 75 + payload_len] -/
def signedRegion (raw : Bytes) : Bytes :=
  raw.take TTL_OFFSET ++ (raw.take (75 + payloadLen raw)).drop (SPRAY_OFFSET + 1)

/-- The copy has the packet's length, and its bytes except at the hop offsets. -/
structure SameOffHops (copy raw : Bytes) : Prop where
  length : copy.length = raw.length
  bytes : ∀ i, i ≠ TTL_OFFSET → i ≠ SPRAY_OFFSET → copy[i]? = raw[i]?

theorem SameOffHops.trans {c b a : Bytes} (h : SameOffHops c b) (h' : SameOffHops b a) :
    SameOffHops c a := by
  refine ⟨h.length.trans h'.length, ?_⟩
  intro i ttl spray
  rw [h.bytes i ttl spray, h'.bytes i ttl spray]

theorem SameOffHops.signedRegion {copy raw : Bytes} (same : SameOffHops copy raw) :
    signedRegion copy = signedRegion raw := by
  have lengths : payloadLen copy = payloadLen raw := by
    simp only [payloadLen, List.getD_eq_getElem?_getD]
    rw [same.bytes 73 (by decide) (by decide), same.bytes 74 (by decide) (by decide)]
  have before : copy.take TTL_OFFSET = raw.take TTL_OFFSET := by
    apply List.ext_getElem?
    intro i
    rw [List.getElem?_take, List.getElem?_take]
    split
    · exact same.bytes i (by omega) (by unfold SPRAY_OFFSET TTL_OFFSET at *; omega)
    · rfl
  have after : (copy.take (75 + payloadLen raw)).drop (SPRAY_OFFSET + 1) =
      (raw.take (75 + payloadLen raw)).drop (SPRAY_OFFSET + 1) := by
    apply List.ext_getElem?
    intro i
    rw [List.getElem?_drop, List.getElem?_drop, List.getElem?_take, List.getElem?_take]
    split
    · exact same.bytes _ (by unfold SPRAY_OFFSET TTL_OFFSET at *; omega) (by omega)
    · rfl
  rw [MeshlinkNode.signedRegion, MeshlinkNode.signedRegion, lengths, before, after]

/-! ## decrement_ttl -/

theorem decrementTtl_spent {raw : Bytes} (long : TTL_OFFSET < raw.length) (hop : 0 < ttl raw) :
    decrementTtl raw = .ok (spent raw) := by
  apply decrementTtl_eq long
  intro zero
  rw [ttl, zero] at hop
  exact absurd hop (by decide)

theorem spent_off_ttl (raw : Bytes) {i : Nat} (other : i ≠ TTL_OFFSET) :
    (spent raw)[i]? = raw[i]? :=
  List.getElem?_set_ne (Ne.symm other)

theorem ttl_spent {raw : Bytes} (long : TTL_OFFSET < raw.length) (hop : 0 < ttl raw) :
    ttl (spent raw) + 1 = ttl raw := by
  have one : (1 : UInt8) ≤ raw.getD TTL_OFFSET 0 := by
    rw [UInt8.le_iff_toNat_le]
    exact hop
  have less : ttl (spent raw) = ttl raw - 1 := by
    rw [ttl, spent, List.getD_eq_getElem?_getD, List.getElem?_set_self long, Option.getD_some,
      UInt8.toNat_sub_of_le _ _ one]
    rfl
  omega

theorem spent_sameOffHops (raw : Bytes) : SameOffHops (spent raw) raw :=
  ⟨spent_length raw, fun _ other _ => spent_off_ttl raw other⟩

/-- `decrement_ttl` applied once for each hop. -/
def decrementTtls : Nat → Bytes → Except PyExc Bytes
  | 0, raw => .ok raw
  | n + 1, raw => decrementTtl raw >>= decrementTtls n

theorem decrementTtls_ok {raw : Bytes} (long : TTL_OFFSET < raw.length) {n : Nat}
    (hops : n ≤ ttl raw) :
    ∃ copy, decrementTtls n raw = .ok copy ∧ copy.length = raw.length ∧
      (∀ i, i ≠ TTL_OFFSET → copy[i]? = raw[i]?) ∧ ttl copy = ttl raw - n := by
  induction n generalizing raw with
  | zero => exact ⟨raw, rfl, rfl, fun _ _ => rfl, rfl⟩
  | succ n ih =>
    have hop : 0 < ttl raw := by omega
    have less := ttl_spent long hop
    have further : TTL_OFFSET < (spent raw).length := by
      rw [spent_length]
      exact long
    obtain ⟨copy, rest, length, bytes, left⟩ := ih further (by omega)
    refine ⟨copy, ?_, length.trans (spent_length raw), ?_, by omega⟩
    · rw [decrementTtls, decrementTtl_spent long hop]
      exact rest
    · intro i other
      rw [bytes i other, spent_off_ttl raw other]

/-! ## The copies along a chain -/

/-- What the pipeline does about hops: it drops short packets and packets with
no hop left, and its forward copy rewrites the two hop bytes, the ttl down by
one. -/
structure Core.HopRewriting (core : Core) : Prop where
  packet : ∀ {p a now raw msg forward}, (core.process p a now raw).1 = .deliver msg forward →
    131 ≤ raw.length ∧ 0 < ttl raw
  copy : ∀ {p a now raw msg copy}, (core.process p a now raw).1 = .deliver msg (some copy) →
    SameOffHops copy raw ∧ ttl copy = ttl raw - 1

/-- A node as it gets a packet from `origin`, and the peer that is next. -/
structure Hop (core : Core) where
  relay : Relay core
  backhaul : Backhaul
  moment : Moment
  origin : PeerId
  next : PeerId

/-- The node gets to the relay of its copies, and one goes to the next peer. -/
def Hop.Relays (hop : Hop core) (raw copy : Bytes) : Prop :=
  ∃ msg forward, hop.relay.accepted hop.moment raw = some (msg, forward) ∧
    Relay.localCopies hop.moment hop.origin raw forward <:+
      (hop.relay.handlePacket hop.backhaul hop.moment hop.origin raw).calls ∧
    Call.send hop.next copy ∈ Relay.localCopies hop.moment hop.origin raw forward

/-- Each node relays to the next what it computes from what it was relayed. -/
inductive Chain : Bytes → List (Hop core × Bytes) → Prop where
  | last (raw : Bytes) : Chain raw []
  | relay {hop : Hop core} {raw copy : Bytes} {rest : List (Hop core × Bytes)} :
      hop.Relays raw copy → Chain copy rest → Chain raw ((hop, copy) :: rest)

namespace Relay

variable {relay : Relay core} {backhaul : Backhaul} {m : Moment} {origin : PeerId} {raw : Bytes}
  {msg : Message} {forward : Option Bytes}

theorem mem_localCopies {peer : PeerId} {copy : Bytes} :
    Call.send peer copy ∈ localCopies m origin raw forward ↔
      relayed raw forward = .ok copy ∧ 0 < ttl copy ∧ peer ∈ m.peers ∧ peer ≠ origin := by
  unfold localCopies
  cases relayed raw forward with
  | error exc => simp
  | ok found =>
    have positive : (0 < found.getD TTL_OFFSET 0) ↔ 0 < ttl found := by
      rw [UInt8.lt_iff_toNat_lt]
      rfl
    dsimp only
    by_cases hop : 0 < found.getD TTL_OFFSET 0
    · rw [if_pos hop]
      simp only [sends, List.mem_map, List.mem_filter, Call.send.injEq, Except.ok.injEq,
        decide_eq_true_eq]
      constructor
      · rintro ⟨_, ⟨here, other⟩, rfl, rfl⟩
        exact ⟨rfl, positive.mp hop, here, other⟩
      · rintro ⟨rfl, -, here, other⟩
        exact ⟨peer, ⟨here, other⟩, rfl, rfl⟩
    · rw [if_neg hop]
      simp only [List.not_mem_nil, Except.ok.injEq, false_iff, not_and]
      rintro rfl left
      exact absurd (positive.mpr left) hop

/-- What an accepted packet's copy is. -/
theorem relayed_rewrites (rewrites : core.HopRewriting)
    (accepts : relay.accepted m raw = some (msg, forward)) :
    ∃ copy, relayed raw forward = .ok copy ∧ SameOffHops copy raw ∧ ttl copy + 1 = ttl raw := by
  have delivered := process_of_accepted accepts
  obtain ⟨long, hop⟩ := rewrites.packet delivered
  cases forward with
  | none =>
    have slot : TTL_OFFSET < raw.length := by
      unfold TTL_OFFSET
      omega
    exact ⟨_, decrementTtl_spent slot hop, spent_sameOffHops raw, ttl_spent slot hop⟩
  | some copy =>
    obtain ⟨same, less⟩ := rewrites.copy delivered
    exact ⟨copy, rfl, same, by omega⟩

end Relay

theorem Hop.Relays.rewrites (rewrites : core.HopRewriting) {hop : Hop core} {raw copy : Bytes}
    (h : hop.Relays raw copy) : SameOffHops copy raw ∧ ttl copy + 1 = ttl raw ∧ 0 < ttl copy := by
  obtain ⟨msg, forward, accepts, -, sent⟩ := h
  obtain ⟨isCopy, left, -, -⟩ := Relay.mem_localCopies.mp sent
  obtain ⟨found, isFound, same, less⟩ := Relay.relayed_rewrites rewrites accepts
  cases isCopy.symm.trans isFound
  exact ⟨same, less, left⟩

/-- A node sends nothing to phones but the response to a query and its copies. -/
theorem Relay.sends_are_relays {relay : Relay core} {backhaul : Backhaul} {m : Moment}
    {origin peer : PeerId} {raw packet : Bytes}
    (sent : Call.send peer packet ∈ (relay.handlePacket backhaul m origin raw).calls) :
    ∃ msg forward, relay.accepted m raw = some (msg, forward) ∧
      (Call.send peer packet ∈ relay.response m origin msg ∨
        Hop.Relays ⟨relay, backhaul, m, origin, peer⟩ raw packet) := by
  have outside (zoneId : Int) : Call.send peer packet ∉ relay.zoneCalls zoneId raw := by
    intro here
    obtain ⟨call, -, same⟩ := List.mem_map.mp here
    cases same
  cases path : relay.demux raw with
  | telemetry =>
    rw [handlePacket_telemetry path] at sent
    split at sent <;> simp at sent
  | backendProxy =>
    rw [handlePacket_backendProxy path] at sent
    split at sent <;> simp at sent
  | presentation cache =>
    obtain ⟨after, -, -, handled⟩ := handlePacket_presented backhaul m origin path
    rw [handled] at sent
    cases presents : relay.presented m raw with
    | none => simp [presents] at sent
    | some msg =>
      rw [presents] at sent
      exact absurd sent (outside msg.zoneId)
  | mesh =>
    cases accepts : relay.accepted m raw with
    | none =>
      rw [handlePacket_dropped path accepts] at sent
      cases sent
    | some taken =>
      obtain ⟨msg, forward⟩ := taken
      refine ⟨msg, forward, rfl, ?_⟩
      by_cases stopped : relay.Stopped m msg
      · rw [calls_of_stopped accepts stopped] at sent
        cases sent
      · have listed : (_ ∧ (relay.handlePacket backhaul m origin raw).calls = _) ∨ _ :=
          calls_of_not_stopped accepts stopped backhaul
        rcases listed with ⟨-, calls⟩ | ⟨-, calls⟩
        · have kept := sent
          rw [calls, List.mem_append, List.mem_append] at kept
          rcases kept with (answer | zone) | copy
          · exact .inl answer
          · exact absurd zone (outside msg.zoneId)
          · exact .inr ⟨msg, forward, accepts, ⟨_, calls.symm⟩, copy⟩
        · rw [calls, List.mem_append] at sent
          rcases sent with answer | zone
          · exact .inl answer
          · exact absurd zone (outside msg.zoneId)

/-- The copies relayed along a chain, the first hop's first. -/
def copies (links : List (Hop core × Bytes)) : List Bytes := links.map Prod.snd

theorem Chain.copies_off_hops (rewrites : core.HopRewriting) {raw : Bytes}
    {links : List (Hop core × Bytes)} (chain : Chain raw links) :
    ∀ copy ∈ copies links, SameOffHops copy raw ∧ ttl copy < ttl raw := by
  induction chain with
  | last raw => simp [copies]
  | relay relays rest ih =>
    obtain ⟨same, less, -⟩ := relays.rewrites rewrites
    intro copy here
    rcases List.mem_cons.mp here with rfl | later
    · exact ⟨same, by omega⟩
    · obtain ⟨same', less'⟩ := ih copy later
      exact ⟨same'.trans same, by omega⟩

theorem Chain.ttl_decreases (rewrites : core.HopRewriting) {raw : Bytes}
    {links : List (Hop core × Bytes)} (chain : Chain raw links) :
    ((raw :: copies links).map ttl).Pairwise (· > ·) := by
  induction chain with
  | last raw => exact List.pairwise_singleton _ _
  | relay relays rest ih =>
    refine List.Pairwise.cons ?_ ih
    intro left here
    obtain ⟨copy, mem, rfl⟩ := List.mem_map.mp here
    exact ((Chain.relay relays rest).copies_off_hops rewrites copy mem).2

theorem Chain.length_le (rewrites : core.HopRewriting) {raw : Bytes}
    {links : List (Hop core × Bytes)} (chain : Chain raw links) :
    (copies links).length ≤ ttl raw - 1 := by
  induction chain with
  | last raw => exact Nat.zero_le _
  | relay relays rest ih =>
    obtain ⟨-, less, left⟩ := relays.rewrites rewrites
    simp only [copies, List.map_cons, List.length_cons] at ih ⊢
    omega

/-- **Hop rewriting.** Repeated decrements touch one byte; and along every
chain of relays the signed region stays, the ttl falls, no ttl of 0 is
decremented, and the chain is shorter than the first ttl. -/
theorem hop_rewriting (core : Core) (rewrites : core.HopRewriting) :
    (∀ (raw : Bytes) (n : Nat), 131 ≤ raw.length → 1 ≤ ttl raw → n ≤ ttl raw →
      ∃ copy, decrementTtls n raw = .ok copy ∧ copy.length = raw.length ∧
        (∀ i, i ≠ TTL_OFFSET → copy[i]? = raw[i]?) ∧ signedRegion copy = signedRegion raw ∧
        ttl copy = ttl raw - n) ∧
    ∀ (raw : Bytes) (links : List (Hop core × Bytes)), Chain raw links →
      (∀ copy ∈ copies links, signedRegion copy = signedRegion raw) ∧
      ((raw :: copies links).map ttl).Pairwise (· > ·) ∧
      (∀ packet ∈ raw :: copies links, ∀ (relay : Relay core) (m : Moment) (msg : Message),
        relay.accepted m packet = some (msg, none) →
          0 < ttl packet ∧ ∃ copy, decrementTtl packet = .ok copy) ∧
      (copies links).length ≤ ttl raw - 1 := by
  constructor
  · intro raw n long _ hops
    have reaches : TTL_OFFSET < raw.length := by
      unfold TTL_OFFSET
      omega
    obtain ⟨copy, decrements, length, bytes, left⟩ := decrementTtls_ok reaches hops
    have same : SameOffHops copy raw := ⟨length, fun i other _ => bytes i other⟩
    exact ⟨copy, decrements, length, bytes, same.signedRegion, left⟩
  · intro raw links chain
    refine ⟨?_, chain.ttl_decreases rewrites, ?_, chain.length_le rewrites⟩
    · intro copy here
      exact (chain.copies_off_hops rewrites copy here).1.signedRegion
    · intro packet _ relay m msg accepts
      obtain ⟨copy, decrements, -, less⟩ := Relay.relayed_rewrites rewrites accepts
      exact ⟨by omega, copy, decrements⟩

namespace Sample

theorem core_hopRewriting : Sample.core.HopRewriting := by
  constructor
  · intro p a now raw msg forward h
    obtain ⟨long, hop, -⟩ := process_delivers h
    exact ⟨by omega, UInt8.lt_iff_toNat_lt.mp (UInt8.pos_iff_ne_zero.mpr hop)⟩
  · intro p a now raw msg copy h
    obtain ⟨long, hop, -, forwards, -⟩ := process_delivers h
    have slot : TTL_OFFSET < raw.length := by
      unfold TTL_OFFSET
      omega
    have positive : 0 < ttl raw := UInt8.lt_iff_toNat_lt.mp (UInt8.pos_iff_ne_zero.mpr hop)
    have isSpent : copy = spent raw := Option.some.inj forwards
    have less := ttl_spent slot positive
    rw [isSpent]
    exact ⟨spent_sameOffHops raw, by omega⟩

def hopNode (origin next : PeerId) : Hop Sample.core :=
  ⟨plainRelay, .loggingStub, ⟨⟨140, 140, 140⟩, 0, ["a", "b", "c"], by decide, .up⟩, origin, next⟩

def hopPacket (left : UInt8) : Bytes := packet 4 requester left 3 1 []

def hopMessage : Message := ⟨List.replicate 16 4, 0, requester, 3, .other 1, []⟩

theorem two_hops : Chain (hopPacket 3)
    [(hopNode "a" "b", hopPacket 2), (hopNode "a" "c", hopPacket 1)] := by
  have first : (hopNode "a" "b").Relays (hopPacket 3) (hopPacket 2) :=
    ⟨hopMessage, some (hopPacket 2), by decide +kernel, by decide +kernel, by decide +kernel⟩
  have second : (hopNode "a" "c").Relays (hopPacket 2) (hopPacket 1) :=
    ⟨hopMessage, some (hopPacket 1), by decide +kernel, by decide +kernel, by decide +kernel⟩
  exact .relay first (.relay second (.last _))

/-- A packet with ttl 3 is relayed twice, and no more. -/
theorem hop_rewriting_two_hops :
    (∀ copy ∈ [hopPacket 2, hopPacket 1], signedRegion copy = signedRegion (hopPacket 3)) ∧
      [hopPacket 2, hopPacket 1].length ≤ ttl (hopPacket 3) - 1 := by
  obtain ⟨signed, -, -, bounded⟩ :=
    (hop_rewriting Sample.core core_hopRewriting).2 (hopPacket 3) _ two_hops
  exact ⟨signed, bounded⟩

end Sample

end MeshlinkNode
