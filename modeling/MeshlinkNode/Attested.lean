import MeshlinkNode.Confidential

/-!
# Only attested senders get through

With attestation on, the main pipeline lets a sender through only while the
cache has its key, and a key gets into the cache only by a presentation.
-/

namespace MeshlinkNode

/-- The attestation gate of `process`, and what `add_token` leaves in a cache. -/
structure Core.Gates (core : Core) (keys : core.Attestation → Set Bytes) : Prop where
  caches : core.Caches keys
  gate : ∀ {p cache now raw msg forward},
    (core.process p (some cache) now raw).1 = .deliver msg forward → msg.senderKey ∈ keys cache

namespace Relay

variable {core : Core}

/-- A presentation of the run so far was admitted for the key. -/
def Admitted (start : Relay core) (past : List Arrival) (key : Bytes) : Prop :=
  ∃ before a msg, before ++ [a] <+: past ∧ (start.after before).admitted a = some (msg, key)

/-- Attestation is on, and the cache and the location table hold admitted keys
only. -/
structure Attested (keys : core.Attestation → Set Bytes) (start : Relay core)
    (past : List Arrival) (relay : Relay core) : Prop where
  cached : ∃ cache, relay.attestation = some cache ∧
    ∀ key ∈ keys cache, Admitted start past key
  stored : ∀ svc, relay.location = some svc → ∀ key row, svc.store.get key = some row →
    Admitted start past key

variable {start : Relay core} {past : List Arrival} {a : Arrival} {key : Bytes}

theorem Admitted.more (h : Admitted start past key) (a : Arrival) :
    Admitted start (past ++ [a]) key := by
  obtain ⟨before, b, msg, here, admits⟩ := h
  exact ⟨before, b, msg, here.trans (List.prefix_append _ _), admits⟩

/-- A presentation leaves the location service alone. -/
theorem handlePresentation_location (relay : Relay core) (cache : core.Attestation)
    (backhaul : Backhaul) (m : Moment) (raw : Bytes) :
    (relay.handlePresentation cache backhaul m raw).relay.location = relay.location := by
  unfold handlePresentation
  dsimp only
  split
  · rfl
  · split
    · rfl
    · split
      · rfl
      · split <;> rfl

theorem telemetry_of_demux {relay : Relay core} {raw : Bytes}
    (path : relay.demux raw = .telemetry) : isTelemetryFrame raw := by
  unfold demux at path
  split at path
  · assumption
  · split at path
    · cases path
    · split at path <;> cases path

theorem backendProxy_of_demux {relay : Relay core} {raw : Bytes}
    (path : relay.demux raw = .backendProxy) : isBackendProxyFrame raw := by
  unfold demux at path
  split at path
  · cases path
  · split at path
    · assumption
    · split at path <;> cases path

/-- Only an accepted beacon changes the location table, in the row of its
sender. -/
theorem stored_step {relay : Relay core} {svc : LocationService core} {row : LocationRow}
    (after : (relay.step a).location = some svc) (found : svc.store.get key = some row) :
    (∃ before, relay.location = some before ∧ before.store.get key = some row) ∨
    ∃ msg forward, relay.accepted a.moment a.raw = some (msg, forward) ∧ msg.senderKey = key := by
  unfold step handle at after
  cases path : relay.demux a.raw with
  | telemetry =>
    rw [handlePacket_telemetry path] at after
    exact .inl ⟨svc, after, found⟩
  | backendProxy =>
    rw [handlePacket_backendProxy path] at after
    exact .inl ⟨svc, after, found⟩
  | presentation cache =>
    rw [handlePacket_presentation path, handlePresentation_location] at after
    exact .inl ⟨svc, after, found⟩
  | mesh =>
    cases accepts : relay.accepted a.moment a.raw with
    | none =>
      rw [handlePacket_dropped path accepts] at after
      exact .inl ⟨svc, after, found⟩
    | some taken =>
      obtain ⟨msg, forward⟩ := taken
      rw [handlePacket_accepted accepts] at after
      cases here : relay.location with
      | none =>
        have judged : ((relay.judged a.moment a.raw).count .accepted).location = none := here
        obtain ⟨stats, counts⟩ := ((relay.judged a.moment a.raw).count .accepted).relayOnward_counts
          a.moment a.peerId a.raw msg forward a.backhaul
        rw [deliver_none judged, counts] at after
        cases judged.symm.trans after
      | some before =>
        have judged : ((relay.judged a.moment a.raw).count .accepted).location = some before := here
        obtain ⟨stats, counts⟩ := deliver_counts a.moment a.peerId a.raw msg forward a.backhaul
          judged
        rw [counts] at after
        cases after
        have change := before.get_step (.message a.peerId msg a.moment.clocks) key
        rw [LocationService.step, found] at change
        cases beacon : LocationService.beaconOf core key
            (.message a.peerId msg a.moment.clocks) with
        | none =>
          rw [beacon] at change
          exact .inl ⟨before, rfl, change.symm⟩
        | some b =>
          right
          refine ⟨msg, forward, rfl, ?_⟩
          simp only [LocationService.beaconOf] at beacon
          split at beacon
          · rename_i own
            exact own.2
          · cases beacon

/-- **Step.** A sender that is let through was admitted before. -/
theorem Attested.sender {keys : core.Attestation → Set Bytes} (gates : core.Gates keys)
    {relay : Relay core} (held : Attested keys start past relay) {msg : Message}
    {forward : Option Bytes} (accepts : relay.accepted a.moment a.raw = some (msg, forward)) :
    Admitted start past msg.senderKey := by
  obtain ⟨cache, here, admitted⟩ := held.cached
  have delivered := process_of_accepted accepts
  rw [here] at delivered
  exact admitted _ (gates.gate delivered)

theorem attested_step {keys : core.Attestation → Set Bytes} (gates : core.Gates keys)
    (held : Attested keys start past (start.after past)) (a : Arrival) :
    Attested keys start (past ++ [a]) ((start.after past).step a) where
  cached := by
    obtain ⟨cache, here, admitted⟩ := held.cached
    have known (key : Bytes) (mem : key ∈ keys cache) : Admitted start (past ++ [a]) key :=
      (admitted key mem).more a
    by_cases path : ∃ shown, (start.after past).demux a.raw = .presentation shown
    · obtain ⟨shown, path⟩ := path
      cases here.symm.trans (cached_of_demux path)
      rcases handle_presentation path with
        ⟨msg, key, token, admits, returned, after, -⟩ | ⟨-, after, -⟩
      · refine ⟨_, after, fun key' mem => ?_⟩
        rcases gates.caches.accepts _ _ _ _ returned mem with rfl | earlier
        · exact ⟨past, a, msg, List.prefix_refl _, admits⟩
        · exact known key' earlier
      · rcases after with same | ⟨token, refused, after⟩
        · exact ⟨cache, same, known⟩
        · exact ⟨_, after, fun key mem => known key (gates.caches.refuses _ _ _ refused mem)⟩
    · rw [step_attestation fun shown here => path ⟨shown, here⟩]
      exact ⟨cache, here, known⟩
  stored := by
    intro svc after key row found
    rcases stored_step after found with ⟨before, here, row'⟩ | ⟨msg, forward, accepts, rfl⟩
    · exact (held.stored before here key row row').more a
    · exact (held.sender gates accepts).more a

/-- **Only attested senders get through.** A node that boots with attestation
on, an empty cache and an empty location table: whatever arrives, a packet
leads to something only if it is a control frame, if it presents a token that
`add_token` takes, or if a token was admitted for its sender's key before; and
the location table holds rows of such senders only. -/
theorem only_attested {keys : core.Attestation → Set Bytes} (gates : core.Gates keys)
    (start : Relay core) {cache : core.Attestation} (on : start.attestation = some cache)
    (fresh : keys cache = ∅)
    (unlocated : ∀ svc, start.location = some svc → svc.store = .empty)
    (arrivals : List Arrival) :
    (∀ past a, past ++ [a] <+: arrivals →
      ((start.after past).handle a).calls ≠ [] ∨ ((start.after past).handle a).datagrams ≠ [] →
      isTelemetryFrame a.raw ∨ isBackendProxyFrame a.raw ∨
        ((start.after past).admitted a).isSome ∨
        ∃ msg forward, (start.after past).accepted a.moment a.raw = some (msg, forward) ∧
          Admitted start past msg.senderKey) ∧
    ∀ svc key row, (start.after arrivals).location = some svc → svc.store.get key = some row →
      Admitted start arrivals key := by
  have held (past : List Arrival) : Attested keys start past (start.after past) := by
    induction past using List.reverseRecOn with
    | nil =>
      refine ⟨⟨cache, on, ?_⟩, ?_⟩
      · intro key mem
        rw [fresh] at mem
        cases mem
      · intro svc here key row found
        rw [unlocated svc here, LocationStore.get_empty] at found
        cases found
    | append_singleton past a ih =>
      rw [after, Runs.run_append]
      exact attested_step gates ih a
  refine ⟨fun past a _ outward => ?_,
    fun svc key row here => (held arrivals).stored svc here key row⟩
  cases path : (start.after past).demux a.raw with
  | telemetry => exact .inl (telemetry_of_demux path)
  | backendProxy => exact .inr (.inl (backendProxy_of_demux path))
  | presentation shown =>
    rcases handle_presentation path with ⟨msg, key, token, admits, -⟩ | ⟨-, -, -, -, calls, sent, -⟩
    · exact .inr (.inr (.inl (by rw [admits, Option.isSome_some])))
    · rw [calls, sent] at outward
      simp at outward
  | mesh =>
    cases accepts : (start.after past).accepted a.moment a.raw with
    | none =>
      rw [handle, handlePacket_dropped path accepts] at outward
      simp at outward
    | some taken =>
      obtain ⟨msg, forward⟩ := taken
      exact .inr (.inr (.inr ⟨msg, forward, rfl, (held past).sender gates accepts⟩))

end Relay

namespace Sample

/-- The attestation check of a pipeline, after its others. -/
def gatedProcess (seen : List Bytes) (attested : Option (List Bytes)) (raw : Bytes) :
    PipelineResult × List Bytes :=
  match (process seen raw).1 with
  | .drop why => (.drop why, seen)
  | .deliver msg forward =>
    if attested.any fun keys => !keys.contains msg.senderKey then
      (.drop "sender not attested", seen)
    else (.deliver msg forward, msg.msgId :: seen)

def gatingCore : Core :=
  { attestingCore with process := fun seen attested _ raw => gatedProcess seen attested raw }

theorem gatedProcess_attested (seen cache : List Bytes) (raw : Bytes) {msg : Message}
    {forward : Option Bytes} (delivers : (gatedProcess seen (some cache) raw).1 =
      .deliver msg forward) : msg.senderKey ∈ cache := by
  unfold gatedProcess at delivers
  split at delivers
  · cases delivers
  · split at delivers
    · cases delivers
    · rename_i attested
      cases delivers
      simpa using attested

theorem gatingCore_gates :
    gatingCore.Gates fun attested : List Bytes => {key | key ∈ attested} where
  caches := ⟨attestingCore_caches.accepts, attestingCore_caches.refuses⟩
  gate := gatedProcess_attested _ _ _

def gatedRelay : Relay gatingCore := .boot 1 (some []) false none false

/-- A packet for zone 2. -/
def afterwards : Arrival := { presentation target target with raw := packet 3 target 3 2 1 [] }

/-- The packet goes out, and its sender presented a token first. -/
theorem only_attested_presented :
    Relay.Admitted gatedRelay [presentation target target] target := by
  obtain ⟨senders, -⟩ := Relay.only_attested gatingCore_gates gatedRelay rfl
    (by simp) (by intro svc here; cases here) [presentation target target, afterwards]
  have outward :
      ((gatedRelay.after [presentation target target]).handle afterwards).calls ≠ [] := by
    decide +kernel
  rcases senders [presentation target target] afterwards (List.prefix_refl _) (.inl outward) with
    telemetry | proxy | presents | ⟨msg, forward, accepts, admitted⟩
  · exact absurd telemetry (by decide +kernel)
  · exact absurd proxy (by decide +kernel)
  · exact absurd presents (by decide +kernel)
  · have same : msg.senderKey = target := by
      have judged : (gatedRelay.after [presentation target target]).accepted afterwards.moment
          afterwards.raw = some (⟨List.replicate 16 3, 0, target, 2, .other 1, []⟩,
            some (packet 3 target 2 2 1 [])) := by
        decide +kernel
      cases judged.symm.trans accepts
      rfl
    rwa [same] at admitted

end Sample

end MeshlinkNode
