import MeshlinkNode.Relay

/-!
# Whose tokens the attestation cache holds

A presentation says twice whose it is: the envelope is signed by its sender,
and the token in it names a subject. The cache sees the token alone, and the
relay takes whatever key the cache returns.
-/

namespace MeshlinkNode

/-- A packet that arrives, and the moment it finds. -/
structure Arrival where
  backhaul : Backhaul
  moment : Moment
  peerId : PeerId
  raw : Bytes

/-- The keys an `AttestationCache` holds: `add_token` adds the key it returns,
and nothing where it refuses. -/
structure Core.Caches (core : Core) (keys : core.Attestation → Set Bytes) : Prop where
  accepts : ∀ cache now token key, (core.addToken cache now token).1 = some key →
    keys (core.addToken cache now token).2 ⊆ insert key (keys cache)
  refuses : ∀ cache now token, (core.addToken cache now token).1 = none →
    keys (core.addToken cache now token).2 ⊆ keys cache

namespace Relay

variable {core : Core}

def handle (relay : Relay core) (a : Arrival) : Handled core :=
  relay.handlePacket a.backhaul a.moment a.peerId a.raw

def step (relay : Relay core) (a : Arrival) : Relay core := (relay.handle a).relay

/-- The relay after the packets. -/
abbrev after (relay : Relay core) (arrivals : List Arrival) : Relay core :=
  Runs.run step relay arrivals

/-- The message of a presentation that is accepted, and the key that `add_token`
returned for the token in it. -/
def admitted (relay : Relay core) (a : Arrival) : Option (Message × Bytes) :=
  match relay.demux a.raw with
  | .presentation cache =>
    match (core.process relay.presentationPipeline none a.moment.clocks.core a.raw).1 with
    | .deliver msg _ =>
      ((asciiDecode msg.payload).bind fun token =>
        (core.addToken cache a.moment.clocks.core token).1).map fun key => (msg, key)
    | .drop _ => none
  | _ => none

/-- The packet presents, under its sender's signature, a valid token of
somebody else. -/
def PresentsStolen (relay : Relay core) (a : Arrival) : Prop :=
  ∃ cache msg forward token key, relay.demux a.raw = .presentation cache ∧
    (core.process relay.presentationPipeline none a.moment.clocks.core a.raw).1 =
      .deliver msg forward ∧
    asciiDecode msg.payload = some token ∧
    (core.addToken cache a.moment.clocks.core token).1 = some key ∧ key ≠ msg.senderKey

variable {relay : Relay core} {a : Arrival}

theorem presentsStolen_iff : relay.PresentsStolen a ↔
    ∃ msg key, relay.admitted a = some (msg, key) ∧ key ≠ msg.senderKey := by
  unfold PresentsStolen admitted
  constructor
  · rintro ⟨cache, msg, forward, token, key, path, delivered, decoded, valid, stolen⟩
    exact ⟨msg, key, by simp [path, delivered, decoded, valid], stolen⟩
  · rintro ⟨msg, key, some, stolen⟩
    split at some
    · rename_i cache path
      split at some
      · rename_i msg' forward delivered
        obtain ⟨key', valid, same⟩ := Option.map_eq_some_iff.mp some
        cases same
        obtain ⟨token, decoded, valid⟩ := Option.bind_eq_some_iff.mp valid
        exact ⟨cache, msg, forward, token, key, path, delivered, decoded, valid, stolen⟩
      · cases some
    · cases some

/-! ## What a packet does to the cache and the counters -/

theorem fanOut_attestation {m : Moment} {peerId : PeerId} {raw : Bytes} {forward : Option Bytes} :
    (relay.fanOut m peerId raw forward).relay.attestation = relay.attestation := by
  unfold fanOut
  split
  · rfl
  · split
    · rfl
    · split <;> rfl

theorem relayOnward_attestation {backhaul : Backhaul} {m : Moment} {peerId : PeerId} {raw : Bytes}
    {msg : Message} {forward : Option Bytes} :
    (relay.relayOnward backhaul m peerId raw msg forward).relay.attestation =
      relay.attestation := by
  unfold relayOnward
  split
  · exact fanOut_attestation
  · split
    · rfl
    · exact fanOut_attestation

theorem deliver_attestation {backhaul : Backhaul} {m : Moment} {peerId : PeerId} {raw : Bytes}
    {msg : Message} {forward : Option Bytes} :
    (relay.deliver backhaul m peerId raw msg forward).relay.attestation = relay.attestation := by
  unfold deliver
  split
  · exact relayOnward_attestation
  · dsimp only
    split
    · rfl
    · rfl
    · exact relayOnward_attestation

/-- A packet that is no presentation leaves the cache as it was. -/
theorem step_attestation (path : ∀ cache, relay.demux a.raw ≠ .presentation cache) :
    (relay.step a).attestation = relay.attestation := by
  unfold step handle
  cases here : relay.demux a.raw with
  | telemetry => rw [handlePacket_telemetry here]
  | backendProxy => rw [handlePacket_backendProxy here]
  | presentation cache => exact absurd here (path cache)
  | mesh =>
    rw [handlePacket_mesh here]
    unfold handleMesh
    dsimp only
    split
    · rfl
    · exact deliver_attestation

theorem cached_of_demux {cache : core.Attestation}
    (path : relay.demux a.raw = .presentation cache) :
    relay.attestation = some cache := by
  unfold demux at path
  split at path
  · cases path
  · split at path
    · cases path
    · split at path
      · rename_i attested _
        cases path
        exact attested
      · cases path

/-- What a presentation leads to, by whether it is admitted. Its zone's
backhaul call is all that ever goes out. -/
theorem handle_presentation {cache : core.Attestation}
    (path : relay.demux a.raw = .presentation cache) :
    (∃ msg key token, relay.admitted a = some (msg, key) ∧
      (core.addToken cache a.moment.clocks.core token).1 = some key ∧
      (relay.step a).attestation = some (core.addToken cache a.moment.clocks.core token).2 ∧
      (relay.step a).stats .attestationsCached = relay.stats .attestationsCached + 1 ∧
      (relay.handle a).calls = relay.zoneCalls msg.zoneId a.raw) ∨
    (relay.admitted a = none ∧
      ((relay.step a).attestation = some cache ∨
        ∃ token, (core.addToken cache a.moment.clocks.core token).1 = none ∧
          (relay.step a).attestation = some (core.addToken cache a.moment.clocks.core token).2) ∧
      (relay.step a).stats .attestationsCached = relay.stats .attestationsCached ∧
      (relay.step a).stats .dropped = relay.stats .dropped + 1 ∧
      (relay.handle a).calls = [] ∧ (relay.handle a).datagrams = [] ∧
      (relay.handle a).result = .ok ()) := by
  have cached := cached_of_demux path
  unfold step handle admitted
  rw [handlePacket_presentation path, path]
  simp only [handlePresentation, count]
  cases (core.process relay.presentationPipeline none a.moment.clocks.core a.raw).1 with
  | drop why =>
    refine .inr ⟨rfl, .inl cached, ?_, ?_, rfl, rfl, rfl⟩ <;> simp
  | deliver msg forward =>
    simp only
    cases asciiDecode msg.payload with
    | none => refine .inr ⟨rfl, .inl cached, ?_, ?_, rfl, rfl, rfl⟩ <;> simp
    | some token =>
      simp only [Option.bind_some]
      cases valid : (core.addToken cache a.moment.clocks.core token).1 with
      | none => refine .inr ⟨rfl, .inr ⟨token, valid, rfl⟩, ?_, ?_, rfl, rfl, rfl⟩ <;> simp
      | some key =>
        refine .inl ⟨msg, key, token, rfl, valid, ?_, ?_, ?_⟩
        · simp only
          split <;> rfl
        · simp only
          split <;> simp
        · simp only [zoneCalls, zoneCall]
          by_cases all : msg.zoneId = BROADCAST_ZONE
          · simp only [if_pos all]
            rfl
          · by_cases other : msg.zoneId ≠ relay.zoneId
            · simp only [if_neg all, if_pos other]
              rfl
            · simp only [if_neg all, if_neg other]
              rfl

/-- A presentation that is accepted, by any sign of it, presents the sender's
own token: `add_token` returned the key that signed the envelope. -/
def SelfPresented (relay : Relay core) (a : Arrival) : Prop :=
  ∀ cache, relay.demux a.raw = .presentation cache →
    ((relay.admitted a).isSome ∨
      (relay.step a).stats .attestationsCached ≠ relay.stats .attestationsCached ∨
      (relay.handle a).calls ≠ [] ∨ (relay.handle a).datagrams ≠ []) →
    ∃ msg, relay.admitted a = some (msg, msg.senderKey)

theorem selfPresented_iff : relay.SelfPresented a ↔ ¬ relay.PresentsStolen a := by
  rw [presentsStolen_iff]
  constructor
  · rintro own ⟨msg, key, some, stolen⟩
    cases path : relay.demux a.raw with
    | presentation cache =>
      obtain ⟨msg', same⟩ := own cache path (.inl (by simp [some]))
      rw [some] at same
      cases same
      exact stolen rfl
    | telemetry | backendProxy | mesh => simp [admitted, path] at some
  · intro genuine cache path accepts
    rcases handle_presentation path with
      ⟨msg, key, token, some, -⟩ | ⟨none, -, count, -, calls, grams, -⟩
    · refine ⟨msg, some.trans ?_⟩
      by_contra other
      exact genuine ⟨msg, key, some, fun same => other (same ▸ rfl)⟩
    · simp [none, count, calls, grams] at accepts

/-- Every key in the cache was presented by its holder. -/
def PresentedByHolder (keys : core.Attestation → Set Bytes) (start : Relay core)
    (past : List Arrival) (relay : Relay core) : Prop :=
  ∀ cache key, relay.attestation = some cache → key ∈ keys cache →
    ∃ before a msg, before ++ [a] <+: past ∧
      (start.after before).admitted a = some (msg, key) ∧ msg.senderKey = key

theorem PresentedByHolder.more {keys : core.Attestation → Set Bytes} {start : Relay core}
    {past : List Arrival} (held : PresentedByHolder keys start past (start.after past))
    (a : Arrival) {cache : core.Attestation} {key : Bytes}
    (here : (start.after past).attestation = some cache) (mem : key ∈ keys cache) :
    ∃ before b msg, before ++ [b] <+: past ++ [a] ∧
      (start.after before).admitted b = some (msg, key) ∧ msg.senderKey = key := by
  obtain ⟨before, b, msg, first, some, own⟩ := held cache key here mem
  exact ⟨before, b, msg, first.trans (List.prefix_append _ _), some, own⟩

/-- One more packet that presents nothing stolen. -/
theorem presentedByHolder_step {keys : core.Attestation → Set Bytes} (caches : core.Caches keys)
    {start : Relay core} {past : List Arrival}
    (held : PresentedByHolder keys start past (start.after past)) {a : Arrival}
    (genuine : ¬ (start.after past).PresentsStolen a) :
    PresentedByHolder keys start (past ++ [a]) ((start.after past).step a) := by
  intro cache key here mem
  by_cases presents : ∃ before, (start.after past).demux a.raw = .presentation before
  · obtain ⟨before, path⟩ := presents
    have cached := cached_of_demux path
    rcases handle_presentation path with
      ⟨msg, own, token, some, valid, now, -⟩ | ⟨-, unchanged | ⟨token, refused, now⟩, -⟩
    · rw [now] at here
      cases here
      rcases caches.accepts _ _ _ _ valid mem with same | old
      · refine ⟨past, a, msg, List.prefix_rfl, same ▸ some, ?_⟩
        by_contra stolen
        exact genuine (presentsStolen_iff.mpr ⟨msg, own, some, same ▸ Ne.symm stolen⟩)
      · exact held.more a cached old
    · rw [unchanged] at here
      cases here
      exact held.more a cached mem
    · rw [now] at here
      cases here
      exact held.more a cached (caches.refuses _ _ _ refused mem)
  · rw [step_attestation (not_exists.mp presents)] at here
    exact held.more a here mem

theorem presentedByHolder_of_genuine {keys : core.Attestation → Set Bytes}
    (caches : core.Caches keys) {start : Relay core}
    (empty : ∀ cache, start.attestation = some cache → keys cache = ∅) {past : List Arrival}
    (genuine : Runs.Along step (fun relay a => ¬ relay.PresentsStolen a) start past) :
    PresentedByHolder keys start past (start.after past) := by
  induction past using List.reverseRecOn with
  | nil =>
    intro cache key here mem
    rw [empty cache here] at mem
    exact mem.elim
  | append_singleton past a ih =>
    obtain ⟨along, last, -⟩ := Runs.along_append.mp genuine
    have next := presentedByHolder_step caches (ih along) last
    rwa [after, Runs.run_append, Runs.run_cons, Runs.run_nil]

/-- **Whose tokens are accepted.** With a cache that starts empty: in a run,
every presentation that is accepted is its sender's own, and every key in the
cache was presented by its holder, exactly when no packet of the run presents a
valid token of somebody else. -/
theorem self_presented_iff_genuine {keys : core.Attestation → Set Bytes}
    (caches : core.Caches keys) (start : Relay core)
    (empty : ∀ cache, start.attestation = some cache → keys cache = ∅) (arrivals : List Arrival) :
    ((∀ past a, past ++ [a] <+: arrivals → (start.after past).SelfPresented a) ∧
      ∀ past, past <+: arrivals → PresentedByHolder keys start past (start.after past)) ↔
    Runs.Along step (fun relay a => ¬ relay.PresentsStolen a) start arrivals := by
  constructor
  · rintro ⟨own, -⟩
    refine Runs.along_iff.mpr fun past a first => ?_
    exact selfPresented_iff.mp (own past a first)
  · intro genuine
    constructor
    · intro past a first
      exact selfPresented_iff.mpr (Runs.along_iff.mp genuine past a first)
    · rintro past ⟨rest, rfl⟩
      exact presentedByHolder_of_genuine caches empty (Runs.along_append.mp genuine).1

end Relay

namespace Sample

/-- A cache that takes every 32-character token for the key it spells. -/
def attestingCore : Core :=
  { core with
    addToken := fun attested _ token =>
      if token.length = 32 then
        (some (token.map UInt8.ofNat), token.map UInt8.ofNat :: attested)
      else (none, attested) }

theorem attestingCore_caches :
    attestingCore.Caches fun attested : List Bytes => {key | key ∈ attested} := by
  constructor
  · intro cache now token key valid
    simp only [attestingCore] at valid ⊢
    split at valid
    · rename_i whole
      cases valid
      rw [if_pos whole]
      intro k mem
      exact List.mem_cons.mp mem
    · cases valid
  · intro cache now token refused
    simp only [attestingCore] at refused ⊢
    split at refused
    · cases refused
    · rename_i other
      rw [if_neg other]

def attestingRelay : Relay attestingCore := .boot 1 (some []) false none false

/-- A presentation in zone 2, with the token that names `subject`. -/
def presentation (sender subject : Bytes) : Arrival where
  backhaul := .loggingStub
  moment := ⟨⟨0, 0, 0⟩, 0, [], List.nodup_nil, .up⟩
  peerId := "phoneA"
  raw := packet 1 sender 3 2 6 subject

/-- One user presents the other's token: the key is cached, counted and spread. -/
theorem stolen_token_accepted :
    ¬ attestingRelay.SelfPresented (presentation requester target) ∧
    ¬ Relay.PresentedByHolder (fun attested : List Bytes => {key | key ∈ attested})
      attestingRelay [presentation requester target]
      (attestingRelay.after [presentation requester target]) := by
  have keys : (attestingRelay.admitted (presentation requester target)).map
      (fun both => (both.1.senderKey, both.2)) = some (requester, target) := by decide +kernel
  obtain ⟨⟨msg, key⟩, accepted, both⟩ := Option.map_eq_some_iff.mp keys
  obtain ⟨sender, subject⟩ : msg.senderKey = requester ∧ key = target := Prod.mk.inj both
  have other : key ≠ msg.senderKey := by
    rw [sender, subject]
    decide
  constructor
  · rw [Relay.selfPresented_iff, not_not]
    exact Relay.presentsStolen_iff.mpr ⟨msg, key, accepted, other⟩
  · intro held
    have cached : (attestingRelay.after [presentation requester target]).attestation.map
        (fun attested : List Bytes => decide (target ∈ attested)) = some true := by decide +kernel
    obtain ⟨cache, here, mem⟩ := Option.map_eq_some_iff.mp cached
    obtain ⟨before, a, msg', first, accepted', own⟩ :=
      held cache target here (of_decide_eq_true mem)
    have short := first.length_le
    cases before with
    | cons b before => simp at short
    | nil =>
      obtain ⟨rfl, -⟩ := List.cons_prefix_cons.mp first
      have same := accepted.symm.trans accepted'
      cases same
      exact other (subject.trans own.symm)

theorem own_token_genuine :
    ((∀ past a, past ++ [a] <+: [presentation target target] →
        (attestingRelay.after past).SelfPresented a) ∧
      ∀ past, past <+: [presentation target target] →
        Relay.PresentedByHolder (fun attested : List Bytes => {key | key ∈ attested})
          attestingRelay past (attestingRelay.after past)) ↔
    Runs.Along Relay.step (fun relay a => ¬ relay.PresentsStolen a) attestingRelay
      [presentation target target] :=
  Relay.self_presented_iff_genuine attestingCore_caches attestingRelay
    (by rintro cache ⟨⟩; simp) [presentation target target]

end Sample

end MeshlinkNode
