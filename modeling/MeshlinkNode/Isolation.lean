import MeshlinkNode.Service

/-!
# Third parties cannot touch a grant

What decides whether a requester gets a target's coordinate is one rate-limit
slot, the revocations in the target's name and the target's rows. Only the
requester writes the first, and only the target the others; everybody else can
be deleted from a run without changing an answer.
-/

namespace MeshlinkNode.LocationService

variable {core : Core}

/-- One handled message. -/
structure Delivery where
  peerId : PeerId
  msg : Message
  clocks : Clocks
  deriving DecidableEq

def receive (svc : LocationService core) (d : Delivery) : LocationService core :=
  svc.step (.message d.peerId d.msg d.clocks)

/-- The token a query carries. -/
def tokenOf (core : Core) (msg : Message) : Option Token :=
  (core.decodeLocationQuery msg.payload).bind core.parseCapabilityToken

/-- What the service answers to `R`'s queries with tokens issued by `T`. -/
def outcome (R T : Bytes) (svc : LocationService core) (d : Delivery) : Option Reply :=
  if d.msg.msgType = .locationQuery ∧ d.msg.senderKey = R ∧
      (tokenOf core d.msg).map Token.issuerPubkeyId = some (core.pubkeyId T) then
    some (svc.answer d.msg d.clocks).1
  else none

/-- The sender goes by the id of `R` or of `T`. -/
def involves (core : Core) (R T : Bytes) (d : Delivery) : Bool :=
  core.pubkeyId d.msg.senderKey = core.pubkeyId R ||
    core.pubkeyId d.msg.senderKey = core.pubkeyId T

/-- Two states that treat `R`'s queries for `T` alike: the same directory,
`R`'s slot for `T`, `T`'s revocations and `T`'s rows. -/
structure Alike (R T : Bytes) (s t : LocationService core) : Prop where
  directory : s.directory = t.directory
  interval : s.authz.minIntervalS = t.authz.minIntervalS
  slot : s.authz.lastQuery.lookup (core.pubkeyId R, core.pubkeyId T) =
    t.authz.lastQuery.lookup (core.pubkeyId R, core.pubkeyId T)
  revoked : ∀ key : RevocationKey, key.issuerPubkeyId = core.pubkeyId T →
    (key ∈ s.authz.revoked ↔ key ∈ t.authz.revoked)
  row : ∀ key, core.pubkeyId key = core.pubkeyId T → s.store.get key = t.store.get key

variable {R T : Bytes} {s t u : LocationService core}

theorem Alike.refl (s : LocationService core) : Alike R T s s :=
  ⟨rfl, rfl, rfl, fun _ _ => Iff.rfl, fun _ _ => rfl⟩

theorem Alike.trans (h : Alike R T s t) (k : Alike R T t u) : Alike R T s u :=
  ⟨h.directory.trans k.directory, h.interval.trans k.interval, h.slot.trans k.slot,
    fun key hk => (h.revoked key hk).trans (k.revoked key hk),
    fun key hk => (h.row key hk).trans (k.row key hk)⟩

/-- A query of a pair other than (`R`, `T`) leaves their slot alone. -/
theorem answer_slot_ne (svc : LocationService core) {msg : Message} (clocks : Clocks)
    {pair : Bytes × Bytes}
    (other : ∀ g, LocationAuthz.authenticate core svc.directory msg = .ok g → g.pair ≠ pair) :
    (svc.answer msg clocks).2.lastQuery.lookup pair = svc.authz.lastQuery.lookup pair := by
  rcases LocationAuthz.handleQuery_state svc.directory svc.store svc.authz msg clocks.authz
    clocks.store with same | ⟨g, auth, slot⟩
  · rw [answer, same]
  · rw [answer, slot]
    exact AList.lookup_insert_ne (Ne.symm (other g auth))

/-- A query of the pair (`R`, `T`) is decided alike and moves their slot alike. -/
theorem answer_alike (lawful : core.KeysNameIssuer) (h : Alike R T s t) {msg : Message}
    (clocks : Clocks) {g : Grant} (auth : LocationAuthz.authenticate core s.directory msg = .ok g)
    (pair : g.pair = (core.pubkeyId R, core.pubkeyId T)) :
    (s.answer msg clocks).1 = (t.answer msg clocks).1 ∧
    (s.answer msg clocks).2.lastQuery.lookup (core.pubkeyId R, core.pubkeyId T) =
      (t.answer msg clocks).2.lastQuery.lookup (core.pubkeyId R, core.pubkeyId T) := by
  have issuer : g.token.issuerPubkeyId = core.pubkeyId T := congrArg Prod.snd pair
  have target : core.pubkeyId g.target = core.pubkeyId T :=
    (LocationAuthz.authenticate_target auth).trans issuer
  have unrevoked := h.revoked (core.revocationKey g.token) ((lawful.token _).trans issuer)
  have verify : LocationAuthz.verify core s.authz g msg.senderKey clocks.authz =
      LocationAuthz.verify core t.authz g msg.senderKey clocks.authz := by
    simp only [LocationAuthz.verify, unrevoked]
  have row : LocationAuthz.readRow s.store g = LocationAuthz.readRow t.store g := by
    simp only [LocationAuthz.readRow, h.row g.target target]
  have auth' : LocationAuthz.authenticate core t.directory msg = .ok g := h.directory ▸ auth
  simp only [answer, LocationAuthz.handleQuery, auth, auth', verify, row]
  cases LocationAuthz.verify core t.authz g msg.senderKey clocks.authz with
  | error r => exact ⟨rfl, h.slot⟩
  | ok =>
    have spacing : clocks.authz - (s.authz.lastQuery.lookup g.pair).getD 0 =
        clocks.authz - (t.authz.lastQuery.lookup g.pair).getD 0 := by
      rw [pair, h.slot]
    rcases lt_or_ge (clocks.authz - (t.authz.lastQuery.lookup g.pair).getD 0)
      t.authz.minIntervalS with soon | spaced
    · have soon' := soon
      rw [← spacing, ← h.interval] at soon'
      rw [LocationAuthz.takeSlot_soon soon, LocationAuthz.takeSlot_soon soon']
      exact ⟨rfl, h.slot⟩
    · have spaced' := spaced
      rw [← spacing, ← h.interval] at spaced'
      rw [LocationAuthz.takeSlot_ok.mpr ⟨spaced, rfl⟩, LocationAuthz.takeSlot_ok.mpr ⟨spaced', rfl⟩]
      cases LocationAuthz.readRow t.store g with
      | error r =>
        constructor
        · rfl
        · rw [← pair, AList.lookup_insert, AList.lookup_insert]
      | ok row =>
        constructor
        · exact congrArg (LocationAuthz.respond core · g row clocks.store) h.directory
        · rw [← pair, AList.lookup_insert, AList.lookup_insert]

/-- The pair of an authenticated query is (sender id, issuer id). -/
theorem pair_of_authenticate {directory : DirectoryCache core} {msg : Message} {g : Grant}
    (auth : LocationAuthz.authenticate core directory msg = .ok g) :
    g.pair = (core.pubkeyId msg.senderKey, g.token.issuerPubkeyId) := by
  rw [Grant.pair, (LocationAuthz.authenticate_ok auth).2.2.2.1]

theorem receive_query {d : Delivery} (hq : d.msg.msgType = .locationQuery) :
    s.receive d = { s with authz := (s.answer d.msg d.clocks).2 } :=
  step_query s d.peerId d.clocks hq

/-- **Step, sender kept.** Both states take the same message alike. -/
theorem alike_kept (lawful : core.KeysNameIssuer) (h : Alike R T s t) (d : Delivery) :
    Alike R T (s.receive d) (t.receive d) := by
  by_cases hq : d.msg.msgType = .locationQuery
  · rw [receive_query hq, receive_query hq]
    constructor
    · exact h.directory
    · simp only [answer, LocationAuthz.handleQuery_minInterval]
      exact h.interval
    · by_cases mine : ∃ g, LocationAuthz.authenticate core s.directory d.msg = .ok g ∧
          g.pair = (core.pubkeyId R, core.pubkeyId T)
      · obtain ⟨g, auth, pair⟩ := mine
        exact (answer_alike lawful h d.clocks auth pair).2
      · have other : ∀ g, LocationAuthz.authenticate core s.directory d.msg = .ok g →
            g.pair ≠ (core.pubkeyId R, core.pubkeyId T) :=
          fun g auth pair => mine ⟨g, auth, pair⟩
        rw [answer_slot_ne s d.clocks other, answer_slot_ne t d.clocks (h.directory ▸ other)]
        exact h.slot
    · intro key hk
      simp only [answer, LocationAuthz.handleQuery_revoked]
      exact h.revoked key hk
    · exact h.row
  · obtain ⟨sd, si, sq⟩ := step_not_query s d.peerId d.clocks hq
    obtain ⟨td, ti, tq⟩ := step_not_query t d.peerId d.clocks hq
    constructor
    · rw [receive, receive, sd, td, h.directory]
    · rw [receive, receive, si, ti, h.interval]
    · rw [receive, receive, sq, tq, h.slot]
    · intro key hk
      rw [receive, receive, mem_revoked_step, mem_revoked_step, h.revoked key hk]
    · intro key hk
      rw [receive, receive, get_step, get_step, h.row key hk]

/-- **Step, sender dropped.** A third party's message leaves the state alike. -/
theorem alike_dropped (lawful : core.KeysNameIssuer) (svc : LocationService core) (d : Delivery)
    (third : involves core R T d = false) : Alike R T (svc.receive d) svc := by
  simp only [involves, Bool.or_eq_false_iff, decide_eq_false_iff_not] at third
  obtain ⟨notR, notT⟩ := third
  have rows : ∀ key, core.pubkeyId key = core.pubkeyId T →
      (svc.receive d).store.get key = svc.store.get key := by
    intro key hk
    have other : d.msg.senderKey ≠ key := fun same => notT (same ▸ hk)
    rw [receive, get_step]
    simp [beaconOf, other]
  have keys : ∀ key : RevocationKey, key.issuerPubkeyId = core.pubkeyId T →
      (key ∈ (svc.receive d).authz.revoked ↔ key ∈ svc.authz.revoked) := by
    intro key hk
    rw [receive, mem_revoked_step]
    apply or_iff_right
    intro revokes
    simp only [revocationOf] at revokes
    split at revokes
    · split at revokes
      · cases revokes
      · rename_i payload decoded
        split at revokes
        · rename_i issuer
          cases revokes
          exact notT (by rw [issuer, ← lawful.payload decoded, hk])
        · cases revokes
    · cases revokes
  by_cases hq : d.msg.msgType = .locationQuery
  · refine ⟨by rw [receive_query hq], ?_, ?_, keys, rows⟩
    · rw [receive_query hq, answer, LocationAuthz.handleQuery_minInterval]
    · rw [receive_query hq]
      apply answer_slot_ne
      intro g auth pair
      rw [pair_of_authenticate auth] at pair
      exact notR (congrArg Prod.fst pair)
  · obtain ⟨directory, interval, slots⟩ := step_not_query svc d.peerId d.clocks hq
    exact ⟨directory, interval, by rw [receive, slots], keys, rows⟩

/-- Alike states answer `R`'s queries for `T` alike. -/
theorem outcome_alike (lawful : core.KeysNameIssuer) (h : Alike R T s t) (d : Delivery) :
    outcome R T s d = outcome R T t d := by
  unfold outcome
  split
  · rename_i mine
    obtain ⟨-, sender, issued⟩ := mine
    congr 1
    cases auth : LocationAuthz.authenticate core s.directory d.msg with
    | error r =>
      have auth' : LocationAuthz.authenticate core t.directory d.msg = .error r :=
        h.directory ▸ auth
      simp only [answer, LocationAuthz.handleQuery, auth, auth']
    | ok g =>
      apply And.left
      apply answer_alike lawful h d.clocks auth
      obtain ⟨decoded, parsed, -⟩ := LocationAuthz.authenticate_ok auth
      simp only [tokenOf, decoded, Option.bind_some, parsed, Option.map_some,
        Option.some.injEq] at issued
      rw [pair_of_authenticate auth, sender, issued]
  · rfl

/-- **Non-interference.** Over a fixed directory, deleting from a run every
message whose sender goes by neither id changes no answer to `R`'s queries with
tokens of `T`, and leaves `R`'s slot for `T`, `T`'s revocations and `T`'s rows
as they were. -/
theorem third_parties_erased (lawful : core.KeysNameIssuer) (R T : Bytes)
    (svc : LocationService core) (ds : List Delivery) :
    Runs.outputs receive (outcome R T) svc ds =
      Runs.outputs receive (outcome R T) svc (ds.filter (involves core R T)) ∧
    Alike R T (Runs.run receive svc ds)
      (Runs.run receive svc (ds.filter (involves core R T))) := by
  have kept : ∀ s t d, Alike R T s t → involves core R T d = true →
      Alike R T (s.receive d) (t.receive d) := fun s t d h _ => alike_kept lawful h d
  have dropped : ∀ s t d, Alike R T s t → involves core R T d = false →
      Alike R T (s.receive d) t := fun s t d h third => (alike_dropped lawful s d third).trans h
  constructor
  · apply Runs.outputs_erase kept dropped
    · intro s t d h _
      exact outcome_alike lawful h d
    · intro svc d third
      have other : d.msg.senderKey ≠ R := by
        rintro rfl
        simp [involves] at third
      simp [outcome, other]
    · exact Alike.refl svc
  · exact Runs.run_erase kept dropped ds (Alike.refl svc)

/-- A node that knows the target and the requester. -/
def acquainted : LocationService Sample.core :=
  (boot 60 (.empty Sample.core) () [] 3).after
    [.refresh (.ok (Sample.users [Sample.targetRow, Sample.requesterRow]))]

/-- A stranger beacons, replays the token and tries to revoke it before the
requester's query is served. -/
def strangerTries : List Delivery :=
  [⟨"phone", ⟨[1], 100, Sample.target, 3, .location, [7, 8, 9]⟩, ⟨100, 100, 100⟩⟩,
    ⟨"phone", ⟨[2], 110, List.replicate 32 9, 3, .location, [1, 1, 1]⟩, ⟨110, 110, 110⟩⟩,
    ⟨"phone", ⟨[3], 120, List.replicate 32 9, 3, .locationQuery, Sample.token⟩, ⟨120, 120, 120⟩⟩,
    ⟨"phone", ⟨[4], 130, List.replicate 32 9, 3, .locationRevoke, Sample.token⟩, ⟨130, 130, 130⟩⟩,
    ⟨"phone", ⟨[5], 140, Sample.requester, 3, .locationQuery, Sample.token⟩, ⟨140, 140, 140⟩⟩]

theorem third_parties_erased_sample :
    Runs.outputs receive (outcome Sample.requester Sample.target) acquainted strangerTries =
      [.served ⟨Sample.target.take 8, 7, 8, 9, 40, 3⟩
        (Sample.requester.take 8 ++ List.replicate 32 0x33 ++ [7, 8])] ∧
    Runs.outputs receive (outcome Sample.requester Sample.target) acquainted strangerTries =
      Runs.outputs receive (outcome Sample.requester Sample.target) acquainted
        (strangerTries.filter (involves Sample.core Sample.requester Sample.target)) := by
  constructor
  · decide +kernel
  · exact (third_parties_erased Sample.core_keysNameIssuer Sample.requester Sample.target
      acquainted strangerTries).1

end MeshlinkNode.LocationService
