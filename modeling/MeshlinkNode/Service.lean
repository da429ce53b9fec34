import MeshlinkNode.Authz
import MeshlinkNode.Lib.Runs

/-!
# Node-terminated location traffic

`LocationService` sits behind the pipeline: it stores beacons, answers queries
over the session they came in on, and feeds revocations to the authorisation.
-/

namespace MeshlinkNode

def RESPONSE_TTL : Nat := 3

def RESPONSE_SPRAY_L : Nat := 8

structure LocationService (core : Core) where
  store : LocationStore
  authz : LocationAuthz
  directory : DirectoryCache core
  identity : core.Identity
  ephemId : Bytes
  zoneId : Int

/-- What the clocks show while one message is handled: `authz._clock`,
`store._clock` and the clock of meshlink-core. -/
structure Clocks where
  authz : Seconds
  store : Seconds
  core : Seconds
  deriving DecidableEq

namespace LocationService

variable {core : Core}

/-- An empty table, an empty authorisation, and the directory read from disk. -/
def boot (minIntervalS : Seconds) (directory : DirectoryCache core) (identity : core.Identity)
    (ephemId : Bytes) (zoneId : Int) : LocationService core :=
  ⟨.empty, .empty minIntervalS, directory, identity, ephemId, zoneId⟩

def ingestBeacon (svc : LocationService core) (msg : Message) (clocks : Clocks) :
    LocationService core :=
  match core.decodeLocationBeacon msg.payload with
  | none => svc
  | some (lat, lon, accuracyM) =>
    { svc with
      store := svc.store.update msg.senderKey lat lon accuracyM msg.zoneId clocks.store }

/-- The authorisation's answer to a query. -/
def answer (svc : LocationService core) (msg : Message) (clocks : Clocks) : Reply × LocationAuthz :=
  LocationAuthz.handleQuery core svc.directory svc.store svc.authz msg clocks.authz clocks.store

def responsePacket (svc : LocationService core) (clocks : Clocks) (response : Bytes) : Bytes :=
  core.buildSignedPacket svc.identity clocks.core
    { ephemId := svc.ephemId
      ttl := RESPONSE_TTL
      sprayL := RESPONSE_SPRAY_L
      zoneId := svc.zoneId
      msgType := .locationResponse
      payload := response }

/-- How `handle_node_terminated` leaves the service, what it sends, and what it
returns or raises. -/
structure Terminated (core : Core) where
  service : LocationService core
  sent : List (PeerId × Bytes)
  result : Except PyExc Bool

def handleNodeTerminated (svc : LocationService core) (peerId : PeerId) (msg : Message)
    (clocks : Clocks) : Terminated core :=
  match msg.msgType with
  | .location => ⟨svc.ingestBeacon msg clocks, [], .ok true⟩
  | .locationQuery =>
    let after := { svc with authz := (svc.answer msg clocks).2 }
    match (svc.answer msg clocks).1 with
    | .refused _ => ⟨after, [], .ok false⟩
    | .served _ response => ⟨after, [(peerId, svc.responsePacket clocks response)], .ok false⟩
    | .raised exc => ⟨after, [], .error exc⟩
  | .locationRevoke =>
    ⟨{ svc with authz := (LocationAuthz.handleRevoke core svc.authz msg).2 }, [], .ok false⟩
  | _ => ⟨svc, [], .ok false⟩

theorem terminated_beacon (svc : LocationService core) (peerId : PeerId) {msg : Message}
    (clocks : Clocks) (h : msg.msgType = .location) :
    (svc.handleNodeTerminated peerId msg clocks).sent = [] ∧
    (svc.handleNodeTerminated peerId msg clocks).result = .ok true := by
  simp only [handleNodeTerminated, h, and_self]

/-- A query is consumed by nothing but an exception. -/
theorem terminated_query (svc : LocationService core) (peerId : PeerId) {msg : Message}
    (clocks : Clocks) (h : msg.msgType = .locationQuery) :
    (svc.handleNodeTerminated peerId msg clocks).sent =
      (match (svc.answer msg clocks).1 with
        | .served _ response => [(peerId, svc.responsePacket clocks response)]
        | _ => []) ∧
    (svc.handleNodeTerminated peerId msg clocks).result =
      (match (svc.answer msg clocks).1 with
        | .raised exc => .error exc
        | _ => .ok false) := by
  simp only [handleNodeTerminated, h]
  cases (svc.answer msg clocks).1 <;> exact ⟨rfl, rfl⟩

theorem terminated_other (svc : LocationService core) (peerId : PeerId) {msg : Message}
    (clocks : Clocks) (hb : msg.msgType ≠ .location) (hq : msg.msgType ≠ .locationQuery) :
    (svc.handleNodeTerminated peerId msg clocks).sent = [] ∧
    (svc.handleNodeTerminated peerId msg clocks).result = .ok false := by
  by_cases hr : msg.msgType = .locationRevoke
  · simp only [handleNodeTerminated, hr, and_self]
  · simp only [handleNodeTerminated, and_self]

/-! ## Runs -/

inductive Input where
  | message (peerId : PeerId) (msg : Message) (clocks : Clocks)
  | refresh (response : Except PyExc Json)

def step (svc : LocationService core) : Input → LocationService core
  | .message peerId msg clocks => (svc.handleNodeTerminated peerId msg clocks).service
  | .refresh response => { svc with directory := (svc.directory.refresh response).1 }

abbrev after (svc : LocationService core) (inputs : List Input) : LocationService core :=
  Runs.run step svc inputs

@[simp] theorem step_query (svc : LocationService core) (peerId : PeerId) {msg : Message}
    (clocks : Clocks) (h : msg.msgType = .locationQuery) :
    svc.step (.message peerId msg clocks) = { svc with authz := (svc.answer msg clocks).2 } := by
  simp only [step, handleNodeTerminated, h]
  cases (svc.answer msg clocks).1 <;> rfl

@[simp] theorem step_beacon (svc : LocationService core) (peerId : PeerId) {msg : Message}
    (clocks : Clocks) (h : msg.msgType = .location) :
    svc.step (.message peerId msg clocks) = svc.ingestBeacon msg clocks := by
  simp only [step, handleNodeTerminated, h]

@[simp] theorem step_revoke (svc : LocationService core) (peerId : PeerId) {msg : Message}
    (clocks : Clocks) (h : msg.msgType = .locationRevoke) :
    svc.step (.message peerId msg clocks) =
      { svc with authz := (LocationAuthz.handleRevoke core svc.authz msg).2 } := by
  simp only [step, handleNodeTerminated, h]

/-- Messages of every other type pass the service by. -/
theorem step_other (svc : LocationService core) (peerId : PeerId) {msg : Message}
    (clocks : Clocks) (hb : msg.msgType ≠ .location) (hq : msg.msgType ≠ .locationQuery)
    (hr : msg.msgType ≠ .locationRevoke) : svc.step (.message peerId msg clocks) = svc := by
  simp only [step, handleNodeTerminated]

/-- Only queries take slots, and only a refresh replaces the directory. -/
theorem step_not_query (svc : LocationService core) (peerId : PeerId) {msg : Message}
    (clocks : Clocks) (hq : msg.msgType ≠ .locationQuery) :
    (svc.step (.message peerId msg clocks)).directory = svc.directory ∧
    (svc.step (.message peerId msg clocks)).authz.minIntervalS = svc.authz.minIntervalS ∧
    (svc.step (.message peerId msg clocks)).authz.lastQuery = svc.authz.lastQuery := by
  by_cases hb : msg.msgType = .location
  · rw [step_beacon svc peerId clocks hb, ingestBeacon]
    split <;> exact ⟨rfl, rfl, rfl⟩
  · by_cases hr : msg.msgType = .locationRevoke
    · rw [step_revoke svc peerId clocks hr]
      rcases LocationAuthz.handleRevoke_cases core svc.authz msg with ⟨_, _, _, adds⟩ | same
      · rw [adds]
        exact ⟨rfl, rfl, rfl⟩
      · rw [same]
        exact ⟨rfl, rfl, rfl⟩
    · rw [step_other svc peerId clocks hb hq hr]
      exact ⟨rfl, rfl, rfl⟩

/-! ## The history a state stands for -/

/-- A beacon that was stored: its message, the decoded coordinate, and the
store's clock at its arrival. -/
structure Beacon where
  msg : Message
  latMicrodeg : Int
  lonMicrodeg : Int
  accuracyM : Int
  arrival : Seconds
  deriving DecidableEq

def Beacon.row (b : Beacon) : LocationRow :=
  ⟨b.latMicrodeg, b.lonMicrodeg, b.accuracyM, b.msg.zoneId, b.arrival⟩

variable (core)

/-- The well-formed beacon of `identity` an input carries, if it is one. -/
def beaconOf (identity : Bytes) : Input → Option Beacon
  | .message _ msg clocks =>
    if msg.msgType = .location ∧ msg.senderKey = identity then
      (core.decodeLocationBeacon msg.payload).map fun (lat, lon, acc) =>
        ⟨msg, lat, lon, acc, clocks.store⟩
    else none
  | .refresh _ => none

/-- The beacons of `identity` in a run, the latest arrival last. -/
def beacons (identity : Bytes) (inputs : List Input) : List Beacon :=
  inputs.filterMap (beaconOf core identity)

/-- The key a LOCATION_REVOKE revokes, if its sender may. -/
def revocationOf : Input → Option RevocationKey
  | .message _ msg _ =>
    if msg.msgType = .locationRevoke then
      match core.decodeLocationRevoke msg.payload with
      | none => none
      | some payload =>
        if core.pubkeyId msg.senderKey = payload.issuerPubkeyId then some payload.revocationKey
        else none
    else none
  | .refresh _ => none

def revocations (inputs : List Input) : List RevocationKey :=
  inputs.filterMap (revocationOf core)

variable {core}

theorem beacons_snoc (identity : Bytes) (past : List Input) (input : Input) :
    beacons core identity (past ++ [input]) =
      beacons core identity past ++ (beaconOf core identity input).toList := by
  rw [beacons, List.filterMap_append]
  cases h : beaconOf core identity input <;> simp [h, beacons]

theorem revocations_snoc (past : List Input) (input : Input) :
    revocations core (past ++ [input]) =
      revocations core past ++ (revocationOf core input).toList := by
  rw [revocations, List.filterMap_append]
  cases h : revocationOf core input <;> simp [h, revocations]

theorem get_step (svc : LocationService core) (input : Input) (identity : Bytes) :
    (svc.step input).store.get identity =
      ((beaconOf core identity input).map Beacon.row).or (svc.store.get identity) := by
  cases input with
  | refresh response => simp [step, beaconOf]
  | message peerId msg clocks =>
    by_cases hb : msg.msgType = .location
    · rw [step_beacon svc peerId clocks hb, ingestBeacon]
      cases hd : core.decodeLocationBeacon msg.payload with
      | none => simp [beaconOf, hd]
      | some coord =>
        obtain ⟨lat, lon, acc⟩ := coord
        by_cases mine : msg.senderKey = identity
        · subst mine
          simp [beaconOf, hb, hd, Beacon.row]
        · simp [beaconOf, mine, LocationStore.get_update_ne _ _ _ _ _ _ (Ne.symm mine)]
    · have none : beaconOf core identity (.message peerId msg clocks) = none := by
        simp [beaconOf, hb]
      have same : (svc.step (.message peerId msg clocks)).store = svc.store := by
        by_cases hq : msg.msgType = .locationQuery
        · rw [step_query svc peerId clocks hq]
        · by_cases hr : msg.msgType = .locationRevoke
          · rw [step_revoke svc peerId clocks hr]
          · rw [step_other svc peerId clocks hb hq hr]
      rw [none, same, Option.map_none, Option.none_or]

theorem mem_revoked_step (svc : LocationService core) (input : Input) (key : RevocationKey) :
    key ∈ (svc.step input).authz.revoked ↔
      revocationOf core input = some key ∨ key ∈ svc.authz.revoked := by
  cases input with
  | refresh response => simp [step, revocationOf]
  | message peerId msg clocks =>
    by_cases hr : msg.msgType = .locationRevoke
    · rw [step_revoke svc peerId clocks hr]
      rcases LocationAuthz.handleRevoke_cases core svc.authz msg with
        ⟨payload, decoded, issuer, adds⟩ | same
      · simp [adds, revocationOf, hr, decoded, issuer, eq_comm]
      · have none : revocationOf core (.message peerId msg clocks) = none := by
          simp only [revocationOf, hr, if_true]
          cases hd : core.decodeLocationRevoke msg.payload with
          | none => rfl
          | some payload =>
            have other : ¬ core.pubkeyId msg.senderKey = payload.issuerPubkeyId := by
              intro issuer
              simp [LocationAuthz.handleRevoke, hd, issuer] at same
            simp [other]
        simp [same, none]
    · have none : revocationOf core (.message peerId msg clocks) = none := by
        simp [revocationOf, hr]
      have same : (svc.step (.message peerId msg clocks)).authz.revoked = svc.authz.revoked := by
        by_cases hq : msg.msgType = .locationQuery
        · rw [step_query svc peerId clocks hq]
          exact LocationAuthz.handleQuery_revoked
        · by_cases hb : msg.msgType = .location
          · rw [step_beacon svc peerId clocks hb, ingestBeacon]
            split <;> rfl
          · rw [step_other svc peerId clocks hb hq hr]
      rw [none, same]
      simp

/-- **The store stands for the last beacons**: an identity's row is that of its
last stored beacon. -/
theorem store_after (svc : LocationService core) (start : svc.store = .empty)
    (inputs : List Input) (identity : Bytes) :
    (svc.after inputs).store.get identity =
      (beacons core identity inputs).getLast?.map Beacon.row := by
  apply Runs.history fun past (s : LocationService core) =>
    s.store.get identity = (beacons core identity past).getLast?.map Beacon.row
  · simp [start, beacons]
  · intro past s input ih
    rw [get_step, ih, beacons_snoc]
    cases beaconOf core identity input <;> simp

/-- **The revocation set stands for the accepted revocations.** -/
theorem revoked_after (svc : LocationService core) (start : svc.authz.revoked = ∅)
    (inputs : List Input) (key : RevocationKey) :
    key ∈ (svc.after inputs).authz.revoked ↔ key ∈ revocations core inputs := by
  apply Runs.history fun past (s : LocationService core) =>
    key ∈ s.authz.revoked ↔ key ∈ revocations core past
  · simp [start, revocations]
  · intro past s input ih
    rw [mem_revoked_step, ih, revocations_snoc, List.mem_append, Option.mem_toList]
    exact or_comm

end LocationService

end MeshlinkNode
