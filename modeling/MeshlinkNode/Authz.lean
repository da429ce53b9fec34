import MeshlinkNode.Directory
import MeshlinkNode.Store
import Mathlib.Data.Finset.Insert
import Mathlib.Algebra.Order.Ring.Rat

/-!
# Capability enforcement for LOCATION_QUERY

`handle_query` is a chain of checks, cut here where another thread can come
between them: the lookups before the clock is read (`authenticate`), the token
and revocation checks (`verify`), the check-and-set of the query slot under the
lock (`takeSlot`), the store read (`readRow`), and the sealing (`respond`).
-/

namespace MeshlinkNode

/-- The reasons `_refuse` logs. Nothing else tells them apart. -/
inductive Refusal where
  | malformed
  | notGrantee
  | unknownIssuer
  | notVerified
  | revoked
  | rateLimited
  | noBeacon
  | unknownRequester
  deriving DecidableEq, Repr

def Refusal.reason : Refusal → String
  | .malformed => "malformed query"
  | .notGrantee => "sender is not the grantee"
  | .unknownIssuer => "issuer not in directory"
  | .notVerified => "token verification failed"
  | .revoked => "token revoked"
  | .rateLimited => "query rate limit"
  | .noBeacon => "no beacon for target"
  | .unknownRequester => "requester not in directory"

/-- How a call of `handle_query` ends: `None`, the response bytes (with the
payload before sealing), or an exception. -/
inductive Reply where
  | refused (why : Refusal)
  | served (payload : LocationResponsePayload) (response : Bytes)
  | raised (exc : PyExc)
  deriving DecidableEq

/-- What `handle_query` has established before it reads the clock. -/
structure Grant where
  rawToken : Bytes
  token : Token
  requesterId : Bytes
  target : Bytes
  deriving DecidableEq

/-- The rate-limit key (requester id, issuer id). -/
def Grant.pair (g : Grant) : Bytes × Bytes := (g.requesterId, g.token.issuerPubkeyId)

structure LocationAuthz where
  minIntervalS : Seconds
  revoked : Finset RevocationKey
  lastQuery : Dict (Bytes × Bytes) Seconds

namespace LocationAuthz

def empty (minIntervalS : Seconds) : LocationAuthz := ⟨minIntervalS, ∅, ∅⟩

variable (core : Core)

def authenticate (directory : DirectoryCache core) (msg : Message) : Except Reply Grant :=
  match core.decodeLocationQuery msg.payload with
  | none => .error (.refused .malformed)
  | some rawToken =>
    match core.parseCapabilityToken rawToken with
    | none => .error (.refused .malformed)
    | some token =>
      let requesterId := core.pubkeyId msg.senderKey
      if token.granteePubkeyId ≠ requesterId then .error (.refused .notGrantee)
      else match directory.byEd25519Id token.issuerPubkeyId with
        | none => .error (.refused .unknownIssuer)
        | some target =>
          match rowEdPub target with
          | .error exc => .error (.raised exc)
          | .ok targetEdPub => .ok ⟨rawToken, token, requesterId, targetEdPub⟩

def verify (authz : LocationAuthz) (g : Grant) (senderKey : Bytes) (now : Seconds) :
    Except Reply Unit :=
  if core.verifyCapabilityToken g.rawToken g.target senderKey (truncInt now) = false then
    .error (.refused .notVerified)
  else if core.revocationKey g.token ∈ authz.revoked then .error (.refused .revoked)
  else .ok ()

/-- The block under the lock. -/
def takeSlot (authz : LocationAuthz) (g : Grant) (now : Seconds) : Except Reply LocationAuthz :=
  if now - (authz.lastQuery.lookup g.pair).getD 0 < authz.minIntervalS then
    .error (.refused .rateLimited)
  else .ok { authz with lastQuery := authz.lastQuery.insert g.pair now }

def readRow (store : LocationStore) (g : Grant) : Except Reply LocationRow :=
  match store.get g.target with
  | none => .error (.refused .noBeacon)
  | some row => .ok row

/-- The payload before sealing; `now` is the store's clock. -/
def responsePayload (g : Grant) (row : LocationRow) (now : Seconds) : LocationResponsePayload :=
  { targetPubkeyId := g.token.issuerPubkeyId
    latMicrodeg := row.latMicrodeg
    lonMicrodeg := row.lonMicrodeg
    accuracyM := row.accuracyM
    beaconAgeS := LocationStore.beaconAgeS row now
    zoneId := row.zoneId }

def respond (directory : DirectoryCache core) (g : Grant) (row : LocationRow) (now : Seconds) :
    Reply :=
  match directory.byEd25519Id g.requesterId with
  | none => .refused .unknownRequester
  | some requester =>
    match rowCurvePub requester with
    | .error exc => .raised exc
    | .ok curve =>
      match core.encodeLocationResponse (responsePayload g row now) g.requesterId curve with
      | .error exc => .raised exc
      | .ok response => .served (responsePayload g row now) response

/-- One uninterrupted call. `now` is what its own clock shows, `storeNow` what
the store's clock shows when the age is computed. -/
def handleQuery (directory : DirectoryCache core) (store : LocationStore) (authz : LocationAuthz)
    (msg : Message) (now storeNow : Seconds) : Reply × LocationAuthz :=
  match authenticate core directory msg with
  | .error reply => (reply, authz)
  | .ok g =>
    match verify core authz g msg.senderKey now with
    | .error reply => (reply, authz)
    | .ok () =>
      match takeSlot authz g now with
      | .error reply => (reply, authz)
      | .ok taken =>
        match readRow store g with
        | .error reply => (reply, taken)
        | .ok row => (respond core directory g row storeNow, taken)

/-- Only the token's issuer may revoke it. -/
def handleRevoke (authz : LocationAuthz) (msg : Message) : Bool × LocationAuthz :=
  match core.decodeLocationRevoke msg.payload with
  | none => (false, authz)
  | some payload =>
    if core.pubkeyId msg.senderKey ≠ payload.issuerPubkeyId then (false, authz)
    else (true, { authz with revoked := insert payload.revocationKey authz.revoked })

variable {core}

/-! ## What each stage establishes -/

theorem authenticate_ok {directory : DirectoryCache core} {msg : Message} {g : Grant}
    (h : authenticate core directory msg = .ok g) :
    core.decodeLocationQuery msg.payload = some g.rawToken ∧
    core.parseCapabilityToken g.rawToken = some g.token ∧
    g.token.granteePubkeyId = core.pubkeyId msg.senderKey ∧
    g.requesterId = core.pubkeyId msg.senderKey ∧
    ∃ target, directory.byEd25519Id g.token.issuerPubkeyId = some target ∧
      rowEdPub target = .ok g.target := by
  unfold authenticate at h
  cases hq : core.decodeLocationQuery msg.payload with
  | none => simp [hq] at h
  | some rawToken =>
    cases hp : core.parseCapabilityToken rawToken with
    | none => simp [hq, hp] at h
    | some token =>
      by_cases hg : token.granteePubkeyId = core.pubkeyId msg.senderKey
      · cases hd : directory.byEd25519Id token.issuerPubkeyId with
        | none => simp [hq, hp, hg, hd] at h
        | some target =>
          cases he : rowEdPub target with
          | error exc => simp [hq, hp, hg, hd, he] at h
          | ok key =>
            simp only [hq, hp, hg, hd, he, ne_eq, not_true_eq_false, if_false,
              Except.ok.injEq] at h
            subst g
            exact ⟨rfl, hp, hg, rfl, target, hd, he⟩
      · simp [hq, hp, hg] at h

/-- The key a token is verified against hashes to the issuer id it names. -/
theorem authenticate_target {directory : DirectoryCache core} {msg : Message} {g : Grant}
    (h : authenticate core directory msg = .ok g) :
    core.pubkeyId g.target = g.token.issuerPubkeyId := by
  obtain ⟨-, -, -, -, row, found, key⟩ := authenticate_ok h
  obtain ⟨k, hk, filed⟩ := directory.rowEdPub_of_byEd25519Id found
  rw [key] at hk
  cases hk
  exact filed

/-- With indexed rows, the issuer lookup cannot raise. -/
theorem authenticate_error {directory : DirectoryCache core} {msg : Message} {r : Reply}
    (h : authenticate core directory msg = .error r) : ∃ why, r = .refused why := by
  unfold authenticate at h
  split at h
  · cases h; exact ⟨_, rfl⟩
  · split at h
    · cases h; exact ⟨_, rfl⟩
    · dsimp only at h
      split at h
      · cases h; exact ⟨_, rfl⟩
      · split at h
        · cases h; exact ⟨_, rfl⟩
        · rename_i target found
          obtain ⟨key, hkey, -⟩ := directory.rowEdPub_of_byEd25519Id found
          rw [hkey] at h
          cases h

theorem authenticate_not_limited {directory : DirectoryCache core} {msg : Message} :
    authenticate core directory msg ≠ .error (.refused .rateLimited) := by
  intro h
  unfold authenticate at h
  split at h
  · cases h
  · split at h
    · cases h
    · dsimp only at h
      split at h
      · cases h
      · split at h
        · cases h
        · split at h <;> cases h

theorem verify_ok {authz : LocationAuthz} {g : Grant} {senderKey : Bytes} {now : Seconds} :
    verify core authz g senderKey now = .ok () ↔
      core.verifyCapabilityToken g.rawToken g.target senderKey (truncInt now) = true ∧
      core.revocationKey g.token ∉ authz.revoked := by
  unfold verify
  split
  · simp_all
  · split <;> simp_all

theorem verify_error {authz : LocationAuthz} {g : Grant} {senderKey : Bytes} {now : Seconds}
    {r : Reply} (h : verify core authz g senderKey now = .error r) : ∃ why, r = .refused why := by
  unfold verify at h
  split at h
  · cases h; exact ⟨_, rfl⟩
  · split at h
    · cases h; exact ⟨_, rfl⟩
    · cases h

theorem verify_not_limited {authz : LocationAuthz} {g : Grant} {senderKey : Bytes}
    {now : Seconds} : verify core authz g senderKey now ≠ .error (.refused .rateLimited) := by
  intro h
  unfold verify at h
  split at h
  · cases h
  · split at h <;> cases h

theorem takeSlot_ok {authz taken : LocationAuthz} {g : Grant} {now : Seconds} :
    takeSlot authz g now = .ok taken ↔
      authz.minIntervalS ≤ now - (authz.lastQuery.lookup g.pair).getD 0 ∧
      taken = { authz with lastQuery := authz.lastQuery.insert g.pair now } := by
  unfold takeSlot
  split
  · rename_i soon
    simp [soon]
  · rename_i spaced
    simp [not_lt.mp spaced, eq_comm]

theorem takeSlot_soon {authz : LocationAuthz} {g : Grant} {now : Seconds}
    (soon : now - (authz.lastQuery.lookup g.pair).getD 0 < authz.minIntervalS) :
    takeSlot authz g now = .error (.refused .rateLimited) :=
  if_pos soon

theorem takeSlot_error {authz : LocationAuthz} {g : Grant} {now : Seconds} {r : Reply}
    (h : takeSlot authz g now = .error r) : r = .refused .rateLimited := by
  unfold takeSlot at h
  split at h <;> cases h
  rfl

theorem readRow_ok {store : LocationStore} {g : Grant} {row : LocationRow} :
    readRow store g = .ok row ↔ store.get g.target = some row := by
  unfold readRow
  cases store.get g.target <;> simp

theorem readRow_error {store : LocationStore} {g : Grant} {r : Reply}
    (h : readRow store g = .error r) : r = .refused .noBeacon := by
  unfold readRow at h
  split at h <;> cases h
  rfl

theorem respond_served {directory : DirectoryCache core} {g : Grant} {row : LocationRow}
    {now : Seconds} {payload : LocationResponsePayload} {response : Bytes}
    (h : respond core directory g row now = .served payload response) :
    payload = responsePayload g row now ∧
    ∃ requester curve, directory.byEd25519Id g.requesterId = some requester ∧
      rowCurvePub requester = .ok curve ∧
      core.encodeLocationResponse payload g.requesterId curve = .ok response := by
  unfold respond at h
  split at h
  · cases h
  · rename_i requester found
    split at h
    · cases h
    · rename_i curve hcurve
      split at h
      · cases h
      · rename_i bytes hbytes
        cases h
        exact ⟨rfl, requester, curve, found, hcurve, hbytes⟩

/-! ## What a call establishes -/

/-- Every check of `handle_query` up to the directory row of the requester
passes for `g`: the state and the clock are those at the call. -/
structure Passes (directory : DirectoryCache core) (store : LocationStore) (authz : LocationAuthz)
    (msg : Message) (now : Seconds) (g : Grant) (row : LocationRow) : Prop where
  authentic : authenticate core directory msg = .ok g
  verified : core.verifyCapabilityToken g.rawToken g.target msg.senderKey (truncInt now) = true
  unrevoked : core.revocationKey g.token ∉ authz.revoked
  spaced : authz.minIntervalS ≤ now - (authz.lastQuery.lookup g.pair).getD 0
  stored : store.get g.target = some row

variable {directory : DirectoryCache core} {store : LocationStore} {authz : LocationAuthz}
  {msg : Message} {now storeNow : Seconds}

theorem handleQuery_passes {g : Grant} {row : LocationRow}
    (h : Passes directory store authz msg now g row) :
    handleQuery core directory store authz msg now storeNow =
      (respond core directory g row storeNow,
        { authz with lastQuery := authz.lastQuery.insert g.pair now }) := by
  have verified := verify_ok.mpr ⟨h.verified, h.unrevoked⟩
  have slot := takeSlot_ok.mpr ⟨h.spaced, rfl⟩
  have row := readRow_ok.mpr h.stored
  simp only [handleQuery, h.authentic, verified, slot, row]

/-- A call ends in one of three ways: it passes every check and ends as `respond`
does, it refuses and leaves the state alone, or it has taken the slot when it
finds no row. -/
theorem handleQuery_cases (directory : DirectoryCache core) (store : LocationStore)
    (authz : LocationAuthz) (msg : Message) (now storeNow : Seconds) :
    (∃ g row, Passes directory store authz msg now g row ∧
      handleQuery core directory store authz msg now storeNow =
        (respond core directory g row storeNow,
          { authz with lastQuery := authz.lastQuery.insert g.pair now })) ∨
    (∃ why, handleQuery core directory store authz msg now storeNow = (.refused why, authz)) ∨
    (∃ g, authenticate core directory msg = .ok g ∧ store.get g.target = none ∧
      handleQuery core directory store authz msg now storeNow =
        (.refused .noBeacon, { authz with lastQuery := authz.lastQuery.insert g.pair now })) := by
  cases ha : authenticate core directory msg with
  | error r =>
    obtain ⟨why, rfl⟩ := authenticate_error ha
    exact .inr (.inl ⟨why, by simp only [handleQuery, ha]⟩)
  | ok g =>
    cases hv : verify core authz g msg.senderKey now with
    | error r =>
      obtain ⟨why, rfl⟩ := verify_error hv
      exact .inr (.inl ⟨why, by simp only [handleQuery, ha, hv]⟩)
    | ok u =>
      cases hs : takeSlot authz g now with
      | error r =>
        have why := takeSlot_error hs
        exact .inr (.inl ⟨.rateLimited, by simp only [handleQuery, ha, hv, hs, why]⟩)
      | ok taken =>
        obtain ⟨spaced, slot⟩ := takeSlot_ok.mp hs
        cases hr : store.get g.target with
        | none =>
          refine .inr (.inr ⟨g, rfl, hr, ?_⟩)
          simp only [handleQuery, ha, hv, hs, readRow, hr, slot]
        | some row =>
          obtain ⟨verified, unrevoked⟩ := verify_ok.mp hv
          have passes : Passes directory store authz msg now g row :=
            ⟨ha, verified, unrevoked, spaced, hr⟩
          exact .inl ⟨g, row, passes, handleQuery_passes passes⟩

theorem handleQuery_served {payload : LocationResponsePayload} {response : Bytes}
    (h : (handleQuery core directory store authz msg now storeNow).1 = .served payload response) :
    ∃ g row, Passes directory store authz msg now g row ∧
      respond core directory g row storeNow = .served payload response := by
  rcases handleQuery_cases directory store authz msg now storeNow with
    ⟨g, row, passes, ends⟩ | ⟨why, refuses⟩ | ⟨g, -, -, refuses⟩
  · rw [ends] at h
    exact ⟨g, row, passes, h⟩
  · rw [refuses] at h
    cases h
  · rw [refuses] at h
    cases h

/-- Every check passes, and the requester's row holds no key to seal to: its
`curve25519_pub` is missing, not hex, or not one that
`encode_location_response` takes. -/
def Unsealable (directory : DirectoryCache core) (store : LocationStore) (authz : LocationAuthz)
    (msg : Message) (now storeNow : Seconds) : Prop :=
  ∃ g row requester, Passes directory store authz msg now g row ∧
    directory.byEd25519Id g.requesterId = some requester ∧
    ∀ curve, rowCurvePub requester = .ok curve →
      ∃ exc, core.encodeLocationResponse (responsePayload g row storeNow) g.requesterId curve =
        .error exc

theorem respond_raised {g : Grant} {row : LocationRow} {exc : PyExc}
    (h : respond core directory g row storeNow = .raised exc) :
    ∃ requester, directory.byEd25519Id g.requesterId = some requester ∧
      ∀ curve, rowCurvePub requester = .ok curve →
        ∃ exc, core.encodeLocationResponse (responsePayload g row storeNow) g.requesterId curve =
          .error exc := by
  unfold respond at h
  split at h
  · cases h
  · rename_i requester found
    refine ⟨requester, found, ?_⟩
    intro curve key
    rw [key] at h
    cases sealing : core.encodeLocationResponse (responsePayload g row storeNow) g.requesterId
        curve with
    | error exc => exact ⟨exc, rfl⟩
    | ok response => simp [sealing] at h

theorem handleQuery_raised :
    (∃ exc, (handleQuery core directory store authz msg now storeNow).1 = .raised exc) ↔
      Unsealable directory store authz msg now storeNow := by
  constructor
  · rintro ⟨exc, raises⟩
    rcases handleQuery_cases directory store authz msg now storeNow with
      ⟨g, row, passes, ends⟩ | ⟨why, refuses⟩ | ⟨g, -, -, refuses⟩
    · rw [ends] at raises
      obtain ⟨requester, found, unsealable⟩ := respond_raised raises
      exact ⟨g, row, requester, passes, found, unsealable⟩
    · rw [refuses] at raises
      cases raises
    · rw [refuses] at raises
      cases raises
  · rintro ⟨g, row, requester, passes, found, unsealable⟩
    rw [handleQuery_passes passes, respond]
    simp only [found]
    cases key : rowCurvePub requester with
    | error exc => exact ⟨exc, rfl⟩
    | ok curve =>
      obtain ⟨exc, sealing⟩ := unsealable curve key
      exact ⟨exc, by simp only [sealing]⟩

/-- Every check passes, and the requester's row holds a key to seal to. -/
def Serves (directory : DirectoryCache core) (store : LocationStore) (authz : LocationAuthz)
    (msg : Message) (now storeNow : Seconds) : Prop :=
  ∃ g row requester curve response, Passes directory store authz msg now g row ∧
    directory.byEd25519Id g.requesterId = some requester ∧ rowCurvePub requester = .ok curve ∧
    core.encodeLocationResponse (responsePayload g row storeNow) g.requesterId curve = .ok response

theorem handleQuery_serves :
    (∃ payload response, (handleQuery core directory store authz msg now storeNow).1 =
      .served payload response) ↔ Serves directory store authz msg now storeNow := by
  constructor
  · rintro ⟨payload, response, served⟩
    obtain ⟨g, row, passes, responds⟩ := handleQuery_served served
    obtain ⟨rfl, requester, curve, found, key, sealing⟩ := respond_served responds
    exact ⟨g, row, requester, curve, response, passes, found, key, sealing⟩
  · rintro ⟨g, row, requester, curve, response, passes, found, key, sealing⟩
    refine ⟨responsePayload g row storeNow, response, ?_⟩
    rw [handleQuery_passes passes]
    simp only [respond, found, key, sealing]

/-- A query touches one slot of the rate-limit table, that of its own pair, and
nothing else. -/
theorem handleQuery_state (directory : DirectoryCache core) (store : LocationStore)
    (authz : LocationAuthz) (msg : Message) (now storeNow : Seconds) :
    (handleQuery core directory store authz msg now storeNow).2 = authz ∨
    ∃ g, authenticate core directory msg = .ok g ∧
      (handleQuery core directory store authz msg now storeNow).2 =
        { authz with lastQuery := authz.lastQuery.insert g.pair now } := by
  rcases handleQuery_cases directory store authz msg now storeNow with
    ⟨g, row, passes, ends⟩ | ⟨why, refuses⟩ | ⟨g, authentic, -, refuses⟩
  · exact .inr ⟨g, passes.authentic, by rw [ends]⟩
  · exact .inl (by rw [refuses])
  · exact .inr ⟨g, authentic, by rw [refuses]⟩

theorem handleQuery_minInterval :
    (handleQuery core directory store authz msg now storeNow).2.minIntervalS =
      authz.minIntervalS := by
  rcases handleQuery_state directory store authz msg now storeNow with same | ⟨g, -, slot⟩
  · rw [same]
  · rw [slot]

theorem handleQuery_revoked :
    (handleQuery core directory store authz msg now storeNow).2.revoked = authz.revoked := by
  rcases handleQuery_state directory store authz msg now storeNow with same | ⟨g, -, slot⟩
  · rw [same]
  · rw [slot]

theorem handleRevoke_cases (core : Core) (authz : LocationAuthz) (msg : Message) :
    (∃ payload, core.decodeLocationRevoke msg.payload = some payload ∧
      core.pubkeyId msg.senderKey = payload.issuerPubkeyId ∧
      handleRevoke core authz msg =
        (true, { authz with revoked := insert payload.revocationKey authz.revoked })) ∨
    handleRevoke core authz msg = (false, authz) := by
  unfold handleRevoke
  cases hp : core.decodeLocationRevoke msg.payload with
  | none => exact .inr rfl
  | some payload =>
    by_cases issuer : core.pubkeyId msg.senderKey = payload.issuerPubkeyId
    · exact .inl ⟨payload, rfl, issuer, by simp [issuer]⟩
    · exact .inr (by simp [issuer])

end LocationAuthz

end MeshlinkNode
