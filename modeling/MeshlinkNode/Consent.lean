import MeshlinkNode.Service

/-!
# Consent over whole runs

A coordinate leaves the node only against a live token of its owner, and then
it is the owner's last one.
-/

namespace MeshlinkNode.LocationService

variable {core : Core}

/-- What must hold at the moment a query is answered, in terms of the inputs
handled before it. -/
structure Consented (svc : LocationService core) (inputs : List Input) (msg : Message)
    (clocks : Clocks) (payload : LocationResponsePayload) (response : Bytes)
    (rawToken : Bytes) (token : Token) (target : Bytes) (beacon : Beacon) : Prop where
  decoded : core.decodeLocationQuery msg.payload = some rawToken
  parsed : core.parseCapabilityToken rawToken = some token
  grantee : token.granteePubkeyId = core.pubkeyId msg.senderKey
  issuer : ∃ row, svc.directory.byEd25519Id token.issuerPubkeyId = some row ∧
    rowEdPub row = .ok target
  verified :
    core.verifyCapabilityToken rawToken target msg.senderKey (truncInt clocks.authz) = true
  unrevoked : core.revocationKey token ∉ revocations core inputs
  last : (beacons core target inputs).getLast? = some beacon
  coordinate : payload.latMicrodeg = beacon.latMicrodeg ∧
    payload.lonMicrodeg = beacon.lonMicrodeg ∧ payload.accuracyM = beacon.accuracyM ∧
    payload.zoneId = beacon.msg.zoneId
  isSealed : ∃ row curve, svc.directory.byEd25519Id (core.pubkeyId msg.senderKey) = some row ∧
    rowCurvePub row = .ok curve ∧
    core.encodeLocationResponse payload (core.pubkeyId msg.senderKey) curve = .ok response

/-- **Consent safety.** From an empty store and authorisation, after any run of
messages and directory refreshes, a query is answered only with consent. -/
theorem served_only_with_consent (minIntervalS : Seconds) (directory : DirectoryCache core)
    (identity : core.Identity) (ephemId : Bytes) (zoneId : Int) (inputs : List Input)
    (msg : Message) (clocks : Clocks) (payload : LocationResponsePayload) (response : Bytes)
    (served : (((boot minIntervalS directory identity ephemId zoneId).after inputs).answer
      msg clocks).1 = .served payload response) :
    ∃ rawToken token target beacon,
      Consented ((boot minIntervalS directory identity ephemId zoneId).after inputs) inputs msg
        clocks payload response rawToken token target beacon := by
  obtain ⟨svc, hsvc⟩ :
    ∃ svc, (boot minIntervalS directory identity ephemId zoneId).after inputs = svc := ⟨_, rfl⟩
  have rows := store_after (boot minIntervalS directory identity ephemId zoneId) rfl inputs
  have keys := revoked_after (boot minIntervalS directory identity ephemId zoneId) rfl inputs
  rw [hsvc] at served rows keys ⊢
  obtain ⟨g, row, passes, ends⟩ := LocationAuthz.handleQuery_served served
  obtain ⟨decoded, parsed, grantee, requester, target, found, key⟩ :=
    LocationAuthz.authenticate_ok passes.authentic
  obtain ⟨rfl, reqRow, curve, reqFound, reqCurve, sealing⟩ := LocationAuthz.respond_served ends
  have stored := rows g.target
  rw [passes.stored] at stored
  obtain ⟨beacon, last, isRow⟩ := Option.map_eq_some_iff.mp stored.symm
  refine ⟨g.rawToken, g.token, g.target, beacon, ?_⟩
  exact
    { decoded
      parsed
      grantee
      issuer := ⟨target, found, key⟩
      verified := passes.verified
      unrevoked := fun revoked => passes.unrevoked ((keys _).mpr revoked)
      last
      coordinate := by
        simp only [LocationAuthz.responsePayload, ← isRow, Beacon.row, and_self]
      isSealed := by
        rw [requester] at reqFound sealing
        exact ⟨reqRow, curve, reqFound, reqCurve, sealing⟩ }

/-- A sync, a beacon of the target, then the requester's query. -/
theorem served_only_with_consent_sample :
    ∃ rawToken token target beacon,
      Consented
        ((boot 60 (.empty Sample.core) () [] 3).after
          [.refresh (.ok (Sample.users [Sample.targetRow, Sample.requesterRow])),
            .message "phone" ⟨[1], 100, Sample.target, 3, .location, [7, 8, 9]⟩ ⟨100, 100, 100⟩])
        [.refresh (.ok (Sample.users [Sample.targetRow, Sample.requesterRow])),
          .message "phone" ⟨[1], 100, Sample.target, 3, .location, [7, 8, 9]⟩ ⟨100, 100, 100⟩]
        ⟨[2], 140, Sample.requester, 3, .locationQuery, Sample.token⟩ ⟨140, 140, 140⟩
        ⟨Sample.target.take 8, 7, 8, 9, 40, 3⟩
        (Sample.requester.take 8 ++ List.replicate 32 0x33 ++ [7, 8])
        rawToken token target beacon :=
  served_only_with_consent 60 (.empty Sample.core) () [] 3 _ _ _ _ _ (by decide +kernel)

end MeshlinkNode.LocationService
