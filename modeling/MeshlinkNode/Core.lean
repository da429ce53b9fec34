import MeshlinkNode.Lib.Runs
import MeshlinkNode.Python

/-!
# What the node imports from meshlink-core

The protocol library is a separate repository, so its functions are a
parameter of the model. `none` stands for the `ValueError` by which its
parsers and `add_token` refuse an input.
-/

namespace MeshlinkNode

abbrev PeerId := String

/-- The message types the node names; every other code is `other`. -/
inductive MessageType where
  | location
  | attestationPresent
  | locationQuery
  | locationResponse
  | locationRevoke
  | other (code : Nat)
  deriving DecidableEq, Repr

/-- The parsed envelope. `msgId` is what the pipeline deduplicates on. -/
structure Message where
  msgId : Bytes
  timestamp : Int
  senderKey : Bytes
  zoneId : Int
  msgType : MessageType
  payload : Bytes
  deriving DecidableEq, Repr

/-- `RelayPipeline.process`: only a delivered packet carries its message. -/
inductive PipelineResult where
  | drop (reason : String)
  | deliver (message : Message) (forward : Option Bytes)
  deriving DecidableEq, Repr

/-- A capability token, as far as the node looks into it. -/
structure Token where
  issuerPubkeyId : Bytes
  granteePubkeyId : Bytes
  issuedAt : Int
  nonce : Bytes
  deriving DecidableEq, Repr

structure RevocationKey where
  issuerPubkeyId : Bytes
  granteePubkeyId : Bytes
  issuedAt : Int
  nonce : Bytes
  deriving DecidableEq, Repr

structure LocationRevokePayload where
  issuerPubkeyId : Bytes
  revocationKey : RevocationKey
  deriving DecidableEq, Repr

structure LocationResponsePayload where
  targetPubkeyId : Bytes
  latMicrodeg : Int
  lonMicrodeg : Int
  accuracyM : Int
  beaconAgeS : Int
  zoneId : Int
  deriving DecidableEq, Repr

/-- Arguments of `build_signed_packet`. -/
structure PacketFields where
  ephemId : Bytes
  ttl : Nat
  sprayL : Nat
  zoneId : Int
  msgType : MessageType
  payload : Bytes
  deriving DecidableEq, Repr

structure Core where
  /-- State of a `RelayPipeline`: dedup, rate limits. -/
  Pipeline : Type
  /-- State of an `AttestationCache`. -/
  Attestation : Type
  /-- A `DeviceIdentity`. -/
  Identity : Type
  newPipeline : Pipeline
  process : Pipeline → Option Attestation → Seconds → Bytes → PipelineResult × Pipeline
  parsePacket : Bytes → Option Message
  addToken : Attestation → Seconds → PyStr → Option Bytes × Attestation
  pubkeyId : Bytes → Bytes
  decodeLocationQuery : Bytes → Option Bytes
  parseCapabilityToken : Bytes → Option Token
  verifyCapabilityToken : Bytes → Bytes → Bytes → Int → Bool
  revocationKey : Token → RevocationKey
  decodeLocationRevoke : Bytes → Option LocationRevokePayload
  decodeLocationBeacon : Bytes → Option (Int × Int × Int)
  encodeLocationResponse : LocationResponsePayload → Bytes → Bytes → Except PyExc Bytes
  buildSignedPacket : Identity → Seconds → PacketFields → Bytes

/-- A revocation key is the tuple (issuer_pubkey_id, grantee_pubkey_id,
issued_at, nonce) of the token, and of the payload that revokes it. -/
structure Core.KeysNameIssuer (core : Core) : Prop where
  token : ∀ t, (core.revocationKey t).issuerPubkeyId = t.issuerPubkeyId
  payload : ∀ {raw p}, core.decodeLocationRevoke raw = some p →
    p.revocationKey.issuerPubkeyId = p.issuerPubkeyId

/-! ## What the node relies on -/

/-- What one call of `process` gets besides the pipeline's own state. -/
abbrev Core.PipelineCall (core : Core) : Type := Option core.Attestation × Seconds × Bytes

def Core.pipelineStep (core : Core) (p : core.Pipeline) (call : core.PipelineCall) :
    core.Pipeline :=
  (core.process p call.1 call.2.1 call.2.2).2

/-- The msg_id that a call delivers. -/
def Core.deliveredId (core : Core) (p : core.Pipeline) (call : core.PipelineCall) :
    Option Bytes :=
  match (core.process p call.1 call.2.1 call.2.2).1 with
  | .deliver msg _ => some msg.msgId
  | .drop _ => none

/-- The pipeline's duplicate check: an instance delivers a msg_id once. -/
def Core.Dedup (core : Core) : Prop :=
  ∀ calls, (Runs.outputs core.pipelineStep core.deliveredId core.newPipeline calls).Nodup

/-- The pipeline's size and ttl checks: an accepted packet has both hop bytes
and a hop left, and its forward copy has both hop bytes. -/
structure Core.HopBytes (core : Core) : Prop where
  packet : ∀ {p a now raw msg forward}, (core.process p a now raw).1 = .deliver msg forward →
    69 < raw.length ∧ raw.getD 68 0 ≠ 0
  copy : ∀ {p a now raw msg copy}, (core.process p a now raw).1 = .deliver msg (some copy) →
    69 < copy.length

/-! ## A small instance, for concrete runs -/

namespace Sample

/-- Issuer id, grantee id, one byte of issue time, one of nonce. -/
def parseToken (raw : Bytes) : Option Token :=
  if raw.length = 18 then
    some ⟨raw.take 8, (raw.drop 8).take 8, (raw.getD 16 0).toNat, raw.drop 17⟩
  else none

def messageType (code : Nat) : MessageType :=
  if code = 2 then .location
  else if code = 6 then .attestationPresent
  else if code = 7 then .locationQuery
  else if code = 8 then .locationResponse
  else if code = 9 then .locationRevoke
  else .other code

/-- msg_id, sender_key and, after the hop bytes at 68 and 69, zone, type,
payload length and payload, then a 64-byte signature. -/
def parsePacket (raw : Bytes) : Option Message :=
  if raw.length < 139 then none
  else some
    { msgId := raw.take 16
      senderKey := (raw.drop 16).take 32
      timestamp := 0
      zoneId := 256 * (raw.getD 70 0).toNat + (raw.getD 71 0).toNat
      msgType := messageType (raw.getD 72 0).toNat
      payload := (raw.drop 75).take (256 * (raw.getD 73 0).toNat + (raw.getD 74 0).toNat) }

/-- Size, ttl and duplicates are checked; the forward copy loses one hop. -/
def process (seen : List Bytes) (raw : Bytes) : PipelineResult × List Bytes :=
  match parsePacket raw with
  | none => (.drop "malformed", seen)
  | some msg =>
    if raw.getD 68 0 = 0 then (.drop "ttl exhausted", seen)
    else if msg.msgId ∈ seen then (.drop "duplicate: msg_id already seen", seen)
    else (.deliver msg (some (raw.set 68 (raw.getD 68 0 - 1))), msg.msgId :: seen)

def packet (id : UInt8) (sender : Bytes) (ttl zone type : UInt8) (payload : Bytes) : Bytes :=
  List.replicate 16 id ++ sender ++ List.replicate 20 0 ++
    [ttl, 1, 0, zone, type, 0, UInt8.ofNat payload.length] ++ payload ++ List.replicate 64 0

def core : Core where
  Pipeline := List Bytes
  Attestation := List Bytes
  Identity := Unit
  newPipeline := []
  process := fun seen _ _ raw => process seen raw
  parsePacket := parsePacket
  addToken := fun attested _ token => (none, attested ++ [token.map UInt8.ofNat])
  pubkeyId := List.take 8
  decodeLocationQuery := fun payload => if payload.length = 18 then some payload else none
  parseCapabilityToken := parseToken
  verifyCapabilityToken := fun raw target sender now =>
    raw.take 8 = target.take 8 && (raw.drop 8).take 8 = sender.take 8 &&
      decide ((raw.getD 16 0).toNat ≤ now)
  revocationKey := fun t => ⟨t.issuerPubkeyId, t.granteePubkeyId, t.issuedAt, t.nonce⟩
  decodeLocationRevoke := fun payload =>
    (parseToken payload).map fun t =>
      ⟨t.issuerPubkeyId, ⟨t.issuerPubkeyId, t.granteePubkeyId, t.issuedAt, t.nonce⟩⟩
  decodeLocationBeacon := fun payload =>
    match payload with
    | [lat, lon, accuracy] => some (lat.toNat, lon.toNat, accuracy.toNat)
    | _ => none
  encodeLocationResponse := fun payload requester curve =>
    if curve.length = 32 then
      .ok (requester ++ curve ++ [UInt8.ofNat payload.latMicrodeg.toNat,
        UInt8.ofNat payload.lonMicrodeg.toNat])
    else .error .valueError
  buildSignedPacket := fun _ _ fields => packet 0xff [] 3 0 8 fields.payload

theorem core_keysNameIssuer : core.KeysNameIssuer := by
  constructor
  · intro t
    rfl
  · intro raw p h
    simp only [core, Option.map_eq_some_iff] at h
    obtain ⟨t, -, rfl⟩ := h
    rfl

theorem process_delivers {seen : List Bytes} {raw : Bytes} {msg : Message} {forward : Option Bytes}
    (h : (process seen raw).1 = .deliver msg forward) :
    139 ≤ raw.length ∧ raw.getD 68 0 ≠ 0 ∧ msg.msgId ∉ seen ∧
      forward = some (raw.set 68 (raw.getD 68 0 - 1)) ∧
      (process seen raw).2 = msg.msgId :: seen := by
  unfold process at h ⊢
  cases parsed : parsePacket raw with
  | none => simp [parsed] at h
  | some found =>
    have long : 139 ≤ raw.length := by
      by_contra short
      rw [parsePacket, if_pos (by omega)] at parsed
      cases parsed
    by_cases exhausted : raw.getD 68 0 = 0
    · simp only [parsed, exhausted, if_true] at h
      cases h
    · by_cases duplicate : found.msgId ∈ seen
      · simp only [parsed, exhausted, duplicate, if_true, if_false] at h
        cases h
      · simp only [parsed, exhausted, duplicate, if_false] at h ⊢
        cases h
        exact ⟨long, exhausted, duplicate, rfl, rfl⟩

theorem process_drops {seen : List Bytes} {raw : Bytes} {why : String}
    (h : (process seen raw).1 = .drop why) : (process seen raw).2 = seen := by
  unfold process at h ⊢
  split
  · rfl
  · split
    · rfl
    · split
      · rfl
      · simp_all

theorem core_hopBytes : core.HopBytes := by
  constructor
  · intro p a now raw msg forward h
    obtain ⟨long, hop, -⟩ := process_delivers h
    exact ⟨by omega, hop⟩
  · intro p a now raw msg copy h
    obtain ⟨long, -, -, forwards, -⟩ := process_delivers h
    cases forwards
    rw [List.length_set]
    omega

def judge (seen : List Bytes) (call : core.PipelineCall) : List Bytes := (process seen call.2.2).2

def judgedId (seen : List Bytes) (call : core.PipelineCall) : Option Bytes :=
  match (process seen call.2.2).1 with
  | .deliver msg _ => some msg.msgId
  | .drop _ => none

/-- What a pipeline delivers it has not seen before, and has seen since. -/
theorem judgedId_fresh (calls : List core.PipelineCall) (seen : List Bytes) :
    (Runs.outputs judge judgedId seen calls).Nodup ∧
      ∀ id ∈ seen, id ∉ Runs.outputs judge judgedId seen calls := by
  induction calls generalizing seen with
  | nil => exact ⟨List.nodup_nil, fun _ _ => List.not_mem_nil⟩
  | cons call calls ih =>
    rw [Runs.outputs_cons, judge, judgedId]
    cases result : (process seen call.2.2).1 with
    | drop why =>
      rw [process_drops result]
      exact ih seen
    | deliver msg forward =>
      obtain ⟨-, -, unseen, -, sees⟩ := process_delivers result
      obtain ⟨nodup, fresh⟩ := ih (msg.msgId :: seen)
      rw [sees]
      constructor
      · exact List.nodup_cons.mpr ⟨fresh msg.msgId List.mem_cons_self, nodup⟩
      · intro id known here
        rcases List.mem_cons.mp here with rfl | later
        · exact unseen known
        · exact fresh id (List.mem_cons_of_mem _ known) later

theorem core_dedup : core.Dedup := fun calls => (judgedId_fresh calls []).1

/-- Two users' signing keys, and the token by which the first lets the second
read its location. -/
def target : Bytes := List.replicate 32 0x11

def requester : Bytes := List.replicate 32 0x22

def token : Bytes := target.take 8 ++ requester.take 8 ++ [5, 0]

def targetRow : Json :=
  .obj [(text "username", .str (text "target")),
    (text "ed25519_pub", .str (List.replicate 64 49)),
    (text "curve25519_pub", .str (List.replicate 64 50))]

def requesterRow : Json :=
  .obj [(text "username", .str (text "requester")),
    (text "ed25519_pub", .str (List.replicate 64 50)),
    (text "curve25519_pub", .str (List.replicate 64 51))]

/-- A row the backend sent without an encryption key. -/
def keylessRow : Json :=
  .obj [(text "username", .str (text "requester")),
    (text "ed25519_pub", .str (List.replicate 64 50))]

def users (rows : List Json) : Json := .obj [(text "users", .arr rows)]

end Sample

end MeshlinkNode
