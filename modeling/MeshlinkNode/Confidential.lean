import MeshlinkNode.Presentations
import Mathlib.Data.Option.Basic

/-!
# What a coordinate influences

Two runs of one node over the same packets and refreshes, apart only in where a
user's last beacon put that user.
-/

namespace MeshlinkNode

/-- What a row says besides the coordinate. -/
def LocationRow.setting (row : LocationRow) : Int × Seconds := (row.zoneId, row.lastBeaconTs)

namespace LocationService

variable {core : Core} {T : Bytes} {s t : LocationService core}

/-- Two services that agree on everything but the coordinate of `T`. -/
structure Veiled (T : Bytes) (s t : LocationService core) : Prop where
  authz : s.authz = t.authz
  directory : s.directory = t.directory
  identity : s.identity = t.identity
  ephemId : s.ephemId = t.ephemId
  zoneId : s.zoneId = t.zoneId
  others : ∀ key, key ≠ T → s.store.get key = t.store.get key
  setting : (s.store.get T).map LocationRow.setting = (t.store.get T).map LocationRow.setting

/-- An answer about `T` to somebody `T` granted it: both services find every
check passed, and seal to the same key of the same requester. -/
structure Disclosure (T : Bytes) (s t : LocationService core) (msg : Message) (clocks : Clocks)
    (g : Grant) (row row' : LocationRow) (curve : Bytes) : Prop where
  here : LocationAuthz.Passes s.directory s.store s.authz msg clocks.authz g row
  there : LocationAuthz.Passes t.directory t.store t.authz msg clocks.authz g row'
  about : g.target = T
  setting : row.setting = row'.setting
  requester : ∃ found, s.directory.byEd25519Id g.requesterId = some found ∧
    rowCurvePub found = .ok curve

/-- What is sealed for a requester when the store's clock shows `now`. -/
def sealing (core : Core) (g : Grant) (row : LocationRow) (curve : Bytes) (now : Seconds) :
    Except PyExc Bytes :=
  core.encodeLocationResponse (LocationAuthz.responsePayload g row now) g.requesterId curve

/-- How a query that is sealed for ends. -/
def sealedReply (payload : LocationResponsePayload) : Except PyExc Bytes → Reply
  | .error exc => .raised exc
  | .ok response => .served payload response

/-- A query that passes every check ends as the sealing does. -/
theorem answer_sealed {msg : Message} {clocks : Clocks} {g : Grant} {row : LocationRow}
    {curve : Bytes} {found : Json}
    (passes : LocationAuthz.Passes s.directory s.store s.authz msg clocks.authz g row)
    (known : s.directory.byEd25519Id g.requesterId = some found)
    (key : rowCurvePub found = .ok curve) :
    (s.answer msg clocks).1 = sealedReply (LocationAuthz.responsePayload g row clocks.store)
      (sealing core g row curve clocks.store) := by
  rw [answer, LocationAuthz.handleQuery_passes passes]
  simp only [LocationAuthz.respond, known, key, sealing]
  cases core.encodeLocationResponse (LocationAuthz.responsePayload g row clocks.store)
    g.requesterId curve <;> rfl

/-- **Veiled services answer alike**, except about `T` to somebody `T` granted
it, and they always take the same slot. -/
theorem Veiled.answer (h : Veiled T s t) (msg : Message) (clocks : Clocks) :
    (s.answer msg clocks).2 = (t.answer msg clocks).2 ∧
    ((s.answer msg clocks).1 = (t.answer msg clocks).1 ∨
      ∃ g row row' curve, Disclosure T s t msg clocks g row row' curve) := by
  unfold LocationService.answer LocationAuthz.handleQuery
  rw [← h.directory, ← h.authz]
  cases authentic : LocationAuthz.authenticate core s.directory msg with
  | error reply => exact ⟨rfl, .inl rfl⟩
  | ok g =>
    dsimp only
    cases verified : LocationAuthz.verify core s.authz g msg.senderKey clocks.authz with
    | error reply => exact ⟨rfl, .inl rfl⟩
    | ok _ =>
      dsimp only
      cases taken : LocationAuthz.takeSlot s.authz g clocks.authz with
      | error reply => exact ⟨rfl, .inl rfl⟩
      | ok after =>
        simp only [LocationAuthz.readRow]
        by_cases about : g.target = T
        · have setting := h.setting
          rw [← about] at setting
          cases here : s.store.get g.target with
          | none =>
            rw [here, Option.map_none, eq_comm, Option.map_eq_none_iff] at setting
            rw [setting]
            exact ⟨rfl, .inl rfl⟩
          | some row =>
            rw [here, Option.map_some, eq_comm] at setting
            obtain ⟨row', there, same⟩ := Option.map_eq_some_iff.mp setting
            rw [there]
            refine ⟨rfl, ?_⟩
            dsimp only
            unfold LocationAuthz.respond
            cases known : s.directory.byEd25519Id g.requesterId with
            | none => exact .inl rfl
            | some found =>
              cases key : rowCurvePub found with
              | error exc => exact .inl (by simp only [key])
              | ok curve =>
                obtain ⟨valid, unrevoked⟩ := LocationAuthz.verify_ok.mp verified
                have spaced := (LocationAuthz.takeSlot_ok.mp taken).1
                have passes : LocationAuthz.Passes s.directory s.store s.authz msg clocks.authz g
                    row :=
                  ⟨authentic, valid, unrevoked, spaced, here⟩
                have passes' : LocationAuthz.Passes t.directory t.store t.authz msg clocks.authz g
                    row' := by
                  rw [← h.directory, ← h.authz]
                  exact ⟨authentic, valid, unrevoked, spaced, there⟩
                exact .inr ⟨g, row, row', curve, passes, passes', about, same.symm, found, known,
                  key⟩
        · rw [h.others g.target about]
          cases t.store.get g.target with
          | none => exact ⟨rfl, .inl rfl⟩
          | some row => exact ⟨rfl, .inl rfl⟩

/-- A beacon replaces the row in both. -/
theorem Veiled.beacon (h : Veiled T s t) (msg : Message) (clocks : Clocks) :
    Veiled T (s.ingestBeacon msg clocks) (t.ingestBeacon msg clocks) := by
  unfold ingestBeacon
  cases core.decodeLocationBeacon msg.payload with
  | none => exact h
  | some coordinate =>
    obtain ⟨lat, lon, accuracyM⟩ := coordinate
    refine ⟨h.authz, h.directory, h.identity, h.ephemId, h.zoneId, ?_, ?_⟩
    · intro key other
      by_cases own : key = msg.senderKey
      · subst own
        rw [LocationStore.get_update_same, LocationStore.get_update_same]
      · rw [LocationStore.get_update_ne _ _ _ _ _ _ own,
          LocationStore.get_update_ne _ _ _ _ _ _ own]
        exact h.others key other
    · by_cases own : T = msg.senderKey
      · subst own
        rw [LocationStore.get_update_same, LocationStore.get_update_same]
      · rw [LocationStore.get_update_ne _ _ _ _ _ _ own,
          LocationStore.get_update_ne _ _ _ _ _ _ own]
        exact h.setting

/-- Two beacons that a user could have sent at one moment in one zone. -/
theorem veiled_beacons (svc : LocationService core) (msg msg' : Message) (clocks : Clocks)
    (sender : msg'.senderKey = msg.senderKey) (zone : msg'.zoneId = msg.zoneId)
    (wellFormed : (core.decodeLocationBeacon msg.payload).isSome)
    (wellFormed' : (core.decodeLocationBeacon msg'.payload).isSome) :
    Veiled msg.senderKey (svc.ingestBeacon msg clocks) (svc.ingestBeacon msg' clocks) := by
  obtain ⟨place, here⟩ := Option.isSome_iff_exists.mp wellFormed
  obtain ⟨place', there⟩ := Option.isSome_iff_exists.mp wellFormed'
  unfold ingestBeacon
  rw [here, there, sender, zone]
  refine ⟨rfl, rfl, rfl, rfl, rfl, ?_, ?_⟩
  · intro key other
    rw [LocationStore.get_update_ne _ _ _ _ _ _ other,
      LocationStore.get_update_ne _ _ _ _ _ _ other]
  · rw [LocationStore.get_update_same, LocationStore.get_update_same]
    rfl

theorem Veiled.withAuthz (h : Veiled T s t) {a b : LocationAuthz} (same : a = b) :
    Veiled T { s with authz := a } { t with authz := b } :=
  ⟨same, h.directory, h.identity, h.ephemId, h.zoneId, h.others, h.setting⟩

/-- **Step.** Whatever a message does, it does to both. -/
theorem Veiled.terminated (h : Veiled T s t) (peerId : PeerId) (msg : Message) (clocks : Clocks) :
    Veiled T (s.handleNodeTerminated peerId msg clocks).service
      (t.handleNodeTerminated peerId msg clocks).service := by
  unfold handleNodeTerminated
  split
  · exact h.beacon msg clocks
  · have same := (h.answer msg clocks).1
    split <;> split <;> exact h.withAuthz same
  · exact h.withAuthz (by rw [h.authz])
  · exact h

theorem Veiled.responsePacket (h : Veiled T s t) (clocks : Clocks) (response : Bytes) :
    s.responsePacket clocks response = t.responsePacket clocks response := by
  unfold LocationService.responsePacket
  rw [h.identity, h.ephemId, h.zoneId]

/-- What a message is answered does not depend on the coordinate, but where it
asks for it. -/
theorem Veiled.sent (h : Veiled T s t) (peerId : PeerId) (msg : Message) (clocks : Clocks) :
    ((s.handleNodeTerminated peerId msg clocks).sent =
        (t.handleNodeTerminated peerId msg clocks).sent ∧
      (s.handleNodeTerminated peerId msg clocks).result =
        (t.handleNodeTerminated peerId msg clocks).result) ∨
    (msg.msgType = .locationQuery ∧
      ∃ g row row' curve, Disclosure T s t msg clocks g row row' curve) := by
  by_cases query : msg.msgType = .locationQuery
  · obtain ⟨sent, result⟩ := terminated_query s peerId clocks query
    obtain ⟨sent', result'⟩ := terminated_query t peerId clocks query
    obtain ⟨-, same | disclosed⟩ := h.answer msg clocks
    · rw [sent, sent', result, result', same]
      simp only [h.responsePacket, and_self, true_or]
    · exact .inr ⟨query, disclosed⟩
  · by_cases beacon : msg.msgType = .location
    · obtain ⟨sent, result⟩ := terminated_beacon s peerId clocks beacon
      obtain ⟨sent', result'⟩ := terminated_beacon t peerId clocks beacon
      exact .inl ⟨sent.trans sent'.symm, result.trans result'.symm⟩
    · obtain ⟨sent, result⟩ := terminated_other s peerId clocks beacon query
      obtain ⟨sent', result'⟩ := terminated_other t peerId clocks beacon query
      exact .inl ⟨sent.trans sent'.symm, result.trans result'.symm⟩

theorem Veiled.refresh (h : Veiled T s t) (response : Except PyExc Json) :
    Veiled T (s.step (.refresh response)) (t.step (.refresh response)) := by
  refine ⟨h.authz, ?_, h.identity, h.ephemId, h.zoneId, h.others, h.setting⟩
  simp only [step, h.directory]

end LocationService

/-! ## The node -/

/-- What others see of a packet that was handled. -/
structure Shown where
  calls : List Call
  datagrams : List Datagram
  result : Except PyExc Unit

def Handled.shown {core : Core} (h : Handled core) : Shown := ⟨h.calls, h.datagrams, h.result⟩

/-- An answer goes out ahead of everything else, and if it cannot be sealed
nothing does. -/
def Shown.behind (onward : Shown) (peerId : PeerId) (packet : Bytes → Bytes)
    (encoded : Except PyExc Bytes) : Shown :=
  match encoded with
  | .error exc => ⟨[], [], .error exc⟩
  | .ok response => { onward with calls := .send peerId (packet response) :: onward.calls }

namespace Relay

variable {core : Core} {T : Bytes} {r s : Relay core} {m : Moment} {peerId : PeerId} {raw : Bytes}
  {msg : Message} {forward : Option Bytes}

/-- Two nodes that agree on everything but the coordinate of `T` and the
counters. -/
structure Veiled (T : Bytes) (r s : Relay core) : Prop where
  zoneId : r.zoneId = s.zoneId
  attestation : r.attestation = s.attestation
  phonePing : r.phonePing = s.phonePing
  backendProxy : r.backendProxy = s.backendProxy
  pipeline : r.pipeline = s.pipeline
  presentationPipeline : r.presentationPipeline = s.presentationPipeline
  location : Option.Rel (LocationService.Veiled T) r.location s.location

/-- The packet is a query about `T` by somebody whom a live token of `T` names.
The nodes show the same but for what is sealed in the answer, and the two
payloads differ in nothing but the coordinate. -/
def Discloses (T : Bytes) (r s : Relay core) (a : Arrival) : Prop :=
  ∃ msg forward svc svc' g row row' curve onward,
    r.accepted a.moment a.raw = some (msg, forward) ∧ msg.msgType = .locationQuery ∧
    r.location = some svc ∧ s.location = some svc' ∧
    svc.Disclosure T svc' msg a.moment.clocks g row row' curve ∧
    (r.handle a).shown = Shown.behind onward a.peerId (svc.responsePacket a.moment.clocks)
      (LocationService.sealing core g row curve a.moment.clocks.store) ∧
    (s.handle a).shown = Shown.behind onward a.peerId (svc.responsePacket a.moment.clocks)
      (LocationService.sealing core g row' curve a.moment.clocks.store)

theorem Veiled.counted (h : Veiled T r s) (stats stats' : Counter → Nat) :
    Veiled T { r with stats := stats } { s with stats := stats' } :=
  ⟨h.zoneId, h.attestation, h.phonePing, h.backendProxy, h.pipeline, h.presentationPipeline,
    h.location⟩

theorem Veiled.withLocation (h : Veiled T r s) {svc svc' : LocationService core}
    (veiled : svc.Veiled T svc') :
    Veiled T { r with location := some svc } { s with location := some svc' } :=
  ⟨h.zoneId, h.attestation, h.phonePing, h.backendProxy, h.pipeline, h.presentationPipeline,
    .some veiled⟩

theorem Veiled.here (h : Veiled T r s) : (r.location = none ∧ s.location = none) ∨
    ∃ svc svc', r.location = some svc ∧ s.location = some svc' ∧ svc.Veiled T svc' := by
  have location := h.location
  cases here : r.location with
  | none =>
    rw [here] at location
    cases there : s.location with
    | none => exact .inl ⟨rfl, rfl⟩
    | some svc' =>
      rw [there] at location
      cases location
  | some svc =>
    rw [here] at location
    cases there : s.location with
    | none =>
      rw [there] at location
      cases location
    | some svc' =>
      rw [there] at location
      cases location with
      | some veiled => exact .inr ⟨svc, svc', rfl, rfl, veiled⟩

/-! ## Past the pipeline -/

variable (backhaul : Backhaul) (m peerId raw msg forward)

variable (r) in
theorem fanOut_counts : ∃ stats, (r.fanOut m peerId raw forward).relay =
    { r with stats := stats } := by
  unfold fanOut
  cases relayed raw forward with
  | error exc => exact ⟨_, rfl⟩
  | ok copy =>
    dsimp only
    cases copy[TTL_OFFSET]? with
    | none => exact ⟨_, rfl⟩
    | some ttl =>
      dsimp only
      split <;> exact ⟨_, rfl⟩

variable (r) in
/-- Past the location service a packet moves counters only. -/
theorem relayOnward_counts : ∃ stats, (r.relayOnward backhaul m peerId raw msg forward).relay =
    { r with stats := stats } := by
  unfold relayOnward
  cases r.zoneCall msg.zoneId raw with
  | none => exact r.fanOut_counts m peerId raw forward
  | some call =>
    dsimp only
    obtain ⟨datagrams, result⟩ := backhaul.perform m call
    cases result with
    | error exc => exact ⟨_, rfl⟩
    | ok _ =>
      obtain ⟨stats, counts⟩ := (r.count (zoneCounter call)).fanOut_counts m peerId raw forward
      exact ⟨stats, counts⟩

theorem deliver_counts {svc : LocationService core} (here : r.location = some svc) :
    ∃ stats, (r.deliver backhaul m peerId raw msg forward).relay =
      { r with
        location := some (svc.handleNodeTerminated peerId msg m.clocks).service
        stats := stats } := by
  unfold deliver
  rw [here]
  dsimp only
  cases (svc.handleNodeTerminated peerId msg m.clocks).result with
  | error exc => exact ⟨_, rfl⟩
  | ok consumed =>
    cases consumed with
    | true => exact ⟨_, rfl⟩
    | false =>
      obtain ⟨stats, counts⟩ := ({ r with
        location := some (svc.handleNodeTerminated peerId msg m.clocks).service } :
          Relay core).relayOnward_counts m peerId raw msg forward backhaul
      exact ⟨stats, counts⟩

variable (r s) in
theorem fanOut_shown : (r.fanOut m peerId raw forward).shown =
    (s.fanOut m peerId raw forward).shown := by
  unfold fanOut
  cases relayed raw forward with
  | error exc => rfl
  | ok copy =>
    dsimp only
    cases copy[TTL_OFFSET]? with
    | none => rfl
    | some ttl =>
      dsimp only
      split <;> rfl

/-- What a packet shows past the location service depends on the zone alone. -/
theorem relayOnward_shown (zone : r.zoneId = s.zoneId) :
    (r.relayOnward backhaul m peerId raw msg forward).shown =
      (s.relayOnward backhaul m peerId raw msg forward).shown := by
  have same : r.zoneCall msg.zoneId raw = s.zoneCall msg.zoneId raw := by
    unfold zoneCall
    rw [zone]
  unfold relayOnward
  rw [same]
  cases s.zoneCall msg.zoneId raw with
  | none => exact fanOut_shown r s m peerId raw forward
  | some call =>
    dsimp only
    obtain ⟨datagrams, result⟩ := backhaul.perform m call
    cases result with
    | error exc => rfl
    | ok _ =>
      obtain ⟨calls, sent, result⟩ := Shown.mk.inj (fanOut_shown (r.count (zoneCounter call))
        (s.count (zoneCounter call)) m peerId raw forward)
      simp only [Handled.shown, Handled.after, calls, sent, result]

/-- What an accepted packet that is answered shows. -/
theorem shown_sealed {svc : LocationService core} {g : Grant} {row : LocationRow}
    {curve : Bytes} {found : Json} (here : r.location = some svc)
    (query : msg.msgType = .locationQuery)
    (passes : LocationAuthz.Passes svc.directory svc.store svc.authz msg m.clocks.authz g row)
    (known : svc.directory.byEd25519Id g.requesterId = some found)
    (key : rowCurvePub found = .ok curve) :
    (r.deliver backhaul m peerId raw msg forward).shown =
      Shown.behind
        (({ r with location := some (svc.handleNodeTerminated peerId msg m.clocks).service } :
          Relay core).relayOnward backhaul m peerId raw msg forward).shown peerId
        (svc.responsePacket m.clocks)
        (LocationService.sealing core g row curve m.clocks.store) := by
  have answer := LocationService.answer_sealed passes known key
  obtain ⟨sent, result⟩ := LocationService.terminated_query svc peerId m.clocks query
  unfold Relay.deliver
  rw [here]
  dsimp only
  rw [sent, result, answer]
  cases LocationService.sealing core g row curve m.clocks.store with
  | error exc => rfl
  | ok response => rfl

/-- **Step, past the pipeline.** -/
theorem Veiled.deliver (h : Veiled T r s) :
    Veiled T (r.deliver backhaul m peerId raw msg forward).relay
      (s.deliver backhaul m peerId raw msg forward).relay ∧
    ((r.deliver backhaul m peerId raw msg forward).shown =
        (s.deliver backhaul m peerId raw msg forward).shown ∨
      ∃ svc svc' g row row' curve onward,
        msg.msgType = .locationQuery ∧ r.location = some svc ∧ s.location = some svc' ∧
        svc.Disclosure T svc' msg m.clocks g row row' curve ∧
        (r.deliver backhaul m peerId raw msg forward).shown =
          Shown.behind onward peerId (svc.responsePacket m.clocks)
            (LocationService.sealing core g row curve m.clocks.store) ∧
        (s.deliver backhaul m peerId raw msg forward).shown =
          Shown.behind onward peerId (svc.responsePacket m.clocks)
            (LocationService.sealing core g row' curve m.clocks.store)) := by
  rcases h.here with ⟨here, there⟩ | ⟨svc, svc', here, there, veiled⟩
  · rw [deliver_none here, deliver_none there]
    obtain ⟨stats, counts⟩ := r.relayOnward_counts m peerId raw msg forward backhaul
    obtain ⟨stats', counts'⟩ := s.relayOnward_counts m peerId raw msg forward backhaul
    rw [counts, counts']
    exact ⟨h.counted stats stats',
      .inl (relayOnward_shown m peerId raw msg forward backhaul h.zoneId)⟩
  · obtain ⟨stats, counts⟩ := deliver_counts m peerId raw msg forward backhaul here
    obtain ⟨stats', counts'⟩ := deliver_counts m peerId raw msg forward backhaul there
    rw [counts, counts']
    refine ⟨(h.withLocation (veiled.terminated peerId msg m.clocks)).counted stats stats', ?_⟩
    rcases veiled.sent peerId msg m.clocks with ⟨sent, result⟩ | ⟨query, disclosed⟩
    · left
      unfold Relay.deliver
      rw [here, there]
      dsimp only
      rw [sent, result]
      split
      · rfl
      · rfl
      · obtain ⟨calls, datagrams, result⟩ := Shown.mk.inj
          (relayOnward_shown m peerId raw msg forward backhaul (h.withLocation
            (veiled.terminated peerId msg m.clocks)).zoneId)
        simp only [Handled.shown, Handled.after, calls, datagrams, result]
    · obtain ⟨g, row, row', curve, disclosure⟩ := disclosed
      obtain ⟨found, known, key⟩ := disclosure.requester
      have known' : svc'.directory.byEd25519Id g.requesterId = some found := by
        rw [← veiled.directory, known]
      refine .inr ⟨svc, svc', g, row, row', curve, _, query, here, there, disclosure,
        shown_sealed _ _ _ _ _ _ here query disclosure.here known key, ?_⟩
      rw [shown_sealed _ _ _ _ _ _ there query disclosure.there known' key,
        relayOnward_shown m peerId raw msg forward backhaul (h.withLocation
          (veiled.terminated peerId msg m.clocks)).zoneId]
      congr 1
      exact funext fun response => (veiled.responsePacket m.clocks response).symm

/-! ## Every path -/

theorem Veiled.demux (h : Veiled T r s) (raw : Bytes) : r.demux raw = s.demux raw := by
  unfold Relay.demux
  rw [h.attestation]

theorem Veiled.accepted (h : Veiled T r s) (m : Moment) (raw : Bytes) :
    r.accepted m raw = s.accepted m raw := by
  unfold Relay.accepted
  rw [h.demux, h.pipeline, h.attestation]

theorem Veiled.handlePresentation (h : Veiled T r s) (cache : core.Attestation) :
    Veiled T (r.handlePresentation cache backhaul m raw).relay
      (s.handlePresentation cache backhaul m raw).relay ∧
    (r.handlePresentation cache backhaul m raw).shown =
      (s.handlePresentation cache backhaul m raw).shown := by
  have judged (pipeline : core.Pipeline) : Veiled T { r with presentationPipeline := pipeline }
      { s with presentationPipeline := pipeline } :=
    ⟨h.zoneId, h.attestation, h.phonePing, h.backendProxy, h.pipeline, rfl, h.location⟩
  have cached (pipeline : core.Pipeline) (cache : core.Attestation) : Veiled T
      { r with presentationPipeline := pipeline, attestation := some cache }
      { s with presentationPipeline := pipeline, attestation := some cache } :=
    ⟨h.zoneId, rfl, h.phonePing, h.backendProxy, h.pipeline, rfl, h.location⟩
  unfold Relay.handlePresentation
  rw [h.presentationPipeline]
  simp only
  cases (core.process s.presentationPipeline none m.clocks.core raw).1 with
  | drop why => exact ⟨(judged _).counted _ _, rfl⟩
  | deliver msg forward =>
    simp only
    cases asciiDecode msg.payload with
    | none => exact ⟨(judged _).counted _ _, rfl⟩
    | some token =>
      simp only
      cases (core.addToken cache m.clocks.core token).1 with
      | none => exact ⟨(cached _ _).counted _ _, rfl⟩
      | some key =>
        have zone : r.zoneCall msg.zoneId raw = s.zoneCall msg.zoneId raw := by
          unfold Relay.zoneCall
          rw [h.zoneId]
        simp only
        split
        · rename_i stays
          split
          · exact ⟨(cached _ _).counted _ _, rfl⟩
          · rename_i goes
            cases (show r.zoneCall msg.zoneId raw = none from stays).symm.trans (zone.trans goes)
        · rename_i call goes
          split
          · rename_i stays
            cases (show r.zoneCall msg.zoneId raw = some call from goes).symm.trans
              (zone.trans stays)
          · rename_i call' goes'
            cases (show r.zoneCall msg.zoneId raw = some call from goes).symm.trans
              (zone.trans goes')
            exact ⟨(cached _ _).counted _ _, rfl⟩

/-- **Step.** -/
theorem Veiled.handle (h : Veiled T r s) (a : Arrival) :
    Veiled T (r.step a) (s.step a) ∧
    ((r.handle a).shown = (s.handle a).shown ∨ Discloses T r s a) := by
  unfold Relay.step Relay.handle
  cases path : s.demux a.raw with
  | telemetry =>
    rw [handlePacket_telemetry path, handlePacket_telemetry ((h.demux a.raw).trans path),
      h.phonePing]
    exact ⟨h, .inl rfl⟩
  | backendProxy =>
    rw [handlePacket_backendProxy path, handlePacket_backendProxy ((h.demux a.raw).trans path),
      h.backendProxy]
    exact ⟨h, .inl rfl⟩
  | presentation cache =>
    rw [handlePacket_presentation path, handlePacket_presentation ((h.demux a.raw).trans path)]
    obtain ⟨veiled, shown⟩ :=
      (h.counted _ _).handlePresentation a.moment a.raw a.backhaul cache
    exact ⟨veiled, .inl shown⟩
  | mesh =>
    have judged : Veiled T (r.judged a.moment a.raw) (s.judged a.moment a.raw) := by
      refine ⟨h.zoneId, h.attestation, h.phonePing, h.backendProxy, ?_, h.presentationPipeline,
        h.location⟩
      simp only [Relay.judged, h.pipeline, h.attestation]
    cases accepts : s.accepted a.moment a.raw with
    | none =>
      rw [handlePacket_dropped path accepts, handlePacket_dropped ((h.demux a.raw).trans path)
        ((h.accepted _ _).trans accepts)]
      exact ⟨judged.counted _ _, .inl rfl⟩
    | some found =>
      obtain ⟨msg, forward⟩ := found
      have accepts' := (h.accepted _ _).trans accepts
      rw [handlePacket_accepted accepts, handlePacket_accepted accepts']
      obtain ⟨veiled, shown⟩ := (judged.counted _ _).deliver a.moment a.peerId a.raw msg forward
        a.backhaul
      refine ⟨veiled, shown.imp_right ?_⟩
      rintro ⟨svc, svc', g, row, row', curve, onward, query, here, there, disclosure, shown,
        shown'⟩
      refine ⟨msg, forward, svc, svc', g, row, row', curve, onward, accepts', query, here, there,
        disclosure, ?_, ?_⟩
      · rw [Relay.handle, handlePacket_accepted accepts']
        exact shown
      · rw [Relay.handle, handlePacket_accepted accepts]
        exact shown'

/-- What happens to a node: a packet arrives, or the directory is fetched. -/
inductive Occurrence where
  | packet (a : Arrival)
  | refresh (response : Except PyExc Json)

def occur (relay : Relay core) : Occurrence → Relay core
  | .packet a => relay.step a
  | .refresh response =>
    { relay with location := relay.location.map fun svc => svc.step (.refresh response) }

theorem Veiled.occur (h : Veiled T r s) (e : Occurrence) : Veiled T (r.occur e) (s.occur e) := by
  cases e with
  | packet a => exact (h.handle a).1
  | refresh response =>
    refine ⟨h.zoneId, h.attestation, h.phonePing, h.backendProxy, h.pipeline,
      h.presentationPipeline, ?_⟩
    rcases h.here with ⟨here, there⟩ | ⟨svc, svc', here, there, veiled⟩
    · simp only [Relay.occur, here, there, Option.map_none, Option.Rel.none]
    · simp only [Relay.occur, here, there, Option.map_some]
      exact .some (veiled.refresh response)

/-- **Confidentiality.** Whatever a node is sent, where it believes `T` to be
shows in nothing but the sealed answers to those whom a live token of `T`
names: every other packet leads to the same calls, datagrams and exception, and
so does the rest of a packet that is answered. -/
theorem coordinates_confidential (T : Bytes) {r s : Relay core} (veiled : Veiled T r s)
    (events : List Occurrence) :
    Veiled T (Runs.run Relay.occur r events) (Runs.run Relay.occur s events) ∧
    ∀ past a, past ++ [.packet a] <+: events →
      ((Runs.run Relay.occur r past).handle a).shown =
          ((Runs.run Relay.occur s past).handle a).shown ∨
        Discloses T (Runs.run Relay.occur r past) (Runs.run Relay.occur s past) a := by
  have kept (events : List Occurrence) :
      Veiled T (Runs.run Relay.occur r events) (Runs.run Relay.occur s events) := by
    induction events using List.reverseRecOn with
    | nil => exact veiled
    | append_singleton past e ih =>
      rw [Runs.run_append, Runs.run_append]
      exact ih.occur e
  exact ⟨kept events, fun past a _ => ((kept past).handle a).2⟩

end Relay

namespace Sample

/-- A service that knows both users. -/
def acquaintedService : LocationService Sample.core :=
  (LocationService.boot 60 (.empty Sample.core) () [] 3).after
    [.refresh (.ok (users [targetRow, requesterRow]))]

def beaconFrom (place : Bytes) : Message := ⟨[1], 0, target, 3, .location, place⟩

/-- The target is at `place`. -/
def findableRelay (place : Bytes) : Relay Sample.core :=
  .boot 3 none true
    (some (acquaintedService.ingestBeacon (beaconFrom place) ⟨100, 100, 100⟩)) true

def queryArrival : Arrival := ⟨.loggingStub,
  ⟨⟨140, 140, 140⟩, 0, ["phoneA"], List.nodup_singleton _, .up⟩, "phoneA",
  packet 2 requester 5 9 7 token⟩

theorem findable_veiled :
    Relay.Veiled target (findableRelay [7, 8, 9]) (findableRelay [1, 2, 3]) := by
  have beacons := acquaintedService.veiled_beacons (beaconFrom [7, 8, 9]) (beaconFrom [1, 2, 3])
    ⟨100, 100, 100⟩ rfl rfl rfl rfl
  exact ⟨rfl, rfl, rfl, rfl, rfl, rfl, .some beacons⟩

/-- The requester learns the place, and the token lets it. -/
theorem coordinates_confidential_answered : Relay.Discloses target (findableRelay [7, 8, 9])
    (findableRelay [1, 2, 3]) queryArrival := by
  obtain ⟨-, shows⟩ := Relay.coordinates_confidential target findable_veiled
    [.packet queryArrival]
  rcases shows [] queryArrival (List.prefix_refl _) with same | discloses
  · have different : ((findableRelay [7, 8, 9]).handle queryArrival).shown.calls ≠
        ((findableRelay [1, 2, 3]).handle queryArrival).shown.calls := by
      decide +kernel
    exact absurd (congrArg Shown.calls same) different
  · exact discloses

end Sample

end MeshlinkNode
