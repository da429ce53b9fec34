import MeshlinkNode.JsonValid
import MeshlinkNode.PhoneFacing
import MeshlinkNode.PhoneReports

/-!
# Clean telemetry, and the heartbeat that carries it

`json.loads` takes `NaN`, `Infinity` and integers of any size, and `json.dumps`
writes the first two again. A pong that holds one either stops the handler or
is stored and spoils every heartbeat until it ages out.
-/

namespace MeshlinkNode

open JsonGrammar

/-! ## Numbers -/

/-- The number as a finite float, and nothing where there is none. -/
def cleanFloat : Json → Option PyFloat
  | .int n => (floatOfInt n).toOption
  | .float (.finite x) => some (.finite x)
  | _ => none

/-- The same for an integer. -/
def cleanInt : Json → Option Int
  | .int n => some n
  | .float (.finite x) => some (truncInt x)
  | _ => none

/-- If it is a number, a finite float is nearest to it. -/
def Json.InRange (value : Json) : Prop := value.FloatFits ∧ value.IntFits

def PyFloat.IsFinite (x : PyFloat) : Prop := ∃ value, x = .finite value

theorem floatOfInt_finite {n : Int} {x : PyFloat} (made : floatOfInt n = .ok x) : x.IsFinite := by
  unfold floatOfInt at made
  split at made
  · cases made
    exact ⟨_, rfl⟩
  · cases made

theorem cleanFloat_finite {value : Json} {x : PyFloat} (made : cleanFloat value = some x) :
    x.IsFinite := by
  cases value with
  | int n =>
    cases converted : floatOfInt n with
    | error exc =>
      rw [cleanFloat, converted] at made
      cases made
    | ok y =>
      rw [cleanFloat, converted] at made
      cases made
      exact floatOfInt_finite converted
  | float y =>
    cases y with
    | finite y =>
      cases made
      exact ⟨y, rfl⟩
    | infinity negative => cases made
    | nan => cases made
  | _ => cases made

theorem asFloat_eq_clean (value : Json) :
    asFloat value = .ok (cleanFloat value) ↔ value.InRange := by
  cases value with
  | int n =>
    unfold Json.InRange
    rw [and_iff_left (by exact trivial), ← asFloat_ok]
    simp only [asFloat, cleanFloat]
    cases floatOfInt n with
    | error exc => simp [bind, Except.bind]
    | ok x => simp [bind, Except.bind, pure, Except.pure, Except.toOption]
  | float x =>
    cases x with
    | finite x => exact iff_of_true rfl ⟨trivial, trivial⟩
    | infinity negative => exact iff_of_false (by rintro ⟨⟩) And.right
    | nan => exact iff_of_false (by rintro ⟨⟩) And.right
  | _ => exact iff_of_true rfl ⟨trivial, trivial⟩

theorem asInt_eq_clean (value : Json) : asInt value = .ok (cleanInt value) ↔ value.IntFits := by
  cases value with
  | float x =>
    cases x with
    | finite x => exact iff_of_true rfl trivial
    | infinity negative => exact iff_of_false (by rintro ⟨⟩) id
    | nan => exact iff_of_false (by rintro ⟨⟩) id
  | _ => exact iff_of_true rfl trivial

/-! ## Reports -/

/-- Its coordinates are finite numbers, if there are any. -/
structure PhoneReport.Clean (report : PhoneReport) : Prop where
  lat : ∀ x, report.lat = some x → x.IsFinite
  lon : ∀ x, report.lon = some x → x.IsFinite

structure PhoneRow.Clean (row : PhoneRow) : Prop where
  lat : ∀ x, row.lat = some x → x.IsFinite
  lon : ∀ x, row.lon = some x → x.IsFinite

namespace PhonePing

/-- What a pong should leave: its numbers and its flag, and nothing for what is
missing, mistyped or out of range. -/
def cleanReport (body : Fields) (now : Seconds) : PhoneReport where
  lat := cleanFloat (body.get (text "lat"))
  lon := cleanFloat (body.get (text "lon"))
  battery := cleanInt (body.get (text "battery"))
  charging := asBool (body.get (text "charging"))
  receivedAt := now

theorem cleanReport_clean (body : Fields) (now : Seconds) : (cleanReport body now).Clean :=
  ⟨fun _ made => cleanFloat_finite made, fun _ made => cleanFloat_finite made⟩

/-- Its coordinates are in range, and `int` takes its battery level. -/
def NumbersFit (body : Fields) : Prop :=
  (body.get (text "lat")).InRange ∧ (body.get (text "lon")).InRange ∧
    (body.get (text "battery")).IntFits

theorem reportOf_eq_clean (body : Fields) (now : Seconds) :
    reportOf body now = .ok (cleanReport body now) ↔ NumbersFit body := by
  unfold NumbersFit reportOf cleanReport
  rw [← asFloat_eq_clean, ← asFloat_eq_clean, ← asInt_eq_clean]
  cases asFloat (body.get (text "lat")) with
  | error exc => simp [bind, Except.bind]
  | ok lat =>
    cases asFloat (body.get (text "lon")) with
    | error exc => simp [bind, Except.bind]
    | ok lon =>
      cases asInt (body.get (text "battery")) with
      | error exc => simp [bind, Except.bind]
      | ok battery => simp [bind, Except.bind, pure, Except.pure]

variable (lib : JsonLib)

/-- The magic and then the JSON text of an object, which is a pong. -/
structure ValidPong (frame : Bytes) (body : Fields) : Prop where
  magic : PHONE_PING_MAGIC.isPrefixOf frame
  json : ∃ spelled, decodeUtf8 none (frame.drop PHONE_PING_MAGIC.length) = .ok spelled ∧
    ObjectText spelled ∧ lib.loads spelled = .ok (.obj body)
  typed : body.hasType (text "pong")

/-- Whatever the service and whoever sent it, the frame does not stop the
handler, and it leaves a report only if it is a valid pong: the clean one. -/
def CleanFrame (frame : Bytes) : Prop :=
  ∀ (svc : PhonePing) (peerId : PeerId) (now : Seconds),
    ∃ after, svc.handleFrame lib peerId frame now = .ok after ∧
      (after = svc ∨ ∃ body, ValidPong lib frame body ∧
        after = { svc with reports := svc.reports.insert peerId (cleanReport body now) })

/-- The text behind the magic makes `json.loads` raise a `ValueError` at most,
and if it reads as a pong, it is a JSON text and its numbers fit. -/
def Manageable (frame : Bytes) : Prop :=
  PHONE_PING_MAGIC.isPrefixOf frame → ∀ spelled,
    decodeUtf8 none (frame.drop PHONE_PING_MAGIC.length) = .ok spelled →
      match lib.loads spelled with
      | .error exc => exc = .valueError
      | .ok (.obj body) =>
        Fields.hasType body (text "pong") → ObjectText spelled ∧ NumbersFit body
      | .ok _ => True

variable {lib} {svc : PhonePing} {peerId : PeerId} {frame : Bytes} {now : Seconds} {spelled : PyStr}

theorem lookup_of_hasType {body : Fields} {word : PyStr} (typed : body.hasType word) :
    (body.lookup (text "t")).isSome := by
  unfold Fields.hasType Fields.get at typed
  cases found : body.lookup (text "t") with
  | none => simp [found] at typed
  | some value => rfl

/-- What the service does with an object, whether or not it has a "t". -/
theorem handleFrame_obj {body : Fields} (magic : PHONE_PING_MAGIC.isPrefixOf frame)
    (decoded : decodeUtf8 none (frame.drop PHONE_PING_MAGIC.length) = .ok spelled)
    (loaded : lib.loads spelled = .ok (.obj body)) :
    svc.handleFrame lib peerId frame now =
      if body.hasType (text "pong") then
        (reportOf body now).map fun report =>
          { svc with reports := svc.reports.insert peerId report }
      else .ok svc := by
  have read : decode lib frame =
      .ok (if (body.lookup (text "t")).isSome then some body else none) := by
    simp [decode, decodeFields, magic, decoded, loaded, bind, Except.bind]
  by_cases typed : body.hasType (text "pong")
  · rw [if_pos (lookup_of_hasType typed)] at read
    rw [if_pos typed]
    exact handleFrame_pong read typed
  · rw [if_neg typed]
    split at read
    · exact handleFrame_other read (eq_false_of_ne_true typed)
    · exact handleFrame_ignored read

/-- A pong is handled cleanly if its text is JSON and its numbers fit. -/
theorem clean_pong {body : Fields} (magic : PHONE_PING_MAGIC.isPrefixOf frame)
    (decoded : decodeUtf8 none (frame.drop PHONE_PING_MAGIC.length) = .ok spelled)
    (loaded : lib.loads spelled = .ok (.obj body)) (typed : body.hasType (text "pong")) :
    CleanFrame lib frame ↔ ObjectText spelled ∧ NumbersFit body := by
  have handled : ∀ (svc : PhonePing) (peerId : PeerId) (now : Seconds),
      svc.handleFrame lib peerId frame now = (reportOf body now).map fun report =>
        { svc with reports := svc.reports.insert peerId report } := by
    intro svc peerId now
    rw [handleFrame_obj magic decoded loaded, if_pos typed]
  constructor
  · intro clean
    -- a service that has no report yet shows which one is filed
    obtain ⟨after, returned, what⟩ := clean ⟨0, ∅⟩ "" 0
    rw [handled] at returned
    cases made : reportOf body 0 with
    | error exc =>
      rw [made] at returned
      cases returned
    | ok report =>
      rw [made] at returned
      cases returned
      have filed : ∀ svc : PhonePing, { (⟨0, ∅⟩ : PhonePing) with
          reports := (∅ : Dict PeerId PhoneReport).insert "" report } = svc →
          svc.reports.lookup "" = some report := by
        rintro svc rfl
        exact AList.lookup_insert _
      rcases what with same | ⟨body', valid, same⟩
      · cases filed _ same
      · obtain ⟨spelled', decoded', json, loaded'⟩ := valid.json
        rw [decoded] at decoded'
        cases decoded'
        rw [loaded] at loaded'
        cases loaded'
        have here := filed _ same
        rw [AList.lookup_insert] at here
        refine ⟨json, (reportOf_eq_clean body 0).mp ?_⟩
        rw [made, ← Option.some.inj here]
  · rintro ⟨json, fit⟩ svc peerId now
    rw [handled, (reportOf_eq_clean body now).mpr fit]
    exact ⟨_, rfl, .inr ⟨body, ⟨magic, ⟨spelled, decoded, json, loaded⟩, typed⟩, rfl⟩⟩

theorem clean_ignored (ignored : decode lib frame = .ok none) : CleanFrame lib frame :=
  fun svc _ _ => ⟨svc, handleFrame_ignored ignored, .inl rfl⟩

/-- **One frame.** It is handled cleanly exactly if it is manageable. -/
theorem cleanFrame_iff (frame : Bytes) : CleanFrame lib frame ↔ Manageable lib frame := by
  by_cases magic : PHONE_PING_MAGIC.isPrefixOf frame
  · unfold Manageable
    rw [imp_iff_right magic]
    cases decoded : decodeUtf8 none (frame.drop PHONE_PING_MAGIC.length) with
    | error exc =>
      have ignored : decode lib frame = .ok none := by
        simp [decode, decodeFields, magic, decoded, decodeUtf8_error decoded, bind, Except.bind]
      exact iff_of_true (clean_ignored ignored) (by simp)
    | ok spelled =>
      simp only [Except.ok.injEq, forall_eq']
      -- what `json.loads` makes of the text decides
      cases loaded : lib.loads spelled with
      | error exc =>
        have read : decode lib frame =
            if exc = .valueError then .ok none else .error exc := by
          simp [decode, decodeFields, magic, decoded, loaded, bind, Except.bind]
        by_cases bad : exc = .valueError
        · rw [if_pos bad] at read
          exact iff_of_true (clean_ignored read) bad
        · rw [if_neg bad] at read
          refine iff_of_false ?_ bad
          intro clean
          obtain ⟨after, returned, -⟩ := clean ⟨0, ∅⟩ "" 0
          rw [handleFrame_raised read] at returned
          cases returned
      | ok value =>
        cases value with
        | obj body =>
          by_cases typed : Fields.hasType body (text "pong")
          · rw [clean_pong magic decoded loaded typed]
            exact (imp_iff_right typed).symm
          · refine iff_of_true ?_ fun pong => absurd pong typed
            intro svc peerId now
            refine ⟨svc, ?_, .inl rfl⟩
            rw [handleFrame_obj magic decoded loaded, if_neg typed]
        | _ =>
          have ignored : decode lib frame = .ok none := by
            simp [decode, decodeFields, magic, decoded, loaded, bind, Except.bind]
          exact iff_of_true (clean_ignored ignored) trivial
  · have ignored : decode lib frame = .ok none := decodeFields_other (eq_false_of_ne_true magic)
    exact iff_of_true (clean_ignored ignored) fun tagged => absurd tagged magic

end PhonePing

/-! ## The heartbeat -/

/-- What `read_battery` returns where there is one. -/
structure BatteryStatus where
  percent : Int
  charging : Bool
  source : PyStr

/-- What `read_system_stats` returns. -/
structure SystemStats where
  platform : PyStr
  cpuTempC : Option ℚ
  loadAvg1m : Option ℚ
  memUsedPercent : Option ℚ
  diskUsedPercent : Option ℚ

/-- What a beat reads: the transport, two clocks, the backhaul, the machine, and
the relay's counters if it has a relay. -/
structure Readings where
  peers : List PeerId
  sentAt : PyStr
  monotonic : Seconds
  peerCount : Nat
  battery : Option BatteryStatus
  relay : Option (Counter → Nat)
  phonePingClock : Seconds
  system : SystemStats

/-- `None` is written as `null`. -/
def Json.ofOption {α : Type} (spell : α → Json) : Option α → Json
  | none => .null
  | some a => spell a

def Json.ofNumber (x : Option ℚ) : Json := .ofOption (fun value => .float (.finite value)) x

def BatteryStatus.json (battery : BatteryStatus) : Json :=
  .obj [(text "percent", .int battery.percent), (text "charging", .bool battery.charging),
    (text "source", .str battery.source)]

def SystemStats.json (stats : SystemStats) : Json :=
  .obj [(text "platform", .str stats.platform), (text "cpu_temp_c", .ofNumber stats.cpuTempC),
    (text "load_avg_1m", .ofNumber stats.loadAvg1m),
    (text "mem_used_percent", .ofNumber stats.memUsedPercent),
    (text "disk_used_percent", .ofNumber stats.diskUsedPercent)]

/-- `stats()` of the relay. -/
def statsJson (stats : Counter → Nat) : Json :=
  .obj [(text "received", .int (stats .received)), (text "accepted", .int (stats .accepted)),
    (text "dropped", .int (stats .dropped)),
    (text "relayed_to_phones", .int (stats .relayedToPhones)),
    (text "forwarded_cross_zone", .int (stats .forwardedCrossZone)),
    (text "broadcast_to_nodes", .int (stats .broadcastToNodes)),
    (text "attestations_cached", .int (stats .attestationsCached)),
    (text "location_terminated", .int (stats .locationTerminated))]

def PhoneRow.json (row : PhoneRow) : Json :=
  .obj [(text "peer_id", .str (text row.peerId)), (text "lat", .ofOption .float row.lat),
    (text "lon", .ofOption .float row.lon), (text "battery", .ofOption .int row.battery),
    (text "charging", .ofOption .bool row.charging), (text "age_s", .int row.ageS)]

/-- A started `HeartbeatSender`. -/
structure HeartbeatSender where
  nodeId : PyStr
  zoneId : Int
  zoneName : PyStr
  startedAt : Seconds

namespace HeartbeatSender

def HEARTBEAT_VERSION : Int := 2

/-- `build_payload`. What `reports()` prunes is the service's affair. -/
def buildPayload (self : HeartbeatSender) (read : Readings) (phonePing : Option PhonePing) :
    Fields :=
  let wifiPeers := read.peers.filter fun p => WIFI_PEER_PREFIX.toList <+: p.toList
  [(text "heartbeat_version", .int HEARTBEAT_VERSION),
    (text "node_id", .str self.nodeId),
    (text "zone_id", .int self.zoneId),
    (text "zone_name", .str self.zoneName),
    (text "sent_at", .str read.sentAt),
    (text "uptime_s", .int (truncInt (read.monotonic - self.startedAt))),
    (text "connected_phone_count", .int read.peers.length),
    (text "batman_peer_count", .int read.peerCount),
    (text "phones", .obj [
      (text "ble_count", .int (read.peers.length - wifiPeers.length)),
      (text "wifi_count", .int wifiPeers.length),
      (text "peers", .arr (read.peers.map fun p => .str (text p)))]),
    (text "battery", .ofOption BatteryStatus.json read.battery),
    (text "relay", .ofOption statsJson read.relay),
    (text "phone_telemetry", .ofOption (fun svc : PhonePing => .obj [
      (text "reports", .arr ((svc.takeReports read.phonePingClock).1.map PhoneRow.json))])
      phonePing),
    (text "system", read.system.json)]

/-- The body that `beat` posts. -/
def beat (lib : JsonLib) (self : HeartbeatSender) (read : Readings) (phonePing : Option PhonePing) :
    Bytes :=
  encodeAscii (dumps lib.floatRepr .default (.obj (self.buildPayload read phonePing)))

end HeartbeatSender

namespace Json

theorem finiteItems_iff {items : List Json} : FiniteItems items ↔ ∀ v ∈ items, v.Finite := by
  induction items with
  | nil => simp [FiniteItems]
  | cons v rest ih => rw [FiniteItems, ih, List.forall_mem_cons]

theorem finite_ofOption {α : Type} {spell : α → Json} {o : Option α}
    (each : ∀ a, o = some a → (spell a).Finite) : (Json.ofOption spell o).Finite := by
  cases o with
  | none => exact trivial
  | some a => exact each a rfl

theorem finite_ofNumber (x : Option ℚ) : (Json.ofNumber x).Finite :=
  finite_ofOption fun value _ => ⟨value, rfl⟩

end Json

theorem PhoneRow.finite_json {row : PhoneRow} (clean : row.Clean) : row.json.Finite :=
  ⟨trivial, Json.finite_ofOption clean.lat, Json.finite_ofOption clean.lon,
    Json.finite_ofOption fun _ _ => trivial, Json.finite_ofOption fun _ _ => trivial, trivial,
    trivial⟩

theorem SystemStats.finite_json (stats : SystemStats) : stats.json.Finite :=
  ⟨trivial, Json.finite_ofNumber _, Json.finite_ofNumber _, Json.finite_ofNumber _,
    Json.finite_ofNumber _, trivial⟩

namespace HeartbeatSender

variable {self : HeartbeatSender} {read : Readings} {phonePing : Option PhonePing}

/-- Nothing but a row can bring in what JSON cannot spell. -/
theorem finite_buildPayload (clean : ∀ svc, phonePing = some svc →
    ∀ row ∈ (svc.takeReports read.phonePingClock).1, row.Clean) :
    Json.FiniteFields (self.buildPayload read phonePing) := by
  have peers : Json.FiniteItems (read.peers.map fun p => .str (text p)) := by
    refine Json.finiteItems_iff.mpr fun v mem => ?_
    obtain ⟨p, -, rfl⟩ := List.mem_map.mp mem
    exact trivial
  have battery : (Json.ofOption BatteryStatus.json read.battery).Finite :=
    Json.finite_ofOption fun _ _ => ⟨trivial, trivial, trivial, trivial⟩
  have relay : (Json.ofOption statsJson read.relay).Finite :=
    Json.finite_ofOption fun _ _ => by simp [statsJson, Json.Finite, Json.FiniteFields]
  have telemetry : (Json.ofOption (fun svc : PhonePing => .obj [(text "reports",
      .arr ((svc.takeReports read.phonePingClock).1.map PhoneRow.json))]) phonePing).Finite := by
    refine Json.finite_ofOption fun svc here => ⟨?_, trivial⟩
    refine Json.finiteItems_iff.mpr fun v mem => ?_
    obtain ⟨row, listed, rfl⟩ := List.mem_map.mp mem
    exact PhoneRow.finite_json (clean svc here row listed)
  simp only [buildPayload, Json.FiniteFields, Json.Finite, peers, battery, relay, telemetry,
    SystemStats.finite_json, and_self]

/-- A body of finite numbers is the JSON text of an object. -/
theorem beat_json {lib : JsonLib} (numbers : ∀ x, Number (lib.floatRepr x))
    (finite : Json.FiniteFields (self.buildPayload read phonePing)) :
    ∃ spelled, decodeUtf8 none (self.beat lib read phonePing) = .ok spelled ∧
      ObjectText spelled := by
  have read := decodeUtf8_dumps (asciiParts_default fun x => (numbers x).ascii)
    (.obj (self.buildPayload read phonePing))
  exact ⟨_, read, dumps_objectText (jsonParts_default numbers) _ finite⟩

end HeartbeatSender

/-! ## What phones send -/

namespace PhonePing

variable {lib : JsonLib}

/-- The object that `encode_pong` spells. -/
def pongBody (lat lon : Option PyFloat) (battery : Option Int) (charging : Option Bool) : Fields :=
  [(text "t", .str (text "pong")), (text "lat", .ofOption .float lat),
    (text "lon", .ofOption .float lon), (text "battery", .ofOption .int battery)] ++
    charging.toList.map fun b => (text "charging", .bool b)

def encodePong (lib : JsonLib) (lat lon : Option PyFloat) (battery : Option Int)
    (charging : Option Bool) : Bytes :=
  PHONE_PING_MAGIC ++
    encodeAscii (dumps lib.floatRepr .compact (.obj (pongBody lat lon battery charging)))

section

variable {lat lon : Option PyFloat} {battery : Option Int} {charging : Option Bool}

theorem pongBody_get_charging :
    (pongBody lat lon battery charging).get (text "charging") = .ofOption .bool charging := by
  cases charging with
  | none => rfl
  | some b => rfl

theorem cleanFloat_ofOption (finite : ∀ x, lat = some x → x.IsFinite) :
    (Json.ofOption .float lat).InRange ∧ cleanFloat (.ofOption .float lat) = lat := by
  cases lat with
  | none => exact ⟨⟨trivial, trivial⟩, rfl⟩
  | some x =>
    obtain ⟨value, rfl⟩ := finite x rfl
    exact ⟨⟨trivial, trivial⟩, rfl⟩

theorem cleanInt_ofOption :
    (Json.ofOption .int battery).IntFits ∧ cleanInt (.ofOption .int battery) = battery := by
  cases battery with
  | none => exact ⟨trivial, rfl⟩
  | some n => exact ⟨trivial, rfl⟩

/-- A pong of the reference encoder leaves what it was given. -/
theorem cleanReport_pongBody (now : Seconds) (finiteLat : ∀ x, lat = some x → x.IsFinite)
    (finiteLon : ∀ x, lon = some x → x.IsFinite) :
    NumbersFit (pongBody lat lon battery charging) ∧
      cleanReport (pongBody lat lon battery charging) now =
        ⟨lat, lon, battery, charging, now⟩ := by
  have flag : asBool (.ofOption .bool charging) = charging := by
    cases charging <;> rfl
  refine ⟨⟨(cleanFloat_ofOption finiteLat).1, (cleanFloat_ofOption finiteLon).1,
    cleanInt_ofOption.1⟩, ?_⟩
  rw [cleanReport, pongBody_get_charging, flag]
  congr 1
  · exact (cleanFloat_ofOption finiteLat).2
  · exact (cleanFloat_ofOption finiteLon).2
  · exact cleanInt_ofOption.2

/-- It is manageable, if its text reads as what was written. -/
theorem manageable_encodePong (numbers : ∀ x, Number (lib.floatRepr x))
    (finiteLat : ∀ x, lat = some x → x.IsFinite) (finiteLon : ∀ x, lon = some x → x.IsFinite)
    (reads : lib.loads (dumps lib.floatRepr .compact (.obj (pongBody lat lon battery charging))) =
      .ok (.obj (pongBody lat lon battery charging))) :
    Manageable lib (encodePong lib lat lon battery charging) := by
  intro _ spelled decoded
  have finite : Json.FiniteFields (pongBody lat lon battery charging) := by
    have latitude : (Json.ofOption .float lat).Finite := Json.finite_ofOption finiteLat
    have longitude : (Json.ofOption .float lon).Finite := Json.finite_ofOption finiteLon
    have level : (Json.ofOption .int battery).Finite := Json.finite_ofOption fun _ _ => trivial
    cases charging with
    | none => exact ⟨trivial, latitude, longitude, level, trivial⟩
    | some b => exact ⟨trivial, latitude, longitude, level, trivial, trivial⟩
  rw [encodePong, List.drop_left,
    decodeUtf8_dumps (asciiParts_compact fun x => (numbers x).ascii)] at decoded
  rw [← Except.ok.inj decoded, reads]
  intro _
  exact ⟨dumps_objectText (jsonParts_compact numbers) _ finite,
    (cleanReport_pongBody 0 finiteLat finiteLon).1⟩

end

end PhonePing

/-! ## Runs -/

namespace PhonePing

variable {lib : JsonLib}

/-- A frame that comes is manageable. -/
def ManageableEvent (lib : JsonLib) : PingEvent → Prop
  | .frame _ frame _ => Manageable lib frame
  | .reports _ => True

def CleanReports (svc : PhonePing) : Prop :=
  ∀ peer report, svc.reports.lookup peer = some report → report.Clean

theorem cleanReports_step (svc : PhonePing) (event : PingEvent) (clean : svc.CleanReports)
    (manageable : ManageableEvent lib event) : (svc.step lib event).CleanReports := by
  intro peer report found
  cases event with
  | frame peerId frame now =>
    obtain ⟨after, returned, what⟩ := (cleanFrame_iff frame).mpr manageable svc peerId now
    simp only [step, heard, returned] at found
    rcases what with rfl | ⟨body, -, rfl⟩
    · exact clean peer report found
    · by_cases mine : peer = peerId
      · subst mine
        rw [AList.lookup_insert] at found
        rw [← Option.some.inj found]
        exact cleanReport_clean body now
      · rw [AList.lookup_insert_ne mine] at found
        exact clean peer report found
  | reports now => exact clean peer report (lookup_takeReports.mp found).1

theorem cleanReports_after {intervalS : Seconds} {events : List PingEvent}
    (manageable : ∀ event ∈ events, ManageableEvent lib event) :
    (after lib intervalS events).CleanReports := by
  apply Runs.invariant cleanReports_step ?_ (Runs.along_of_forall manageable)
  intro peer report found
  cases found

theorem clean_rows {svc : PhonePing} (clean : svc.CleanReports) (t : Seconds) :
    ∀ row ∈ (svc.takeReports t).1, row.Clean := by
  intro row mem
  obtain ⟨⟨peer, report⟩, listed, rfl⟩ := List.mem_map.mp mem
  have found := (lookup_takeReports.mp (Assoc.mem_sorted.mp listed)).1
  have both := clean peer report found
  exact ⟨both.lat, both.lon⟩

/-- **Clean telemetry, exactly.** For every `json.loads`, and as long as
`float.__repr__` spells finite floats as JSON numbers: a frame from any peer is
handled without an exception, and leaves at most the clean report of a valid
pong, exactly if it is manageable. Such a report has finite coordinates. After
any frames that are, every stored report has, and every heartbeat is the UTF-8
of the JSON text of an object. -/
theorem clean_telemetry (lib : JsonLib) (numbers : ∀ x, Number (lib.floatRepr x)) :
    (∀ frame, CleanFrame lib frame ↔ Manageable lib frame) ∧
    (∀ body now, (cleanReport body now).Clean) ∧
    ∀ intervalS events, (∀ event ∈ events, ManageableEvent lib event) →
      (after lib intervalS events).CleanReports ∧
      ∀ (sender : HeartbeatSender) (read : Readings), ∃ spelled,
        decodeUtf8 none (sender.beat lib read (some (after lib intervalS events))) = .ok spelled ∧
          ObjectText spelled := by
  refine ⟨cleanFrame_iff, cleanReport_clean, ?_⟩
  intro intervalS events manageable
  have clean : (after lib intervalS events).CleanReports := cleanReports_after manageable
  refine ⟨clean, fun sender read => HeartbeatSender.beat_json numbers ?_⟩
  apply HeartbeatSender.finite_buildPayload
  rintro svc ⟨⟩
  exact clean_rows clean read.phonePingClock

end PhonePing

namespace Sample

def fortyEight : ℚ → PyStr := fun x => if x = 97 / 2 then text "48.5" else text "0.0"

theorem fortyEight_number (x : ℚ) : Number (fortyEight x) := by
  have one : ∀ d, Digit d → Digits [d] := by
    intro d digit
    exact ⟨List.cons_ne_nil _ _, by simpa using digit⟩
  unfold fortyEight
  split
  · have int : IntPart [52, 56] := .nonzero (by decide) (by decide) (by simp [Digit])
    exact .mk (.inl rfl) int (.digits (one 53 ⟨by decide, by decide⟩)) .absent
  · exact .mk (.inl rfl) .zero (.digits (one 48 ⟨by decide, by decide⟩)) .absent

def halfLat : Option PyFloat := some (.finite (97 / 2))

/-- A library that reads one pong: `{"t":"pong","lat":48.5,"lon":null,
"battery":84,"charging":true}`. -/
def telemetryJson : JsonLib :=
  let body := PhonePing.pongBody halfLat none (some 84) (some true)
  { pongJson with
    loads := fun s =>
      if s = dumps fortyEight .compact (.obj body) then .ok (.obj body) else .error .valueError
    floatRepr := fortyEight }

def telemetryPong : Bytes := PhonePing.encodePong telemetryJson halfLat none (some 84) (some true)

theorem telemetryPong_manageable : PhonePing.Manageable telemetryJson telemetryPong := by
  have finite : ∀ x, halfLat = some x → x.IsFinite := by
    rintro x ⟨⟩
    exact ⟨_, rfl⟩
  exact PhonePing.manageable_encodePong fortyEight_number finite (by simp) (if_pos rfl)

def sender : HeartbeatSender := ⟨text "node-1", 3, text "Zone 3", 0⟩

def readings : Readings where
  peers := ["phoneA"]
  sentAt := text "2026-07-07T18:30:12+00:00"
  monotonic := 70
  peerCount := 0
  battery := none
  relay := none
  phonePingClock := 70
  system := ⟨text "Linux", none, none, none, none⟩

/-- One pong and one heartbeat. -/
theorem clean_telemetry_pong :
    PhonePing.CleanFrame telemetryJson telemetryPong ∧
    ∃ spelled, decodeUtf8 none (sender.beat telemetryJson readings (some (PhonePing.after
        telemetryJson 90 [.frame "phoneA" telemetryPong 60]))) = .ok spelled ∧
      ObjectText spelled := by
  have all := PhonePing.clean_telemetry telemetryJson fortyEight_number
  refine ⟨(all.1 telemetryPong).mpr telemetryPong_manageable, ?_⟩
  refine (all.2.2 90 _ ?_).2 sender readings
  intro event mem
  rw [List.mem_singleton.mp mem]
  exact telemetryPong_manageable

/-! Two texts that `json.loads` takes and the standard does not have. -/

def nanText : PyStr := text "\x7b\"t\":\"pong\",\"battery\":NaN\x7d"

def infinityText : PyStr := text "\x7b\"t\":\"pong\",\"lat\":Infinity\x7d"

def lenientJson : JsonLib :=
  { telemetryJson with
    loads := fun s =>
      if s = nanText then
        .ok (.obj [(text "t", .str (text "pong")), (text "battery", .float .nan)])
      else if s = infinityText then
        .ok (.obj [(text "t", .str (text "pong")), (text "lat", .float (.infinity false))])
      else .error .valueError }

def nanPong : Bytes := PHONE_PING_MAGIC ++ encodeAscii nanText

def infinityPong : Bytes := PHONE_PING_MAGIC ++ encodeAscii infinityText

/-- The first raises. The second is stored, and the next heartbeat has a latitude
that is no number. -/
theorem poisoned_telemetry :
    (⟨90, ∅⟩ : PhonePing).handleFrame lenientJson "phoneA" nanPong 0 = .error .valueError ∧
    ¬ PhonePing.CleanFrame lenientJson nanPong ∧
    (PhonePing.after lenientJson 90 [.frame "phoneA" infinityPong 0]).reports.lookup "phoneA" =
      some ⟨some (.infinity false), none, none, none, 0⟩ ∧
    ¬ PhonePing.CleanFrame lenientJson infinityPong ∧
    ¬ (PhonePing.after lenientJson 90 [.frame "phoneA" infinityPong 0]).CleanReports := by
  have raised : (⟨90, ∅⟩ : PhonePing).handleFrame lenientJson "phoneA" nanPong 0 =
      .error .valueError := by rfl
  have stored : (PhonePing.after lenientJson 90 [.frame "phoneA" infinityPong 0]).reports.lookup
      "phoneA" = some ⟨some (.infinity false), none, none, none, 0⟩ := by rfl
  have spoiled : ¬ (PhonePing.after lenientJson 90
      [.frame "phoneA" infinityPong 0]).CleanReports := by
    intro clean
    obtain ⟨value, same⟩ := (clean _ _ stored).lat _ rfl
    cases same
  refine ⟨raised, ?_, stored, ?_, spoiled⟩
  · intro clean
    obtain ⟨after, returned, -⟩ := clean ⟨90, ∅⟩ "phoneA" 0
    rw [raised] at returned
    cases returned
  · intro clean
    apply spoiled
    apply PhonePing.cleanReports_after
    intro event mem
    rw [List.mem_singleton.mp mem]
    exact (PhonePing.cleanFrame_iff infinityPong).mp clean

end Sample

end MeshlinkNode
