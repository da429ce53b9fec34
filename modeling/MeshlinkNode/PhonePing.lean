import MeshlinkNode.Relay
import MeshlinkNode.JsonText
import MeshlinkNode.Lib.Assoc
import Mathlib.Data.String.Basic

/-!
# Phone telemetry

The service keeps the latest pong of each peer id it was handed one under, and
drops it when three pings went unanswered.
-/

namespace MeshlinkNode

/-! ## Numbers out of JSON -/

/-- A natural number rounded to 53 significant bits, ties to even. -/
def roundToDouble (n : Nat) : Nat :=
  let unit := 2 ^ (n.log2 + 1 - 53)
  let quotient := n / unit
  let rest := 2 * (n % unit)
  let up := unit < rest ∨ (unit = rest ∧ quotient % 2 = 1)
  (if up then quotient + 1 else quotient) * unit

example : roundToDouble (2 ^ 53 + 3) = 2 ^ 53 + 4 := by decide +kernel

/-- `float(n)`. -/
def floatOfInt (n : Int) : Except PyExc PyFloat :=
  if roundToDouble n.natAbs < 2 ^ 1024 then .ok (.finite (n.sign * roundToDouble n.natAbs))
  else .error .overflowError

/-- `_as_float`. -/
def asFloat : Json → Except PyExc (Option PyFloat)
  | .int n => return some (← floatOfInt n)
  | .float x => .ok (some x)
  | _ => .ok none

/-- `_as_int`. -/
def asInt : Json → Except PyExc (Option Int)
  | .int n => .ok (some n)
  | .float (.finite x) => .ok (some (truncInt x))
  | .float (.infinity _) => .error .overflowError
  | .float .nan => .error .valueError
  | _ => .ok none

def asBool : Json → Option Bool
  | .bool b => some b
  | _ => none

/-- `float` does not overflow on it. -/
def Json.FloatFits : Json → Prop
  | .int n => roundToDouble n.natAbs < 2 ^ 1024
  | _ => True

/-- `int` takes it, if it is a number at all. -/
def Json.IntFits : Json → Prop
  | .float (.infinity _) | .float .nan => False
  | _ => True

theorem asFloat_ok (value : Json) : (∃ x, asFloat value = .ok x) ↔ value.FloatFits := by
  cases value with
  | int n =>
    simp only [asFloat, floatOfInt, Json.FloatFits]
    by_cases fits : roundToDouble n.natAbs < 2 ^ 1024
    · rw [if_pos fits]
      exact iff_of_true ⟨_, rfl⟩ fits
    · rw [if_neg fits]
      refine iff_of_false ?_ fits
      rintro ⟨x, ⟨⟩⟩
  | _ => exact iff_of_true ⟨_, rfl⟩ trivial

theorem asInt_ok (value : Json) : (∃ n, asInt value = .ok n) ↔ value.IntFits := by
  cases value with
  | float x =>
    cases x with
    | finite x => exact iff_of_true ⟨_, rfl⟩ trivial
    | infinity negative => exact iff_of_false (fun ⟨_, raised⟩ => nomatch raised) id
    | nan => exact iff_of_false (fun ⟨_, raised⟩ => nomatch raised) id
  | _ => exact iff_of_true ⟨_, rfl⟩ trivial

/-! ## The service -/

structure PhoneReport where
  lat : Option PyFloat
  lon : Option PyFloat
  battery : Option Int
  charging : Option Bool
  receivedAt : Seconds

/-- One entry of the heartbeat's `phone_telemetry`. -/
structure PhoneRow where
  peerId : PeerId
  lat : Option PyFloat
  lon : Option PyFloat
  battery : Option Int
  charging : Option Bool
  ageS : Int

structure PhonePing where
  intervalS : Seconds
  reports : Dict PeerId PhoneReport

namespace PhonePing

def reportTtlS (svc : PhonePing) : Seconds := 3 * svc.intervalS

def decode (lib : JsonLib) (frame : Bytes) : Except PyExc (Option Fields) :=
  decodeFields lib PHONE_PING_MAGIC frame

/-- A key of an object that is left out where its value is None. -/
def unlessNone (key : PyStr) : Json → Fields
  | .null => []
  | value => [(key, value)]

/-- The object of a ping. What the configuration lacks is None. -/
def pingFields (nodeName nodeLat nodeLon : Json) : Fields :=
  [(text "t", .str (text "ping"))] ++ unlessNone (text "node_name") nodeName ++
    unlessNone (text "node_lat") nodeLat ++ unlessNone (text "node_lon") nodeLon

def encodePing (lib : JsonLib) (nodeName nodeLat nodeLon : Json) : Bytes :=
  PHONE_PING_MAGIC ++
    encodeAscii (dumps lib.floatRepr .compact (.obj (pingFields nodeName nodeLat nodeLon)))

/-- The report a pong makes; `now` is the service's clock. -/
def reportOf (body : Fields) (now : Seconds) : Except PyExc PhoneReport := do
  let lat ← asFloat (body.get (text "lat"))
  let lon ← asFloat (body.get (text "lon"))
  let battery ← asInt (body.get (text "battery"))
  return ⟨lat, lon, battery, asBool (body.get (text "charging")), now⟩

def handleFrame (lib : JsonLib) (svc : PhonePing) (peerId : PeerId) (frame : Bytes)
    (now : Seconds) : Except PyExc PhonePing := do
  match ← decode lib frame with
  | none => return svc
  | some body =>
    if body.hasType (text "pong") then
      let report ← reportOf body now
      return { svc with reports := svc.reports.insert peerId report }
    else return svc

/-- `reports()`: what is too old goes, the rest is listed by peer id. -/
def takeReports (svc : PhonePing) (now : Seconds) : List PhoneRow × PhonePing :=
  let stale := svc.reports.entries.filter fun e => e.2.receivedAt < now - svc.reportTtlS
  let kept := Assoc.eraseAll svc.reports (stale.map Sigma.fst)
  let rows := (kept.entries.mergeSort fun e f => e.1 ≤ f.1).map fun e =>
    ⟨e.1, e.2.lat, e.2.lon, e.2.battery, e.2.charging, truncInt (now - e.2.receivedAt)⟩
  (rows, { svc with reports := kept })

/-- The service after a frame: an exception leaves it as it was. -/
def heard (lib : JsonLib) (svc : PhonePing) (peerId : PeerId) (frame : Bytes) (now : Seconds) :
    PhonePing :=
  match svc.handleFrame lib peerId frame now with
  | .ok after => after
  | .error _ => svc

/-! ## What leaves a report -/

/-- A pong whose numbers Python can convert. -/
def Reportable (lib : JsonLib) (frame : Bytes) : Prop :=
  ∃ body, decode lib frame = .ok (some body) ∧ body.hasType (text "pong") ∧
    (body.get (text "lat")).FloatFits ∧ (body.get (text "lon")).FloatFits ∧
    (body.get (text "battery")).IntFits

variable {lib : JsonLib} {svc : PhonePing} {peerId peer : PeerId} {frame : Bytes} {now : Seconds}

theorem reportOf_ok (body : Fields) (now : Seconds) :
    (∃ report, reportOf body now = .ok report) ↔
      (body.get (text "lat")).FloatFits ∧ (body.get (text "lon")).FloatFits ∧
        (body.get (text "battery")).IntFits := by
  rw [← asFloat_ok, ← asFloat_ok, ← asInt_ok]
  unfold reportOf
  cases asFloat (body.get (text "lat")) with
  | error exc => simp [bind, Except.bind]
  | ok lat =>
    cases asFloat (body.get (text "lon")) with
    | error exc => simp [bind, Except.bind]
    | ok lon =>
      cases asInt (body.get (text "battery")) with
      | error exc => simp [bind, Except.bind]
      | ok battery => simp [bind, Except.bind, pure, Except.pure]

/-! What `handle_frame` does with each outcome of `decode`. -/

theorem handleFrame_raised {exc : PyExc} (raised : decode lib frame = .error exc) :
    svc.handleFrame lib peerId frame now = .error exc := by
  simp [handleFrame, raised, bind, Except.bind]

theorem handleFrame_ignored (ignored : decode lib frame = .ok none) :
    svc.handleFrame lib peerId frame now = .ok svc := by
  simp [handleFrame, ignored, bind, Except.bind, pure, Except.pure]

theorem handleFrame_other {body : Fields} (decoded : decode lib frame = .ok (some body))
    (other : body.hasType (text "pong") = false) :
    svc.handleFrame lib peerId frame now = .ok svc := by
  simp [handleFrame, decoded, other, bind, Except.bind, pure, Except.pure]

theorem handleFrame_pong {body : Fields} (decoded : decode lib frame = .ok (some body))
    (typed : body.hasType (text "pong") = true) :
    svc.handleFrame lib peerId frame now = (reportOf body now).map fun report =>
      { svc with reports := svc.reports.insert peerId report } := by
  cases made : reportOf body now with
  | error exc => simp [handleFrame, decoded, typed, made, bind, Except.bind, Except.map]
  | ok report =>
    simp [handleFrame, decoded, typed, made, bind, Except.bind, pure, Except.pure, Except.map]

/-- One report is written or none is, and which it is the frame decides. -/
theorem heard_cases (lib : JsonLib) (svc : PhonePing) (peerId : PeerId) (frame : Bytes)
    (now : Seconds) :
    (Reportable lib frame ∧ ∃ report, svc.heard lib peerId frame now =
      { svc with reports := svc.reports.insert peerId report }) ∨
    (¬ Reportable lib frame ∧ svc.heard lib peerId frame now = svc) := by
  unfold heard Reportable
  cases decoded : decode lib frame with
  | error exc => exact .inr ⟨by simp, by rw [handleFrame_raised decoded]⟩
  | ok read =>
    cases read with
    | none => exact .inr ⟨by simp, by rw [handleFrame_ignored decoded]⟩
    | some body =>
      simp only [Except.ok.injEq, Option.some.injEq, exists_eq_left', ← reportOf_ok body now]
      cases typed : body.hasType (text "pong") with
      | false => exact .inr ⟨by simp, by rw [handleFrame_other decoded typed]⟩
      | true =>
        rw [handleFrame_pong decoded typed]
        cases made : reportOf body now with
        | error exc => exact .inr ⟨by simp, rfl⟩
        | ok report => exact .inl ⟨⟨rfl, report, rfl⟩, report, rfl⟩

theorem mem_heard : peer ∈ (svc.heard lib peerId frame now).reports ↔
    (peer = peerId ∧ Reportable lib frame) ∨ peer ∈ svc.reports := by
  rcases heard_cases lib svc peerId frame now with ⟨pong, report, written⟩ | ⟨other, same⟩
  · rw [written, AList.mem_insert, and_iff_left pong]
  · rw [same]
    simp [other]

theorem mem_takeReports (kept : peer ∈ (svc.takeReports now).2.reports) : peer ∈ svc.reports := by
  obtain ⟨report, found⟩ := AList.lookup_isSome.mpr kept |> Option.isSome_iff_exists.mp
  simp only [takeReports, Assoc.lookup_eraseAll] at found
  split at found
  · cases found
  · exact AList.lookup_isSome.mp (Option.isSome_iff_exists.mpr ⟨report, found⟩)

end PhonePing

end MeshlinkNode
