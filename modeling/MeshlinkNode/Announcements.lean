import MeshlinkNode.Batman
import MeshlinkNode.Gossip

/-!
# The announcement codec

What a node encodes, every node decodes. A frame made elsewhere may hold any
JSON: the decoder catches three classes of exception, and hands the address on
unseen.
-/

namespace MeshlinkNode

/-! ## What an `except` list lets through -/

/-- The classes `decode_announcement` catches. -/
def PyExc.Caught (exc : PyExc) : Prop :=
  exc = .valueError ∨ exc = .keyError ∨ exc = .typeError

instance (exc : PyExc) : Decidable exc.Caught := inferInstanceAs (Decidable (_ ∨ _ ∨ _))

/-- The code raises nothing that passes the `except`, and what it returns is as
`P` says. -/
def Contained {α : Type} (result : Except PyExc α) (P : α → Prop) : Prop :=
  match result with
  | .ok a => P a
  | .error exc => exc.Caught

section

variable {α β : Type} {P Q : α → Prop}

@[simp] theorem contained_ok (a : α) : Contained (.ok a) P ↔ P a := Iff.rfl

@[simp] theorem contained_error (exc : PyExc) : Contained (.error exc) P ↔ exc.Caught := Iff.rfl

/-- A `try` is as safe as its statements, one after the other. -/
theorem contained_bind (result : Except PyExc α) (rest : α → Except PyExc β) (R : β → Prop) :
    Contained (result >>= rest) R ↔ Contained result fun a => Contained (rest a) R := by
  cases result <;> rfl

theorem contained_congr (result : Except PyExc α) (same : ∀ a, P a ↔ Q a) :
    Contained result P ↔ Contained result Q := by
  cases result with
  | ok a => exact same a
  | error exc => exact Iff.rfl

end

/-- A field of a JSON object. What is no object has none, and a missing one is
caught. -/
theorem contained_getItem (body : Json) (key : PyStr) (P : Json → Prop) :
    Contained (body.getItem key) P ↔
      ∀ fields, body = .obj fields → ∀ value, fields.lookup key = some value → P value := by
  cases body with
  | obj fields =>
    cases found : fields.lookup key with
    | none => simp [Json.getItem, found, PyExc.Caught]
    | some value => simp [Json.getItem, found]
  | _ => simp [Json.getItem, PyExc.Caught]

/-! ## What the decoder is ready for -/

/-- The declared `Addr`: a host, or a host and a port. -/
def Addr.Declared (addr : Addr) : Prop :=
  (∃ host, addr = .value (.str host)) ∨ ∃ host port, addr.pair? = some (host, port)

/-- The JSON of a host, or of a host and a port. -/
def Json.IsAddr : Json → Prop
  | .str _ | .arr [.str _, .int _] | .arr [.str _, .bool _] => True
  | _ => False

theorem declared_ofJson (raw : Json) : (Addr.ofJson raw).Declared ↔ raw.IsAddr := by
  constructor
  · rintro (⟨host, same⟩ | ⟨host, port, pair⟩)
    · cases raw <;> cases same
      trivial
    · cases raw with
      | arr items =>
        unfold Addr.ofJson Addr.pair? at pair
        split at pair
        · rename_i same
          cases same
          trivial
        · rename_i same
          cases same
          trivial
        · cases pair
      | _ => cases pair
  · intro shape
    unfold Json.IsAddr at shape
    split at shape
    · exact .inl ⟨_, rfl⟩
    · exact .inr ⟨_, _, rfl⟩
    · exact .inr ⟨_, _, rfl⟩
    · exact shape.elim

/-- The decoder returns: nothing, or a record of the declared types. `Announcement`
has a string for a node id and an integer for a zone. -/
def DecodesTyped (lib : Stdlib) (frame : Bytes) : Prop :=
  ∃ decoded, decodeAnnouncement lib frame = .ok decoded ∧ ∀ ann ∈ decoded, ann.addr.Declared

/-- The zone id is not infinite, and where it makes an integer, the rest is as
`rest` says. -/
def ZoneFits (lib : Stdlib) (rest : Prop) : Json → Prop
  | .float (.infinity _) => False
  | .float .nan | .null | .arr _ | .obj _ => True
  | .bool _ | .int _ | .float (.finite _) => rest
  | .str s => Contained (lib.intOfStr s) fun _ => rest

/-- No value of an announcement's fields is one the decoder trips on: each is
looked at if those before it made a string and an integer. -/
def FieldsFit (lib : Stdlib) (fields : List (PyStr × Json)) : Prop :=
  ∀ nodeId, fields.lookup (text "node_id") = some nodeId →
    Contained (lib.str nodeId) fun _ =>
      ∀ zoneId, fields.lookup (text "zone_id") = some zoneId →
        ZoneFits lib (∀ addr, fields.lookup (text "addr") = some addr → addr.IsAddr) zoneId

/-- What a frame may hold after the magic: anything that `json.loads` refuses with
a class that is caught, what is no object, and an object whose fields fit. -/
def FrameFits (lib : Stdlib) (frame : Bytes) : Prop :=
  ZONE_SYNC_MAGIC <+: frame →
    Contained (lib.jsonLoads (frame.drop ZONE_SYNC_MAGIC.length)) fun body =>
      ∀ fields, body = .obj fields → FieldsFit lib fields

theorem contained_int (lib : Stdlib) (rest : Prop) (zoneId : Json) :
    Contained (lib.int zoneId) (fun _ => rest) ↔ ZoneFits lib rest zoneId := by
  cases zoneId with
  | float x => cases x <;> simp [Stdlib.int, ZoneFits, PyExc.Caught]
  | str s => rfl
  | null | bool b | int n | arr items | obj fields => simp [Stdlib.int, ZoneFits, PyExc.Caught]

/-- The `try`, statement by statement. -/
theorem contained_parseAnnouncement (lib : Stdlib) (frame : Bytes) :
    Contained (parseAnnouncement lib frame) (fun ann => ann.addr.Declared) ↔
      Contained (lib.jsonLoads (frame.drop ZONE_SYNC_MAGIC.length)) fun body =>
        ∀ fields, body = .obj fields → FieldsFit lib fields := by
  unfold parseAnnouncement
  rw [contained_bind]
  refine contained_congr _ fun body => ?_
  simp only [contained_bind, contained_getItem, pure, Except.pure, contained_ok, declared_ofJson,
    contained_int]
  refine forall₄_congr fun fields same nodeId held => contained_congr _ fun name => ?_
  subst same
  simp

theorem decodesTyped_iff (lib : Stdlib) (frame : Bytes) :
    DecodesTyped lib frame ↔ FrameFits lib frame := by
  unfold DecodesTyped FrameFits decodeAnnouncement
  by_cases magic : ZONE_SYNC_MAGIC <+: frame
  · simp only [magic, true_imp_iff, ← contained_parseAnnouncement]
    cases parseAnnouncement lib frame with
    | ok ann => simp
    | error exc =>
      by_cases caught : exc.Caught
      · simp [caught, if_pos (show _ ∨ _ from caught)]
      · simp [caught, if_neg (show ¬ (_ ∨ _) from caught)]
  · simp [magic]

/-- **The codec.** A node's announcement is decoded as it was encoded, and every
frame decodes to nothing or to a record of the declared types exactly if it
fits. -/
theorem codec_iff_fits {lib : JsonLib} {node : GossipNode} (json : ReadsBack lib node)
    (frame : Bytes) :
    decodeAnnouncement lib.toStdlib (node.encodeAnnouncement lib) =
        .ok (some ⟨node.nodeId, node.zoneId, node.ownAddr.addr⟩) ∧
      (DecodesTyped lib.toStdlib frame ↔ FrameFits lib.toStdlib frame) :=
  ⟨decode_encode json, decodesTyped_iff lib.toStdlib frame⟩

/-! ## A node that hears only such frames -/

namespace ZoneSync

variable {lib : Stdlib} {sync : ZoneSync}

/-- A frame that fits does not disturb the receive loop. -/
theorem onControl_returns {frame : Bytes} (fits : FrameFits lib frame)
    (table : DynamicZoneTable Addr) (now : Seconds) :
    (sync.onControl lib table frame now).2 = .ok () := by
  obtain ⟨decoded, returns, -⟩ := (decodesTyped_iff lib frame).mpr fits
  unfold onControl
  rw [returns]
  cases decoded with
  | none => rfl
  | some ann =>
    by_cases own : ann.nodeId = sync.nodeId
    · simp [own]
    · simp [own]

theorem announced_declared {frame : Bytes} (fits : FrameFits lib frame) {ann : Announcement}
    (taught : sync.announced lib frame = some ann) : ann.addr.Declared := by
  obtain ⟨decoded, returns, typed⟩ := (decodesTyped_iff lib frame).mpr fits
  unfold announced at taught
  rw [returns] at taught
  cases decoded with
  | none => cases taught
  | some held =>
    obtain ⟨-, same⟩ := Option.ite_none_left_eq_some.mp taught
    cases same
    exact typed _ rfl

/-- Over a run of frames that fit, a table whose seed holds addresses routes to
addresses only. -/
theorem routes_declared {seed : Dict Int Addr} {entryTtlS : Seconds} {events : List SyncEvent}
    (pinned : ∀ z addr, seed.lookup z = some addr → addr.Declared)
    (fit : ∀ frame reading, .control frame reading ∈ events → FrameFits lib frame) {now : Seconds}
    (later : ∀ event ∈ events, ∀ reading, event.Reads reading → reading ≤ now) {z : Int}
    {addr : Addr}
    (found : (Runs.run (sync.step lib) (.new seed entryTtlS) events).addrFor z now = some addr) :
    addr.Declared := by
  rw [addrFor_run lib sync seed entryTtlS later z] at found
  unfold DynamicZoneTable.routed at found
  cases last : DynamicZoneTable.lastLearn z (events.filterMap (·.change lib sync)) with
  | none =>
    rw [last] at found
    exact pinned z addr found
  | some lesson =>
    obtain ⟨learned, seen⟩ := lesson
    simp only [last] at found
    by_cases young : now - seen ≤ entryTtlS
    · rw [if_pos young] at found
      cases found
      obtain ⟨event, mem, wrote⟩ := List.mem_filterMap.mp (DynamicZoneTable.lastLearn_mem last)
      cases event with
      | forgetStale readings => cases wrote
      | control frame reading =>
        obtain ⟨ann, taught, same⟩ := Option.map_eq_some_iff.mp wrote
        cases same
        exact announced_declared (fit frame _ mem) taught
    · rw [if_neg young] at found
      exact pinned z addr found

end ZoneSync

namespace Sample

theorem codec_iff_fits_court :
    decodeAnnouncement gossipLib.toStdlib (court.encodeAnnouncement gossipLib) =
        .ok (some ⟨text "b", 2, .tuple [.str (text "10.77.0.2"), .int 19788]⟩) ∧
      (DecodesTyped gossipLib.toStdlib (stage.encodeAnnouncement gossipLib) ↔
        FrameFits gossipLib.toStdlib (stage.encodeAnnouncement gossipLib)) :=
  codec_iff_fits ⟨loads_court, fun _ => rfl⟩ _

/-- A zone id that is no finite number. -/
def infiniteZone : Json :=
  .obj [(text "node_id", .str (text "x")), (text "zone_id", .float (.infinity false)),
    (text "addr", .str (text "h"))]

/-- An address that is none. -/
def noAddr : Json :=
  .obj [(text "node_id", .str (text "x")), (text "zone_id", .int 1), (text "addr", .null)]

def infiniteZoneText : Bytes :=
  encodeAscii (text "\x7b\"node_id\": \"x\", \"zone_id\": Infinity, \"addr\": \"h\"\x7d")

def noAddrText : Bytes :=
  encodeAscii (text "\x7b\"node_id\": \"x\", \"zone_id\": 1, \"addr\": null\x7d")

/-- `json.loads` of the two texts. -/
def announcementLib : Stdlib where
  jsonLoads := fun raw =>
    if raw = infiniteZoneText then .ok infiniteZone
    else if raw = noAddrText then .ok noAddr
    else .error .valueError
  str := gossipLib.str
  intOfStr := gossipLib.intOfStr

/-- The first frame raises out of the decoder; the second comes out of it as an
announcement of no address. -/
theorem announcements_undecoded :
    decodeAnnouncement announcementLib (ZONE_SYNC_MAGIC ++ infiniteZoneText) =
        .error .overflowError ∧
      ¬ DecodesTyped announcementLib (ZONE_SYNC_MAGIC ++ infiniteZoneText) ∧
      decodeAnnouncement announcementLib (ZONE_SYNC_MAGIC ++ noAddrText) =
        .ok (some ⟨text "x", 1, .value .null⟩) ∧
      ¬ DecodesTyped announcementLib (ZONE_SYNC_MAGIC ++ noAddrText) := by
  have raises : decodeAnnouncement announcementLib (ZONE_SYNC_MAGIC ++ infiniteZoneText) =
      .error .overflowError := by
    rfl
  have nameless : decodeAnnouncement announcementLib (ZONE_SYNC_MAGIC ++ noAddrText) =
      .ok (some ⟨text "x", 1, .value .null⟩) := by
    rfl
  refine ⟨raises, ?_, nameless, ?_⟩
  · rintro ⟨decoded, returns, -⟩
    rw [raises] at returns
    cases returns
  · rintro ⟨decoded, returns, typed⟩
    rw [nameless] at returns
    cases returns
    rcases typed _ rfl with ⟨host, same⟩ | ⟨host, port, pair⟩
    · cases same
    · cases pair

end Sample

end MeshlinkNode
