import MeshlinkNode.JsonReread
import MeshlinkNode.DirectorySync
import MeshlinkNode.Config
import MeshlinkNode.Heartbeat
import MeshlinkNode.ProxyReplies

/-!
# The wire formats read back

With the standard library's own scanner behind `json.loads`, what the node
writes as JSON is read as it was meant: by other nodes, by the node itself
after a restart, by phones, and from phones.
-/

namespace MeshlinkNode

/-- `json.loads` is the scanner, `limit` levels deep. -/
structure JsonLib.Scans (lib : JsonLib) (parseFloat : PyStr → PyFloat) (limit : Nat) : Prop where
  loads : ∀ s, lib.loads s = MeshlinkNode.loads parseFloat limit s
  floats : FloatsSpelled lib.floatRepr parseFloat
  ascii : ∀ x, ∀ c ∈ lib.floatRepr x, c < 128

/-- So it is for bytes, of which the first two tell the encoding. -/
structure JsonLib.ScansBytes (lib : JsonLib) (parseFloat : PyStr → PyFloat) (limit : Nat) : Prop
    extends lib.Scans parseFloat limit where
  jsonLoads : ∀ s, (∀ c ∈ s, c < 128) → 2 ≤ s.length → (∀ c ∈ s.take 2, c ≠ 0) →
    lib.jsonLoads (encodeAscii s) = MeshlinkNode.loads parseFloat limit s

variable {lib : JsonLib} {parseFloat : PyStr → PyFloat} {limit : Nat}

/-! ## Frames with a JSON object -/

/-- **A frame reads as the object it was made of**, if the object has a type. -/
theorem decodeFields_dumps (scans : lib.Scans parseFloat limit) (magic : Bytes) {fields : Fields}
    (typed : (fields.lookup (text "t")).isSome)
    (read : ReadFrom lib.floatRepr parseFloat limit (.obj fields)) :
    decodeFields lib magic (magic ++ encodeAscii (dumps lib.floatRepr .compact (.obj fields))) =
      .ok (some fields) := by
  have decoded : decodeUtf8 none (encodeAscii (dumps lib.floatRepr .compact (.obj fields))) >>=
      lib.loads = .ok (.obj fields) := by
    rw [decodeUtf8_dumps (asciiParts_compact scans.ascii)]
    exact (scans.loads _).trans (read.loads_dumps spaced_compact)
  have own : magic.isPrefixOf
      (magic ++ encodeAscii (dumps lib.floatRepr .compact (.obj fields))) = true :=
    List.isPrefixOf_iff_prefix.mpr (List.prefix_append _ _)
  rw [decodeFields, if_pos own, List.drop_left, decoded]
  simp only [if_pos typed]

/-- **A frame that was read can be written again**, field by field. -/
theorem readFrom_decodeFields (scans : lib.Scans parseFloat limit) {magic frame : Bytes}
    {fields : Fields} (decoded : decodeFields lib magic frame = .ok (some fields)) :
    ReadFrom lib.floatRepr parseFloat limit (.obj fields) := by
  unfold decodeFields at decoded
  split at decoded
  · split at decoded
    · split at decoded <;> cases decoded
    · rename_i found parsed
      obtain ⟨s, utf8, read⟩ := bind_eq_ok.mp parsed
      split at decoded
      · cases decoded
        rw [scans.loads] at read
        exact loads_readFrom scans.floats (utf8_decodeUtf8 utf8) read
      · cases decoded
    · cases decoded
  · cases decoded

theorem mem_of_lookup {fields : Fields} {key : PyStr} {v : Json}
    (found : fields.lookup key = some v) : (key, v) ∈ fields := by
  obtain ⟨front, back, rfl, -⟩ := List.lookup_eq_some_iff.mp found
  simp

/-- The value of a key of an object that was read, or None. -/
theorem readFrom_get {floatRepr : ℚ → PyStr} {depth : Nat} {fields : Fields}
    (read : ReadFrom floatRepr parseFloat depth (.obj fields)) (key : PyStr) :
    ReadFrom floatRepr parseFloat (depth - 1) (fields.get key) := by
  unfold Fields.get
  cases found : fields.lookup key with
  | none => exact ⟨trivial, Nat.zero_le _⟩
  | some v => exact (read.field (mem_of_lookup found)).2

theorem readFrom_getItem {floatRepr : ℚ → PyStr} {depth : Nat} {value item : Json} {key : PyStr}
    (read : ReadFrom floatRepr parseFloat depth value) (found : value.getItem key = .ok item) :
    ReadFrom floatRepr parseFloat (depth - 1) item := by
  cases value with
  | obj fields =>
    cases here : fields.lookup key with
    | none =>
      rw [Json.getItem, here] at found
      cases found
    | some v =>
      rw [Json.getItem, here] at found
      cases found
      exact (read.field (mem_of_lookup here)).2
  | _ => cases found

/-! ## Announcements -/

namespace NodeAddr

/-- An address whose parts `json` gives back. -/
def Readable : NodeAddr → Prop
  | .host h => Scannable h
  | .hostPort h port => Scannable h ∧ FewDigits port

theorem readFrom_wire (floatRepr : ℚ → PyStr) (parseFloat : PyStr → PyFloat) {a : NodeAddr}
    (readable : a.Readable) : ReadFrom floatRepr parseFloat 1 a.wire := by
  cases a with
  | host h => exact ⟨readable, Nat.zero_le _⟩
  | hostPort h port => exact ⟨⟨readable.1, readable.2, trivial⟩, Nat.le_refl 1⟩

end NodeAddr

namespace GossipNode

/-- A node whose id and address `json` gives back. -/
structure Readable (node : GossipNode) : Prop where
  nodeId : Scannable node.nodeId
  zoneId : FewDigits node.zoneId
  ownAddr : node.ownAddr.Readable

theorem readFrom_body (floatRepr : ℚ → PyStr) (parseFloat : PyStr → PyFloat) {node : GossipNode}
    (readable : node.Readable) : ReadFrom floatRepr parseFloat 2 node.body := by
  have addr := node.ownAddr.readFrom_wire floatRepr parseFloat readable.ownAddr
  have distinct : [text "node_id", text "zone_id", text "addr"].Nodup := by decide
  refine ⟨⟨distinct, text_scannable (by decide), readable.nodeId, text_scannable (by decide),
    readable.zoneId, text_scannable (by decide), addr.readable, trivial⟩, ?_⟩
  have := addr.deep
  simp only [body, Json.depth, Json.depthFields]
  omega

/-- What gossip relies on in `json` is so. -/
theorem readsBack (scans : lib.ScansBytes parseFloat limit) (nested : 2 ≤ limit)
    (str : ∀ s, lib.str (.str s) = .ok s) {node : GossipNode} (readable : node.Readable) :
    ReadsBack lib node where
  loads := by
    have read := (node.readFrom_body lib.floatRepr parseFloat readable).mono nested
    have ascii := dumps_ascii (asciiParts_default scans.ascii) node.body
    have start : ∃ rest, dumps lib.floatRepr .default node.body = 123 :: 34 :: rest := ⟨_, rfl⟩
    obtain ⟨rest, start⟩ := start
    rw [bodyText, scans.jsonLoads _ ascii (by simp [start]) (by simp [start])]
    exact read.loads_dumps spaced_default
  str := str

end GossipNode

/-- A string as the system hands it over: bytes that are no UTF-8 become low
surrogates, so there are no high ones. -/
def SystemText (s : PyStr) : Prop := ∀ c ∈ s, c < 0x110000 ∧ ¬ highSurrogate c

theorem SystemText.scannable {s : PyStr} (given : SystemText s) : Scannable s := by
  refine ⟨fun c mem => (given c mem).1, ?_⟩
  induction s with
  | nil => exact .nil
  | cons c rest ih =>
    have tail := ih fun d mem => given d (.tail _ mem)
    exact List.isChain_cons.mpr ⟨fun d _ halves => (given c (.head _)).2 halves.1, tail⟩

theorem readable_parseAddr {s : PyStr} (given : SystemText s) {a : NodeAddr}
    (read : parseAddr s = .ok a) : a.Readable := by
  have stripped : SystemText (strip s) := fun c mem => given c (mem_of_mem_strip mem)
  unfold parseAddr at read
  simp only at read
  split at read
  · rename_i host port parts
    obtain ⟨n, number, same⟩ := bind_eq_ok.mp read
    cases same
    have part : SystemText host := by
      obtain ⟨-, same⟩ := Option.ite_none_right_eq_some.mp parts
      cases same
      intro c mem
      exact stripped c ((List.rdropWhile_prefix _ _).subset (List.mem_of_mem_dropLast mem))
    exact ⟨part.scannable, pyInt_few number⟩
  · cases read
    exact stripped.scannable

namespace Environ

/-- The variables are the system's. -/
structure Given (env : Environ) : Prop where
  advertiseAddr : ∀ s, env.advertiseAddr = some s → SystemText s
  nodeId : SystemText (env.nodeId.getD env.hostname)

theorem readable_gossipNode {env : Environ} (given : env.Given) {node : GossipNode}
    (configured : env.gossipNode = .ok node) : node.Readable := by
  obtain ⟨zoneId, zone, configured⟩ := bind_eq_ok.mp configured
  obtain ⟨ownAddr, own, same⟩ := bind_eq_ok.mp configured
  cases same
  have few := pyInt_few zone
  have default : Scannable (text "10.77.0." ++ intRepr zoneId) :=
    (ascii_utf8 (text_ascii (by decide))).append_scannable
      (ascii_utf8 (intRepr_ascii zoneId)).scannable
  refine ⟨given.nodeId.scannable, few, ?_⟩
  unfold backhaulAdvertiseAddr at own
  split at own
  · cases own
    exact default
  · cases own
    exact default
  · exact readable_parseAddr (given.advertiseAddr _ ‹_›) own

end Environ

/-- **Announcements are read.** However a node is configured, if it starts at all
then every node reads its announcement as its id, its zone and its address. -/
theorem configured_announced (lib : JsonLib) (parseFloat : PyStr → PyFloat) (limit : Nat)
    (scans : lib.ScansBytes parseFloat limit) (nested : 2 ≤ limit)
    (str : ∀ s, lib.str (.str s) = .ok s) (env : Environ) (given : env.Given)
    (node : GossipNode) (configured : env.gossipNode = .ok node) :
    decodeAnnouncement lib.toStdlib (node.encodeAnnouncement lib) =
      .ok (some ⟨node.nodeId, node.zoneId, node.ownAddr.addr⟩) :=
  decode_encode (GossipNode.readsBack scans nested str (env.readable_gossipNode given configured))

/-! ## The directory's disk copy -/

namespace SyncedDirectory

open DirectoryCache

variable {core : Core}

/-- The backend answered with the JSON text of something, and without surrogates
of their own in it. -/
def Answered (parseFloat : PyStr → PyFloat) (limit : Nat) (attempt : SyncAttempt) : Prop :=
  ∀ body, attempt.response = .ok body →
    ∃ s, Utf8Text s ∧ loads parseFloat limit s = .ok body

/-- The list of users goes to the disk and comes back. -/
theorem readsBack (scans : lib.Scans parseFloat limit) {attempt : SyncAttempt}
    (answered : Answered parseFloat limit attempt) : ReadsBack lib attempt := by
  intro body users response item
  obtain ⟨s, utf8, read⟩ := answered body response
  have whole := loads_readFrom scans.floats utf8 read
  have part := (readFrom_getItem whole item).mono (Nat.sub_le limit 1)
  exact (scans.loads _).trans (part.loads_dumps spaced_default)

/-- On a disk that can be written, an attempt leaves everything or replaces it,
also one that raises. -/
theorem step_cases (lib : JsonLib) (d : SyncedDirectory core) {attempt : SyncAttempt}
    (written : attempt.write = .succeeds) :
    d.step lib attempt = d ∨ d.Replaced lib attempt := by
  obtain ⟨same, -⟩ | ⟨⟨exc, raised⟩, -⟩ | ⟨-, replaced, -⟩ := d.refresh_cases lib attempt
  · exact .inl (congrArg Prod.fst same)
  · left
    unfold step refresh
    unfold refresh at raised
    rw [written] at raised ⊢
    split
    · split <;> rfl
    · split
      · rfl
      · rename_i item _ _ built
        simp only [item, built] at raised
        cases raised
  · exact .inr replaced

theorem inStep_written {d : SyncedDirectory core} {attempt : SyncAttempt} (kept : d.InStep lib)
    (written : attempt.write = .succeeds) (json : ReadsBack lib attempt) :
    (d.step lib attempt).InStep lib := by
  obtain same | ⟨body, users, fresh, response, item, built, new⟩ := d.step_cases lib written
  · rw [same]
    exact kept
  · have loaded := json body users response item
    rw [step, new]
    simp [InStep, construct, loaded, built, bind, Except.bind]

/-- **A restart needs no backend.** Whatever the backend answered, and whether or
not an attempt raised, a node started again on the file alone has the directory
it had. -/
theorem restart_offline (lib : JsonLib) (parseFloat : PyStr → PyFloat) (limit : Nat)
    (scans : lib.Scans parseFloat limit) (disk : DiskFile) (live : DirectoryCache core)
    (booted : construct core lib disk = .ok live) (attempts : List SyncAttempt)
    (written : ∀ attempt ∈ attempts, attempt.write = .succeeds)
    (answered : ∀ attempt ∈ attempts, Answered parseFloat limit attempt) :
    construct core lib (Runs.run (step lib) ⟨live, disk⟩ attempts).disk =
      .ok (Runs.run (step lib) ⟨live, disk⟩ attempts).cache := by
  have sound := fun attempt mem =>
    And.intro (written attempt mem) (readsBack scans (answered attempt mem))
  have kept : (Runs.run (step lib) ⟨live, disk⟩ attempts).InStep lib :=
    Runs.invariant (fun _ _ held ok => inStep_written held ok.1 ok.2) booted
      (Runs.along_of_forall sound)
  exact kept

end SyncedDirectory

/-! ## Replies -/

namespace BackendProxy

/-- Whatever the proxy reports of a status, `int` can read it. -/
def Uplink.FewDigits : Uplink → Prop
  | .response status _ => MeshlinkNode.FewDigits status
  | .httpError code _ => MeshlinkNode.FewDigits code
  | .badUrl | .raises => True

/-- A reply that `json` gives back. -/
structure Said.Readable (s : Said) : Prop where
  status : FewDigits s.status
  body : ∀ t, s.body = some t → Scannable t
  error : ∀ t, s.error = some t → Scannable t

theorem fewDigits_zero : FewDigits 0 := (by decide : 1 ≤ 4300)

theorem readable_failed {error : PyStr} (scannable : Scannable error) :
    (Said.failed error).Readable :=
  ⟨fewDigits_zero, by simp [Said.failed], by simpa [Said.failed] using scannable⟩

theorem readable_content {status : Int} (few : FewDigits status) (content : Bytes) :
    (Said.content status content).Readable := by
  unfold Said.content
  split
  · exact readable_failed (text_scannable (by decide))
  · refine ⟨few, fun t same => ?_, by simp⟩
    cases same
    exact (utf8_decodeReplace (by simp)).scannable

theorem readable_uplink {did : Uplink} (few : did.FewDigits) {s : Said}
    (told : did.said = .ok s) : s.Readable := by
  cases did with
  | badUrl => cases told
  | response status body =>
    cases told
    exact readable_content few body.came
  | httpError code body =>
    obtain ⟨read, -, same⟩ := bind_eq_ok.mp told
    cases same
    exact readable_content few read.came
  | raises =>
    cases told
    exact readable_failed (text_scannable (by decide))

theorem readable_said {limit : Nat} {req : Fields}
    (read : ReadFrom lib.floatRepr parseFloat limit (.obj req))
    (shown : ∀ v t, (∀ s, v ≠ .str s) → lib.str v = .ok t → Utf8Text t) {baseUrl : PyStr}
    {uplink : HttpRequest → Uplink} (few : ∀ request, (uplink request).FewDigits) {s : Said}
    (told : said lib baseUrl uplink req = .ok s) : s.Readable := by
  unfold said at told
  split at told
  · obtain ⟨method, formats, same⟩ := bind_eq_ok.mp told
    cases same
    refine readable_failed (Utf8Text.append_scannable (ascii_utf8 (text_ascii (by decide))) ?_)
    have value := (readFrom_get read (text "method")).readable
    cases given : req.get (text "method") with
    | str t =>
      rw [given] at formats value
      cases formats
      exact value
    | _ =>
      rw [given] at formats
      exact (shown _ _ (by simp) formats).scannable
  · split at told
    · cases told
      exact readable_failed (text_scannable (by decide))
    · obtain ⟨request, -, told⟩ := bind_eq_ok.mp told
      exact readable_uplink (few request) told

theorem Said.Readable.readFrom {s : Said} (readable : s.Readable) {reqId : Json} {depth : Nat}
    (id : ReadFrom lib.floatRepr parseFloat depth reqId) :
    ReadFrom lib.floatRepr parseFloat (depth + 1) (.obj (s.fields reqId)) := by
  obtain ⟨status, body, error⟩ := s
  have keys : [text "t", text "id", text "status", text "body", text "error"].Nodup := by decide
  have given : ((Said.fields reqId ⟨status, body, error⟩).map Prod.fst).Sublist
      [text "t", text "id", text "status", text "body", text "error"] := by
    cases body <;> cases error <;> simp [Said.fields, responseFields]
  have string {key : PyStr} (name : Scannable key) {said : Option PyStr}
      (scannable : ∀ t, said = some t → Scannable t) :
      ∀ field ∈ (said.map fun s => (key, Json.str s)).toList,
        Scannable field.1 ∧ ReadFrom lib.floatRepr parseFloat depth field.2 := by
    intro field mem
    cases said with
    | none => cases mem
    | some t =>
      cases List.mem_singleton.mp mem
      exact ⟨name, scannable t rfl, Nat.zero_le _⟩
  refine readFrom_fields (keys.sublist given) (List.forall_mem_append.mpr
    ⟨List.forall_mem_append.mpr ⟨?_, string (text_scannable (by decide)) readable.body⟩,
      string (text_scannable (by decide)) readable.error⟩)
  refine List.forall_mem_cons.mpr ⟨⟨text_scannable (by decide), text_scannable (by decide),
    Nat.zero_le _⟩, List.forall_mem_cons.mpr ⟨⟨text_scannable (by decide), id⟩,
      List.forall_mem_singleton.mpr ⟨text_scannable (by decide), readable.status, Nat.zero_le _⟩⟩⟩

/-- **Replies are read.** Whatever frame a phone asked with, what the proxy
answers reads as what is due, under the id the phone gave. -/
theorem reply_read (lib : JsonLib) (parseFloat : PyStr → PyFloat) (limit : Nat)
    (scans : lib.Scans parseFloat limit)
    (shown : ∀ v t, (∀ s, v ≠ .str s) → lib.str v = .ok t → Utf8Text t) (baseUrl : PyStr)
    (uplink : HttpRequest → Uplink) (few : ∀ request, (uplink request).FewDigits)
    (frame : Bytes) (req : Fields) (asked : handleFrame lib frame = .ok (some req))
    (reply : Bytes) (returned : execute lib baseUrl uplink req = .ok reply) :
    ∃ s, said lib baseUrl uplink req = .ok s ∧
      decode lib reply = .ok (some (s.fields (req.get (text "id")))) := by
  have read : ReadFrom lib.floatRepr parseFloat limit (.obj req) := by
    obtain ⟨found, decoded, asked⟩ := bind_eq_ok.mp asked
    cases found with
    | none => cases asked
    | some body =>
      obtain ⟨-, same⟩ : body.hasType (text "req") = true ∧ body = req := by
        by_cases typed : body.hasType (text "req") = true
        · exact ⟨typed, by simpa [typed, pure, Except.pure] using asked⟩
        · simp [typed, pure, Except.pure] at asked
      exact same ▸ readFrom_decodeFields scans decoded
  rw [execute_eq] at returned
  obtain ⟨s, told, rfl⟩ := map_ok returned
  have readable := readable_said read shown few told
  have nested : limit - 1 + 1 = limit := by
    have := read.deep
    rw [Json.depth] at this
    omega
  have back := readable.readFrom (readFrom_get read (text "id"))
  rw [nested] at back
  exact ⟨s, told, decode_encode ⟨(scans.loads _).trans (back.loads_dumps spaced_compact),
    scans.ascii⟩⟩

end BackendProxy

/-! ## Telemetry -/

namespace PhonePing

theorem readFrom_unlessNone {floatRepr : ℚ → PyStr} {depth : Nat} {key : PyStr} {v : Json}
    (name : Scannable key) (read : ReadFrom floatRepr parseFloat depth v) :
    ∀ field ∈ unlessNone key v,
      Scannable field.1 ∧ ReadFrom floatRepr parseFloat depth field.2 := by
  intro field mem
  cases v with
  | null => cases mem
  | _ =>
    cases List.mem_singleton.mp mem
    exact ⟨name, read⟩

theorem keys_unlessNone (key : PyStr) (v : Json) :
    ((unlessNone key v).map Prod.fst).Sublist [key] := by
  cases v with
  | null => exact List.nil_sublist _
  | _ => exact List.Sublist.refl _

theorem readFrom_pingFields {floatRepr : ℚ → PyStr} {depth : Nat} {name lat lon : Json}
    (named : ReadFrom floatRepr parseFloat depth name)
    (north : ReadFrom floatRepr parseFloat depth lat)
    (east : ReadFrom floatRepr parseFloat depth lon) :
    ReadFrom floatRepr parseFloat (depth + 1) (.obj (pingFields name lat lon)) := by
  have keys :
      ([text "t"] ++ [text "node_name"] ++ [text "node_lat"] ++ [text "node_lon"]).Nodup := by
    decide
  have given : ((pingFields name lat lon).map Prod.fst).Sublist
      ([text "t"] ++ [text "node_name"] ++ [text "node_lat"] ++ [text "node_lon"]) := by
    simp only [pingFields, List.map_append]
    exact (((List.Sublist.refl _).append (keys_unlessNone _ _)).append
      (keys_unlessNone _ _)).append (keys_unlessNone _ _)
  apply readFrom_fields (keys.sublist given)
  refine List.forall_mem_append.mpr ⟨List.forall_mem_append.mpr ⟨List.forall_mem_append.mpr
    ⟨?_, ?_⟩, ?_⟩, ?_⟩
  · exact List.forall_mem_singleton.mpr
      ⟨text_scannable (by decide), text_scannable (by decide), Nat.zero_le _⟩
  · exact readFrom_unlessNone (text_scannable (by decide)) named
  · exact readFrom_unlessNone (text_scannable (by decide)) north
  · exact readFrom_unlessNone (text_scannable (by decide)) east

/-- What a key that may be left out takes of a ping. -/
def givenSize (lib : JsonLib) (keySize : Nat) : Json → Nat
  | .null => 0
  | value => keySize + value.size lib.floatRepr

/-- The name and the place leave room for the rest of the ping. -/
def PingFits (lib : JsonLib) (name lat lon : Json) : Prop :=
  givenSize lib 13 name + givenSize lib 12 lat + givenSize lib 12 lon ≤ 443

theorem sizeFields_append (floatRepr : ℚ → PyStr) (fields more : Fields) :
    Json.sizeFields floatRepr (fields ++ more) =
      Json.sizeFields floatRepr fields + Json.sizeFields floatRepr more := by
  induction fields with
  | nil => simp [Json.sizeFields]
  | cons field rest ih =>
    simp only [List.cons_append, Json.sizeFields, ih]
    omega

theorem sizeFields_unlessNone (lib : JsonLib) (key : PyStr) (v : Json) :
    Json.sizeFields lib.floatRepr (unlessNone key v) = givenSize lib (2 + quotedSize key) v := by
  cases v <;> rfl

theorem ping_length (lib : JsonLib) (name lat lon : Json) :
    (encodePing lib name lat lon).length =
      17 + (givenSize lib 13 name + givenSize lib 12 lat + givenSize lib 12 lon) := by
  have keys : quotedSize (text "t") = 3 ∧ quotedSize (text "ping") = 6 ∧
      quotedSize (text "node_name") = 11 ∧ quotedSize (text "node_lat") = 10 ∧
      quotedSize (text "node_lon") = 10 := by decide
  obtain ⟨t, ping, named, north, east⟩ := keys
  simp only [encodePing, pingFields, encodeAscii_length, dumps_length, List.cons_append,
    List.nil_append, Json.size, sizeFields_append, sizeFields_unlessNone, t, ping, named, north,
    east, PHONE_PING_MAGIC, List.length_cons, Nat.reduceAdd]
  omega

theorem ping_deliverable_iff (lib : JsonLib) (name lat lon : Json) :
    Deliverable (encodePing lib name lat lon) ↔ PingFits lib name lat lon := by
  rw [deliverable_iff, ping_length, PingFits, MAX_FRAME]
  omega

theorem readFrom_nodeInfo {floatRepr : ℚ → PyStr} {depth : Nat} {value : Json} {info : NodeInfo}
    (read : ReadFrom floatRepr parseFloat depth value) (taken : nodeInfo value = some info) :
    ReadFrom floatRepr parseFloat depth
      (.obj (pingFields info.nodeName info.nodeLat info.nodeLon)) := by
  cases value with
  | obj fields =>
    cases taken
    have nested : depth - 1 + 1 = depth := by
      have := read.deep
      rw [Json.depth] at this
      omega
    have name : ReadFrom floatRepr parseFloat (depth - 1)
        ((Fields.get fields (text "node_name")).orElse (.str (text "MeshLink Node"))) := by
      unfold Json.orElse
      split
      · exact readFrom_get read _
      · exact ⟨text_scannable (by decide), Nat.zero_le _⟩
    have ping := readFrom_pingFields name (readFrom_get read (text "lat"))
      (readFrom_get read (text "lon"))
    rwa [nested] at ping
  | _ => cases taken

/-- **Pings say what the file says**, and reach phones where it says little
enough. Whatever text stands in the node's information file, if the node starts
with it then a ping reads as the name and the place it gives; the ping can be
framed exactly if these leave room. -/
theorem node_pings (lib : JsonLib) (parseFloat : PyStr → PyFloat) (limit : Nat)
    (scans : lib.Scans parseFloat limit) (file : Option PyStr)
    (encoded : ∀ s, file = some s → Utf8Text s) (value : Json)
    (loaded : (loadNodeInfo lib file).1 = .ok value) (info : NodeInfo)
    (taken : nodeInfo value = some info) :
    decode lib (encodePing lib info.nodeName info.nodeLat info.nodeLon) =
        .ok (some (pingFields info.nodeName info.nodeLat info.nodeLon)) ∧
      (Deliverable (encodePing lib info.nodeName info.nodeLat info.nodeLon) ↔
        PingFits lib info.nodeName info.nodeLat info.nodeLon) := by
  have utf8 : Utf8Text (file.getD NODE_INFO_TEMPLATE) := by
    cases file with
    | none => exact ascii_utf8 (text_ascii (by decide))
    | some s => exact encoded s rfl
  have read : ReadFrom lib.floatRepr parseFloat limit value :=
    loads_readFrom scans.floats utf8 ((scans.loads _).symm.trans loaded)
  exact ⟨decodeFields_dumps scans PHONE_PING_MAGIC rfl (readFrom_nodeInfo read taken),
    ping_deliverable_iff lib _ _ _⟩

/-- A number that `json` gives back, or None. -/
structure ReadableNumbers (lib : JsonLib) (parseFloat : PyStr → PyFloat)
    (lat lon : Option PyFloat) (battery : Option Int) : Prop where
  lat : ∀ x, lat = some x → (Json.float x).Readable lib.floatRepr parseFloat
  lon : ∀ x, lon = some x → (Json.float x).Readable lib.floatRepr parseFloat
  battery : ∀ n, battery = some n → FewDigits n

theorem readFrom_ofOption {floatRepr : ℚ → PyStr} {α : Type} {f : α → Json} {value : Option α}
    (depth : Nat) (each : ∀ a, value = some a → ReadFrom floatRepr parseFloat depth (f a)) :
    ReadFrom floatRepr parseFloat depth (.ofOption f value) := by
  cases value with
  | none => exact ⟨trivial, Nat.zero_le _⟩
  | some a => exact each a rfl

theorem readFrom_pongBody {lat lon : Option PyFloat} {battery : Option Int}
    (numbers : ReadableNumbers lib parseFloat lat lon battery) (charging : Option Bool) :
    ReadFrom lib.floatRepr parseFloat 1 (.obj (pongBody lat lon battery charging)) := by
  have keys : ([text "t", text "lat", text "lon", text "battery"] ++ [text "charging"]).Nodup := by
    decide
  have flag : ((charging.toList.map fun b => (text "charging", Json.bool b)).map
      Prod.fst).Sublist [text "charging"] := by
    cases charging with
    | none => exact List.nil_sublist _
    | some b => exact List.Sublist.refl _
  have given : ((pongBody lat lon battery charging).map Prod.fst).Sublist
      ([text "t", text "lat", text "lon", text "battery"] ++ [text "charging"]) := by
    rw [pongBody, List.map_append]
    exact (List.Sublist.refl _).append flag
  change ReadFrom lib.floatRepr parseFloat (0 + 1) _
  apply readFrom_fields (keys.sublist given)
  refine List.forall_mem_append.mpr ⟨?_, ?_⟩
  · refine List.forall_mem_cons.mpr ⟨⟨text_scannable (by decide), text_scannable (by decide),
      Nat.zero_le _⟩, List.forall_mem_cons.mpr ⟨⟨text_scannable (by decide), ?_⟩,
      List.forall_mem_cons.mpr ⟨⟨text_scannable (by decide), ?_⟩,
      List.forall_mem_singleton.mpr ⟨text_scannable (by decide), ?_⟩⟩⟩⟩
    · exact readFrom_ofOption 0 fun x here => ⟨numbers.lat x here, Nat.zero_le _⟩
    · exact readFrom_ofOption 0 fun x here => ⟨numbers.lon x here, Nat.zero_le _⟩
    · exact readFrom_ofOption 0 fun n here => ⟨numbers.battery n here, Nat.zero_le _⟩
  · intro field mem
    obtain ⟨b, -, rfl⟩ := List.mem_map.mp mem
    exact ⟨text_scannable (by decide), trivial, Nat.zero_le _⟩

/-- **A pong is reported.** What the phone's encoder was given is the report the
node keeps of it. -/
theorem pong_reported (lib : JsonLib) (parseFloat : PyStr → PyFloat) (limit : Nat)
    (scans : lib.Scans parseFloat limit) (nested : 1 ≤ limit) (lat lon : Option PyFloat)
    (battery : Option Int) (charging : Option Bool)
    (numbers : ReadableNumbers lib parseFloat lat lon battery) (svc : PhonePing)
    (peerId : PeerId) (now : Seconds) :
    svc.handleFrame lib peerId (encodePong lib lat lon battery charging) now =
      .ok { svc with reports := svc.reports.insert peerId ⟨lat, lon, battery, charging, now⟩ } := by
  have decoded : decode lib (encodePong lib lat lon battery charging) =
      .ok (some (pongBody lat lon battery charging)) :=
    decodeFields_dumps scans PHONE_PING_MAGIC rfl ((readFrom_pongBody numbers charging).mono nested)
  have north : asFloat ((pongBody lat lon battery charging).get (text "lat")) = .ok lat := by
    cases lat <;> rfl
  have east : asFloat ((pongBody lat lon battery charging).get (text "lon")) = .ok lon := by
    cases lon <;> rfl
  have level : asInt ((pongBody lat lon battery charging).get (text "battery")) = .ok battery := by
    cases battery <;> rfl
  have flag : asBool ((pongBody lat lon battery charging).get (text "charging")) = charging := by
    rw [pongBody_get_charging]
    cases charging <;> rfl
  have report : reportOf (pongBody lat lon battery charging) now =
      .ok ⟨lat, lon, battery, charging, now⟩ := by
    rw [reportOf, north, east, level, flag]
    rfl
  rw [handleFrame_pong decoded rfl, report]
  rfl

end PhonePing

namespace Sample

/-- The one float below. -/
def halfDegree : PyStr → PyFloat := fun s => if s = text "51.5" then .finite (103 / 2) else .nan

def halfDegreeRepr : ℚ → PyStr := fun x => if x = 103 / 2 then text "51.5" else []

/-- The scanner, for texts with no other float. -/
def scanner : JsonLib where
  jsonLoads := fun raw => decodeUtf8 none raw >>= loads halfDegree 900
  str := fun value =>
    match value with
    | .str s => .ok s
    | _ => .ok []
  intOfStr := pyInt
  loads := loads halfDegree 900
  floatRepr := halfDegreeRepr

theorem halfDegree_spelled : FloatsSpelled halfDegreeRepr halfDegree := by
  intro s x read
  obtain rfl : x = 103 / 2 := by
    unfold halfDegree at read
    split at read
    · cases read
      rfl
    · cases read
  have spelled : halfDegreeRepr (103 / 2) = text "51.5" := if_pos rfl
  refine ⟨⟨[], text "51", text ".5", [], .inl rfl, ?_, ?_, .absent, .inl (by decide), spelled⟩,
    by rw [spelled]; rfl⟩
  · exact .nonzero (by decide) (by decide) (by unfold JsonGrammar.Digit; decide)
  · exact .digits ⟨by decide, by unfold JsonGrammar.Digit; decide⟩

theorem scanner_scans : scanner.ScansBytes halfDegree 900 where
  loads := fun _ => rfl
  floats := halfDegree_spelled
  ascii := by
    intro x
    unfold scanner halfDegreeRepr
    simp only
    split
    · exact text_ascii (by decide)
    · simp
  jsonLoads := by
    intro s ascii _ _
    rw [scanner]
    simp only [decodeUtf8_encodeAscii ascii]
    rfl

def pi : Environ where
  zoneId := some (text "7")
  zoneTable := none
  advertiseAddr := some (text "192.168.1.7:19789")
  nodeId := none
  hostname := text "pi"

theorem text_system {s : String} (ascii : s.toList.all (·.toNat < 128)) : SystemText (text s) := by
  intro c mem
  have := text_ascii ascii c mem
  unfold highSurrogate
  omega

theorem pi_given : pi.Given where
  advertiseAddr := by
    intro s given
    cases given
    exact text_system (by decide)
  nodeId := text_system (by decide)

theorem configured_announced_pi :
    decodeAnnouncement scanner.toStdlib
        (GossipNode.encodeAnnouncement scanner
          ⟨text "pi", 7, .hostPort (text "192.168.1.7") 19789⟩) =
      .ok (some ⟨text "pi", 7, (NodeAddr.hostPort (text "192.168.1.7") 19789).addr⟩) :=
  configured_announced scanner halfDegree 900 scanner_scans (by decide) (fun _ => rfl) pi pi_given
    ⟨text "pi", 7, .hostPort (text "192.168.1.7") 19789⟩ rfl

/-- An object of ASCII strings. -/
theorem readFrom_strings (pairs : List (PyStr × PyStr)) (distinct : (pairs.map Prod.fst).Nodup)
    (ascii : ∀ pair ∈ pairs, (∀ c ∈ pair.1, c < 128) ∧ ∀ c ∈ pair.2, c < 128) :
    ReadFrom halfDegreeRepr halfDegree 1 (.obj (pairs.map fun pair => (pair.1, .str pair.2))) := by
  change ReadFrom halfDegreeRepr halfDegree (0 + 1) _
  refine readFrom_fields ?_ fun field mem => ?_
  · rwa [List.map_map]
  · obtain ⟨pair, here, rfl⟩ := List.mem_map.mp mem
    obtain ⟨key, value⟩ := ascii pair here
    exact ⟨(ascii_utf8 key).scannable, (ascii_utf8 value).scannable, Nat.zero_le _⟩

theorem healthRequest_readFrom : ReadFrom halfDegreeRepr halfDegree 1 (.obj healthRequest) :=
  readFrom_strings [(text "t", text "req"), (text "id", text "a3"),
    (text "method", text "GET"), (text "path", text "/health")] (by decide) (by decide)

theorem targetRow_readFrom : ReadFrom halfDegreeRepr halfDegree 1 targetRow :=
  readFrom_strings [(text "username", text "target"),
    (text "ed25519_pub", List.replicate 64 49), (text "curve25519_pub", List.replicate 64 50)]
    (by decide) (by decide)

/-- The text of a directory with one user. -/
def targetText : PyStr := dumps halfDegreeRepr .default (users [targetRow])

theorem targetText_loads : loads halfDegree 900 targetText = .ok (users [targetRow]) := by
  have rows : ReadFrom halfDegreeRepr halfDegree 2 (.arr [targetRow]) :=
    readFrom_array targetRow_readFrom ⟨trivial, by simp [Json.depth, Json.depthItems]⟩
  have body : ReadFrom halfDegreeRepr halfDegree (2 + 1) (users [targetRow]) :=
    readFrom_fields (by simp) (List.forall_mem_singleton.mpr ⟨text_scannable (by decide), rows⟩)
  exact (body.mono (by decide)).loads_dumps spaced_default

def targetAttempts : List SyncAttempt :=
  [⟨.ok (users [targetRow]), .succeeds⟩, ⟨.ok .null, .succeeds⟩]

/-- The backend answers once, and then with something else. -/
theorem restart_offline_target :
    DirectoryCache.construct Sample.core scanner
        (Runs.run (SyncedDirectory.step scanner) noCopy targetAttempts).disk =
      .ok (Runs.run (SyncedDirectory.step scanner) noCopy targetAttempts).cache := by
  refine SyncedDirectory.restart_offline scanner halfDegree 900 scanner_scans.toScans none
    (.empty Sample.core) rfl targetAttempts ?_ ?_
  · simp [targetAttempts]
  · intro attempt mem body answer
    have null : loads halfDegree 900 (text "null") = .ok .null := by rfl
    have ascii : ∀ c ∈ targetText, c < 128 :=
      dumps_ascii (asciiParts_default scanner_scans.ascii) _
    simp only [targetAttempts, List.mem_cons, List.not_mem_nil, or_false] at mem
    obtain rfl | rfl := mem
    · cases answer
      exact ⟨targetText, ascii_utf8 ascii, targetText_loads⟩
    · cases answer
      exact ⟨text "null", ascii_utf8 (text_ascii (by decide)), null⟩

/-- The request as it comes from the phone. -/
def healthFrame : Bytes :=
  BACKEND_PROXY_MAGIC ++ encodeAscii (dumps halfDegreeRepr .compact (.obj healthRequest))

theorem reply_read_health :
    ∃ reply s, BackendProxy.said scanner (text "http://10.77.0.254:8000")
        (fun _ => .response 200 (.whole [0x6f, 0x6b])) healthRequest = .ok s ∧
      BackendProxy.decode scanner reply = .ok (some (s.fields (.str (text "a3")))) := by
  have asked : BackendProxy.handleFrame scanner healthFrame = .ok (some healthRequest) := by
    have decoded : BackendProxy.decode scanner healthFrame = .ok (some healthRequest) :=
      decodeFields_dumps scanner_scans.toScans BACKEND_PROXY_MAGIC rfl
        (healthRequest_readFrom.mono (by decide))
    rw [BackendProxy.handleFrame, decoded]
    rfl
  have shown : ∀ v t, (∀ s, v ≠ Json.str s) → scanner.str v = .ok t → Utf8Text t := by
    intro v t other same
    cases v with
    | str s => exact absurd rfl (other s)
    | _ =>
      cases same
      simp [Utf8Text]
  have few : FewDigits 200 := (by decide : 3 ≤ 4300)
  obtain ⟨s, told, read⟩ := BackendProxy.reply_read scanner halfDegree 900 scanner_scans.toScans
    shown (text "http://10.77.0.254:8000") (fun _ => .response 200 (.whole [0x6f, 0x6b]))
    (fun _ => few) healthFrame healthRequest asked _ rfl
  exact ⟨_, s, told, read⟩

/-- What an operator wrote of a node whose longitude is not known. -/
def stageInfo : Fields :=
  [(text "node_name", .str (text "Main Stage")), (text "lat", .float (.finite (103 / 2))),
    (text "lon", .null)]

def stageFile : PyStr := dumps halfDegreeRepr .default (.obj stageInfo)

theorem halfDegree_readable : (Json.float (.finite (103 / 2))).Readable halfDegreeRepr halfDegree :=
  halfDegree_spelled (text "51.5") _ (if_pos rfl)

theorem stageInfo_readFrom : ReadFrom halfDegreeRepr halfDegree 1 (.obj stageInfo) := by
  change ReadFrom halfDegreeRepr halfDegree (0 + 1) _
  refine readFrom_fields (by decide) (List.forall_mem_cons.mpr ⟨?_, List.forall_mem_cons.mpr
    ⟨?_, List.forall_mem_singleton.mpr ?_⟩⟩)
  · exact ⟨text_scannable (by decide), text_scannable (by decide), Nat.zero_le _⟩
  · exact ⟨text_scannable (by decide), halfDegree_readable, Nat.zero_le _⟩
  · exact ⟨text_scannable (by decide), trivial, Nat.zero_le _⟩

theorem node_pings_stage :
    PhonePing.decode scanner (PhonePing.encodePing scanner (.str (text "Main Stage"))
        (.float (.finite (103 / 2))) .null) =
      .ok (some
        (PhonePing.pingFields (.str (text "Main Stage")) (.float (.finite (103 / 2))) .null)) ∧
    (Deliverable (PhonePing.encodePing scanner (.str (text "Main Stage"))
        (.float (.finite (103 / 2))) .null) ↔
      PhonePing.PingFits scanner (.str (text "Main Stage")) (.float (.finite (103 / 2)))
        .null) := by
  have ascii : ∀ c ∈ stageFile, c < 128 := dumps_ascii (asciiParts_default scanner_scans.ascii) _
  refine PhonePing.node_pings scanner halfDegree 900 scanner_scans.toScans (some stageFile) ?_
    (.obj stageInfo) ?_ ⟨.str (text "Main Stage"), .float (.finite (103 / 2)), .null⟩ rfl
  · intro s same
    cases same
    exact ascii_utf8 ascii
  · exact (stageInfo_readFrom.mono (by decide)).loads_dumps spaced_default

def halfReport : PhoneReport := ⟨some (.finite (103 / 2)), none, some 84, some true, 12⟩

theorem pong_reported_half :
    PhonePing.handleFrame scanner ⟨90, ∅⟩ "phone"
        (PhonePing.encodePong scanner (some (.finite (103 / 2))) none (some 84) (some true)) 12 =
      .ok ⟨90, AList.insert "phone" halfReport ∅⟩ := by
  refine PhonePing.pong_reported scanner halfDegree 900 scanner_scans.toScans (by decide)
    _ _ _ _ ⟨?_, ?_, ?_⟩ _ _ _
  · intro x same
    cases same
    exact halfDegree_readable
  · simp
  · intro n same
    cases same
    exact (by decide : 2 ≤ 4300)

end Sample

end MeshlinkNode
