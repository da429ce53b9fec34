import MeshlinkNode.PhoneSide

/-!
# One reply to each proxied request

A worker sends what `_execute` returns. It raises instead for a method that
cannot be shown, a body that cannot be encoded, a URL that `Request` refuses, and
a rejection whose body cannot be read, which is read outside the `try`: the
request then has no reply, and nothing is logged. What came of a body that was
cut short is passed on as the whole of it.
-/

namespace MeshlinkNode

namespace BackendProxy

/-- `_serve`: the calls of `transport.send`. -/
def serve (lib : JsonLib) (baseUrl : PyStr) (uplink : HttpRequest → Uplink) (peerId : PeerId)
    (req : Fields) : List (PeerId × Bytes) :=
  match execute lib baseUrl uplink req with
  | .error _ => []
  | .ok reply => [(peerId, reply)]

/-- A frame from a peer, and the worker that serves it: the calls of
`transport.send`. -/
def proxied (lib : JsonLib) (baseUrl : PyStr) (uplink : HttpRequest → Uplink) (peerId : PeerId)
    (frame : Bytes) : Except PyExc (List (PeerId × Bytes)) := do
  match ← handleFrame lib frame with
  | none => return []
  | some req => return serve lib baseUrl uplink peerId req

/-! ## What a reply says -/

structure Said where
  status : Int
  body : Option PyStr
  error : Option PyStr

def Said.fields (reqId : Json) (said : Said) : Fields :=
  responseFields reqId said.status said.body said.error

def Said.encode (lib : JsonLib) (reqId : Json) (said : Said) : Bytes :=
  encodeResponse lib reqId said.status said.body said.error

/-- The node could not complete the call. -/
def Said.failed (error : PyStr) : Said := ⟨0, none, some error⟩

def Said.content (status : Int) (content : Bytes) : Said :=
  if MAX_RESPONSE_BYTES < content.length then .failed (text "response too large")
  else ⟨status, some (decodeReplace none content), none⟩

def Uplink.said : Uplink → Except PyExc Said
  | .badUrl => .error .valueError
  | .response status body => .ok (.content status body.came)
  | .httpError code body => return .content code (← body).came
  | .raises => .ok (.failed (text "backend unreachable"))

/-- What the reply to a request says, if there is one. -/
def said (lib : JsonLib) (baseUrl : PyStr) (uplink : HttpRequest → Uplink) (req : Fields) :
    Except PyExc Said :=
  match allowedMethod (req.get (text "method")) with
  | none => do
    let method ← formatted lib (req.get (text "method"))
    return .failed (text "method not allowed: " ++ method)
  | some method =>
    match allowedPath (req.get (text "path")) with
    | none => .ok (.failed (text "path not allowed"))
    | some path => do
      let request ← httpRequest baseUrl method path req
      (uplink request).said

theorem replyTo_eq (lib : JsonLib) (reqId : Json) (status : Int) (content : Bytes) :
    replyTo lib reqId status content = (Said.content status content).encode lib reqId := by
  unfold replyTo Said.content
  by_cases long : MAX_RESPONSE_BYTES < content.length
  · have cut : (content.take (MAX_RESPONSE_BYTES + 1)).length > MAX_RESPONSE_BYTES := by
      rw [List.length_take]
      omega
    simp only [if_pos cut, if_pos long]
    rfl
  · have whole : content.take (MAX_RESPONSE_BYTES + 1) = content :=
      List.take_of_length_le (by omega)
    simp only [whole, if_neg long, gt_iff_lt]
    rfl

/-- `_execute` encodes what is to be said. -/
theorem execute_eq (lib : JsonLib) (baseUrl : PyStr) (uplink : HttpRequest → Uplink)
    (req : Fields) :
    execute lib baseUrl uplink req =
      (said lib baseUrl uplink req).map (·.encode lib (req.get (text "id"))) := by
  unfold execute said
  cases allowedMethod (req.get (text "method")) with
  | none => cases formatted lib (req.get (text "method")) <;> rfl
  | some method =>
    cases allowedPath (req.get (text "path")) with
    | none => rfl
    | some path =>
      simp only
      cases httpRequest baseUrl method path req with
      | error exc => rfl
      | ok request =>
        change answer lib _ (uplink request) = ((uplink request).said).map _
        cases uplink request with
        | badUrl => rfl
        | response status body => exact congrArg Except.ok (replyTo_eq lib _ status body.came)
        | raises => rfl
        | httpError code body =>
          cases body with
          | error exc => rfl
          | ok read => exact congrArg Except.ok (replyTo_eq lib _ code read.came)

/-! ## The status that is due -/

/-- A complete response within the cap was had. -/
def Body.Complete (body : Body) : Prop :=
  body.missing = 0 ∧ body.came.length ≤ MAX_RESPONSE_BYTES

instance (body : Body) : Decidable body.Complete := inferInstanceAs (Decidable (_ ∧ _))

/-- The backend's status, where a complete response within the cap was had. -/
def Uplink.due : Uplink → Int
  | .response status body => if body.Complete then status else 0
  | .httpError code (.ok body) => if body.Complete then code else 0
  | .httpError _ (.error _) | .badUrl | .raises => 0

/-- The status due to a request: 0 where no call is made. -/
def dueStatus (baseUrl : PyStr) (uplink : HttpRequest → Uplink) (req : Fields) : Int :=
  match allowedMethod (req.get (text "method")), allowedPath (req.get (text "path")) with
  | some method, some path =>
    match httpRequest baseUrl method path req with
    | .ok request => (uplink request).due
    | .error _ => 0
  | _, _ => 0

/-- A body that is passed on, with a status that says so, came whole. (No
backend's status is 0: `http.client` takes those from 100 to 999.) -/
def Body.Whole (status : Int) (body : Body) : Prop :=
  body.missing = 0 ∨ MAX_RESPONSE_BYTES < body.came.length ∨ status = 0

def Uplink.Whole : Uplink → Prop
  | .response status body => body.Whole status
  | .httpError code (.ok body) => body.Whole code
  | .httpError _ (.error _) | .badUrl | .raises => True

/-- What the request is answered with came whole. -/
def AnsweredWhole (baseUrl : PyStr) (uplink : HttpRequest → Uplink) (req : Fields) : Prop :=
  match allowedMethod (req.get (text "method")), allowedPath (req.get (text "path")) with
  | some method, some path => ∀ request, httpRequest baseUrl method path req = .ok request →
    (uplink request).Whole
  | _, _ => True

theorem content_status (status : Int) (body : Body) :
    (Said.content status body.came).status = (if body.Complete then status else 0) ↔
      body.Whole status := by
  unfold Said.content Body.Whole
  by_cases long : MAX_RESPONSE_BYTES < body.came.length
  · have incomplete : ¬ body.Complete := fun complete => Nat.not_lt.mpr complete.2 long
    rw [if_pos long, if_neg incomplete]
    exact iff_of_true rfl (.inr (.inl long))
  · rw [if_neg long]
    by_cases whole : body.missing = 0
    · have complete : body.Complete := ⟨whole, Nat.not_lt.mp long⟩
      rw [if_pos complete]
      exact iff_of_true rfl (.inl whole)
    · have incomplete : ¬ body.Complete := fun complete => whole complete.1
      rw [if_neg incomplete]
      simp [whole, long]

theorem Uplink.said_status {did : Uplink} {s : Said} (told : did.said = .ok s) :
    s.status = did.due ↔ did.Whole := by
  cases did with
  | badUrl => cases told
  | raises =>
    cases told
    exact iff_of_true rfl trivial
  | response status body =>
    cases told
    exact content_status status body
  | httpError code body =>
    cases body with
    | error exc => cases told
    | ok read =>
      cases told
      exact content_status code read

/-- A reply says what is due exactly when the response behind it came whole. -/
theorem said_status {lib : JsonLib} {baseUrl : PyStr} {uplink : HttpRequest → Uplink}
    {req : Fields} {s : Said} (h : said lib baseUrl uplink req = .ok s) :
    s.status = dueStatus baseUrl uplink req ↔ AnsweredWhole baseUrl uplink req := by
  unfold said at h
  unfold dueStatus AnsweredWhole
  cases method : allowedMethod (req.get (text "method")) with
  | none =>
    rw [method] at h
    obtain ⟨shown, -, same⟩ := bind_eq_ok.mp h
    cases same
    exact iff_of_true rfl trivial
  | some name =>
    simp only [method] at h
    cases path : allowedPath (req.get (text "path")) with
    | none =>
      simp only [path, Except.ok.injEq] at h
      subst h
      exact iff_of_true rfl trivial
    | some target =>
      simp only [path] at h
      obtain ⟨request, built, told⟩ := bind_eq_ok.mp h
      simp only [built, Except.ok.injEq, forall_eq']
      exact Uplink.said_status told

/-! ## Which requests are served -/

/-- No string with a lone surrogate, which `json.loads` can produce and
`str.encode` refuses. -/
def Encodable (body : Json) : Prop :=
  ∀ s, body = .str s → ∀ c ∈ s, ¬ (0xd800 ≤ c ∧ c < 0xe000)

/-- A refused method can be shown; a request that is made has a body that can be
encoded and a URL that `Request` takes, and a rejection of it comes with a body
that can be read. -/
def Servable (lib : JsonLib) (baseUrl : PyStr) (uplink : HttpRequest → Uplink) (req : Fields) :
    Prop :=
  match allowedMethod (req.get (text "method")) with
  | none => ∃ shown, formatted lib (req.get (text "method")) = .ok shown
  | some method =>
    match allowedPath (req.get (text "path")) with
    | none => True
    | some path => Encodable (req.get (text "body")) ∧ HasScheme (baseUrl ++ path) ∧
      ∀ request, httpRequest baseUrl method path req = .ok request → (uplink request).Readable

theorem requestData_ok (body : Json) :
    (∃ data, requestData body = .ok data) ↔ Encodable body := by
  cases body with
  | str s =>
    have each := encodeUtf8_ok s
    simp only [Encodable, Json.str.injEq, forall_eq', ← each, requestData]
    cases encodeUtf8 s <;> simp [bind, Except.bind, pure, Except.pure]
  | null | bool b | int n | float x | arr items | obj fields =>
    exact iff_of_true ⟨none, rfl⟩ nofun

theorem answerable_iff_servable (lib : JsonLib) (baseUrl : PyStr) (uplink : HttpRequest → Uplink)
    (req : Fields) : Answerable lib baseUrl uplink req ↔ Servable lib baseUrl uplink req := by
  unfold Answerable Servable
  cases allowedMethod (req.get (text "method")) with
  | none => exact Iff.rfl
  | some method =>
    cases allowedPath (req.get (text "path")) with
    | none => exact Iff.rfl
    | some path =>
      simp only [← requestData_ok, httpRequest]
      cases requestData (req.get (text "body")) with
      | error exc => simp [bind, Except.bind]
      | ok data =>
        simp only [bind, Except.bind, pure, Except.pure, guarded_eq_ok, Except.ok.injEq]
        by_cases scheme : HasScheme (baseUrl ++ path) <;> simp [scheme]

/-- What the proxy relies on in `json`: the texts `dumps` writes for these
fields read back, and floats are spelled in ASCII. -/
structure RoundTrips (lib : JsonLib) (fields : Fields) : Prop where
  loads : lib.loads (dumps lib.floatRepr .compact (.obj fields)) = .ok (.obj fields)
  floats : ∀ x, ∀ c ∈ lib.floatRepr x, c < 128

theorem decode_encode {lib : JsonLib} {reqId : Json} {s : Said}
    (json : RoundTrips lib (s.fields reqId)) :
    decode lib (s.encode lib reqId) = .ok (some (s.fields reqId)) := by
  have read := decodeUtf8_dumps (asciiParts_compact json.floats) (.obj (s.fields reqId))
  have magic : BACKEND_PROXY_MAGIC.isPrefixOf (s.encode lib reqId) = true :=
    List.isPrefixOf_iff_prefix.mpr (List.prefix_append _ _)
  have body : (s.encode lib reqId).drop BACKEND_PROXY_MAGIC.length =
      encodeAscii (dumps lib.floatRepr .compact (.obj (s.fields reqId))) :=
    List.drop_left
  have typed : ((s.fields reqId).lookup (text "t")).isSome = true := rfl
  simp only [decode, decodeFields, magic, if_true, body, read, bind, Except.bind, json.loads, typed]

/-- The frame is a reply to the request, with the given status. -/
def Replies (lib : JsonLib) (reqId : Json) (status : Int) (frame : Bytes) : Prop :=
  ∃ fields, decode lib frame = .ok (some fields) ∧ fields.get (text "t") = .str (text "res") ∧
    fields.get (text "id") = reqId ∧ fields.get (text "status") = .int status

theorem replies_encode {lib : JsonLib} {reqId : Json} {s : Said}
    (json : RoundTrips lib (s.fields reqId)) :
    Replies lib reqId s.status (s.encode lib reqId) :=
  ⟨s.fields reqId, decode_encode json, rfl, rfl, rfl⟩

theorem serve_eq_nil (lib : JsonLib) (baseUrl : PyStr) (uplink : HttpRequest → Uplink)
    (peerId : PeerId) (req : Fields) :
    serve lib baseUrl uplink peerId req = [] ↔ ¬ Servable lib baseUrl uplink req := by
  rw [← answerable_iff_servable, ← execute_ok]
  unfold serve
  split
  · rename_i exc raised
    simp [raised]
  · rename_i reply returned
    simp [returned]

/-- A request that is served is answered once, and its reply says what is due
exactly when the response behind it came whole. -/
theorem serve_replies {lib : JsonLib} {baseUrl : PyStr} {uplink : HttpRequest → Uplink}
    (peerId : PeerId) {req : Fields}
    (json : ∀ s, said lib baseUrl uplink req = .ok s →
      RoundTrips lib (s.fields (req.get (text "id"))))
    (servable : Servable lib baseUrl uplink req) :
    ∃ reply, serve lib baseUrl uplink peerId req = [(peerId, reply)] ∧
      (Replies lib (req.get (text "id")) (dueStatus baseUrl uplink req) reply ↔
        AnsweredWhole baseUrl uplink req) := by
  rw [← answerable_iff_servable, ← execute_ok] at servable
  obtain ⟨reply, returned⟩ := servable
  refine ⟨reply, by simp only [serve, returned], ?_⟩
  rw [execute_eq] at returned
  obtain ⟨s, replied, rfl⟩ := map_ok returned
  rw [← said_status replied]
  constructor
  · rintro ⟨fields, decoded, -, -, status⟩
    rw [decode_encode (json s replied)] at decoded
    cases decoded
    exact Json.int.inj status
  · intro due
    rw [← due]
    exact replies_encode (json s replied)

/-- **One reply to each request.** An accepted request is answered with one
frame, to the requester, that is the reply due to it, exactly when it is servable
and what it is answered with came whole. Nothing is sent exactly when it is not
servable. -/
theorem one_reply_iff_servable (lib : JsonLib) (baseUrl : PyStr) (uplink : HttpRequest → Uplink)
    (peerId : PeerId) (frame : Bytes) (req : Fields)
    (accepted : handleFrame lib frame = .ok (some req))
    (json : ∀ s, said lib baseUrl uplink req = .ok s →
      RoundTrips lib (s.fields (req.get (text "id")))) :
    ((∃ reply, proxied lib baseUrl uplink peerId frame = .ok [(peerId, reply)] ∧
        Replies lib (req.get (text "id")) (dueStatus baseUrl uplink req) reply) ↔
      Servable lib baseUrl uplink req ∧ AnsweredWhole baseUrl uplink req) ∧
    (proxied lib baseUrl uplink peerId frame = .ok [] ↔ ¬ Servable lib baseUrl uplink req) := by
  have served : proxied lib baseUrl uplink peerId frame =
      .ok (serve lib baseUrl uplink peerId req) := by
    simp only [proxied, accepted, bind, Except.bind, pure, Except.pure]
  have silent := serve_eq_nil lib baseUrl uplink peerId req
  simp only [served, Except.ok.injEq]
  refine ⟨?_, silent⟩
  by_cases servable : Servable lib baseUrl uplink req
  · obtain ⟨reply, sends, due⟩ := serve_replies peerId json servable
    rw [and_iff_right servable, ← due, sends]
    simp
  · rw [silent.mpr servable]
    simp [servable]

end BackendProxy

/-- A worker of the node sends what `_serve` sends, for the session the request
came in on. -/
theorem PhoneSide.serve_sends {core : Core} (lib : JsonLib) (baseUrl : PyStr)
    (s : PhoneSide core) (i : Nat) (uplink : BackendProxy.HttpRequest → BackendProxy.Uplink)
    (listed : List PeerId) {job : Job} (taken : s.jobs[i]? = some job) :
    (s.serve lib baseUrl i uplink listed).sent = s.sent ++
      (BackendProxy.serve lib baseUrl uplink job.peerId job.req).map fun send =>
        ⟨job.session, .proxy, send.1, send.2, listed⟩ := by
  simp only [PhoneSide.serve, taken, BackendProxy.serve]
  cases BackendProxy.execute lib baseUrl uplink job.req with
  | error exc => simp
  | ok reply => rfl

namespace Sample

/-- A POST whose body is a lone surrogate. -/
def surrogateRequest : Fields :=
  [(text "t", .str (text "req")), (text "id", .str (text "a3")),
    (text "method", .str (text "POST")), (text "path", .str (text "/tickets")),
    (text "body", .str [0xd800])]

def surrogateText : PyStr :=
  text "\x7b\"t\":\"req\",\"id\":\"a3\",\"method\":\"POST\",\"path\":\"/tickets\"," ++
    text "\"body\":\"\\ud800\"\x7d"

def healthText : PyStr :=
  text "\x7b\"t\":\"req\",\"id\":\"a3\",\"method\":\"GET\",\"path\":\"/health\"\x7d"

def okText : PyStr := text "\x7b\"t\":\"res\",\"id\":\"a3\",\"status\":200,\"body\":\"ok\"\x7d"

def okSaid : BackendProxy.Said := ⟨200, some (text "ok"), none⟩

/-- `json.loads` of the texts below. -/
def proxyJson : JsonLib where
  jsonLoads := fun _ => .error .valueError
  str := fun _ => .ok []
  intOfStr := fun _ => .error .valueError
  loads := fun s =>
    if s = surrogateText then .ok (.obj surrogateRequest)
    else if s = healthText then .ok (.obj healthRequest)
    else if s = okText then .ok (.obj (okSaid.fields (.str (text "a3"))))
    else .error .valueError
  floatRepr := fun _ => []

def proxyFrame (body : PyStr) : Bytes := BACKEND_PROXY_MAGIC ++ encodeAscii body

def okBody : BackendProxy.Body := .whole (encodeAscii (text "ok"))

/-- The backend announced 1000 bytes. -/
def cutBody : BackendProxy.Body := { okBody with missing := 998 }

/-- A body that cannot be encoded, or a rejection that cannot be read: the
request is accepted, and the phone gets no reply. Of a response that is cut short
it gets what came, under the backend's status. -/
theorem requests_unanswered :
    BackendProxy.handleFrame proxyJson (proxyFrame surrogateText) = .ok (some surrogateRequest) ∧
    BackendProxy.proxied proxyJson (text "http://10.77.0.254:8000")
      (fun _ => .response 200 okBody) "wifi:10.78.0.5:40000" (proxyFrame surrogateText) = .ok [] ∧
    BackendProxy.handleFrame proxyJson (proxyFrame healthText) = .ok (some healthRequest) ∧
    BackendProxy.proxied proxyJson (text "http://10.77.0.254:8000")
      (fun _ => .httpError 403 (.error .osError)) "wifi:10.78.0.5:40000"
      (proxyFrame healthText) = .ok [] ∧
    BackendProxy.proxied proxyJson (text "http://10.77.0.254:8000")
      (fun _ => .response 200 cutBody) "wifi:10.78.0.5:40000" (proxyFrame healthText) =
        .ok [("wifi:10.78.0.5:40000", proxyFrame okText)] ∧
    BackendProxy.dueStatus (text "http://10.77.0.254:8000") (fun _ => .response 200 cutBody)
      healthRequest = 0 ∧
    ¬ BackendProxy.Replies proxyJson (.str (text "a3")) 0 (proxyFrame okText) := by
  refine ⟨rfl, by decide +kernel, rfl, by decide +kernel, by decide +kernel, by decide +kernel, ?_⟩
  rintro ⟨fields, decoded, -, -, status⟩
  have said : BackendProxy.decode proxyJson (proxyFrame okText) =
      .ok (some (okSaid.fields (.str (text "a3")))) := rfl
  rw [said] at decoded
  cases decoded
  cases status

theorem one_reply_iff_servable_health :
    ((∃ reply, BackendProxy.proxied proxyJson (text "http://10.77.0.254:8000")
          (fun _ => .response 200 okBody) "wifi:10.78.0.5:40000" (proxyFrame healthText) =
            .ok [("wifi:10.78.0.5:40000", reply)] ∧
        BackendProxy.Replies proxyJson (.str (text "a3")) 200 reply) ↔
      BackendProxy.Servable proxyJson (text "http://10.77.0.254:8000")
          (fun _ => .response 200 okBody) healthRequest ∧
        BackendProxy.AnsweredWhole (text "http://10.77.0.254:8000")
          (fun _ => .response 200 okBody) healthRequest) ∧
    (BackendProxy.proxied proxyJson (text "http://10.77.0.254:8000")
        (fun _ => .response 200 okBody) "wifi:10.78.0.5:40000" (proxyFrame healthText) = .ok [] ↔
      ¬ BackendProxy.Servable proxyJson (text "http://10.77.0.254:8000")
        (fun _ => .response 200 okBody) healthRequest) := by
  refine BackendProxy.one_reply_iff_servable proxyJson _ _ _ _ healthRequest rfl ?_
  intro s replied
  have same : s = okSaid := by
    cases replied
    rfl
  subst same
  exact ⟨rfl, nofun⟩

end Sample

end MeshlinkNode
