import MeshlinkNode.Relay
import MeshlinkNode.Deployment
import MeshlinkNode.Framing
import Mathlib.Data.List.Infix

/-!
# The phone to backend proxy

A worker serves one request against the uplink and sends one reply. What the
uplink does is the environment's choice, made from the `Request` that is handed
to `urlopen`.
-/

namespace MeshlinkNode

def ALLOWED_PATH_PREFIXES : List PyStr :=
  ["/auth/", "/tickets", "/attestation/", "/events", "/account", "/directory/", "/friendships",
    "/health"].map text

def ALLOWED_REST_PATHS : List PyStr :=
  ["/rest/v1/directory", "/rest/v1/friendships", "/rest/v1/relay_messages",
    "/rest/v1/rpc/send_friend_request", "/rest/v1/rpc/get_friend_requests",
    "/rest/v1/rpc/accept_friend_request", "/rest/v1/rpc/decline_friend_request",
    "/rest/v1/rpc/send_message", "/rest/v1/rpc/ack_messages", "/rest/v1/rpc/put_location_blobs",
    "/rest/v1/rpc/get_location", "/rest/v1/rpc/mirror_friendship"].map text

def ALLOWED_METHODS : List PyStr := [text "GET", text "POST"]

def MAX_RESPONSE_BYTES : Nat := 256 * 1024

namespace BackendProxy

def decode (lib : JsonLib) (frame : Bytes) : Except PyExc (Option Fields) :=
  decodeFields lib BACKEND_PROXY_MAGIC frame

/-- The request that `handle_frame` submits to the pool, if the frame is one. -/
def handleFrame (lib : JsonLib) (frame : Bytes) : Except PyExc (Option Fields) := do
  match ← decode lib frame with
  | none => return none
  | some body => return if body.hasType (text "req") then some body else none

/-- The object of a reply. -/
def responseFields (reqId : Json) (status : Int) (body error : Option PyStr) : Fields :=
  [(text "t", .str (text "res")), (text "id", reqId), (text "status", .int status)] ++
    (body.map fun s => (text "body", .str s)).toList ++
    (error.map fun s => (text "error", .str s)).toList

def encodeResponse (lib : JsonLib) (reqId : Json) (status : Int) (body error : Option PyStr) :
    Bytes :=
  BACKEND_PROXY_MAGIC ++
    encodeAscii (dumps lib.floatRepr .compact (.obj (responseFields reqId status body error)))

def pathAllowed (path : PyStr) : Prop :=
  text "/" <+: path ∧ ¬ text ".." <:+: path ∧
    ((∃ start ∈ ALLOWED_PATH_PREFIXES, start <+: path) ∨
      path.takeWhile (· ≠ 63) ∈ ALLOWED_REST_PATHS)

instance (path : PyStr) : Decidable (pathAllowed path) :=
  inferInstanceAs (Decidable (_ ∧ _ ∧ (_ ∨ _)))

/-- A JSON value that is one of the allowed methods. -/
def allowedMethod : Json → Option PyStr
  | .str method => if method ∈ ALLOWED_METHODS then some method else none
  | _ => none

/-- A JSON value that is a string `path_allowed` lets through. -/
def allowedPath : Json → Option PyStr
  | .str path => if pathAllowed path then some path else none
  | _ => none

/-- `str.lower`, as far as it can produce one of the names below: the only
other character with an ASCII letter for its lower case is the Kelvin sign. -/
def lower (s : PyStr) : PyStr :=
  s.map fun c => if 65 ≤ c ∧ c ≤ 90 then c + 32 else if c = 0x212a then 107 else c

def canonicalHeader (name : PyStr) : Option PyStr :=
  [(text "authorization", text "Authorization"), (text "apikey", text "apikey"),
    (text "prefer", text "Prefer")].lookup (lower name)

structure HttpRequest where
  url : PyStr
  data : Option Bytes
  headers : Dict PyStr PyStr
  method : PyStr

/-- The headers that cross: a JSON content type, and the allowed names with a
string for a value. -/
def requestHeaders (data : Option Bytes) (rawHeaders : Json) : Dict PyStr PyStr :=
  let headers : Dict PyStr PyStr :=
    if data.isSome then AList.singleton (text "Content-Type") (text "application/json") else ∅
  match rawHeaders with
  | .obj fields =>
    fields.foldl (fun headers field => match canonicalHeader field.1, field.2 with
      | some canonical, .str value => headers.insert canonical value
      | _, _ => headers) headers
  | _ => headers

/-- `body.encode() if isinstance(body, str) else None`. -/
def requestData : Json → Except PyExc (Option Bytes)
  | .str body => return some (← encodeUtf8 body)
  | _ => .ok none

/-- `unwrap` of urllib: white space, angle brackets and a `URL:` around a URL
are dropped. -/
def unwrap (url : PyStr) : PyStr :=
  let url := strip url
  let url := if url.head? = some 60 ∧ url.getLast? = some 62 then strip url.tail.dropLast else url
  if text "URL:" <+: url then strip (url.drop 4) else url

/-- `_splittag`: what stands before the last `#`. -/
def splitTag (url : PyStr) : PyStr :=
  if 35 ∈ url then (url.rdropWhile (· ≠ 35)).dropLast else url

/-- `_splittype`: the scheme and the rest. -/
def splitType (url : PyStr) : Option (PyStr × PyStr) :=
  let scheme := url.takeWhile fun c => c ≠ 47 ∧ c ≠ 58
  match url.drop scheme.length with
  | 58 :: rest => if scheme = [] then none else some (scheme, rest)
  | _ => none

/-- `Request` raises for a URL without a scheme, and stands before the `try`. -/
def HasScheme (url : PyStr) : Prop := (splitType (splitTag (unwrap url))).isSome

instance (url : PyStr) : Decidable (HasScheme url) :=
  inferInstanceAs (Decidable (_ = _))

def httpRequest (baseUrl method path : PyStr) (req : Fields) : Except PyExc HttpRequest := do
  let data ← requestData (req.get (text "body"))
  if HasScheme (baseUrl ++ path) then
    return ⟨baseUrl ++ path, data, requestHeaders data (req.get (text "headers")), method⟩
  else throw .valueError

/-- What can be read of a body: the bytes that came, and how many of those that
were announced did not, because the connection closed. -/
structure Body where
  came : Bytes
  missing : Nat

def Body.whole (content : Bytes) : Body := ⟨content, 0⟩

/-- What `urllib` makes of a request: `urlparse` cannot read the URL's authority,
which `Request` raises before the `try`; and else what `urlopen` comes to, after
the redirects it follows: a response whose body can be read, an `HTTPError` whose
body may fail to be, or another exception. -/
inductive Uplink where
  | badUrl
  | response (status : Int) (body : Body)
  | httpError (code : Int) (body : Except PyExc Body)
  | raises

/-- The reply to what was read: at most one byte more than is allowed. That bytes
are missing shows nowhere: `read` with a size returns those that came. -/
def replyTo (lib : JsonLib) (reqId : Json) (status : Int) (content : Bytes) : Bytes :=
  let body := content.take (MAX_RESPONSE_BYTES + 1)
  if body.length > MAX_RESPONSE_BYTES then
    encodeResponse lib reqId 0 none (some (text "response too large"))
  else encodeResponse lib reqId status (some (decodeReplace none body)) none

/-- `encode_response(req_id, 0, error=…)`. -/
def failure (lib : JsonLib) (reqId : Json) (error : PyStr) : Bytes :=
  encodeResponse lib reqId 0 none (some error)

/-- `f"{method}"`: a string is itself. -/
def formatted (lib : JsonLib) : Json → Except PyExc PyStr
  | .str s => .ok s
  | value => lib.str value

/-- The reply to what the uplink did. -/
def answer (lib : JsonLib) (reqId : Json) : Uplink → Except PyExc Bytes
  | .badUrl => .error .valueError
  | .response status body => .ok (replyTo lib reqId status body.came)
  | .httpError code body => return replyTo lib reqId code (← body).came
  | .raises => .ok (failure lib reqId (text "backend unreachable"))

/-- `_execute`. -/
def execute (lib : JsonLib) (baseUrl : PyStr) (uplink : HttpRequest → Uplink) (req : Fields) :
    Except PyExc Bytes :=
  let reqId := req.get (text "id")
  match allowedMethod (req.get (text "method")) with
  | none => do
    let method ← formatted lib (req.get (text "method"))
    return failure lib reqId (text "method not allowed: " ++ method)
  | some method =>
    match allowedPath (req.get (text "path")) with
    | none => .ok (failure lib reqId (text "path not allowed"))
    | some path => do
      let request ← httpRequest baseUrl method path req
      answer lib reqId (uplink request)

/-! ## Which requests are answered -/

/-- `urlparse` reads the URL, and the body of a rejection can be read. -/
def Uplink.Readable : Uplink → Prop
  | .badUrl => False
  | .httpError _ body => ∃ read, body = .ok read
  | _ => True

/-- The requests and uplinks for which `_execute` returns. -/
def Answerable (lib : JsonLib) (baseUrl : PyStr) (uplink : HttpRequest → Uplink) (req : Fields) :
    Prop :=
  match allowedMethod (req.get (text "method")) with
  | none => ∃ method, formatted lib (req.get (text "method")) = .ok method
  | some method =>
    match allowedPath (req.get (text "path")) with
    | none => True
    | some path => ∃ request, httpRequest baseUrl method path req = .ok request ∧
      (uplink request).Readable

theorem answer_ok (lib : JsonLib) (reqId : Json) (did : Uplink) :
    (∃ reply, answer lib reqId did = .ok reply) ↔ did.Readable := by
  cases did with
  | badUrl => exact iff_of_false (fun ⟨_, raised⟩ => nomatch raised) id
  | response status body => exact iff_of_true ⟨_, rfl⟩ trivial
  | raises => exact iff_of_true ⟨_, rfl⟩ trivial
  | httpError code body =>
    cases body with
    | ok read => exact iff_of_true ⟨_, rfl⟩ ⟨read, rfl⟩
    | error exc => exact iff_of_false (fun ⟨_, raised⟩ => nomatch raised) (fun ⟨_, h⟩ => nomatch h)

theorem execute_ok (lib : JsonLib) (baseUrl : PyStr) (uplink : HttpRequest → Uplink)
    (req : Fields) :
    (∃ reply, execute lib baseUrl uplink req = .ok reply) ↔ Answerable lib baseUrl uplink req := by
  unfold execute Answerable
  cases allowedMethod (req.get (text "method")) with
  | none =>
    cases formatted lib (req.get (text "method")) with
    | error exc => simp [bind, Except.bind]
    | ok method => simp [bind, Except.bind, pure, Except.pure]
  | some method =>
    cases allowedPath (req.get (text "path")) with
    | none => exact iff_of_true ⟨_, rfl⟩ trivial
    | some path =>
      simp only
      cases httpRequest baseUrl method path req with
      | error exc => simp [bind, Except.bind]
      | ok request =>
        simp only [bind, Except.bind, Except.ok.injEq, exists_eq_left']
        exact answer_ok lib (req.get (text "id")) (uplink request)

/-! ## Which replies a frame can hold -/

variable (lib : JsonLib) (reqId : Json) (status : Int) (said : PyStr)

/-- What the id, the status and the quoted text of a reply take of a frame. -/
def saidSize : Nat :=
  reqId.size lib.floatRepr + (intRepr status).length + quotedSize said

theorem responseFields_length (key : PyStr) :
    (BACKEND_PROXY_MAGIC ++ encodeAscii (dumps lib.floatRepr .compact
      (.obj (responseFields reqId status none none ++ [(key, .str said)])))).length =
      34 + quotedSize key + saidSize lib reqId status said := by
  have keys : quotedSize (text "t") = 3 ∧ quotedSize (text "res") = 5 ∧
      quotedSize (text "id") = 4 ∧ quotedSize (text "status") = 8 := by decide
  obtain ⟨t, res, id, statusKey⟩ := keys
  simp only [responseFields, encodeAscii_length, dumps_length, Option.map_none,
    Option.toList_none, List.cons_append, List.nil_append, List.append_nil, Json.size,
    Json.sizeFields, t, res, id, statusKey, saidSize, BACKEND_PROXY_MAGIC, List.length_cons]
  omega

theorem body_length :
    (encodeResponse lib reqId status (some said) none).length =
      40 + saidSize lib reqId status said := by
  have key : quotedSize (text "body") = 6 := by decide
  have all := responseFields_length lib reqId status said (text "body")
  rw [key] at all
  exact all

theorem failure_length : (failure lib reqId said).length = 41 + saidSize lib reqId 0 said := by
  have key : quotedSize (text "error") = 7 := by decide
  have all := responseFields_length lib reqId 0 said (text "error")
  rw [key] at all
  exact all

/-- A failure can be delivered as long as its id and text leave room for the
rest of the reply. -/
def FailureFits : Prop := reqId.size lib.floatRepr + quotedSize said ≤ 418

/-- So can what was read, where it was not too long. -/
def ContentFits (content : Bytes) : Prop :=
  if MAX_RESPONSE_BYTES < content.length then FailureFits lib reqId (text "response too large")
  else saidSize lib reqId status (decodeReplace none content) ≤ 420

variable {lib reqId status said}

theorem failure_deliverable :
    Deliverable (failure lib reqId said) ↔ FailureFits lib reqId said := by
  have zero : (intRepr 0).length = 1 := rfl
  rw [deliverable_iff, failure_length, FailureFits, saidSize, zero, MAX_FRAME]
  omega

theorem replyTo_deliverable {content : Bytes} :
    Deliverable (replyTo lib reqId status content) ↔ ContentFits lib reqId status content := by
  have read : (content.take (MAX_RESPONSE_BYTES + 1)).length > MAX_RESPONSE_BYTES ↔
      MAX_RESPONSE_BYTES < content.length := by
    rw [List.length_take]
    omega
  unfold replyTo ContentFits
  simp only [read]
  by_cases long : MAX_RESPONSE_BYTES < content.length
  · rw [if_pos long, if_pos long]
    exact failure_deliverable
  · have whole : content.take (MAX_RESPONSE_BYTES + 1) = content :=
      List.take_of_length_le (by omega)
    rw [if_neg long, if_neg long, whole, deliverable_iff, body_length, MAX_FRAME]
    omega

variable (lib reqId) in
/-- The uplink's behaviours whose reply fits. -/
def UplinkFits : Uplink → Prop
  | .badUrl => True
  | .response status body => ContentFits lib reqId status body.came
  | .httpError code body => ∀ read, body = .ok read → ContentFits lib reqId code read.came
  | .raises => FailureFits lib reqId (text "backend unreachable")

theorem answer_deliverable {did : Uplink} {reply : Bytes}
    (returned : answer lib reqId did = .ok reply) :
    Deliverable reply ↔ UplinkFits lib reqId did := by
  cases did with
  | badUrl => cases returned
  | response status body =>
    cases returned
    exact replyTo_deliverable
  | raises =>
    cases returned
    exact failure_deliverable
  | httpError code body =>
    cases body with
    | error exc => cases returned
    | ok read =>
      cases returned
      simp only [UplinkFits, Except.ok.injEq, forall_eq']
      exact replyTo_deliverable

variable (lib) in
/-- The requests and uplinks whose reply fits a frame: the id, escaped as JSON,
and what the reply says leave room for each other. -/
def ReplyFits (baseUrl : PyStr) (uplink : HttpRequest → Uplink) (req : Fields) : Prop :=
  let reqId := req.get (text "id")
  match allowedMethod (req.get (text "method")) with
  | none => ∀ method, formatted lib (req.get (text "method")) = .ok method →
    FailureFits lib reqId (text "method not allowed: " ++ method)
  | some method =>
    match allowedPath (req.get (text "path")) with
    | none => FailureFits lib reqId (text "path not allowed")
    | some path => ∀ request, httpRequest baseUrl method path req = .ok request →
      UplinkFits lib reqId (uplink request)

/-- **Which replies reach the phone.** The reply to a request can be framed, and
comes out of the phone's assembler however it was cut, exactly when what it
says is short enough; the cap on response bodies is not what decides. -/
theorem reply_deliverable_iff (lib : JsonLib) (baseUrl : PyStr) (uplink : HttpRequest → Uplink)
    (req : Fields) (reply : Bytes) (returned : execute lib baseUrl uplink req = .ok reply) :
    Deliverable reply ↔ ReplyFits lib baseUrl uplink req := by
  unfold execute at returned
  unfold ReplyFits
  cases method : allowedMethod (req.get (text "method")) with
  | none =>
    simp only [method] at returned ⊢
    cases shown : formatted lib (req.get (text "method")) with
    | error exc => simp [shown, bind, Except.bind] at returned
    | ok name =>
      simp only [shown, bind, Except.bind, pure, Except.pure, Except.ok.injEq] at returned
      subst returned
      simp only [Except.ok.injEq, forall_eq']
      exact failure_deliverable
  | some name =>
    simp only [method] at returned ⊢
    cases path : allowedPath (req.get (text "path")) with
    | none =>
      simp only [path, Except.ok.injEq] at returned ⊢
      subst returned
      exact failure_deliverable
    | some target =>
      simp only [path] at returned ⊢
      cases built : httpRequest baseUrl name target req with
      | error exc => simp [built, bind, Except.bind] at returned
      | ok request =>
        simp only [built, bind, Except.bind] at returned
        simp only [Except.ok.injEq, forall_eq']
        exact answer_deliverable returned

end BackendProxy

namespace Sample

/-- No library function is asked about the requests below. -/
def json : JsonLib where
  jsonLoads := fun _ => .error .valueError
  str := fun _ => .ok []
  intOfStr := fun _ => .error .valueError
  loads := fun _ => .error .valueError
  floatRepr := fun _ => []

def healthRequest : Fields :=
  [(text "t", .str (text "req")), (text "id", .str (text "a3")),
    (text "method", .str (text "GET")), (text "path", .str (text "/health"))]

/-- The reply when the backend answers 200 with so many letters. -/
def healthReply (letters : Nat) : Except PyExc Bytes :=
  BackendProxy.execute json (text "http://10.77.0.254:8000")
    (fun _ => .response 200 (.whole (List.replicate letters 0x61))) healthRequest

theorem healthReply_length {letters n : Nat}
    (h : (healthReply letters).toOption.map List.length = some n) :
    ∃ reply, healthReply letters = .ok reply ∧ reply.length = n := by
  cases returned : healthReply letters with
  | error exc => simp [returned, Except.toOption] at h
  | ok reply =>
    rw [returned] at h
    exact ⟨reply, rfl, Option.some.inj h⟩

/-- A body of 412 letters, far below the cap, gives a reply no phone gets. -/
theorem healthReply_lost : ∃ reply, healthReply 412 = .ok reply ∧ ¬ Deliverable reply := by
  have size : (healthReply 412).toOption.map List.length = some 461 := by decide +kernel
  obtain ⟨reply, returned, long⟩ := healthReply_length size
  refine ⟨reply, returned, ?_⟩
  rw [deliverable_iff, long]
  decide

theorem healthReply_deliverable_iff :
    ∃ reply, healthReply 2 = .ok reply ∧
      (Deliverable reply ↔
        BackendProxy.ReplyFits json (text "http://10.77.0.254:8000")
          (fun _ => .response 200 (.whole (List.replicate 2 0x61))) healthRequest) := by
  have size : (healthReply 2).toOption.map List.length = some 51 := by decide +kernel
  obtain ⟨reply, returned, -⟩ := healthReply_length size
  exact ⟨reply, returned, BackendProxy.reply_deliverable_iff _ _ _ _ _ returned⟩

end Sample

end MeshlinkNode
