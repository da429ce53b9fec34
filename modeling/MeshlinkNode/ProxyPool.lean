import MeshlinkNode.ProxyReplies

/-!
# The proxy's worker pool

`handle_frame` submits a request, one of at most `max_workers` workers takes
the oldest one waiting, and sends the reply where the request came from.
`shutdown(wait=False, cancel_futures=True)` sets a flag and takes what waits off
the queue one by one, to cancel it, while the workers go on taking theirs.
-/

namespace MeshlinkNode

/-- A request that was submitted. -/
structure ProxyRequest where
  peerId : PeerId
  req : Fields

/-- A call of `transport.send` for the request with this number. -/
structure ProxyReply where
  ticket : Nat
  peerId : PeerId
  reply : Bytes

/-- The executor: requests are numbered as they are submitted. While it drains,
`shutdown` holds the lock that `submit` takes. -/
structure ProxyPool where
  maxWorkers : Nat
  submitted : List ProxyRequest
  waiting : List Nat
  running : List Nat
  ended : List Nat
  cancelled : List Nat
  shutdown : Bool
  draining : Bool
  sent : List ProxyReply

/-- A frame reaches `handle_frame`, a free worker takes a request, a worker is
done with one, `stop` is called, and one round of its loop. -/
inductive PoolEvent where
  | frame (peerId : PeerId) (raw : Bytes)
  | start
  | finish (ticket : Nat) (uplink : BackendProxy.HttpRequest → BackendProxy.Uplink)
  | stop
  | drain

def PoolEvent.isDrain : PoolEvent → Bool
  | .drain => true
  | _ => false

namespace ProxyPool

def boot (maxWorkers : Nat) : ProxyPool := ⟨maxWorkers, [], [], [], [], [], false, false, []⟩

variable (lib : JsonLib) (baseUrl : PyStr)

/-- `submit` raises once the flag is set, if need be after it waited for the lock,
and `handle_frame` swallows it. -/
def submit (s : ProxyPool) (request : ProxyRequest) : ProxyPool :=
  if s.shutdown then s
  else
    { s with
      submitted := s.submitted ++ [request]
      waiting := s.waiting ++ [s.submitted.length] }

/-- What `_serve` sends. An exception of `_execute` stays in the future. -/
def reply (s : ProxyPool) (ticket : Nat)
    (uplink : BackendProxy.HttpRequest → BackendProxy.Uplink) : Option ProxyReply :=
  match s.submitted[ticket]? with
  | none => none
  | some request =>
    match BackendProxy.execute lib baseUrl uplink request.req with
    | .error _ => none
    | .ok reply => some ⟨ticket, request.peerId, reply⟩

def step (s : ProxyPool) : PoolEvent → ProxyPool
  | .frame peerId raw =>
    match BackendProxy.handleFrame lib raw with
    | .ok (some req) => s.submit ⟨peerId, req⟩
    | _ => s
  | .start =>
    match s.waiting with
    | [] => s
    | ticket :: waiting => { s with waiting, running := ticket :: s.running }
  | .finish ticket uplink =>
    { s with
      running := s.running.erase ticket
      ended := ticket :: s.ended
      sent := s.sent ++ (s.reply lib baseUrl ticket uplink).toList }
  | .stop => { s with shutdown := true, draining := true }
  | .drain =>
    match s.waiting with
    | [] => { s with draining := false }
    | ticket :: waiting => { s with waiting, cancelled := s.cancelled ++ [ticket] }

/-- A worker takes a request when one waits and it is free, and one `stop` drains
at a time. -/
def Permits (s : ProxyPool) : PoolEvent → Prop
  | .frame _ _ => True
  | .start => s.waiting ≠ [] ∧ s.running.length < s.maxWorkers
  | .finish ticket _ => ticket ∈ s.running
  | .stop => s.draining = false
  | .drain => s.draining = true

abbrev after (s : ProxyPool) (events : List PoolEvent) : ProxyPool :=
  Runs.run (step lib baseUrl) s events

/-- Where every request is: the first `taken` ones are off the queue, each running,
ended or cancelled, and the others wait in order. -/
structure Ordered (s : ProxyPool) (taken : Nat) : Prop where
  bounded : taken ≤ s.submitted.length
  fates : (s.running ++ s.ended ++ s.cancelled).Perm (List.range taken)
  waiting : s.waiting = List.range' taken (s.submitted.length - taken)
  inOrder : s.cancelled.Pairwise (· < ·)
  up : s.shutdown = false → s.cancelled = [] ∧ s.draining = false
  drained : s.shutdown = true → s.draining = false → s.waiting = []
  workers : s.running.length ≤ s.maxWorkers

variable {lib baseUrl} {s : ProxyPool} {taken : Nat}

theorem ordered_boot (maxWorkers : Nat) : (boot maxWorkers).Ordered 0 where
  bounded := le_refl 0
  fates := .nil
  waiting := rfl
  inOrder := .nil
  up _ := ⟨rfl, rfl⟩
  drained down := by cases down
  workers := Nat.zero_le _

theorem ordered_submit (h : s.Ordered taken) (request : ProxyRequest) :
    (s.submit request).Ordered taken := by
  unfold submit
  split
  · exact h
  · rename_i up
    have bounded := h.bounded
    refine ⟨?_, h.fates, ?_, h.inOrder, h.up, fun down => absurd down up, h.workers⟩
    · rw [List.length_append]
      exact bounded.trans (Nat.le_add_right _ _)
    · have more : s.submitted.length + 1 - taken = s.submitted.length - taken + 1 := by omega
      have last : taken + 1 * (s.submitted.length - taken) = s.submitted.length := by omega
      rw [List.length_append, List.length_singleton, more, List.range'_concat, last, h.waiting]

/-- What has ended was not cancelled. -/
theorem Ordered.ended_kept (h : s.Ordered taken) {ticket : Nat} (ended : ticket ∈ s.ended) :
    ticket ∉ s.cancelled := by
  have distinct := h.fates.nodup_iff.mpr List.nodup_range
  have apart := (List.nodup_append.mp distinct).2.2
  exact fun cancelled => apart ticket (List.mem_append_right _ ended) ticket cancelled rfl

/-- The request that waited longest is the next one, for a worker as for `stop`. -/
theorem next_waiting (h : s.Ordered taken) {ticket : Nat} {waiting : List Nat}
    (next : s.waiting = ticket :: waiting) : ticket = taken ∧ taken + 1 ≤ s.submitted.length ∧
      waiting = List.range' (taken + 1) (s.submitted.length - (taken + 1)) := by
  have queue := h.waiting
  rw [next] at queue
  have some_left : s.submitted.length - taken ≠ 0 := by
    intro empty
    rw [empty] at queue
    cases queue
  have split : s.submitted.length - taken = s.submitted.length - (taken + 1) + 1 := by omega
  rw [split, List.range'_succ] at queue
  obtain ⟨rfl, rest⟩ := List.cons.inj queue
  exact ⟨rfl, by omega, rest⟩

theorem ordered_start (h : s.Ordered taken) (waits : s.waiting ≠ [])
    (free : s.running.length < s.maxWorkers) :
    (s.step lib baseUrl .start).Ordered (taken + 1) := by
  obtain ⟨ticket, waiting, next⟩ := List.exists_cons_of_ne_nil waits
  obtain ⟨rfl, room, rest⟩ := next_waiting h next
  simp only [step, next]
  refine ⟨room, ?_, rest, h.inOrder, h.up, fun down idle => ?_, free⟩
  · rw [List.range_succ]
    exact (h.fates.cons ticket).trans (List.perm_append_singleton _ _).symm
  · exact absurd (h.drained down idle) waits

theorem ordered_finish (h : s.Ordered taken) {ticket : Nat} (running : ticket ∈ s.running)
    (uplink : BackendProxy.HttpRequest → BackendProxy.Uplink) :
    (s.step lib baseUrl (.finish ticket uplink)).Ordered taken where
  bounded := h.bounded
  fates := by
    refine List.Perm.trans ?_ h.fates
    refine List.Perm.append_right s.cancelled (List.perm_middle.trans ?_)
    exact ((List.perm_cons_erase running).symm).append_right s.ended
  waiting := h.waiting
  inOrder := h.inOrder
  up := h.up
  drained := h.drained
  workers := (List.length_erase_le).trans h.workers

theorem ordered_stop (h : s.Ordered taken) : (s.step lib baseUrl .stop).Ordered taken where
  bounded := h.bounded
  fates := h.fates
  waiting := h.waiting
  inOrder := h.inOrder
  up running := by cases running
  drained _ idle := by cases idle
  workers := h.workers

/-- A round of `stop` cancels the next request, or finds the queue empty. -/
theorem ordered_drain (h : s.Ordered taken) (draining : s.draining = true) :
    ∃ taken', (s.step lib baseUrl .drain).Ordered taken' := by
  have down : s.shutdown = true := by
    cases up : s.shutdown with
    | true => rfl
    | false => exact absurd (h.up up).2 (by simp [draining])
  cases next : s.waiting with
  | nil =>
    refine ⟨taken, ?_⟩
    simp only [step, next]
    exact ⟨h.bounded, h.fates, next.symm.trans h.waiting, h.inOrder,
      fun up => absurd down (Bool.eq_false_iff.mp up), fun _ _ => rfl, h.workers⟩
  | cons ticket waiting =>
    obtain ⟨rfl, room, rest⟩ := next_waiting h next
    refine ⟨ticket + 1, ?_⟩
    simp only [step, next]
    refine ⟨room, ?_, rest, ?_, fun up => absurd down (Bool.eq_false_iff.mp up),
      fun _ idle => absurd draining (Bool.eq_false_iff.mp idle), h.workers⟩
    · rw [List.range_succ, ← List.append_assoc]
      exact h.fates.append_right [ticket]
    · refine List.pairwise_append.mpr ⟨h.inOrder, List.pairwise_singleton _ _, ?_⟩
      intro earlier mem last here
      rw [List.mem_singleton.mp here]
      exact List.mem_range.mp (h.fates.mem_iff.mp (List.mem_append_right _ mem))

variable (lib baseUrl) in
theorem ordered_step (h : s.Ordered taken) {e : PoolEvent} (permitted : s.Permits e) :
    ∃ taken', (s.step lib baseUrl e).Ordered taken' := by
  cases e with
  | frame peerId raw =>
    refine ⟨taken, ?_⟩
    simp only [step]
    split
    · exact ordered_submit h _
    · exact h
  | start => exact ⟨taken + 1, ordered_start h permitted.1 permitted.2⟩
  | finish ticket uplink => exact ⟨taken, ordered_finish h permitted uplink⟩
  | stop => exact ⟨taken, ordered_stop h⟩
  | drain => exact ordered_drain h permitted

/-! ## What is sent -/

variable (lib baseUrl) in
/-- Every reply is that to a request that has ended, and the only one to it. -/
structure Answered (s : ProxyPool) : Prop where
  once : (s.sent.map ProxyReply.ticket).Nodup
  ended : ∀ r ∈ s.sent, r.ticket ∈ s.ended
  genuine : ∀ r ∈ s.sent, ∃ request uplink, s.submitted[r.ticket]? = some request ∧
    r.peerId = request.peerId ∧
    BackendProxy.execute lib baseUrl uplink request.req = .ok r.reply

theorem reply_genuine {ticket : Nat} {uplink : BackendProxy.HttpRequest → BackendProxy.Uplink}
    {r : ProxyReply} (made : s.reply lib baseUrl ticket uplink = some r) :
    r.ticket = ticket ∧ ∃ request, s.submitted[ticket]? = some request ∧
      r.peerId = request.peerId ∧
      BackendProxy.execute lib baseUrl uplink request.req = .ok r.reply := by
  unfold reply at made
  split at made
  · cases made
  · rename_i request found
    split at made
    · cases made
    · rename_i reply executed
      cases made
      exact ⟨rfl, request, found, rfl, executed⟩

/-- What is sent of requests submitted so far does not change with more. -/
theorem Answered.more (h : s.Answered lib baseUrl) (requests : List ProxyRequest)
    (waiting : List Nat) :
    { s with submitted := s.submitted ++ requests, waiting }.Answered lib baseUrl where
  once := h.once
  ended := h.ended
  genuine r mem := by
    obtain ⟨request, uplink, found, rest⟩ := h.genuine r mem
    refine ⟨request, uplink, ?_, rest⟩
    rw [List.getElem?_append_left (List.getElem?_eq_some_iff.mp found).1]
    exact found

theorem answered_finish (ordered : s.Ordered taken) (h : s.Answered lib baseUrl) {ticket : Nat}
    (running : ticket ∈ s.running) (uplink : BackendProxy.HttpRequest → BackendProxy.Uplink) :
    (s.step lib baseUrl (.finish ticket uplink)).Answered lib baseUrl := by
  have unended : ticket ∉ s.ended := by
    have distinct := (List.nodup_append.mp (ordered.fates.nodup_iff.mpr List.nodup_range)).1
    exact fun ended => (List.nodup_append.mp distinct).2.2 ticket running ticket ended rfl
  have ended : ∀ r ∈ s.sent, r.ticket ∈ ticket :: s.ended := fun r mem =>
    List.mem_cons_of_mem _ (h.ended r mem)
  cases made : s.reply lib baseUrl ticket uplink with
  | none =>
    refine ⟨?_, ?_, ?_⟩
    · simpa [step, made] using h.once
    · simpa [step, made] using ended
    · simpa [step, made] using h.genuine
  | some r =>
    obtain ⟨own, request, found, peer, executed⟩ := reply_genuine made
    have sent : (s.step lib baseUrl (.finish ticket uplink)).sent = s.sent ++ [r] := by
      simp only [step, made, Option.toList_some]
    refine ⟨?_, ?_, ?_⟩
    · rw [sent, List.map_append, List.nodup_append]
      refine ⟨h.once, List.nodup_singleton _, ?_⟩
      intro earlier mem late here
      obtain ⟨r', mem', rfl⟩ := List.mem_map.mp mem
      rw [List.map_singleton, List.mem_singleton, own] at here
      rw [here]
      exact fun same => unended (same ▸ h.ended r' mem')
    · rw [sent]
      intro r' mem
      rcases List.mem_append.mp mem with earlier | new
      · exact ended r' earlier
      · rw [List.mem_singleton.mp new, own]
        exact List.mem_cons_self
    · rw [sent]
      intro r' mem
      rcases List.mem_append.mp mem with earlier | new
      · exact h.genuine r' earlier
      · rw [List.mem_singleton.mp new, own]
        exact ⟨request, uplink, found, peer, executed⟩

theorem answered_step (ordered : s.Ordered taken) (h : s.Answered lib baseUrl) {e : PoolEvent}
    (permitted : s.Permits e) : (s.step lib baseUrl e).Answered lib baseUrl := by
  cases e with
  | frame peerId raw =>
    simp only [step]
    split
    · unfold submit
      split
      · exact h
      · exact h.more _ _
    · exact h
  | start =>
    simp only [step]
    split
    · exact h
    · exact ⟨h.once, h.ended, h.genuine⟩
  | finish ticket uplink => exact answered_finish ordered h permitted uplink
  | stop => exact ⟨h.once, h.ended, h.genuine⟩
  | drain =>
    simp only [step]
    split <;> exact ⟨h.once, h.ended, h.genuine⟩

variable (lib baseUrl) in
/-- The requests of a run, in order, and their replies. -/
def Fated (s : ProxyPool) : Prop := ∃ taken, s.Ordered taken ∧ s.Answered lib baseUrl

theorem fated_step {e : PoolEvent} (h : s.Fated lib baseUrl) (permitted : s.Permits e) :
    (s.step lib baseUrl e).Fated lib baseUrl := by
  obtain ⟨taken, ordered, answered⟩ := h
  obtain ⟨taken', ordered'⟩ := ordered_step lib baseUrl ordered permitted
  exact ⟨taken', ordered', answered_step ordered answered permitted⟩

theorem fated_after {maxWorkers : Nat} {events : List PoolEvent}
    (along : Runs.Along (step lib baseUrl) Permits (boot maxWorkers) events) :
    ((boot maxWorkers).after lib baseUrl events).Fated lib baseUrl :=
  Runs.invariant (fun _ _ => fated_step)
    ⟨0, ordered_boot maxWorkers, by simp [boot], by simp [boot], by simp [boot]⟩ along

/-- **Every request has one fate.** However frames, workers and `stop` interleave,
requests leave the queue in the order they were submitted, each to a worker or to
be cancelled by `stop`; no more than `max_workers` run at once. Each that was
served is sent at most one reply, `_execute`'s for it, to the peer it came from. -/
theorem every_request_one_fate (lib : JsonLib) (baseUrl : PyStr) (maxWorkers : Nat)
    (events : List PoolEvent)
    (along : Runs.Along (step lib baseUrl) Permits (boot maxWorkers) events) :
    ∃ taken, ((boot maxWorkers).after lib baseUrl events).Ordered taken ∧
      ((boot maxWorkers).after lib baseUrl events).Answered lib baseUrl :=
  fated_after along

/-! ## After `stop` -/

variable (lib baseUrl) in
/-- A frame comes too late. -/
theorem frame_shutdown (down : s.shutdown = true) (peerId : PeerId) (raw : Bytes) :
    s.step lib baseUrl (.frame peerId raw) = s := by
  simp only [step]
  split
  · exact if_pos down
  · rfl

variable (lib baseUrl) in
/-- The flag stays, and nothing is submitted under it. -/
theorem shutdown_step (down : s.shutdown = true) (e : PoolEvent) :
    (s.step lib baseUrl e).shutdown = true ∧
    (s.step lib baseUrl e).submitted = s.submitted := by
  cases e with
  | frame peerId raw =>
    rw [frame_shutdown lib baseUrl down]
    exact ⟨down, rfl⟩
  | start | drain =>
    simp only [step]
    split <;> exact ⟨down, rfl⟩
  | finish ticket uplink => exact ⟨down, rfl⟩
  | stop => exact ⟨rfl, rfl⟩

variable (lib baseUrl) in
theorem shutdown_during (down : s.shutdown = true) (during : List PoolEvent) :
    (s.after lib baseUrl during).shutdown = true ∧
    (s.after lib baseUrl during).submitted = s.submitted := by
  induction during generalizing s with
  | nil => exact ⟨down, rfl⟩
  | cons e during ih =>
    obtain ⟨down', submitted⟩ := shutdown_step lib baseUrl down e
    obtain ⟨still, submitted'⟩ := ih down'
    exact ⟨still, submitted'.trans submitted⟩

/-- What waits under the flag gets less with each round. -/
theorem drain_step (down : s.shutdown = true) {e : PoolEvent} (permitted : s.Permits e)
    (other : e ≠ .stop) (draining : (s.step lib baseUrl e).draining = true) :
    s.draining = true ∧
    (s.step lib baseUrl e).waiting.length + (if e.isDrain then 1 else 0) ≤ s.waiting.length := by
  cases e with
  | frame peerId raw =>
    rw [frame_shutdown lib baseUrl down] at draining ⊢
    exact ⟨draining, le_refl _⟩
  | start =>
    simp only [step] at draining ⊢
    split at draining
    · rename_i empty
      exact absurd empty permitted.1
    · rename_i ticket waiting next
      exact ⟨draining, by simp [PoolEvent.isDrain, next]⟩
  | finish ticket uplink => exact ⟨draining, le_refl _⟩
  | stop => exact absurd rfl other
  | drain =>
    refine ⟨permitted, ?_⟩
    simp only [step] at draining ⊢
    split at draining
    · cases draining
    · rename_i ticket waiting next
      simp [PoolEvent.isDrain, next]

/-- As long as `stop` drains, its rounds are no more than the requests that
waited. -/
theorem rounds_bounded (down : s.shutdown = true) {during : List PoolEvent}
    (others : ∀ e ∈ during, e ≠ .stop)
    (along : Runs.Along (step lib baseUrl) Permits s during)
    (draining : (s.after lib baseUrl during).draining = true) :
    s.draining = true ∧ during.countP PoolEvent.isDrain ≤ s.waiting.length := by
  induction during generalizing s with
  | nil => exact ⟨draining, Nat.zero_le _⟩
  | cons e during ih =>
    obtain ⟨permitted, along⟩ := along
    obtain ⟨first, rest⟩ := List.forall_mem_cons.mp others
    obtain ⟨drains, rounds⟩ := ih (shutdown_step lib baseUrl down e).1 rest along draining
    obtain ⟨drained, less⟩ := drain_step down permitted first drains
    refine ⟨drained, ?_⟩
    rw [List.countP_cons]
    omega

/-- Once `stop` has returned and nothing waits, nothing starts or is cancelled. -/
theorem settled_step (down : s.shutdown = true) (empty : s.waiting = []) {e : PoolEvent}
    (permitted : s.Permits e) :
    (s.step lib baseUrl e).waiting = [] ∧ (s.step lib baseUrl e).cancelled = s.cancelled ∧
    (s.step lib baseUrl e).running ⊆ s.running := by
  cases e with
  | frame peerId raw =>
    rw [frame_shutdown lib baseUrl down]
    exact ⟨empty, rfl, List.Subset.refl _⟩
  | start => exact absurd empty permitted.1
  | finish ticket uplink => exact ⟨empty, rfl, List.erase_subset⟩
  | stop => exact ⟨empty, rfl, List.Subset.refl _⟩
  | drain => simp [step, empty]

theorem settled_run (down : s.shutdown = true) (empty : s.waiting = []) {later : List PoolEvent}
    (along : Runs.Along (step lib baseUrl) Permits s later) :
    (s.after lib baseUrl later).cancelled = s.cancelled ∧
    (s.after lib baseUrl later).running ⊆ s.running := by
  induction later generalizing s with
  | nil => exact ⟨rfl, List.Subset.refl _⟩
  | cons e later ih =>
    obtain ⟨permitted, along⟩ := along
    have down' := (shutdown_step lib baseUrl down e).1
    obtain ⟨empty', cancelled, running⟩ := settled_step down empty permitted
    obtain ⟨cancelled', running'⟩ := ih down' empty' along
    exact ⟨cancelled'.trans cancelled, fun _ mem => running (running' mem)⟩

/-- **After `stop`.** Its loop makes at most one round more than requests waited
when it was called, however the workers run meanwhile. Once it has returned, every
request that was submitted has been started or cancelled; and from then on none is
taken, none starts, and none that was cancelled is answered. -/
theorem nothing_starts_after_stop (lib : JsonLib) (baseUrl : PyStr) (maxWorkers : Nat)
    (events during later : List PoolEvent) (others : ∀ e ∈ during, e ≠ .stop)
    (along : Runs.Along (step lib baseUrl) Permits (boot maxWorkers)
      (events ++ .stop :: during ++ later)) :
    let asked := (boot maxWorkers).after lib baseUrl events
    let stopped := (boot maxWorkers).after lib baseUrl (events ++ .stop :: during)
    let final := (boot maxWorkers).after lib baseUrl (events ++ .stop :: during ++ later)
    (stopped.draining = true → during.countP PoolEvent.isDrain ≤ asked.waiting.length) ∧
    (stopped.draining = false →
      (stopped.running ++ stopped.ended ++ stopped.cancelled).Perm
        (List.range asked.submitted.length) ∧
      final.submitted = asked.submitted ∧ final.running ⊆ stopped.running ∧
      final.cancelled = stopped.cancelled ∧ ∀ r ∈ final.sent, r.ticket ∉ final.cancelled) := by
  intro asked stopped final
  obtain ⟨before, afterwards⟩ := Runs.along_append.mp along
  obtain ⟨-, -, draining⟩ := Runs.along_append.mp before
  obtain ⟨taken, ordered, -⟩ := fated_after before
  obtain ⟨taken', ordered', answered⟩ := fated_after along
  have stops : stopped = (asked.step lib baseUrl .stop).after lib baseUrl during :=
    Runs.run_append ..
  have continues : final = stopped.after lib baseUrl later := Runs.run_append ..
  have flagged : (asked.step lib baseUrl .stop).shutdown = true := rfl
  obtain ⟨down, submitted⟩ := shutdown_during lib baseUrl flagged during
  rw [← stops] at down submitted
  constructor
  · intro still
    exact (rounds_bounded rfl others draining (stops ▸ still)).2
  · intro returned
    have empty : stopped.waiting = [] := ordered.drained down returned
    have all : taken = asked.submitted.length := by
      have left := ordered.waiting.symm.trans empty
      have bounded := ordered.bounded
      rw [List.range'_eq_nil_iff] at left
      rw [submitted] at left bounded
      exact Nat.le_antisymm bounded (Nat.sub_eq_zero_iff_le.mp left)
    have submitted' := (shutdown_during lib baseUrl down later).2
    obtain ⟨cancelled, running⟩ := settled_run down empty afterwards
    refine ⟨all ▸ ordered.fates, ?_, ?_, ?_, ?_⟩
    · rw [continues, submitted', submitted]
      rfl
    · rw [continues]
      exact running
    · rw [continues, cancelled]
    · exact fun r mem => ordered'.ended_kept (answered.ended r mem)

end ProxyPool

namespace Sample

def backend : PyStr := text "http://10.77.0.254:8000"

/-- Two phones ask, and the node stops while one is served. -/
def askedTwice : List PoolEvent :=
  [.frame "phoneA" (proxyFrame healthText), .frame "phoneB" (proxyFrame healthText), .start]

def stopRounds : List PoolEvent := [.drain, .drain]

def answeredLate : List PoolEvent := [.finish 0 fun _ => .response 200 okBody]

theorem asked_permitted : Runs.Along (ProxyPool.step proxyJson backend) ProxyPool.Permits
    (.boot 4) (askedTwice ++ .stop :: stopRounds ++ answeredLate) :=
  ⟨trivial, trivial, ⟨by decide +kernel, by decide +kernel⟩, rfl, rfl, rfl,
    show 0 ∈ (ProxyPool.after proxyJson backend (.boot 4)
      (askedTwice ++ .stop :: stopRounds)).running by decide +kernel, trivial⟩

theorem every_request_one_fate_stopped :
    ∃ taken, (ProxyPool.after proxyJson backend (.boot 4)
        (askedTwice ++ .stop :: stopRounds ++ answeredLate)).Ordered taken ∧
      (ProxyPool.after proxyJson backend (.boot 4)
        (askedTwice ++ .stop :: stopRounds ++ answeredLate)).Answered proxyJson backend :=
  ProxyPool.every_request_one_fate proxyJson backend 4 _ asked_permitted

theorem nothing_starts_after_stop_asked :
    (ProxyPool.after proxyJson backend (.boot 4)
      (askedTwice ++ .stop :: stopRounds ++ answeredLate)).running ⊆ [0] := by
  have others : ∀ e ∈ stopRounds, e ≠ PoolEvent.stop := by simp [stopRounds]
  obtain ⟨-, settled⟩ := ProxyPool.nothing_starts_after_stop proxyJson backend 4 askedTwice
    stopRounds answeredLate others asked_permitted
  have returned : (ProxyPool.after proxyJson backend (.boot 4)
      (askedTwice ++ .stop :: stopRounds)).draining = false := by decide +kernel
  have one : (ProxyPool.after proxyJson backend (.boot 4)
      (askedTwice ++ .stop :: stopRounds)).running = [0] := by decide +kernel
  rw [← one]
  exact (settled returned).2.2.1

end Sample

end MeshlinkNode
