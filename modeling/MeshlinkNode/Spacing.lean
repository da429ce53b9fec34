import MeshlinkNode.Service
import Mathlib.Tactic.Linarith

/-!
# Query spacing under concurrent calls

Reader threads call `handle_query` at the same time. A call reads the clock
before it takes the lock, so a later reading may be checked first, and the
clock may jump back in between.
-/

namespace MeshlinkNode.QueryThreads

variable {core : Core}

/-- Where a call of `handle_query` stands: between any two of these another
thread may act. -/
inductive Stage where
  | entered
  | authenticated (g : Grant)
  | clocked (g : Grant) (now : Seconds)
  | verified (g : Grant) (now : Seconds)
  | slotted (g : Grant) (now : Seconds)
  | located (g : Grant) (now : Seconds) (row : LocationRow)
  | returned (query : Option (Grant × Seconds)) (reply : Reply)

structure Call where
  msg : Message
  stage : Stage

/-- The calls share the service they were made on. -/
structure Threads (core : Core) where
  service : LocationService core
  calls : List Call

/-- The next stage of a call, and the authorisation it leaves. `reading` is
what a clock shows at that moment. -/
def Stage.advance (svc : LocationService core) (msg : Message) (reading : Seconds) :
    Stage → Stage × LocationAuthz
  | .entered =>
    match LocationAuthz.authenticate core svc.directory msg with
    | .error reply => (.returned none reply, svc.authz)
    | .ok g => (.authenticated g, svc.authz)
  | .authenticated g => (.clocked g reading, svc.authz)
  | .clocked g now =>
    match LocationAuthz.verify core svc.authz g msg.senderKey now with
    | .error reply => (.returned (some (g, now)) reply, svc.authz)
    | .ok () => (.verified g now, svc.authz)
  | .verified g now =>
    match LocationAuthz.takeSlot svc.authz g now with
    | .error reply => (.returned (some (g, now)) reply, svc.authz)
    | .ok taken => (.slotted g now, taken)
  | .slotted g now =>
    match LocationAuthz.readRow svc.store g with
    | .error reply => (.returned (some (g, now)) reply, svc.authz)
    | .ok row => (.located g now row, svc.authz)
  | .located g now row =>
    (.returned (some (g, now)) (LocationAuthz.respond core svc.directory g row reading), svc.authz)
  | .returned query reply => (.returned query reply, svc.authz)

/-- A query opens a call; every other input is handled at once. -/
inductive Event where
  | query (msg : Message)
  | advance (call : Nat) (reading : Seconds)
  | message (peerId : PeerId) (msg : Message) (clocks : Clocks)
    (notQuery : msg.msgType ≠ .locationQuery)
  | refresh (response : Except PyExc Json)

def step (t : Threads core) : Event → Threads core
  | .query msg => { t with calls := t.calls ++ [⟨msg, .entered⟩] }
  | .advance call reading =>
    match t.calls[call]? with
    | none => t
    | some c =>
      let (stage, authz) := c.stage.advance t.service c.msg reading
      ⟨{ t.service with authz }, t.calls.set call { c with stage }⟩
  | .message peerId msg clocks _ =>
    { t with service := t.service.step (.message peerId msg clocks) }
  | .refresh response => { t with service := t.service.step (.refresh response) }

/-- The pair and the clock reading of an answered query. -/
def Call.answered (c : Call) : Option ((Bytes × Bytes) × Seconds) :=
  match c.stage with
  | .returned (some (g, now)) (.served _ _) => some (g.pair, now)
  | _ => none

def Threads.answered (t : Threads core) (call : Nat) : Option ((Bytes × Bytes) × Seconds) :=
  t.calls[call]?.bind Call.answered

theorem step_advance {t : Threads core} {call : Nat} {msg : Message} {stage : Stage}
    (here : t.calls[call]? = some ⟨msg, stage⟩) (reading : Seconds) :
    step t (.advance call reading) =
      ⟨{ t.service with authz := (stage.advance t.service msg reading).2 },
        t.calls.set call ⟨msg, (stage.advance t.service msg reading).1⟩⟩ := by
  simp only [step, here]

/-- The state in which a call of `msg` has got to `next.1` and left `next.2`. -/
def Threads.at (t : Threads core) (call : Nat) (msg : Message) (next : Stage × LocationAuthz) :
    Threads core :=
  ⟨{ t.service with authz := next.2 }, t.calls.set call ⟨msg, next.1⟩⟩

section Uninterrupted

variable {t : Threads core} {call : Nat} (bound : call < t.calls.length) {msg : Message}

include bound

theorem run_at_cons {stage : Stage} {authz : LocationAuthz} {next : Stage × LocationAuthz}
    {reading : Seconds} (h : stage.advance { t.service with authz } msg reading = next)
    (readings : List Seconds) :
    Runs.run step (t.at call msg (stage, authz)) ((reading :: readings).map (.advance call)) =
      Runs.run step (t.at call msg next) (readings.map (.advance call)) := by
  have here : (t.at call msg (stage, authz)).calls[call]? = some ⟨msg, stage⟩ :=
    List.getElem?_set_self bound
  rw [List.map_cons, Runs.run_cons, step_advance here, ← h]
  simp only [Threads.at, List.set_set]

theorem run_returned (query : Option (Grant × Seconds)) (reply : Reply) (authz : LocationAuthz)
    (readings : List Seconds) :
    Runs.run step (t.at call msg (.returned query reply, authz)) (readings.map (.advance call)) =
      t.at call msg (.returned query reply, authz) := by
  induction readings with
  | nil => rfl
  | cons r readings ih =>
    rw [run_at_cons bound rfl]
    exact ih

/-- **A call nobody interrupts is `handle_query`**: six stages from its entry
it has returned the same reply and left the same authorisation. -/
theorem uninterrupted (r now storeNow : Seconds) :
    ∃ query, Runs.run step (t.at call msg (.entered, t.service.authz))
        ([r, now, r, r, r, storeNow].map (.advance call)) =
      t.at call msg (.returned query (LocationAuthz.handleQuery core t.service.directory
          t.service.store t.service.authz msg now storeNow).1,
        (LocationAuthz.handleQuery core t.service.directory t.service.store t.service.authz msg
          now storeNow).2) := by
  cases ha : LocationAuthz.authenticate core t.service.directory msg with
  | error reply =>
    rw [run_at_cons bound (by simp only [Stage.advance, ha]; rfl)]
    simp only [LocationAuthz.handleQuery, ha]
    exact ⟨none, run_returned bound _ _ _ _⟩
  | ok g =>
    rw [run_at_cons bound (by simp only [Stage.advance, ha]; rfl), run_at_cons bound rfl]
    cases hv : LocationAuthz.verify core t.service.authz g msg.senderKey now with
    | error reply =>
      rw [run_at_cons bound (by simp only [Stage.advance, hv]; rfl)]
      simp only [LocationAuthz.handleQuery, ha, hv]
      exact ⟨some (g, now), run_returned bound _ _ _ _⟩
    | ok u =>
      rw [run_at_cons bound (by simp only [Stage.advance, hv]; rfl)]
      cases hs : LocationAuthz.takeSlot t.service.authz g now with
      | error reply =>
        rw [run_at_cons bound (by simp only [Stage.advance, hs]; rfl)]
        simp only [LocationAuthz.handleQuery, ha, hv, hs]
        exact ⟨some (g, now), run_returned bound _ _ _ _⟩
      | ok taken =>
        rw [run_at_cons bound (by simp only [Stage.advance, hs]; rfl)]
        cases hr : LocationAuthz.readRow t.service.store g with
        | error reply =>
          rw [run_at_cons bound (by simp only [Stage.advance, hr]; rfl)]
          simp only [LocationAuthz.handleQuery, ha, hv, hs, hr]
          exact ⟨some (g, now), run_returned bound _ _ _ _⟩
        | ok row =>
          rw [run_at_cons bound (by simp only [Stage.advance, hr]; rfl), run_at_cons bound rfl]
          simp only [LocationAuthz.handleQuery, ha, hv, hs, hr]
          exact ⟨some (g, now), rfl⟩

end Uninterrupted

/-- The pair and reading of a call that has taken the slot and not failed. -/
def Stage.held : Stage → Option ((Bytes × Bytes) × Seconds)
  | .slotted g now => some (g.pair, now)
  | .located g now _ => some (g.pair, now)
  | .returned (some (g, now)) (.served _ _) => some (g.pair, now)
  | _ => none

def Threads.held (t : Threads core) (call : Nat) : Option ((Bytes × Bytes) × Seconds) :=
  t.calls[call]?.bind fun c => c.stage.held

theorem held_of_answered {t : Threads core} {call : Nat} {query : (Bytes × Bytes) × Seconds}
    (h : t.answered call = some query) : t.held call = some query := by
  obtain ⟨c, here, answered⟩ := Option.bind_eq_some_iff.mp h
  refine Option.bind_eq_some_iff.mpr ⟨c, here, ?_⟩
  unfold Call.answered at answered
  split at answered
  · rename_i stage
    rw [stage]
    exact answered
  · cases answered

/-- A stage of a call either takes no slot and leaves the table alone, or takes
the slot of its pair, `interval` after what the table holds. -/
theorem advance_cases (svc : LocationService core) (msg : Message) (reading : Seconds)
    (stage : Stage) :
    ((stage.advance svc msg reading).2 = svc.authz ∧
      ∀ held, (stage.advance svc msg reading).1.held = some held → stage.held = some held) ∨
    (∃ (g : Grant) (now : Seconds),
      svc.authz.minIntervalS ≤ now - (svc.authz.lastQuery.lookup g.pair).getD 0 ∧
      (stage.advance svc msg reading).1.held = some (g.pair, now) ∧
      (stage.advance svc msg reading).2 =
        { svc.authz with lastQuery := svc.authz.lastQuery.insert g.pair now }) := by
  cases stage with
  | entered =>
    left
    unfold Stage.advance
    cases LocationAuthz.authenticate core svc.directory msg <;> simp [Stage.held]
  | authenticated g => simp [Stage.advance, Stage.held]
  | clocked g now =>
    left
    unfold Stage.advance
    cases hv : LocationAuthz.verify core svc.authz g msg.senderKey now with
    | error reply =>
      obtain ⟨why, rfl⟩ := LocationAuthz.verify_error hv
      simp [hv, Stage.held]
    | ok u => simp [hv, Stage.held]
  | verified g now =>
    unfold Stage.advance
    cases hs : LocationAuthz.takeSlot svc.authz g now with
    | error reply =>
      rw [LocationAuthz.takeSlot_error hs] at hs
      simp [hs, Stage.held]
    | ok taken =>
      obtain ⟨spaced, rfl⟩ := LocationAuthz.takeSlot_ok.mp hs
      exact .inr ⟨g, now, spaced, by simp [hs, Stage.held], by simp [hs]⟩
  | slotted g now =>
    left
    unfold Stage.advance
    cases hr : LocationAuthz.readRow svc.store g with
    | error reply =>
      rw [LocationAuthz.readRow_error hr] at hr
      simp [hr, Stage.held]
    | ok row => simp [hr, Stage.held]
  | located g now row =>
    left
    unfold Stage.advance
    cases hp : LocationAuthz.respond core svc.directory g row reading <;> simp [hp, Stage.held]
  | returned query reply => simp [Stage.advance]

/-- **What a step can do**: either no call takes a slot and the table stays, or
one takes the slot of a pair, at least `minIntervalS` after what the table
holds for it, and leaves its reading there. -/
theorem step_cases (t : Threads core) (e : Event) :
    (step t e).service.authz.minIntervalS = t.service.authz.minIntervalS ∧
    (((step t e).service.authz.lastQuery = t.service.authz.lastQuery ∧
        ∀ i query, (step t e).held i = some query → t.held i = some query) ∨
      ∃ call pair now,
        t.service.authz.minIntervalS ≤ now - (t.service.authz.lastQuery.lookup pair).getD 0 ∧
        (step t e).service.authz.lastQuery = t.service.authz.lastQuery.insert pair now ∧
        (step t e).held call = some (pair, now) ∧
        ∀ i, i ≠ call → (step t e).held i = t.held i) := by
  cases e with
  | query msg =>
    refine ⟨rfl, .inl ⟨rfl, ?_⟩⟩
    intro i query held
    obtain ⟨c, here, held⟩ := Option.bind_eq_some_iff.mp held
    simp only [step] at here
    rcases Nat.lt_or_ge i t.calls.length with old | new
    · rw [List.getElem?_append_left old] at here
      exact Option.bind_eq_some_iff.mpr ⟨c, here, held⟩
    · rw [List.getElem?_append_right new] at here
      obtain ⟨-, rfl⟩ := List.mem_singleton.mp (List.mem_of_getElem? here)
      cases held
  | advance call reading =>
    cases here : t.calls[call]? with
    | none =>
      have same : step t (.advance call reading) = t := by simp only [step, here]
      rw [same]
      exact ⟨rfl, .inl ⟨rfl, fun _ _ held => held⟩⟩
    | some c =>
      have bound : call < t.calls.length := (List.getElem?_eq_some_iff.mp here).1
      rw [step_advance here]
      have self : Threads.held ⟨{ t.service with
            authz := (c.stage.advance t.service c.msg reading).2 },
          t.calls.set call ⟨c.msg, (c.stage.advance t.service c.msg reading).1⟩⟩ call =
          (c.stage.advance t.service c.msg reading).1.held := by
        simp [Threads.held, bound]
      have others : ∀ i, i ≠ call → Threads.held ⟨{ t.service with
            authz := (c.stage.advance t.service c.msg reading).2 },
          t.calls.set call ⟨c.msg, (c.stage.advance t.service c.msg reading).1⟩⟩ i =
          t.held i := by
        intro i ne
        simp [Threads.held, List.getElem?_set_ne (Ne.symm ne)]
      rcases advance_cases t.service c.msg reading c.stage with
        ⟨same, keeps⟩ | ⟨g, now, spaced, takes, slot⟩
      · refine ⟨congrArg LocationAuthz.minIntervalS same,
          .inl ⟨congrArg LocationAuthz.lastQuery same, ?_⟩⟩
        intro i query held
        by_cases mine : i = call
        · subst mine
          rw [self] at held
          simpa [Threads.held, here] using keeps query held
        · rwa [others i mine] at held
      · refine ⟨?_, .inr ⟨call, g.pair, now, spaced, ?_, self.trans takes, others⟩⟩
        · simp only [slot]
        · simp only [slot]
  | message peerId msg clocks notQuery =>
    obtain ⟨-, keeps, table⟩ := LocationService.step_not_query t.service peerId clocks notQuery
    exact ⟨keeps, .inl ⟨table, fun _ _ held => held⟩⟩
  | refresh response => exact ⟨rfl, .inl ⟨rfl, fun _ _ held => held⟩⟩

/-- The table holds, for every pair, a reading no earlier than those of the
calls that took its slot, and these are `interval` apart. -/
structure Spaced (interval : Seconds) (t : Threads core) : Prop where
  minInterval : t.service.authz.minIntervalS = interval
  latest : ∀ i p now, t.held i = some (p, now) →
    ∃ last, t.service.authz.lastQuery.lookup p = some last ∧ now ≤ last
  apart : ∀ i j p now now', i ≠ j → t.held i = some (p, now) → t.held j = some (p, now') →
    interval ≤ |now - now'|

theorem spaced_step {interval : Seconds} (positive : 0 < interval) (t : Threads core) (e : Event)
    (h : Spaced interval t) : Spaced interval (step t e) := by
  obtain ⟨keeps, ⟨table, held⟩ | ⟨call, pair, now, spaced, table, takes, others⟩⟩ := step_cases t e
  · constructor
    · exact keeps.trans h.minInterval
    · intro i p now hi
      rw [table]
      exact h.latest i p now (held _ _ hi)
    · intro i j p now now' ne hi hj
      exact h.apart i j p now now' ne (held _ _ hi) (held _ _ hj)
  · -- The reading of the new holder is `interval` after that of every other.
    have after : ∀ j now', j ≠ call → (step t e).held j = some (pair, now') →
        interval ≤ now - now' := by
      intro j now' ne hj
      rw [others j ne] at hj
      obtain ⟨last, stored, later⟩ := h.latest j pair now' hj
      rw [stored, Option.getD_some, h.minInterval] at spaced
      linarith
    constructor
    · exact keeps.trans h.minInterval
    · intro i p now' hi
      rw [table]
      by_cases same : p = pair
      · subst same
        refine ⟨now, AList.lookup_insert _, ?_⟩
        by_cases mine : i = call
        · subst mine
          rw [takes] at hi
          cases hi
          exact le_refl _
        · linarith [after i now' mine hi]
      · rw [AList.lookup_insert_ne same]
        apply h.latest i p now'
        rw [← others i]
        · exact hi
        · rintro rfl
          rw [takes] at hi
          cases hi
          exact same rfl
    · intro i j p first second ne hi hj
      by_cases mine : i = call
      · subst mine
        rw [takes] at hi
        cases hi
        exact (after j second (Ne.symm ne) hj).trans (le_abs_self _)
      · by_cases mine' : j = call
        · subst mine'
          rw [takes] at hj
          cases hj
          rw [abs_sub_comm]
          exact (after i first mine hi).trans (le_abs_self _)
        · rw [others i mine] at hi
          rw [others j mine'] at hj
          exact h.apart i j p first second ne hi hj

/-- **Query spacing.** However the calls on a service interleave with each
other and with everything else it handles, two answered queries of one pair
read the clock at least `minIntervalS` apart. -/
theorem answered_spaced (svc : LocationService core) (positive : 0 < svc.authz.minIntervalS)
    (es : List Event) (pair : Bytes × Bytes) {i j : Nat} (ne : i ≠ j) {now now' : Seconds}
    (hi : (Runs.run step ⟨svc, []⟩ es).answered i = some (pair, now))
    (hj : (Runs.run step ⟨svc, []⟩ es).answered j = some (pair, now')) :
    svc.authz.minIntervalS ≤ |now - now'| := by
  have start : Spaced svc.authz.minIntervalS (⟨svc, []⟩ : Threads core) := by
    constructor
    · rfl
    · intro i p now held
      cases held
    · intro i j p now now' _ held
      cases held
  have spaced := Runs.invariant_always (spaced_step positive) start es
  exact spaced.apart i j pair now now' ne (held_of_answered hi) (held_of_answered hj)

/-- Two calls of one requester, read at 100 and 160, that overlap up to the
store read and return in the other order. -/
def overlapping : List Event :=
  [.refresh (.ok (Sample.users [Sample.targetRow, Sample.requesterRow])),
    .message "phone" ⟨[1], 0, Sample.target, 3, .location, [7, 8, 9]⟩ ⟨90, 90, 90⟩ (by decide),
    .query ⟨[2], 0, Sample.requester, 3, .locationQuery, Sample.token⟩,
    .query ⟨[3], 0, Sample.requester, 3, .locationQuery, Sample.token⟩,
    .advance 0 0, .advance 1 0, .advance 0 100, .advance 1 160, .advance 0 0, .advance 1 0,
    .advance 0 0, .advance 1 0, .advance 1 0, .advance 0 0, .advance 1 165, .advance 0 170]

theorem answered_spaced_overlapping :
    (Runs.run step ⟨.boot 60 (.empty Sample.core) () [] 3, []⟩ overlapping).answered 0 =
      some ((Sample.requester.take 8, Sample.target.take 8), 100) ∧
    (Runs.run step ⟨.boot 60 (.empty Sample.core) () [] 3, []⟩ overlapping).answered 1 =
      some ((Sample.requester.take 8, Sample.target.take 8), 160) ∧
    (60 : Seconds) ≤ |100 - 160| := by
  have first : (Runs.run step ⟨.boot 60 (.empty Sample.core) () [] 3, []⟩ overlapping).answered 0 =
      some ((Sample.requester.take 8, Sample.target.take 8), 100) := by
    decide +kernel
  have second : (Runs.run step ⟨.boot 60 (.empty Sample.core) () [] 3, []⟩ overlapping).answered 1 =
      some ((Sample.requester.take 8, Sample.target.take 8), 160) := by
    decide +kernel
  have positive : (0 : Seconds) < 60 := by decide +kernel
  exact ⟨first, second, answered_spaced (.boot 60 (.empty Sample.core) () [] 3) positive overlapping
    _ (by decide) first second⟩

end MeshlinkNode.QueryThreads
