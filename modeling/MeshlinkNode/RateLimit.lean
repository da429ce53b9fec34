import MeshlinkNode.Service
import Mathlib.Tactic.Linarith

/-!
# What the rate limit charges

A query takes the slot of its pair before the store and the requester's row are
read. It can therefore be refused, or raise, with its slot spent, and nothing
gives the slot back.
-/

namespace MeshlinkNode.LocationService

open LocationAuthz (authenticate handleQuery verify takeSlot readRow respond responsePayload)

variable {core : Core}

/-- The pair and the clock reading of a query that a response is returned for. -/
def answeredOf (svc : LocationService core) : Input → Option ((Bytes × Bytes) × Seconds)
  | .message _ msg clocks =>
    if msg.msgType = .locationQuery then
      match authenticate core svc.directory msg, (svc.answer msg clocks).1 with
      | .ok g, .served _ _ => some (g.pair, clocks.authz)
      | _, _ => none
    else none
  | .refresh _ => none

/-- The responses returned in a run. -/
abbrev answers (svc : LocationService core) (inputs : List Input) :
    List ((Bytes × Bytes) × Seconds) :=
  Runs.outputs step answeredOf svc inputs

/-- What is due to a query that finds the service at `svc` with `answers`
returned so far: only a recent response makes it wait, and a refusal costs it
nothing. -/
structure Charged (answers : List ((Bytes × Bytes) × Seconds)) (svc : LocationService core)
    (peerId : PeerId) (msg : Message) (clocks : Clocks) : Prop where
  limited : (svc.answer msg clocks).1 = .refused .rateLimited →
    ∃ g, authenticate core svc.directory msg = .ok g ∧
      ∃ t, (g.pair, t) ∈ answers ∧ clocks.authz - t < svc.authz.minIntervalS
  kept : ∀ why, (svc.answer msg clocks).1 = .refused why →
    (svc.step (.message peerId msg clocks)).authz.lastQuery = svc.authz.lastQuery ∧
    (svc.step (.message peerId msg clocks)).authz.revoked = svc.authz.revoked ∧
    (svc.step (.message peerId msg clocks)).store = svc.store

/-- Every query of a run gets what is due to it. -/
def ChargesServed (svc : LocationService core) (inputs : List Input) : Prop :=
  ∀ past peerId msg clocks, past ++ [.message peerId msg clocks] <+: inputs →
    msg.msgType = .locationQuery →
      Charged (svc.answers past) (svc.after past) peerId msg clocks

def readingOf : Input → Option Seconds
  | .message _ msg clocks => if msg.msgType = .locationQuery then some clocks.authz else none
  | .refresh _ => none

/-- What the authorisation's clock shows at the queries of a run. -/
def readings (inputs : List Input) : List Seconds := inputs.filterMap readingOf

/-- The clock starts at `start` or later and never goes back. -/
structure Ticks (start : Seconds) (inputs : List Input) : Prop where
  late : ∀ now ∈ readings inputs, start ≤ now
  forward : (readings inputs).Pairwise (· ≤ ·)

/-- A query gets as far as its slot, and the slot is free. -/
structure Slotted (svc : LocationService core) (msg : Message) (clocks : Clocks) (g : Grant) :
    Prop where
  authentic : authenticate core svc.directory msg = .ok g
  verified : core.verifyCapabilityToken g.rawToken g.target msg.senderKey
    (truncInt clocks.authz) = true
  unrevoked : core.revocationKey g.token ∉ svc.authz.revoked
  spaced : svc.authz.minIntervalS ≤
    clocks.authz - (svc.authz.lastQuery.lookup g.pair).getD 0

/-- What the checks after the slot ask for: a beacon of the target, and a
requester whose row holds a key the response can be sealed to. -/
def Servable (svc : LocationService core) (clocks : Clocks) (g : Grant) : Prop :=
  ∃ row requester curve response, svc.store.get g.target = some row ∧
    svc.directory.byEd25519Id g.requesterId = some requester ∧
    rowCurvePub requester = .ok curve ∧
    core.encodeLocationResponse (responsePayload g row clocks.store) g.requesterId curve =
      .ok response

/-- The input is no query that takes its slot in vain. -/
def Pays (svc : LocationService core) : Input → Prop
  | .message _ msg clocks =>
    msg.msgType = .locationQuery → ∀ g, svc.Slotted msg clocks g → svc.Servable clocks g
  | .refresh _ => True

/-! ## What a query does to its slot -/

variable {svc : LocationService core} {peerId : PeerId} {msg : Message} {clocks : Clocks}
  {g : Grant}

theorem slotted_served (slotted : svc.Slotted msg clocks g) :
    (∃ payload response, (svc.answer msg clocks).1 = .served payload response) ↔
      svc.Servable clocks g := by
  rw [answer, LocationAuthz.handleQuery_serves]
  constructor
  · rintro ⟨g', row, requester, curve, response, passes, served⟩
    have same := passes.authentic.symm.trans slotted.authentic
    cases same
    exact ⟨row, requester, curve, response, passes.stored, served⟩
  · rintro ⟨row, requester, curve, response, stored, served⟩
    have passes : LocationAuthz.Passes svc.directory svc.store svc.authz msg clocks.authz g row :=
      ⟨slotted.authentic, slotted.verified, slotted.unrevoked, slotted.spaced, stored⟩
    exact ⟨g, row, requester, curve, response, passes, served⟩

/-- Whatever becomes of the query, the slot is taken. -/
theorem slotted_takes (slotted : svc.Slotted msg clocks g) :
    (svc.answer msg clocks).2 =
      { svc.authz with lastQuery := svc.authz.lastQuery.insert g.pair clocks.authz } := by
  have verified : verify core svc.authz g msg.senderKey clocks.authz = .ok () :=
    LocationAuthz.verify_ok.mpr ⟨slotted.verified, slotted.unrevoked⟩
  have slot := LocationAuthz.takeSlot_ok.mpr ⟨slotted.spaced, rfl⟩
  simp only [answer, handleQuery, slotted.authentic, verified, slot]
  cases readRow svc.store g <;> rfl

/-- The rate limit does not refuse a query that finds its slot free. -/
theorem slotted_not_limited (slotted : svc.Slotted msg clocks g) :
    (svc.answer msg clocks).1 ≠ .refused .rateLimited := by
  have verified : verify core svc.authz g msg.senderKey clocks.authz = .ok () :=
    LocationAuthz.verify_ok.mpr ⟨slotted.verified, slotted.unrevoked⟩
  have slot := LocationAuthz.takeSlot_ok.mpr ⟨slotted.spaced, rfl⟩
  simp only [answer, handleQuery, slotted.authentic, verified, slot, readRow, respond]
  grind

/-- A query that does not get as far as its slot is refused and changes
nothing; if the rate limit refuses it, the table holds a reading too close. -/
theorem unslotted_refused (unslotted : ∀ g, ¬ svc.Slotted msg clocks g) :
    ∃ why, svc.answer msg clocks = (.refused why, svc.authz) ∧
      (why = .rateLimited → ∃ g, authenticate core svc.directory msg = .ok g ∧
        clocks.authz - (svc.authz.lastQuery.lookup g.pair).getD 0 < svc.authz.minIntervalS) := by
  cases ha : authenticate core svc.directory msg with
  | error r =>
    obtain ⟨why, rfl⟩ := LocationAuthz.authenticate_error ha
    refine ⟨why, by simp only [answer, handleQuery, ha], ?_⟩
    rintro rfl
    exact absurd ha LocationAuthz.authenticate_not_limited
  | ok g =>
    cases hv : verify core svc.authz g msg.senderKey clocks.authz with
    | error r =>
      obtain ⟨why, rfl⟩ := LocationAuthz.verify_error hv
      refine ⟨why, by simp only [answer, handleQuery, ha, hv], ?_⟩
      rintro rfl
      exact absurd hv LocationAuthz.verify_not_limited
    | ok u =>
      obtain ⟨verified, unrevoked⟩ := LocationAuthz.verify_ok.mp hv
      have soon : clocks.authz - (svc.authz.lastQuery.lookup g.pair).getD 0 <
          svc.authz.minIntervalS := by
        by_contra spaced
        exact unslotted g ⟨ha, verified, unrevoked, not_lt.mp spaced⟩
      refine ⟨.rateLimited, ?_, fun _ => ⟨g, rfl, soon⟩⟩
      simp only [answer, handleQuery, ha, hv, LocationAuthz.takeSlot_soon soon]

/-- Every input but a query that takes its slot leaves the table and answers
nothing. -/
theorem step_cases (svc : LocationService core) (input : Input) :
    (svc.step input).authz.minIntervalS = svc.authz.minIntervalS ∧
    (((svc.step input).authz.lastQuery = svc.authz.lastQuery ∧ svc.answeredOf input = none) ∨
      ∃ peerId msg clocks g, input = .message peerId msg clocks ∧ msg.msgType = .locationQuery ∧
        svc.Slotted msg clocks g ∧
        (svc.step input).authz.lastQuery = svc.authz.lastQuery.insert g.pair clocks.authz ∧
        (svc.answeredOf input = none ∨ svc.answeredOf input = some (g.pair, clocks.authz)) ∧
        (svc.Servable clocks g → svc.answeredOf input = some (g.pair, clocks.authz))) := by
  cases input with
  | refresh response => exact ⟨rfl, .inl ⟨rfl, rfl⟩⟩
  | message peerId msg clocks =>
    by_cases hq : msg.msgType = .locationQuery
    · rw [step_query svc peerId clocks hq]
      refine ⟨LocationAuthz.handleQuery_minInterval, ?_⟩
      by_cases reaches : ∃ g, svc.Slotted msg clocks g
      · obtain ⟨g, slotted⟩ := reaches
        refine .inr ⟨peerId, msg, clocks, g, rfl, hq, slotted, ?_, ?_, ?_⟩
        · rw [slotted_takes slotted]
        · simp only [answeredOf, hq, if_true, slotted.authentic]
          cases (svc.answer msg clocks).1 <;> simp
        · intro servable
          obtain ⟨payload, response, served⟩ := (slotted_served slotted).mpr servable
          simp only [answeredOf, hq, if_true, slotted.authentic, served]
      · obtain ⟨why, refused, -⟩ := unslotted_refused (not_exists.mp reaches)
        refine .inl ⟨by rw [refused], ?_⟩
        simp only [answeredOf, hq, if_true, refused]
        cases authenticate core svc.directory msg <;> rfl
    · obtain ⟨-, interval, table⟩ := step_not_query svc peerId clocks hq
      exact ⟨interval, .inl ⟨table, by simp only [answeredOf, hq, if_false]⟩⟩

/-! ## Runs -/

/-- Where every slot is paid for, the table holds only readings at which a
response was returned. -/
theorem table_answered {inputs : List Input} (empty : svc.authz.lastQuery = ∅)
    (pays : Runs.Along step Pays svc inputs) {pair : Bytes × Bytes} {last : Seconds}
    (held : (svc.after inputs).authz.lastQuery.lookup pair = some last) :
    (pair, last) ∈ svc.answers inputs := by
  induction inputs using List.reverseRecOn generalizing last with
  | nil =>
    rw [after, Runs.run_nil, empty] at held
    cases held
  | append_singleton past input ih =>
    obtain ⟨before, pays, -⟩ := Runs.along_append.mp pays
    rw [answers, Runs.outputs_snoc, List.mem_append, Option.mem_toList]
    simp only [after, Runs.run_append, Runs.run_cons, Runs.run_nil] at held
    obtain ⟨-, ⟨table, -⟩ | ⟨peerId, msg, clocks, g, rfl, hq, slotted, table, -, answered⟩⟩ :=
      step_cases (svc.after past) input
    · rw [table] at held
      exact .inl (ih before held)
    · rw [table] at held
      by_cases mine : pair = g.pair
      · subst mine
        rw [AList.lookup_insert] at held
        cases held
        exact .inr (answered (pays hq g slotted))
      · rw [AList.lookup_insert_ne mine] at held
        exact .inl (ih before held)

/-- The table never holds a reading earlier than that of a response. -/
theorem answered_held (positive : 0 < svc.authz.minIntervalS) (inputs : List Input) :
    (svc.after inputs).authz.minIntervalS = svc.authz.minIntervalS ∧
    ∀ pair t, (pair, t) ∈ svc.answers inputs →
      ∃ last, (svc.after inputs).authz.lastQuery.lookup pair = some last ∧ t ≤ last := by
  induction inputs using List.reverseRecOn with
  | nil =>
    refine ⟨rfl, ?_⟩
    intro pair t answered
    cases answered
  | append_singleton past input ih =>
    obtain ⟨same, held⟩ := ih
    simp only [answers, after, Runs.run_append, Runs.run_cons, Runs.run_nil, Runs.outputs_snoc,
      List.mem_append, Option.mem_toList] at same held ⊢
    obtain ⟨interval, cases⟩ := step_cases (svc.after past) input
    refine ⟨interval.trans same, ?_⟩
    intro pair t answered
    rcases cases with
      ⟨table, silent⟩ | ⟨peerId, msg, clocks, g, rfl, hq, slotted, table, answer, -⟩
    · rw [table]
      rw [silent] at answered
      exact held pair t (answered.resolve_right (by simp))
    · rw [table]
      have old : (pair, t) ∈ svc.answers past →
          ∃ last, ((svc.after past).authz.lastQuery.insert g.pair clocks.authz).lookup pair =
            some last ∧ t ≤ last := by
        intro answered
        obtain ⟨last, stored, later⟩ := held pair t answered
        by_cases mine : pair = g.pair
        · subst mine
          have spaced := slotted.spaced
          rw [stored, Option.getD_some, same] at spaced
          exact ⟨clocks.authz, AList.lookup_insert _, by linarith⟩
        · exact ⟨last, by rw [AList.lookup_insert_ne mine, stored], later⟩
      rcases answered with answered | now
      · exact old answered
      · rcases answer with silent | answer
        · rw [silent] at now
          cases now
        · rw [answer] at now
          cases now
          exact ⟨clocks.authz, AList.lookup_insert _, le_refl _⟩

theorem readings_append (inputs more : List Input) :
    readings (inputs ++ more) = readings inputs ++ readings more :=
  List.filterMap_append

theorem mem_readings_singleton {input : Input} {now : Seconds} :
    now ∈ readings [input] ↔ readingOf input = some now := by
  cases h : readingOf input <;> simp [readings, h, eq_comm]

/-- An input may be handled twice while the clock stands still. -/
theorem Ticks.again {start : Seconds} {past inputs : List Input} {input : Input}
    (ticks : Ticks start inputs) (first : past ++ [input] <+: inputs) :
    Ticks start (past ++ [input, input]) := by
  obtain ⟨rest, rfl⟩ := first
  have late := ticks.late
  have forward := ticks.forward
  rw [readings_append, readings_append] at late forward
  have forward := (List.pairwise_append.mp forward).1
  have twice : readings (past ++ [input, input]) =
      readings past ++ readings [input] ++ readings [input] := by
    rw [← readings_append, ← readings_append, List.append_assoc]
    rfl
  have mem {now : Seconds} (again : now ∈ readings (past ++ [input, input])) :
      now ∈ readings past ++ readings [input] := by
    rw [twice] at again
    rcases List.mem_append.mp again with old | new
    · exact old
    · exact List.mem_append_right _ new
  constructor
  · intro now again
    exact late now (List.mem_append_left _ (mem again))
  · rw [twice, List.pairwise_append]
    refine ⟨forward, List.Pairwise.sublist (List.sublist_append_right _ _) forward, ?_⟩
    intro now old later new
    rcases List.mem_append.mp old with old | same
    · exact (List.pairwise_append.mp forward).2.2 now old later new
    · have reading := mem_readings_singleton.mp same
      rw [mem_readings_singleton.mp new] at reading
      cases reading
      exact le_refl _

/-- A run that spends no slot in vain charges only for what it served. -/
theorem chargesServed_of_pays {start : Seconds} (interval : svc.authz.minIntervalS = start)
    (empty : svc.authz.lastQuery = ∅) {inputs : List Input} (ticks : Ticks start inputs)
    (pays : Runs.Along step Pays svc inputs) : svc.ChargesServed inputs := by
  intro past peerId msg clocks first hq
  obtain ⟨rest, rfl⟩ := first
  obtain ⟨before, now, -⟩ := Runs.along_append.mp (Runs.along_append.mp pays).1
  have keeps (s : LocationService core) (input : Input) (same : s.authz.minIntervalS = start) :
      (s.step input).authz.minIntervalS = start :=
    (step_cases s input).1.trans same
  have same := Runs.invariant_always keeps interval past
  change (svc.after past).authz.minIntervalS = start at same
  by_cases reaches : ∃ g, (svc.after past).Slotted msg clocks g
  · obtain ⟨g, slotted⟩ := reaches
    obtain ⟨payload, response, served⟩ := (slotted_served slotted).mpr (now hq g slotted)
    constructor
    · rw [served]
      nofun
    · rw [served]
      nofun
  · obtain ⟨why, refused, tight⟩ := unslotted_refused (not_exists.mp reaches)
    constructor
    · intro limited
      rw [refused] at limited
      obtain ⟨g, authentic, soon⟩ := tight (by cases limited; rfl)
      refine ⟨g, authentic, ?_⟩
      cases held : (svc.after past).authz.lastQuery.lookup g.pair with
      | none =>
        have reading : clocks.authz ∈ readings [.message peerId msg clocks] :=
          mem_readings_singleton.mpr (if_pos hq)
        have late := ticks.late clocks.authz (by
          rw [readings_append, readings_append]
          exact List.mem_append_left _ (List.mem_append_right _ reading))
        rw [held, Option.getD_none, same] at soon
        linarith
      | some last =>
        rw [held, Option.getD_some] at soon
        exact ⟨last, table_answered empty before held, soon⟩
    · rw [step_query _ peerId clocks hq, refused]
      exact fun _ _ => ⟨rfl, rfl, rfl⟩

/-- What a query leaves behind when it has taken its slot. -/
def spent (svc : LocationService core) (clocks : Clocks) (g : Grant) : LocationService core :=
  { svc with
    authz := { svc.authz with lastQuery := svc.authz.lastQuery.insert g.pair clocks.authz } }

theorem step_slotted (hq : msg.msgType = .locationQuery) (slotted : svc.Slotted msg clocks g) :
    svc.step (.message peerId msg clocks) = svc.spent clocks g := by
  rw [step_query svc peerId clocks hq, slotted_takes slotted]
  rfl

/-- The same query at the same reading finds its own slot taken. -/
theorem spent_limited (positive : 0 < svc.authz.minIntervalS)
    (slotted : svc.Slotted msg clocks g) :
    ((svc.spent clocks g).answer msg clocks).1 = .refused .rateLimited := by
  have authentic : authenticate core (svc.spent clocks g).directory msg = .ok g :=
    slotted.authentic
  have verified : verify core (svc.spent clocks g).authz g msg.senderKey clocks.authz = .ok () :=
    LocationAuthz.verify_ok.mpr ⟨slotted.verified, slotted.unrevoked⟩
  have soon : clocks.authz - ((svc.spent clocks g).authz.lastQuery.lookup g.pair).getD 0 <
      (svc.spent clocks g).authz.minIntervalS := by
    have last : (svc.spent clocks g).authz.lastQuery.lookup g.pair = some clocks.authz :=
      AList.lookup_insert _
    rw [last, Option.getD_some, sub_self]
    exact positive
  simp only [answer, handleQuery, authentic, verified, LocationAuthz.takeSlot_soon soon]

/-- After a query that spends its slot in vain, the same query is turned away
by the rate limit. -/
theorem vain_not_charged (positive : 0 < svc.authz.minIntervalS) {past : List Input} {input : Input}
    (vain : ¬ Pays (svc.after past) input) : ¬ svc.ChargesServed (past ++ [input, input]) := by
  cases input with
  | refresh response => exact absurd trivial vain
  | message peerId msg clocks =>
    simp only [Pays, not_forall] at vain
    obtain ⟨hq, g, slotted, unservable⟩ := vain
    intro charges
    obtain ⟨same, held⟩ := answered_held positive past
    have again := charges (past ++ [.message peerId msg clocks]) peerId msg clocks (by simp) hq
    have left : svc.after (past ++ [.message peerId msg clocks]) =
        (svc.after past).spent clocks g := by
      refine (Runs.run_append step svc past _).trans ?_
      exact step_slotted hq slotted
    rw [left] at again
    have limited := spent_limited (by rw [same]; exact positive) slotted
    obtain ⟨g', authentic, t, answered, near⟩ := again.limited limited
    have mine := slotted.authentic.symm.trans authentic
    cases mine
    rw [answers, Runs.outputs_snoc, List.mem_append, Option.mem_toList] at answered
    rcases answered with old | now
    · obtain ⟨last, stored, later⟩ := held g.pair t old
      have spaced := slotted.spaced
      have interval : ((svc.after past).spent clocks g).authz.minIntervalS =
          (svc.after past).authz.minIntervalS := rfl
      rw [stored, Option.getD_some] at spaced
      rw [interval] at near
      linarith
    · simp only [answeredOf, hq, if_true] at now
      rw [slotted.authentic] at now
      cases reply : ((svc.after past).answer msg clocks).1 with
      | served payload response =>
        exact unservable ((slotted_served slotted).mp ⟨payload, response, reply⟩)
      | refused why => simp [reply] at now
      | raised exc => simp [reply] at now

/-- **What the rate limit charges.** A run in which every query that takes its
slot can be served charges only for responses, and refusals cost nothing. Once
a query takes its slot in vain, sending it again is enough to break this. -/
theorem charges_served_while_paying (minIntervalS : Seconds) (directory : DirectoryCache core)
    (identity : core.Identity) (ephemId : Bytes) (zoneId : Int) (inputs : List Input)
    (ticks : Ticks minIntervalS inputs) :
    (Runs.Along step Pays (boot minIntervalS directory identity ephemId zoneId) inputs →
      (boot minIntervalS directory identity ephemId zoneId).ChargesServed inputs) ∧
    (0 < minIntervalS →
      ¬ Runs.Along step Pays (boot minIntervalS directory identity ephemId zoneId) inputs →
      ∃ past input, past ++ [input] <+: inputs ∧ Ticks minIntervalS (past ++ [input, input]) ∧
        ¬ (boot minIntervalS directory identity ephemId zoneId).ChargesServed
          (past ++ [input, input])) := by
  constructor
  · exact chargesServed_of_pays rfl rfl ticks
  · intro positive broken
    obtain ⟨past, input, first, -, vain⟩ := Runs.first_refused broken
    exact ⟨past, input, first, ticks.again first, vain_not_charged positive vain⟩

/-- A friend asks before the target's first beacon, and again ten seconds
later. -/
def early : List Input :=
  [.refresh (.ok (Sample.users [Sample.targetRow, Sample.requesterRow])),
    .message "phone" ⟨[2], 100, Sample.requester, 3, .locationQuery, Sample.token⟩
      ⟨100, 100, 100⟩,
    .message "phone" ⟨[1], 105, Sample.target, 3, .location, [7, 8, 9]⟩ ⟨105, 105, 105⟩,
    .message "phone" ⟨[3], 110, Sample.requester, 3, .locationQuery, Sample.token⟩
      ⟨110, 110, 110⟩]

theorem early_ticks : Ticks 60 early := ⟨by decide +kernel, by decide +kernel⟩

/-- The second query is refused by the rate limit, and no response was ever
returned. -/
theorem early_query_charged :
    Ticks 60 early ∧
    (boot 60 (.empty Sample.core) () [] 3).answers (early.take 3) = [] ∧
    ¬ (boot 60 (.empty Sample.core) () [] 3).ChargesServed early := by
  have silent : (boot 60 (.empty Sample.core) () [] 3).answers (early.take 3) = [] := by
    decide +kernel
  refine ⟨early_ticks, silent, ?_⟩
  intro charges
  have second := charges (early.take 3) "phone"
    ⟨[3], 110, Sample.requester, 3, .locationQuery, Sample.token⟩ ⟨110, 110, 110⟩
    (List.prefix_refl _) rfl
  obtain ⟨g, -, t, answered, -⟩ := second.limited (by decide +kernel)
  rw [silent] at answered
  cases answered

/-- The friend asks once the beacon is there, and again too soon. -/
def patient : List Input :=
  [.refresh (.ok (Sample.users [Sample.targetRow, Sample.requesterRow])),
    .message "phone" ⟨[1], 105, Sample.target, 3, .location, [7, 8, 9]⟩ ⟨105, 105, 105⟩,
    .message "phone" ⟨[3], 110, Sample.requester, 3, .locationQuery, Sample.token⟩
      ⟨110, 110, 110⟩,
    .message "phone" ⟨[4], 120, Sample.requester, 3, .locationQuery, Sample.token⟩
      ⟨120, 120, 120⟩]

theorem patient_pays : Runs.Along step Pays (boot 60 (.empty Sample.core) () [] 3) patient := by
  refine ⟨trivial, ?beacon, ?query, ?again, trivial⟩
  case beacon => exact fun query => by cases query
  case query =>
    intro _ _ slotted
    exact (slotted_served slotted).mp
      ⟨⟨Sample.target.take 8, 7, 8, 9, 5, 3⟩,
        Sample.requester.take 8 ++ List.replicate 32 0x33 ++ [7, 8], by decide +kernel⟩
  case again =>
    intro _ _ slotted
    exact absurd (by decide +kernel) (slotted_not_limited slotted)

/-- The early query, sent again at once, breaks it too; a friend who waits for the
beacon is charged for the response alone. -/
theorem charges_served_while_paying_early :
    (Runs.Along step Pays (boot 60 (.empty Sample.core) () [] 3) early →
      (boot 60 (.empty Sample.core) () [] 3).ChargesServed early) ∧
    ((0 : Seconds) < 60 → ¬ Runs.Along step Pays (boot 60 (.empty Sample.core) () [] 3) early →
      ∃ past input, past ++ [input] <+: early ∧ Ticks 60 (past ++ [input, input]) ∧
        ¬ (boot 60 (.empty Sample.core) () [] 3).ChargesServed (past ++ [input, input])) ∧
    (boot 60 (.empty Sample.core) () [] 3).ChargesServed patient := by
  obtain ⟨charges, breaks⟩ :=
    charges_served_while_paying 60 (.empty Sample.core) () [] 3 early early_ticks
  have ticks : Ticks 60 patient := ⟨by decide +kernel, by decide +kernel⟩
  exact ⟨charges, breaks,
    (charges_served_while_paying 60 (.empty Sample.core) () [] 3 patient ticks).1 patient_pays⟩

end MeshlinkNode.LocationService
