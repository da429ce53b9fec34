import MeshlinkNode.Core
import Mathlib.Data.List.Basic
import Mathlib.Tactic.Linarith

/-!
# The threads that ping

A connect callback makes a timer, registers it under the lock and starts it;
the sweep thread pings every peer each interval; `stop` sets the flag, takes
the registered timers, cancels them and joins the sweep. All of it interleaves:
an event is one step of one of the threads.
-/

namespace MeshlinkNode

/-- How far the thread of a connect timer is. -/
inductive TimerPhase where
  | made
  | registered
  | waiting
  | firing
  | cleared
  | ended (pinged : Bool)
  deriving DecidableEq

/-- A `threading.Timer`; `finished` is the event that `cancel` sets. `run` sets
it too at its end, where nothing asks any more: left out. -/
structure ConnectTimer where
  peerId : PeerId
  connectedAt : Seconds
  phase : TimerPhase
  due : Seconds
  finished : Bool
  deriving DecidableEq

/-- `is_alive`: not before `start`, and not after the end of `run`. -/
def ConnectTimer.isAlive (timer : ConnectTimer) : Bool :=
  match timer.phase with
  | .waiting | .firing | .cleared => true
  | .made | .registered | .ended _ => false

/-- The sweep thread: at `_stop.wait`, or with the peers it has yet to ping. -/
inductive Sweep where
  | unstarted
  | waiting
  | pinging (rest : List PeerId)
  | ended
  deriving DecidableEq

def Sweep.rest : Sweep → List PeerId
  | .pinging rest => rest
  | _ => []

/-- How far `stop` is: `left` are the timers it has yet to cancel. -/
inductive Stopping where
  | running
  | flagged
  | cancelling (left : List Nat)
  | stopped (timedOut : Bool)
  deriving DecidableEq

/-- A call of `ping_peer`, by a connect timer or by the sweep. -/
structure Ping where
  timer : Option Nat
  peerId : PeerId
  sentAt : Seconds
  deriving DecidableEq

/-- `timers` are all that were ever made, and `tracked` is `_connect_timers`. -/
structure PingThreads where
  connectDelayS : Seconds
  now : Seconds
  stop : Bool
  timers : List ConnectTimer
  tracked : List Nat
  sweep : Sweep
  stopping : Stopping
  pings : List Ping

inductive PingStep where
  | connect (peerId : PeerId) (now : Seconds)
  | register (t : Nat)
  | startTimer (t : Nat) (now : Seconds)
  | expire (t : Nat) (now : Seconds)
  | checkStop (t : Nat)
  | connectPing (t : Nat) (now : Seconds)
  | startSweep
  | wake (listed : List PeerId)
  | sweepPing (now : Seconds)
  | setStop
  | takeTimers
  | cancel (t : Nat)
  | join

namespace PingThreads

def boot (connectDelayS now : Seconds) : PingThreads :=
  ⟨connectDelayS, now, false, [], [], .unstarted, .running, []⟩

def isAlive (s : PingThreads) (t : Nat) : Bool := s.timers[t]?.any ConnectTimer.isAlive

/-- One step of a thread. `Timer.run` calls the function unless it was
cancelled, `_fire_connect_ping` looks at the flag before it pings, and the
sweep looks at it once an interval. -/
def step (s : PingThreads) : PingStep → PingThreads
  | .connect peerId now =>
    { s with now, timers := s.timers ++ [⟨peerId, now, .made, now, false⟩] }
  | .register t =>
    { s with
      timers := s.timers.modify t fun timer => { timer with phase := .registered }
      tracked := t :: s.tracked.filter s.isAlive }
  | .startTimer t now =>
    { s with
      now
      timers := s.timers.modify t fun timer =>
        { timer with phase := .waiting, due := now + s.connectDelayS } }
  | .expire t now =>
    { s with
      now
      timers := s.timers.modify t fun timer =>
        { timer with phase := if timer.finished then .ended false else .firing } }
  | .checkStop t =>
    { s with
      timers := s.timers.modify t fun timer =>
        { timer with phase := if s.stop then .ended false else .cleared } }
  | .connectPing t now =>
    { s with
      now
      timers := s.timers.modify t fun timer => { timer with phase := .ended true }
      pings := s.pings ++ (s.timers[t]?.map fun timer => ⟨some t, timer.peerId, now⟩).toList }
  | .startSweep => { s with sweep := .waiting }
  | .wake listed => { s with sweep := if s.stop then .ended else .pinging listed }
  | .sweepPing now =>
    match s.sweep with
    | .pinging (peerId :: rest) =>
      { s with now, sweep := .pinging rest, pings := s.pings ++ [⟨none, peerId, now⟩] }
    | _ => { s with now, sweep := .waiting }
  | .setStop => { s with stop := true, stopping := .flagged }
  | .takeTimers => { s with tracked := [], stopping := .cancelling s.tracked }
  | .cancel t =>
    match s.stopping with
    | .cancelling left =>
      { s with
        timers := s.timers.modify t fun timer => { timer with finished := true }
        stopping := .cancelling (left.erase t) }
    | _ => s
  | .join => { s with stopping := .stopped (s.sweep ≠ .ended ∧ s.sweep ≠ .unstarted) }

def phaseOf (s : PingThreads) (t : Nat) : Option TimerPhase := s.timers[t]?.map ConnectTimer.phase

/-- A thread goes from one step to its next, a timer waits until it is due or
cancelled, and time does not go back. -/
def Permits (s : PingThreads) : PingStep → Prop
  | .connect _ now => s.now ≤ now
  | .register t => s.phaseOf t = some .made
  | .startTimer t now => s.phaseOf t = some .registered ∧ s.now ≤ now
  | .expire t now => s.now ≤ now ∧
      ∃ timer, s.timers[t]? = some timer ∧ timer.phase = .waiting ∧
        (timer.finished ∨ timer.due ≤ now)
  | .checkStop t => s.phaseOf t = some .firing
  | .connectPing t now => s.phaseOf t = some .cleared ∧ s.now ≤ now
  | .startSweep => s.sweep = .unstarted
  | .wake _ => s.sweep = .waiting
  | .sweepPing now => s.now ≤ now ∧ ∃ rest, s.sweep = .pinging rest
  | .setStop => s.stopping = .running
  | .takeTimers => s.stopping = .flagged
  | .cancel t => ∃ left, s.stopping = .cancelling left ∧ t ∈ left
  | .join => s.stopping = .cancelling []

/-- The state after the events. -/
abbrev after (s : PingThreads) (events : List PingStep) : PingThreads := Runs.run step s events

/-- The pings of one connect timer. -/
def pingsOf (s : PingThreads) (t : Nat) : List Ping :=
  s.pings.filter fun ping => ping.timer = some t

variable {s s' : PingThreads} {e : PingStep} {t : Nat} {timer : ConnectTimer}

/-! ## What a connect leads to -/

/-- What a timer has done so far, by its phase. -/
structure Accounts (s : PingThreads) (t : Nat) (timer : ConnectTimer) : Prop where
  past : timer.connectedAt ≤ s.now
  cancelled : timer.finished = true → s.stop = true
  started : timer.phase ≠ .made → timer.phase ≠ .registered →
    timer.connectedAt + s.connectDelayS ≤ timer.due
  due : timer.phase = .firing ∨ timer.phase = .cleared → timer.due ≤ s.now
  silent : timer.phase ≠ .ended true → s.pingsOf t = []
  pinged : timer.phase = .ended true → ∃ sentAt, timer.connectedAt + s.connectDelayS ≤ sentAt ∧
    s.pingsOf t = [⟨some t, timer.peerId, sentAt⟩]
  gaveUp : timer.phase = .ended false → s.stop = true

/-- The accounts of all timers. -/
structure Sound (s : PingThreads) : Prop where
  accounts : ∀ t timer, s.timers[t]? = some timer → s.Accounts t timer
  sources : ∀ t, s.timers[t]? = none → s.pingsOf t = []
  stopping : s.stopping ≠ .running → s.stop = true

/-- A timer's accounts outlast what other threads do. -/
theorem Accounts.later (h : s.Accounts t timer) (delay : s'.connectDelayS = s.connectDelayS)
    (now : s.now ≤ s'.now) (stop : s.stop = true → s'.stop = true)
    (pings : s'.pingsOf t = s.pingsOf t) : s'.Accounts t timer where
  past := h.past.trans now
  cancelled finished := stop (h.cancelled finished)
  started := by
    rw [delay]
    exact h.started
  due phase := (h.due phase).trans now
  silent := by
    rw [pings]
    exact h.silent
  pinged := by
    rw [delay, pings]
    exact h.pinged
  gaveUp phase := stop (h.gaveUp phase)

theorem modified {t j : Nat} {f : ConnectTimer → ConnectTimer} {timers : List ConnectTimer}
    (found : (timers.modify t f)[j]? = some timer) :
    ∃ before, timers[j]? = some before ∧ timer = if t = j then f before else before := by
  rw [List.getElem?_modify] at found
  obtain ⟨before, here, change⟩ := Option.map_eq_some_iff.mp found
  exact ⟨before, here, change.symm⟩

/-- A step of timer `t` that sends nothing. -/
theorem Sound.moved (h : s.Sound) {f : ConnectTimer → ConnectTimer} {now : Seconds}
    (later : s.now ≤ now)
    (moves : ∀ timer, s.timers[t]? = some timer → s.Accounts t timer →
      { s with now, timers := s.timers.modify t f }.Accounts t (f timer)) :
    { s with now, timers := s.timers.modify t f }.Sound where
  accounts := by
    intro j timer found
    obtain ⟨before, here, rfl⟩ := modified found
    split
    · rename_i same
      subst same
      exact moves before here (h.accounts t before here)
    · exact (h.accounts j before here).later rfl later id rfl
  sources := by
    intro j missing
    apply h.sources j
    simpa using missing
  stopping := h.stopping

theorem phase_of {phase : TimerPhase} (h : s.phaseOf t = some phase)
    (here : s.timers[t]? = some timer) : timer.phase = phase := by
  simpa [phaseOf, here] using h

/-- Steps of the sweep and of `stop` leave the timers' accounts alone. -/
theorem Sound.aside (h : s.Sound) (delay : s'.connectDelayS = s.connectDelayS)
    (now : s.now ≤ s'.now) (stop : s.stop = true → s'.stop = true)
    (timers : s'.timers = s.timers) (pings : ∀ t, s'.pingsOf t = s.pingsOf t)
    (stopping : s'.stopping ≠ .running → s'.stop = true) : s'.Sound where
  accounts t timer found := (h.accounts t timer (timers ▸ found)).later delay now stop (pings t)
  sources t missing := (pings t).trans (h.sources t (timers ▸ missing))
  stopping := stopping

theorem sound_connect (h : s.Sound) (peerId : PeerId) {now : Seconds} (later : s.now ≤ now) :
    (s.step (.connect peerId now)).Sound where
  accounts := by
    intro t timer found
    simp only [step, List.getElem?_append] at found
    split at found
    · exact (h.accounts t timer found).later rfl later id rfl
    · rename_i beyond
      have silent : s.pingsOf t = [] :=
        h.sources t (List.getElem?_eq_none (Nat.le_of_not_lt beyond))
      have new := List.mem_singleton.mp (List.mem_of_getElem? found)
      subst new
      exact
        { past := le_refl now
          cancelled := by simp
          started := by simp
          due := by simp
          silent := fun _ => silent
          pinged := by simp
          gaveUp := by simp }
  sources := by
    intro t missing
    apply h.sources t
    simp only [step, List.getElem?_eq_none_iff, List.length_append] at missing ⊢
    omega
  stopping := h.stopping

theorem sound_register (h : s.Sound) (made : s.phaseOf t = some .made) :
    (s.step (.register t)).Sound := by
  refine (h.moved (le_refl s.now) ?_).aside rfl (le_refl _) id rfl (fun _ => rfl) h.stopping
  intro timer here accounts
  have phase := phase_of made here
  exact
    { past := accounts.past
      cancelled := accounts.cancelled
      started := by simp
      due := by simp
      silent := fun _ => accounts.silent (by rw [phase]; simp)
      pinged := by simp
      gaveUp := by simp }

theorem sound_startTimer (h : s.Sound) {now : Seconds} (registered : s.phaseOf t = some .registered)
    (later : s.now ≤ now) : (s.step (.startTimer t now)).Sound := by
  apply h.moved later
  intro timer here accounts
  have phase := phase_of registered here
  exact
    { past := accounts.past.trans later
      cancelled := accounts.cancelled
      started := fun _ _ => by
        have := accounts.past
        dsimp only
        linarith
      due := by simp
      silent := fun _ => accounts.silent (by rw [phase]; simp)
      pinged := by simp
      gaveUp := by simp }

theorem sound_expire (h : s.Sound) {now : Seconds} (later : s.now ≤ now)
    (here : s.timers[t]? = some timer) (waiting : timer.phase = .waiting)
    (ready : timer.finished ∨ timer.due ≤ now) : (s.step (.expire t now)).Sound := by
  apply h.moved later
  intro timer' here' accounts
  cases here.symm.trans here'
  have started := accounts.started (by rw [waiting]; simp) (by rw [waiting]; simp)
  have silent := accounts.silent (by rw [waiting]; simp)
  by_cases finished : timer.finished = true
  · exact
      { past := accounts.past.trans later
        cancelled := accounts.cancelled
        started := fun _ _ => started
        due := by simp [finished]
        silent := fun _ => silent
        pinged := by simp [finished]
        gaveUp := fun _ => accounts.cancelled finished }
  · exact
      { past := accounts.past.trans later
        cancelled := accounts.cancelled
        started := fun _ _ => started
        due := fun _ => ready.resolve_left finished
        silent := fun _ => silent
        pinged := by simp [finished]
        gaveUp := by simp [finished] }

theorem sound_checkStop (h : s.Sound) (firing : s.phaseOf t = some .firing) :
    (s.step (.checkStop t)).Sound := by
  refine h.moved (le_refl s.now) ?_
  intro timer here accounts
  have phase := phase_of firing here
  have started := accounts.started (by rw [phase]; simp) (by rw [phase]; simp)
  have silent := accounts.silent (by rw [phase]; simp)
  by_cases stopped : s.stop = true
  · exact
      { past := accounts.past
        cancelled := accounts.cancelled
        started := fun _ _ => started
        due := by simp [stopped]
        silent := fun _ => silent
        pinged := by simp [stopped]
        gaveUp := fun _ => stopped }
  · exact
      { past := accounts.past
        cancelled := accounts.cancelled
        started := fun _ _ => started
        due := fun _ => accounts.due (.inl phase)
        silent := fun _ => silent
        pinged := by simp [stopped]
        gaveUp := by simp [stopped] }

/-- One more ping is one of its source. -/
theorem filter_snoc (pings : List Ping) (ping : Ping) (t : Nat) :
    (pings ++ [ping]).filter (fun p => p.timer = some t) =
      pings.filter (fun p => p.timer = some t) ++ if ping.timer = some t then [ping] else [] := by
  rw [List.filter_append, List.filter_singleton]
  by_cases own : ping.timer = some t
  · simp [own]
  · simp [own]

theorem sound_connectPing (h : s.Sound) {now : Seconds} (cleared : s.phaseOf t = some .cleared)
    (later : s.now ≤ now) : (s.step (.connectPing t now)).Sound := by
  obtain ⟨timer, here, phase⟩ := Option.map_eq_some_iff.mp cleared
  have pings (j : Nat) : (s.step (.connectPing t now)).pingsOf j =
      s.pingsOf j ++ if t = j then [⟨some t, timer.peerId, now⟩] else [] := by
    simp only [step, here, Option.map_some, Option.toList_some, pingsOf, filter_snoc,
      Option.some.injEq]
  refine ⟨?_, ?_, h.stopping⟩
  · intro j other found
    obtain ⟨before, here', rfl⟩ := modified found
    by_cases same : t = j
    · subst same
      cases here.symm.trans here'
      have accounts := h.accounts t timer here
      have started := accounts.started (by rw [phase]; simp) (by rw [phase]; simp)
      have due := accounts.due (.inr phase)
      have silent := accounts.silent (by rw [phase]; simp)
      rw [if_pos rfl]
      exact
        { past := accounts.past.trans later
          cancelled := accounts.cancelled
          started := fun _ _ => started
          due := by simp
          silent := by simp
          pinged := fun _ => ⟨now, started.trans (due.trans later), by
            rw [pings, silent, if_pos rfl, List.nil_append]⟩
          gaveUp := by simp }
    · rw [if_neg same]
      refine (h.accounts j before here').later rfl later id ?_
      rw [pings, if_neg same, List.append_nil]
  · intro j missing
    have absent : s.timers[j]? = none := by simpa [step] using missing
    have other : t ≠ j := by
      rintro rfl
      cases here.symm.trans absent
    rw [pings, if_neg other, List.append_nil]
    exact h.sources j absent

theorem sound_sweepPing (h : s.Sound) {now : Seconds} {rest : List PeerId} (later : s.now ≤ now)
    (pinging : s.sweep = .pinging rest) : (s.step (.sweepPing now)).Sound := by
  cases rest with
  | nil =>
    simp only [step, pinging]
    exact h.aside rfl later id rfl (fun _ => rfl) h.stopping
  | cons peerId rest =>
    simp only [step, pinging]
    refine h.aside rfl later id rfl (fun t => ?_) h.stopping
    simp [pingsOf]

theorem sound_step (h : s.Sound) (permitted : s.Permits e) : (s.step e).Sound := by
  cases e with
  | connect peerId now => exact sound_connect h peerId permitted
  | register t => exact sound_register h permitted
  | startTimer t now => exact sound_startTimer h permitted.1 permitted.2
  | expire t now =>
    obtain ⟨later, timer, here, waiting, ready⟩ := permitted
    exact sound_expire h later here waiting ready
  | checkStop t => exact sound_checkStop h permitted
  | connectPing t now => exact sound_connectPing h permitted.1 permitted.2
  | startSweep => exact h.aside rfl (le_refl _) id rfl (fun _ => rfl) h.stopping
  | wake listed => exact h.aside rfl (le_refl _) id rfl (fun _ => rfl) h.stopping
  | sweepPing now =>
    obtain ⟨later, rest, pinging⟩ := permitted
    exact sound_sweepPing h later pinging
  | setStop => exact h.aside rfl (le_refl _) (fun _ => rfl) rfl (fun _ => rfl) (fun _ => rfl)
  | takeTimers =>
    refine h.aside rfl (le_refl _) id rfl (fun _ => rfl) fun _ => h.stopping ?_
    rw [show s.stopping = .flagged from permitted]
    simp
  | cancel t =>
    obtain ⟨left, cancelling, -⟩ := permitted
    have stopped : s.stop = true := h.stopping (by rw [cancelling]; simp)
    simp only [step, cancelling]
    refine (h.moved (t := t) (f := fun timer => { timer with finished := true }) (le_refl s.now)
      ?_).aside rfl (le_refl _) id rfl (fun _ => rfl) fun _ => stopped
    intro timer here accounts
    exact
      { accounts.later rfl (le_refl _) id rfl with
        cancelled := fun _ => stopped }
  | join =>
    refine h.aside rfl (le_refl _) id rfl (fun _ => rfl) fun _ => h.stopping ?_
    rw [show s.stopping = .cancelling [] from permitted]
    simp

theorem sound_boot (connectDelayS now : Seconds) : (boot connectDelayS now).Sound where
  accounts := by simp [boot]
  sources _ _ := rfl
  stopping := by simp [boot]

/-- The peer a connect callback is called with. -/
def connectOf : PingStep → Option PeerId
  | .connect peerId _ => some peerId
  | _ => none

theorem peers_modify {f : ConnectTimer → ConnectTimer} (keeps : ∀ timer, (f timer).peerId =
    timer.peerId) (timers : List ConnectTimer) :
    (timers.modify t f).map ConnectTimer.peerId = timers.map ConnectTimer.peerId := by
  apply List.ext_getElem?
  intro j
  simp only [List.getElem?_map, List.getElem?_modify]
  cases timers[j]? with
  | none => rfl
  | some timer =>
    by_cases own : t = j
    · simp [own, keeps]
    · simp [own]

/-- Each call of the callback makes a timer, and nothing else does. -/
theorem peers_step (s : PingThreads) (e : PingStep) :
    (s.step e).timers.map ConnectTimer.peerId =
      s.timers.map ConnectTimer.peerId ++ (connectOf e).toList := by
  cases e with
  | connect peerId now => simp [step, connectOf]
  | register t | startTimer t now | expire t now | checkStop t | connectPing t now =>
    simp [step, connectOf, peers_modify]
  | startSweep | wake listed | setStop | takeTimers | join => simp [step, connectOf]
  | sweepPing now =>
    simp only [step, connectOf]
    split <;> simp
  | cancel t =>
    simp only [step, connectOf]
    split <;> simp [peers_modify]

theorem step_delay (s : PingThreads) (e : PingStep) :
    (s.step e).connectDelayS = s.connectDelayS := by
  cases e <;> simp only [step]
  · split <;> rfl
  · split <;> rfl

theorem delay_after (s : PingThreads) (events : List PingStep) :
    (s.after events).connectDelayS = s.connectDelayS := by
  induction events generalizing s with
  | nil => rfl
  | cons e events ih => exact (ih (s.step e)).trans (s.step_delay e)

/-- **One ping a connect.** However the threads interleave, the timers are the
connects in order, and each timer pings at most once: the peer that connected,
and not before the delay is over. A timer that has ended did so, unless `stop`
had been called. -/
theorem connect_pinged_once (connectDelayS now : Seconds) (events : List PingStep)
    (along : Runs.Along step Permits (boot connectDelayS now) events) :
    ((boot connectDelayS now).after events).timers.map ConnectTimer.peerId =
      events.filterMap connectOf ∧
    ∀ t timer, ((boot connectDelayS now).after events).timers[t]? = some timer →
      (((boot connectDelayS now).after events).pingsOf t).length ≤ 1 ∧
      (∀ ping ∈ ((boot connectDelayS now).after events).pingsOf t,
        ping.peerId = timer.peerId ∧ timer.connectedAt + connectDelayS ≤ ping.sentAt) ∧
      (∀ pinged, timer.phase = .ended pinged →
        ((boot connectDelayS now).after events).stop = false →
        (((boot connectDelayS now).after events).pingsOf t).length = 1) := by
  have peers : ((boot connectDelayS now).after events).timers.map ConnectTimer.peerId =
      events.filterMap connectOf := by
    refine Runs.history (fun past (s : PingThreads) => s.timers.map ConnectTimer.peerId =
      past.filterMap connectOf) rfl ?_ events
    intro past s e same
    rw [peers_step, same, List.filterMap_append]
    cases found : connectOf e <;> simp [found]
  have delay := delay_after (boot connectDelayS now) events
  have sound : ((boot connectDelayS now).after events).Sound :=
    Runs.invariant (fun _ _ => sound_step) (sound_boot connectDelayS now) along
  refine ⟨peers, fun t timer here => ?_⟩
  have accounts := sound.accounts t timer here
  by_cases pinged : timer.phase = .ended true
  · obtain ⟨sentAt, due, only⟩ := accounts.pinged pinged
    rw [delay] at due
    change timer.connectedAt + connectDelayS ≤ sentAt at due
    rw [only]
    simp [due]
  · have silent := accounts.silent pinged
    rw [silent]
    refine ⟨by simp, by simp, ?_⟩
    intro did ended running
    cases did with
    | true => exact absurd ended pinged
    | false => cases running.symm.trans (accounts.gaveUp ended)

/-! ## What `stop` leaves to be pinged -/

theorem cleared_modify {f : ConnectTimer → ConnectTimer} {timers : List ConnectTimer} {j : Nat}
    (keeps : ∀ timer, (f timer).phase = .cleared → timer.phase = .cleared)
    (cleared : (timers.modify t f)[j]?.map ConnectTimer.phase = some .cleared) :
    timers[j]?.map ConnectTimer.phase = some .cleared := by
  obtain ⟨timer, found, phase⟩ := Option.map_eq_some_iff.mp cleared
  obtain ⟨before, here, rfl⟩ := modified found
  rw [here]
  split at phase
  · exact congrArg some (keeps before phase)
  · exact congrArg some phase

/-- With the flag set no timer passes its check. -/
theorem cleared_step (stopped : s.stop = true) (j : Nat)
    (cleared : (s.step e).phaseOf j = some .cleared) : s.phaseOf j = some .cleared := by
  cases e with
  | connect peerId now =>
    simp only [step, phaseOf, List.getElem?_append] at cleared ⊢
    split at cleared
    · exact cleared
    · rw [List.getElem?_singleton] at cleared
      split at cleared <;> simp at cleared
  | register t | startTimer t now | connectPing t now =>
    refine cleared_modify ?_ cleared
    simp
  | expire t now =>
    refine cleared_modify (fun timer => ?_) cleared
    dsimp only
    split <;> simp
  | checkStop t =>
    refine cleared_modify ?_ cleared
    simp [stopped]
  | startSweep | wake listed | setStop | takeTimers | join => exact cleared
  | sweepPing now =>
    simp only [step] at cleared
    split at cleared <;> exact cleared
  | cancel t =>
    simp only [step] at cleared
    split at cleared
    · refine cleared_modify ?_ cleared
      simp
    · exact cleared

/-- With the flag set, a step either sends nothing, or it is the ping of a
timer past its check, or the next one of a sweep that had begun. -/
theorem stopped_step (stopped : s.stop = true) (permitted : s.Permits e) :
    (s.step e).stop = true ∧ ∃ new, (s.step e).pings = s.pings ++ new ∧
      (∀ ping ∈ new, ∀ t, ping.timer = some t → s.phaseOf t = some .cleared) ∧
      (new.filter fun ping => ping.timer = none).map Ping.peerId ++ (s.step e).sweep.rest <+:
        s.sweep.rest := by
  cases e with
  | connect peerId now | register t | startTimer t now | expire t now | checkStop t | takeTimers
  | setStop | join =>
    exact ⟨by simp [step, stopped], [], by simp [step], by simp, List.prefix_refl _⟩
  | connectPing t now =>
    obtain ⟨timer, here, phase⟩ := Option.map_eq_some_iff.mp permitted.1
    refine ⟨stopped, [⟨some t, timer.peerId, now⟩], by simp [step, here], ?_, List.prefix_refl _⟩
    intro ping mem j own
    rw [List.mem_singleton.mp mem] at own
    cases own
    exact permitted.1
  | startSweep => exact ⟨stopped, [], by simp [step], by simp, List.nil_prefix⟩
  | wake listed =>
    refine ⟨stopped, [], by simp [step], by simp, ?_⟩
    simp [step, stopped, Sweep.rest]
  | sweepPing now =>
    obtain ⟨-, rest, pinging⟩ := permitted
    cases rest with
    | nil =>
      refine ⟨by simp [step, pinging, stopped], [], by simp [step, pinging], by simp, ?_⟩
      simp [step, pinging, Sweep.rest]
    | cons peerId rest =>
      refine ⟨by simp [step, pinging, stopped], [⟨none, peerId, now⟩], by simp [step, pinging],
        by simp, ?_⟩
      simp [step, pinging, Sweep.rest]
  | cancel t =>
    obtain ⟨left, cancelling, -⟩ := permitted
    refine ⟨by simp [step, cancelling, stopped], [], by simp [step, cancelling], by simp, ?_⟩
    simp [step, cancelling]

/-- Once the flag is set, the pings to come are those of timers past their
check and the rest of a sweep that had begun. -/
theorem stopped_run (stopped : s.stop = true) {later : List PingStep}
    (along : Runs.Along step Permits s later) : ∃ new, (s.after later).pings = s.pings ++ new ∧
      (∀ ping ∈ new, ∀ t, ping.timer = some t → s.phaseOf t = some .cleared) ∧
      (new.filter fun ping => ping.timer = none).map Ping.peerId <+: s.sweep.rest := by
  induction later generalizing s with
  | nil => exact ⟨[], by simp, by simp, List.nil_prefix⟩
  | cons e later ih =>
    obtain ⟨permitted, along⟩ := along
    obtain ⟨stopped', first, sent, timers, rest⟩ := stopped_step stopped permitted
    obtain ⟨others, sent', timers', rest'⟩ := ih stopped' along
    refine ⟨first ++ others, ?_, ?_, ?_⟩
    · rw [after, Runs.run_cons, ← List.append_assoc, ← sent]
      exact sent'
    · intro ping mem t own
      rcases List.mem_append.mp mem with here | there
      · exact timers ping here t own
      · exact cleared_step stopped t (timers' ping there t own)
    · rw [List.filter_append, List.map_append]
      exact ((List.prefix_append_right_inj _).mpr rest').trans rest

/-- A `stop` that did not time out leaves no sweep under way. -/
def Joined (s : PingThreads) : Prop :=
  (s.stopping ≠ .running → s.stop = true) ∧
    (s.stopping = .stopped false → ∀ rest, s.sweep ≠ .pinging rest)

theorem joined_step (h : s.Joined) (permitted : s.Permits e) : (s.step e).Joined := by
  obtain ⟨flagged, quiet⟩ := h
  cases e with
  | connect peerId now | register t | startTimer t now | expire t now | checkStop t
  | connectPing t now => exact ⟨flagged, quiet⟩
  | startSweep => exact ⟨flagged, by simp [step]⟩
  | wake listed =>
    refine ⟨flagged, fun ended rest => ?_⟩
    have stopped := flagged (by rw [show s.stopping = .stopped false from ended]; simp)
    simp [step, stopped]
  | sweepPing now =>
    obtain ⟨-, rest, pinging⟩ := permitted
    have unfinished : s.stopping ≠ .stopped false := fun ended => quiet ended rest pinging
    cases rest with
    | nil => simpa [Joined, step, pinging] using flagged
    | cons peerId rest =>
      simp only [Joined, step, pinging]
      exact ⟨flagged, fun ended => absurd ended unfinished⟩
  | setStop => exact ⟨fun _ => rfl, by simp [step]⟩
  | takeTimers =>
    refine ⟨fun _ => flagged ?_, by simp [step]⟩
    rw [show s.stopping = .flagged from permitted]
    simp
  | cancel t =>
    obtain ⟨left, cancelling, -⟩ := permitted
    have stopped := flagged (by rw [cancelling]; simp)
    simp [Joined, step, cancelling, stopped]
  | join =>
    refine ⟨fun _ => flagged ?_, fun ended rest => ?_⟩
    · rw [show s.stopping = .cancelling [] from permitted]
      simp
    · simp only [step, Stopping.stopped.injEq, decide_eq_false_iff_not] at ended
      intro pinging
      simp [step] at pinging
      simp [pinging] at ended

/-- **After `stop`.** However the threads interleave, once the flag is set no
timer and no sweep begins to ping: what is still sent comes from timers that
had passed their check, and is the rest of the sweep that had begun. Once `stop`
has joined the sweep, only the former is left. -/
theorem no_ping_begins_after_stop (connectDelayS now : Seconds) (events later : List PingStep)
    (along : Runs.Along step Permits (boot connectDelayS now) (events ++ later))
    (stopped : ((boot connectDelayS now).after events).stop = true) :
    ∃ new, ((boot connectDelayS now).after (events ++ later)).pings =
        ((boot connectDelayS now).after events).pings ++ new ∧
      (∀ ping ∈ new, ∀ t, ping.timer = some t →
        ((boot connectDelayS now).after events).phaseOf t = some .cleared) ∧
      (new.filter fun ping => ping.timer = none).map Ping.peerId <+:
        ((boot connectDelayS now).after events).sweep.rest ∧
      (((boot connectDelayS now).after events).stopping = .stopped false →
        ∀ ping ∈ new, ping.timer ≠ none) := by
  obtain ⟨before, after⟩ := Runs.along_append.mp along
  obtain ⟨new, sent, timers, rest⟩ := stopped_run stopped after
  have joined : ((boot connectDelayS now).after events).Joined :=
    Runs.invariant (fun _ _ => joined_step) (by simp [Joined, boot]) before
  refine ⟨new, ?_, timers, rest, ?_⟩
  · rw [PingThreads.after, Runs.run_append]
    exact sent
  · intro ended ping mem sweeps
    have none_left : ((boot connectDelayS now).after events).sweep.rest = [] := by
      cases found : ((boot connectDelayS now).after events).sweep with
      | pinging rest => exact absurd found (joined.2 ended rest)
      | unstarted | waiting | ended => rfl
    rw [none_left, List.prefix_nil, List.map_eq_nil_iff, List.filter_eq_nil_iff] at rest
    exact rest ping mem (by simp [sweeps])

/-! ## What `stop` cancels -/

/-- Callbacks take turns between registering a timer and starting it, and none
registers once `stop` has taken the timers. -/
def Alone (s : PingThreads) : PingStep → Prop
  | .register _ => (∀ j, s.phaseOf j ≠ some .registered) ∧
      (s.stopping = .running ∨ s.stopping = .flagged)
  | _ => True

/-- The timers that `stop` has yet to cancel, or will have. -/
def pending (s : PingThreads) : List Nat :=
  match s.stopping with
  | .running | .flagged => s.tracked
  | .cancelling left => left
  | .stopped _ => []

/-- Every timer that is to go off is among them. -/
def Tracks (s : PingThreads) : Prop :=
  ∀ t timer, s.timers[t]? = some timer →
    timer.phase = .registered ∨ timer.phase = .waiting → timer.finished = true ∨ t ∈ s.pending

/-- A step of timer `t` that registers nothing and leaves the set alone. -/
theorem Tracks.moved (h : s.Tracks) {f : ConnectTimer → ConnectTimer} {now : Seconds}
    (moves : ∀ timer, s.timers[t]? = some timer →
      (f timer).phase = .registered ∨ (f timer).phase = .waiting →
        (f timer).finished = true ∨
          ((timer.phase = .registered ∨ timer.phase = .waiting) ∧
            (f timer).finished = timer.finished)) :
    { s with now, timers := s.timers.modify t f }.Tracks := by
  intro j timer found pendingPhase
  obtain ⟨before, here, rfl⟩ := modified found
  split at pendingPhase
  · rename_i own
    subst own
    rw [if_pos rfl]
    rcases moves before here pendingPhase with finished | ⟨phase, same⟩
    · exact .inl finished
    · rw [same]
      exact h t before here phase
  · rename_i other
    rw [if_neg other]
    exact h j before here pendingPhase

theorem tracks_register (h : s.Tracks) (t : Nat)
    (alone : ∀ j, s.phaseOf j ≠ some .registered)
    (early : s.stopping = .running ∨ s.stopping = .flagged) :
    (s.step (.register t)).Tracks := by
  have pending : (s.step (.register t)).pending = t :: s.tracked.filter s.isAlive := by
    rcases early with early | early <;> simp [PingThreads.pending, step, early]
  have before : s.pending = s.tracked := by
    rcases early with early | early <;> simp [PingThreads.pending, early]
  intro j timer found phase
  rw [pending]
  obtain ⟨old, here, rfl⟩ := modified found
  by_cases own : t = j
  · exact .inr (own ▸ List.mem_cons_self)
  · rw [if_neg own] at phase ⊢
    rcases phase with registered | waiting
    · exact absurd (by simp [phaseOf, here, registered]) (alone j)
    · have alive : s.isAlive j = true := by
        simp [isAlive, here, ConnectTimer.isAlive, waiting]
      refine (h j old here (.inr waiting)).imp_right fun tracked => ?_
      rw [before] at tracked
      exact List.mem_cons_of_mem _ (List.mem_filter.mpr ⟨tracked, alive⟩)

/-- A step that leaves the timers and the set alone. -/
theorem Tracks.handed (h : s.Tracks) (timers : s'.timers = s.timers)
    (kept : s'.pending = s.pending) : s'.Tracks := by
  intro j timer found phase
  rw [kept]
  exact h j timer (timers ▸ found) phase

theorem tracks_connect (h : s.Tracks) (peerId : PeerId) (now : Seconds) :
    (s.step (.connect peerId now)).Tracks := by
  intro j timer found phase
  simp only [step, List.getElem?_append] at found
  split at found
  · exact h j timer found phase
  · have new := List.mem_singleton.mp (List.mem_of_getElem? found)
    subst new
    simp at phase

theorem tracks_cancel (h : s.Tracks) (t : Nat) {left : List Nat}
    (cancelling : s.stopping = .cancelling left) : (s.step (.cancel t)).Tracks := by
  have before : s.pending = left := by rw [pending, cancelling]
  intro j timer found phase
  simp only [step, cancelling] at found ⊢
  obtain ⟨old, here, rfl⟩ := modified found
  by_cases own : t = j
  · exact .inl (by rw [if_pos own])
  · rw [if_neg own] at phase ⊢
    refine (h j old here phase).imp_right fun tracked => ?_
    rw [before] at tracked
    exact (List.mem_erase_of_ne (Ne.symm own)).mpr tracked

theorem tracks_step (h : s.Tracks) (permitted : s.Permits e) (alone : s.Alone e) :
    (s.step e).Tracks := by
  cases e with
  | connect peerId now => exact tracks_connect h peerId now
  | register t => exact tracks_register h t alone.1 alone.2
  | startTimer t now =>
    refine h.moved fun timer here _ => .inr ⟨.inl ?_, rfl⟩
    exact phase_of permitted.1 here
  | expire t now =>
    refine h.moved fun timer here phase => ?_
    dsimp only at phase
    split at phase <;> simp at phase
  | checkStop t =>
    refine h.moved fun timer here phase => ?_
    dsimp only at phase
    split at phase <;> simp at phase
  | connectPing t now =>
    have moved : { s with
        now
        timers := s.timers.modify t fun timer => { timer with phase := .ended true } }.Tracks := by
      apply h.moved
      simp
    exact moved
  | startSweep | wake listed => exact h
  | sweepPing now =>
    simp only [step]
    split <;> exact h
  | setStop =>
    have before : s.stopping = .running := permitted
    exact h.handed rfl (by simp [pending, step, before])
  | takeTimers =>
    have before : s.stopping = .flagged := permitted
    exact h.handed rfl (by simp [pending, step, before])
  | cancel t =>
    obtain ⟨left, cancelling, -⟩ := permitted
    exact tracks_cancel h t cancelling
  | join =>
    have before : s.stopping = .cancelling [] := permitted
    exact h.handed rfl (by simp [pending, step, before])

/-- **`stop` cancels what is pending.** Where no callback registers its timer
while another is about to start its own, nor after `stop` has taken the timers,
`stop` returns with every timer that waits, or is about to, cancelled. -/
theorem stop_cancels_pending (connectDelayS now : Seconds) (events : List PingStep)
    (along : Runs.Along step (fun s e => s.Permits e ∧ s.Alone e) (boot connectDelayS now) events)
    {timedOut : Bool}
    (returned : ((boot connectDelayS now).after events).stopping = .stopped timedOut) :
    ∀ timer ∈ ((boot connectDelayS now).after events).timers,
      timer.phase = .registered ∨ timer.phase = .waiting → timer.finished = true := by
  have tracks : ((boot connectDelayS now).after events).Tracks :=
    Runs.invariant (fun _ _ held allowed => tracks_step held allowed.1 allowed.2)
      (by simp [Tracks, boot]) along
  intro timer mem phase
  obtain ⟨t, here⟩ := List.mem_iff_getElem?.mp mem
  rcases tracks t timer here phase with finished | left
  · exact finished
  · rw [pending, returned] at left
    cases left

/-- Where two callbacks overlap, the second takes the first's timer, not yet
started, for a spent one, and `stop` misses it. -/
example : ((boot 3 0).after [.connect "phoneA" 1, .connect "phoneB" 1, .register 0, .register 1,
    .startTimer 0 1, .startTimer 1 1, .setStop, .takeTimers, .cancel 1, .join]).timers =
      [⟨"phoneA", 1, .waiting, 4, false⟩, ⟨"phoneB", 1, .waiting, 4, true⟩] := by
  decide +kernel

end PingThreads

namespace Sample

/-- A phone connects and is pinged. -/
def connectPinged : List PingStep :=
  [.connect "phone" 10, .register 0, .startTimer 0 10, .expire 0 13, .checkStop 0,
    .connectPing 0 14]

theorem connect_pinged_once_phone :
    ((PingThreads.after (.boot 3 0) connectPinged).pingsOf 0).length = 1 := by
  have along : Runs.Along PingThreads.step PingThreads.Permits (.boot 3 0) connectPinged := by
    simp [connectPinged, Runs.Along, PingThreads.Permits, PingThreads.step, PingThreads.boot,
      PingThreads.phaseOf]
    norm_num
  obtain ⟨-, timers⟩ := PingThreads.connect_pinged_once 3 0 connectPinged along
  obtain ⟨-, -, once⟩ := timers 0 ⟨"phone", 10, .ended true, 13, false⟩ (by decide +kernel)
  exact once true rfl (by decide +kernel)

/-- A timer passes its check just before `stop`, and a sweep is due. -/
def lateConnect : List PingStep :=
  [.connect "phone" 10, .register 0, .startTimer 0 10, .startSweep, .expire 0 13, .checkStop 0,
    .setStop, .takeTimers, .cancel 0, .wake ["phone"], .join]

theorem no_ping_begins_after_stop_late :
    ∃ new, (PingThreads.after (.boot 3 0) (lateConnect ++ [.connectPing 0 15])).pings = new ∧
      ∀ ping ∈ new, ping.timer ≠ none := by
  have along : Runs.Along PingThreads.step PingThreads.Permits (.boot 3 0)
      (lateConnect ++ [.connectPing 0 15]) := by
    simp [lateConnect, Runs.Along, PingThreads.Permits, PingThreads.step, PingThreads.boot,
      PingThreads.phaseOf]
    norm_num
  obtain ⟨new, sent, -, -, joined⟩ := PingThreads.no_ping_begins_after_stop 3 0 lateConnect
    [.connectPing 0 15] along (by decide +kernel)
  refine ⟨new, sent.trans ?_, joined (by decide +kernel)⟩
  have silent : (PingThreads.after (.boot 3 0) lateConnect).pings = [] := by decide +kernel
  rw [silent, List.nil_append]

/-- A timer waits when `stop` is called. -/
def stoppedConnect : List PingStep :=
  [.connect "phone" 10, .register 0, .startTimer 0 10, .setStop, .takeTimers, .cancel 0, .join]

theorem stop_cancels_pending_phone :
    (PingThreads.after (.boot 3 0) stoppedConnect).timers.Forall fun timer =>
      timer.phase = .registered ∨ timer.phase = .waiting → timer.finished = true := by
  have along : Runs.Along PingThreads.step (fun s e => s.Permits e ∧ s.Alone e) (.boot 3 0)
      stoppedConnect := by
    simp [stoppedConnect, Runs.Along, PingThreads.Permits, PingThreads.Alone, PingThreads.step,
      PingThreads.boot, PingThreads.phaseOf, List.getElem?_cons]
  have returned : (PingThreads.after (.boot 3 0) stoppedConnect).stopping = .stopped false := by
    decide +kernel
  exact List.forall_iff_forall_mem.mpr
    (PingThreads.stop_cancels_pending 3 0 stoppedConnect along returned)

end Sample

end MeshlinkNode
