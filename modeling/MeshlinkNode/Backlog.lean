import Mathlib.Data.List.Induction
import MeshlinkNode.Notify

/-!
# The CoreBluetooth backlog

`_notify_chunk` and `_flush_pending` send through the one `updateValue`, which
refuses while the transmit queue is full. Refused chunks wait in `_pending`
and go out first, so the radio takes the chunks in the order they were passed.
-/

namespace MeshlinkNode.Backlog

open Notify

/-- A call of `updateValue` and its answer. -/
structure Update where
  data : Bytes
  sent : Bool
  deriving DecidableEq, Repr

/-- The server, and its calls of `updateValue` so far. -/
structure State where
  server : CoreBluetooth
  updates : List Update
  deriving DecidableEq, Repr

def State.pending (s : State) : List Bytes := s.server.pending

/-- What `updateValue` took, the oldest first. -/
def State.accepted (s : State) : List Bytes := (s.updates.filter (·.sent)).map (·.data)

def State.start : State := ⟨⟨false, []⟩, []⟩

inductive Call where
  | notifyChunk (data : Bytes)
  | flushPending
  | registerService
  deriving DecidableEq, Repr

/-! `answers n` is what the `n`-th call of `updateValue` returns. -/

section

variable (answers : Nat → Bool)

def State.updateValue (s : State) (data : Bytes) : State :=
  { s with updates := s.updates ++ [⟨data, answers s.updates.length⟩] }

def State.append (s : State) (data : Bytes) : State :=
  { s with server := { s.server with pending := s.server.pending ++ [data] } }

/-- `_notify_chunk` -/
def notifyChunk (s : State) (data : Bytes) : State :=
  if s.server.txChar = false then s
  else if s.server.pending ≠ [] then s.append data
  else if answers s.updates.length then s.updateValue answers data
  else (s.updateValue answers data).append data

/-- The loop of `_flush_pending`: `popleft` comes after the answer. -/
def flushLoop : List Bytes → List Update → List Bytes × List Update
  | [], updates => ([], updates)
  | data :: rest, updates =>
    if answers updates.length then flushLoop rest (updates ++ [⟨data, true⟩])
    else (data :: rest, updates ++ [⟨data, false⟩])

/-- `_flush_pending` -/
def flushPending (s : State) : State :=
  let out := flushLoop answers s.server.pending s.updates
  { server := { s.server with pending := out.1 }, updates := out.2 }

/-- `_register_service` sets `_tx_char`, at every power-on anew. -/
def registerService (s : State) : State := { s with server := { s.server with txChar := true } }

def step (s : State) : Call → State
  | .notifyChunk data => notifyChunk answers s data
  | .flushPending => flushPending answers s
  | .registerService => registerService s

end

variable {answers : Nat → Bool}

@[simp] theorem accepted_append (s : State) (data : Bytes) :
    (s.append data).accepted = s.accepted := rfl

@[simp] theorem pending_append (s : State) (data : Bytes) :
    (s.append data).pending = s.pending ++ [data] := rfl

@[simp] theorem pending_updateValue (s : State) (data : Bytes) :
    (s.updateValue answers data).pending = s.pending := rfl

theorem accepted_updateValue (s : State) (data : Bytes) : (s.updateValue answers data).accepted =
    s.accepted ++ if answers s.updates.length then [data] else [] := by
  simp only [State.accepted, State.updateValue, List.filter_append, List.map_append]
  cases answers s.updates.length <;> rfl

variable (answers) in
/-- All that `_notify_chunk` can do once the characteristic exists. -/
theorem notifyChunk_cases {s : State} (present : s.server.txChar = true) (data : Bytes) :
    (s.pending ≠ [] ∧ notifyChunk answers s data = s.append data) ∨
    (s.pending = [] ∧ answers s.updates.length = true ∧
      notifyChunk answers s data = s.updateValue answers data) ∨
    (s.pending = [] ∧ answers s.updates.length = false ∧
      notifyChunk answers s data = (s.updateValue answers data).append data) := by
  have on : ¬ s.server.txChar = false := by simp [present]
  by_cases queue : s.server.pending = []
  · refine .inr ?_
    cases answer : answers s.updates.length with
    | true => exact .inl ⟨queue, rfl, by simp [notifyChunk, on, queue, answer]⟩
    | false => exact .inr ⟨queue, rfl, by simp [notifyChunk, on, queue, answer]⟩
  · exact .inl ⟨queue, by simp [notifyChunk, on, queue]⟩

theorem notifyChunk_absent {s : State} (absent : s.server.txChar = false) (data : Bytes) :
    notifyChunk answers s data = s := if_pos absent

/-- The flush took all of the queue, or it asked up to the first refusal and
the refused chunk is still at the head. -/
def Flushed (s t : State) : Prop :=
  (t.pending = [] ∧ t.updates = s.updates ++ s.pending.map (⟨·, true⟩)) ∨
  ∃ gone data rest, s.pending = gone ++ data :: rest ∧ t.pending = data :: rest ∧
    t.updates = s.updates ++ gone.map (⟨·, true⟩) ++ [⟨data, false⟩]

variable (answers) in
theorem flushLoop_cases (queue : List Bytes) (updates : List Update) :
    flushLoop answers queue updates = ([], updates ++ queue.map (⟨·, true⟩)) ∨
    ∃ gone data rest, queue = gone ++ data :: rest ∧ flushLoop answers queue updates =
      (data :: rest, updates ++ gone.map (⟨·, true⟩) ++ [⟨data, false⟩]) := by
  induction queue generalizing updates with
  | nil => exact .inl (by simp [flushLoop])
  | cons data rest ih =>
    cases answer : answers updates.length with
    | false => exact .inr ⟨[], data, rest, rfl, by simp [flushLoop, answer]⟩
    | true =>
      have loops : flushLoop answers (data :: rest) updates =
          flushLoop answers rest (updates ++ [⟨data, true⟩]) := by simp [flushLoop, answer]
      rw [loops]
      cases ih (updates ++ [⟨data, true⟩]) with
      | inl all => exact .inl (by rw [all]; simp)
      | inr stopped =>
        obtain ⟨gone, refused, left, split, out⟩ := stopped
        exact .inr ⟨data :: gone, refused, left, by rw [split]; rfl, by rw [out]; simp⟩

variable (answers) in
theorem flushPending_flushed (s : State) : Flushed s (flushPending answers s) := by
  cases flushLoop_cases answers s.server.pending s.updates with
  | inl all => exact .inl ⟨congrArg Prod.fst all, congrArg Prod.snd all⟩
  | inr stopped =>
    obtain ⟨gone, data, rest, split, out⟩ := stopped
    exact .inr ⟨gone, data, rest, split, congrArg Prod.fst out, congrArg Prod.snd out⟩

/-! ## Nothing lost, duplicated or reordered -/

/-- The chunks passed since the characteristic exists. -/
def passed : Bool → List Call → List Bytes
  | _, [] => []
  | true, .notifyChunk data :: calls => data :: passed true calls
  | false, .notifyChunk _ :: calls => passed false calls
  | tx, .flushPending :: calls => passed tx calls
  | _, .registerService :: calls => passed true calls

theorem accepted_of_updates {s t : State} {new : List Update} (h : t.updates = s.updates ++ new) :
    t.accepted = s.accepted ++ (new.filter (·.sent)).map (·.data) := by
  simp [State.accepted, h]

theorem sent_all (chunks : List Bytes) :
    ((chunks.map (Update.mk · true)).filter (·.sent)).map (·.data) = chunks := by
  induction chunks with
  | nil => rfl
  | cons data chunks ih => simpa using ih

theorem flushed_keeps {s t : State} (h : Flushed s t) :
    t.accepted ++ t.pending = s.accepted ++ s.pending := by
  cases h with
  | inl all =>
    obtain ⟨empty, updates⟩ := all
    rw [accepted_of_updates updates, empty, sent_all, List.append_nil]
  | inr stopped =>
    obtain ⟨gone, data, rest, split, left, updates⟩ := stopped
    rw [List.append_assoc] at updates
    rw [accepted_of_updates updates, List.filter_append, List.map_append, sent_all, left, split]
    simp

theorem notifyChunk_keeps {s : State} (present : s.server.txChar = true) (data : Bytes) :
    (notifyChunk answers s data).accepted ++ (notifyChunk answers s data).pending =
      s.accepted ++ s.pending ++ [data] := by
  rcases notifyChunk_cases answers present data with
    ⟨-, does⟩ | ⟨queue, answer, does⟩ | ⟨queue, answer, does⟩
  · simp [does]
  · simp [does, accepted_updateValue, answer, queue]
  · simp [does, accepted_updateValue, answer, queue]

theorem notifyChunk_txChar (s : State) (data : Bytes) :
    (notifyChunk answers s data).server.txChar = s.server.txChar := by
  cases on : s.server.txChar with
  | false => rw [notifyChunk_absent on, on]
  | true =>
    rcases notifyChunk_cases answers on data with
      ⟨-, does⟩ | ⟨-, -, does⟩ | ⟨-, -, does⟩
    all_goals rw [does]; exact on

theorem run_keeps (calls : List Call) (s : State) :
    (Runs.run (step answers) s calls).accepted ++ (Runs.run (step answers) s calls).pending =
      s.accepted ++ s.pending ++ passed s.server.txChar calls := by
  induction calls generalizing s with
  | nil => simp [passed]
  | cons call calls ih =>
    rw [Runs.run_cons, ih]
    cases call with
    | notifyChunk data =>
      simp only [step, notifyChunk_txChar]
      cases on : s.server.txChar with
      | false => rw [notifyChunk_absent on, passed]
      | true => rw [notifyChunk_keeps on, passed]; simp
    | flushPending =>
      have kept := flushed_keeps (flushPending_flushed answers s)
      simp only [step, kept]
      simp [flushPending, passed]
    | registerService => cases s.server.txChar <;> rfl

/-! ## The same server under concurrent sends

`Notify` keeps of a call only what goes on the air; these are its two steps.
-/

theorem notifyChunk_radio (s : State) (data : Bytes) :
    ∃ asked, (notifyChunk answers s data).updates = s.updates ++ asked ∧
      s.server.notifyChunk (answers s.updates.length) data =
        ((notifyChunk answers s data).server, (asked.filter (·.sent)).map (·.data)) := by
  cases on : s.server.txChar with
  | false =>
    refine ⟨[], ?_, ?_⟩
    · rw [notifyChunk_absent on, List.append_nil]
    · rw [notifyChunk_absent on, CoreBluetooth.notifyChunk, if_pos on]
      rfl
  | true =>
    have go : ¬ s.server.txChar = false := by simp [on]
    rcases notifyChunk_cases answers on data with
      ⟨queue, does⟩ | ⟨queue, answer, does⟩ | ⟨queue, answer, does⟩
    · have some : s.server.pending ≠ [] := queue
      refine ⟨[], by rw [does]; simp [State.append], ?_⟩
      rw [does, CoreBluetooth.notifyChunk, if_neg go, if_pos some]
      rfl
    · have none : ¬ s.server.pending ≠ [] := fun some => some queue
      refine ⟨[⟨data, true⟩], by rw [does, State.updateValue, answer], ?_⟩
      rw [does, CoreBluetooth.notifyChunk, if_neg go, if_neg none, if_pos answer]
      rfl
    · have none : ¬ s.server.pending ≠ [] := fun some => some queue
      refine ⟨[⟨data, false⟩], by rw [does]; simp [State.append, State.updateValue, answer], ?_⟩
      rw [does, CoreBluetooth.notifyChunk, if_neg go, if_neg none, if_neg (by simp [answer])]
      rfl

/-- The flush takes what is answered with `true`, whatever is left to ask. -/
theorem flushPending_takes (tx : Bool) (gone left : List Bytes) (refused : List Bool)
    (stops : left = [] ∨ ∃ more, refused = false :: more) :
    (CoreBluetooth.mk tx (gone ++ left)).flushPending (gone.map (fun _ => true) ++ refused) =
      (⟨tx, left⟩, gone) := by
  induction gone with
  | nil =>
    rcases stops with rfl | ⟨more, rfl⟩
    · cases refused with
      | nil => rfl
      | cons answer more => cases answer <;> rfl
    · rfl
  | cons data gone ih =>
    simp only [List.cons_append, List.map_cons, CoreBluetooth.flushPending, ih]

theorem flushPending_radio (s : State) :
    ∃ asked : List Update, (flushPending answers s).updates = s.updates ++ asked ∧
      s.server.flushPending (asked.map (·.sent)) =
        ((flushPending answers s).server, (asked.filter (·.sent)).map (·.data)) := by
  have server : (flushPending answers s).server =
      ⟨s.server.txChar, (flushPending answers s).pending⟩ := rfl
  cases flushPending_flushed answers s with
  | inl all =>
    obtain ⟨empty, updates⟩ := all
    refine ⟨_, updates, ?_⟩
    have takes := flushPending_takes s.server.txChar s.pending [] [] (.inl rfl)
    rw [List.append_nil, List.append_nil] at takes
    rw [server, empty, sent_all, List.map_map]
    exact takes
  | inr stopped =>
    obtain ⟨gone, data, rest, split, left, updates⟩ := stopped
    rw [List.append_assoc] at updates
    refine ⟨_, updates, ?_⟩
    have takes := flushPending_takes s.server.txChar gone (data :: rest) [false] (.inr ⟨[], rfl⟩)
    rw [← split] at takes
    rw [server, left, List.filter_append, List.map_append, List.map_append, sent_all, List.map_map]
    exact takes.trans (by simp)

/-! ## Why a chunk waits -/

/-- The call asked `updateValue` and was refused. -/
def Refuses (answers : Nat → Bool) (s : State) (call : Call) : Prop :=
  ∃ u : Update, u.sent = false ∧ ∃ asked, (step answers s call).updates = s.updates ++ asked ++ [u]

/-- Some call was refused, and the queue has not been empty since. -/
def Uncleared (answers : Nat → Bool) (calls : List Call) : Prop :=
  ∃ past call rest, calls = past ++ call :: rest ∧
    Refuses answers (Runs.run (step answers) .start past) call ∧
    ∀ mid, mid <+: rest →
      (Runs.run (step answers) .start (past ++ call :: mid)).pending ≠ []

/-- An empty queue fills only by a refusal. -/
theorem refuses_of_fills {s : State} {call : Call} (empty : s.pending = [])
    (fills : (step answers s call).pending ≠ []) : Refuses answers s call := by
  cases call with
  | notifyChunk data =>
    cases on : s.server.txChar with
    | false =>
      rw [step, notifyChunk_absent on] at fills
      exact absurd empty fills
    | true =>
      rcases notifyChunk_cases answers on data with
        ⟨queue, -⟩ | ⟨-, -, does⟩ | ⟨-, answer, does⟩
      · exact absurd empty queue
      · rw [step, does] at fills
        exact absurd empty fills
      · refine ⟨⟨data, false⟩, rfl, [], ?_⟩
        simp [step, does, State.append, State.updateValue, answer]
  | flushPending =>
    rcases flushPending_flushed answers s with ⟨none, -⟩ | ⟨_, data, rest, split, -⟩
    · exact absurd none fills
    · simp [empty] at split
  | registerService => exact absurd empty fills

theorem waiting_uncleared (calls : List Call)
    (waits : (Runs.run (step answers) .start calls).pending ≠ []) : Uncleared answers calls := by
  induction calls using List.reverseRecOn with
  | nil => exact absurd rfl waits
  | append_singleton calls call ih =>
    by_cases empty : (Runs.run (step answers) .start calls).pending = []
    · refine ⟨calls, call, [], rfl, ?_, ?_⟩
      · apply refuses_of_fills empty
        simpa using waits
      · intro mid first
        rwa [List.prefix_nil.mp first]
    · obtain ⟨past, refused, rest, rfl, refuses, since⟩ := ih empty
      refine ⟨past, refused, rest ++ [call], by simp, refuses, ?_⟩
      intro mid first
      rcases List.prefix_concat_iff.mp first with rfl | earlier
      · simpa using waits
      · exact since mid earlier

/-- **The backlog is a lossless FIFO.** -/
theorem backlog_lossless_fifo (answers : Nat → Bool) (calls : List Call) :
    (Runs.run (step answers) .start calls).accepted ++
        (Runs.run (step answers) .start calls).pending = passed false calls ∧
    ((Runs.run (step answers) .start calls).pending ≠ [] → Uncleared answers calls) ∧
    Flushed (Runs.run (step answers) .start calls)
      (flushPending answers (Runs.run (step answers) .start calls)) :=
  ⟨run_keeps calls .start, waiting_uncleared calls, flushPending_flushed answers _⟩

end MeshlinkNode.Backlog
