import Mathlib.Data.List.Basic
import Mathlib.Tactic.TypeStar

/-!
# Runs of a deterministic system

The system is a step function on states; everything nondeterministic (who
acts, what a clock shows, what the network does) is part of the event, so a
run is a list of events. Seven rules carry the proofs of a development:

* `invariant`: what every permitted step keeps, every permitted run keeps;
* `always_iff`: what exactly the permitted steps keep holds all along exactly
  the permitted runs;
* `history`: what relates the state to the events so far, step by step;
* `run_project`: a part of the state that sees only some events runs alone;
* `outputs_erase`: events a relation cannot see can be deleted from a run
  without changing what the others answer (unwinding);
* `outputs_snoc`: what one more event adds to the answers;
* `run_outputs`: a part of the state that sees only the answers runs on these.
-/

namespace Runs

variable {σ ε ω : Type*}

/-- The state after the events, the oldest first. -/
def run (step : σ → ε → σ) (s : σ) (es : List ε) : σ := es.foldl step s

variable (step : σ → ε → σ)

@[simp] theorem run_nil (s : σ) : run step s [] = s := rfl

@[simp] theorem run_cons (s : σ) (e : ε) (es : List ε) :
    run step s (e :: es) = run step (step s e) es := rfl

@[simp] theorem run_append (s : σ) (es fs : List ε) :
    run step s (es ++ fs) = run step (run step s es) fs := List.foldl_append

/-- Every step of the run is taken in a state that permits it. -/
def Along (permits : σ → ε → Prop) : σ → List ε → Prop
  | _, [] => True
  | s, e :: es => permits s e ∧ Along permits (step s e) es

variable {step}

theorem Along.and {permits : σ → ε → Prop} {P : ε → Prop} {s : σ} {es : List ε}
    (along : Along step permits s es) (each : ∀ e ∈ es, P e) :
    Along step (fun s e => permits s e ∧ P e) s es := by
  induction es generalizing s with
  | nil => exact trivial
  | cons e es ih =>
    have rest := fun d mem => each d (List.mem_cons_of_mem e mem)
    exact ⟨⟨along.1, each e List.mem_cons_self⟩, ih along.2 rest⟩

theorem along_of_forall {P : ε → Prop} {s : σ} {es : List ε} (each : ∀ e ∈ es, P e) :
    Along step (fun _ => P) s es := by
  induction es generalizing s with
  | nil => exact trivial
  | cons e es ih =>
    exact ⟨each e List.mem_cons_self, ih fun d mem => each d (List.mem_cons_of_mem e mem)⟩

theorem along_append {permits : σ → ε → Prop} {s : σ} {es fs : List ε} :
    Along step permits s (es ++ fs) ↔
      Along step permits s es ∧ Along step permits (run step s es) fs := by
  induction es generalizing s with
  | nil => simp [Along]
  | cons e es ih => simp only [List.cons_append, Along, ih, run_cons, and_assoc]

/-- A run with a step that is not permitted has a first one. -/
theorem first_refused {permits : σ → ε → Prop} {s : σ} {es : List ε}
    (broken : ¬ Along step permits s es) : ∃ past e, past ++ [e] <+: es ∧
      Along step permits s past ∧ ¬ permits (run step s past) e := by
  induction es generalizing s with
  | nil => exact absurd trivial broken
  | cons e es ih =>
    by_cases permitted : permits s e
    · obtain ⟨past, d, first, along, refused⟩ := ih fun along => broken ⟨permitted, along⟩
      exact ⟨e :: past, d, List.prefix_cons_inj e |>.mpr first, ⟨permitted, along⟩, refused⟩
    · exact ⟨[], e, List.prefix_cons_inj e |>.mpr List.nil_prefix, trivial, permitted⟩

/-- Every step is permitted in the state that the steps before it lead to. -/
theorem along_iff {permits : σ → ε → Prop} {s : σ} {es : List ε} :
    Along step permits s es ↔ ∀ past e, past ++ [e] <+: es → permits (run step s past) e := by
  constructor
  · rintro along past e ⟨rest, rfl⟩
    exact (along_append.mp (along_append.mp along).1).2.1
  · intro all
    by_contra broken
    obtain ⟨past, e, first, -, refused⟩ := first_refused broken
    exact refused (all past e first)

/-- **Invariants.** What every permitted step keeps holds after every run of
permitted steps. -/
theorem invariant {permits : σ → ε → Prop} {Inv : σ → Prop}
    (keeps : ∀ s e, Inv s → permits s e → Inv (step s e)) {s : σ} {es : List ε}
    (start : Inv s) (along : Along step permits s es) : Inv (run step s es) := by
  induction es generalizing s with
  | nil => exact start
  | cons e es ih => exact ih (keeps s e start along.1) along.2

/-- The same where every step is permitted. -/
theorem invariant_always {Inv : σ → Prop} (keeps : ∀ s e, Inv s → Inv (step s e))
    {s : σ} (start : Inv s) (es : List ε) : Inv (run step s es) := by
  induction es generalizing s with
  | nil => exact start
  | cons e es ih => exact ih (keeps s e start)

/-- **Exact conditions.** Where a good state stays good exactly if the step is
permitted, every state of a run is good exactly if every step is. -/
theorem always_iff {permits : σ → ε → Prop} {Inv Good : σ → Prop}
    (keeps : ∀ s e, Inv s → Inv (step s e))
    (decides : ∀ s e, Inv s → Good s → (Good (step s e) ↔ permits s e)) {s : σ} (inv : Inv s)
    (good : Good s) (es : List ε) :
    (∀ past, past <+: es → Good (run step s past)) ↔ Along step permits s es := by
  induction es generalizing s with
  | nil =>
    refine iff_of_true ?_ trivial
    intro past first
    rw [List.prefix_nil.mp first]
    exact good
  | cons e es ih =>
    have inv' := keeps s e inv
    constructor
    · intro all
      have good' : Good (step s e) := all [e] (List.prefix_cons_inj e |>.mpr List.nil_prefix)
      refine ⟨(decides s e inv good).mp good', (ih inv' good').mp ?_⟩
      intro past first
      exact all (e :: past) (List.prefix_cons_inj e |>.mpr first)
    · rintro ⟨permitted, along⟩ past first
      have good' : Good (step s e) := (decides s e inv good).mpr permitted
      cases past with
      | nil => exact good
      | cons d past =>
        obtain ⟨rfl, rest⟩ := List.cons_prefix_cons.mp first
        exact (ih inv' good').mpr along past rest

/-- **Histories.** A relation between the events so far and the state they
lead to, kept by each further event, holds after every run. -/
theorem history (Holds : List ε → σ → Prop) {s : σ} (start : Holds [] s)
    (keeps : ∀ past t e, Holds past t → Holds (past ++ [e]) (step t e)) (es : List ε) :
    Holds es (run step s es) := by
  suffices go : ∀ past t, Holds past t → Holds (past ++ es) (run step t es) by
    simpa using go [] s start
  induction es with
  | nil => intro past t h; simpa using h
  | cons e es ih =>
    intro past t h
    simpa using ih (past ++ [e]) (step t e) (keeps past t e h)

/-- **Projections.** A part of the state that reacts only to what a translation
leaves of the events runs as a system of its own over the translated events. -/
theorem run_project {τ δ : Type*} {inner : τ → δ → τ} {f : ε → Option δ} (part : σ → τ)
    (steps : ∀ s e, part (step s e) = (f e).elim (part s) (inner (part s))) (s : σ)
    (es : List ε) : part (run step s es) = run inner (part s) (es.filterMap f) := by
  induction es generalizing s with
  | nil => rfl
  | cons e es ih =>
    rw [run_cons, ih, steps, List.filterMap_cons]
    cases f e <;> rfl

/-- In a run of permitted steps, what holds of every step permitted where an
invariant does holds of every event of the run. -/
theorem along_events {permits : σ → ε → Prop} {Inv : σ → Prop} {P : ε → Prop}
    (keeps : ∀ s e, Inv s → permits s e → Inv (step s e))
    (holds : ∀ s e, Inv s → permits s e → P e) {s : σ} {es : List ε}
    (start : Inv s) (along : Along step permits s es) : ∀ e ∈ es, P e := by
  induction es generalizing s with
  | nil => intro e mem; cases mem
  | cons d es ih =>
    intro e mem
    rcases List.mem_cons.mp mem with rfl | rest
    · exact holds s e start along.1
    · exact ih (keeps s d start along.1) along.2 e rest

/-- What the events of a run answer, in order. -/
def outputs (step : σ → ε → σ) (out : σ → ε → Option ω) : σ → List ε → List ω
  | _, [] => []
  | s, e :: es => (out s e).toList ++ outputs step out (step s e) es

theorem outputs_cons (step : σ → ε → σ) (out : σ → ε → Option ω) (s : σ) (e : ε) (es : List ε) :
    outputs step out s (e :: es) = (out s e).toList ++ outputs step out (step s e) es := rfl

theorem outputs_append (out : σ → ε → Option ω) (s : σ) (es fs : List ε) :
    outputs step out s (es ++ fs) =
      outputs step out s es ++ outputs step out (run step s es) fs := by
  induction es generalizing s with
  | nil => rfl
  | cons e es ih => simp only [List.cons_append, outputs, ih, run_cons, List.append_assoc]

/-- Where no permitted step answers, a run of permitted steps is silent. -/
theorem outputs_silent {permits : σ → ε → Prop} {Inv : σ → Prop} {out : σ → ε → Option ω}
    (keeps : ∀ s e, Inv s → permits s e → Inv (step s e))
    (silent : ∀ s e, Inv s → permits s e → out s e = none) {s : σ} {es : List ε} (start : Inv s)
    (along : Along step permits s es) : outputs step out s es = [] := by
  induction es generalizing s with
  | nil => rfl
  | cons e es ih =>
    rw [outputs_cons, silent s e start along.1, ih (keeps s e start along.1) along.2]
    rfl

/-- **Unwinding.** Let `R` relate states that kept events cannot tell apart.
If kept events preserve `R` on both sides and answer alike, and the others
preserve it on the left alone and answer nothing, then deleting the others
changes no answer. -/
theorem outputs_erase {out : σ → ε → Option ω} {keep : ε → Bool} {R : σ → σ → Prop}
    (kept : ∀ s t e, R s t → keep e = true → R (step s e) (step t e))
    (dropped : ∀ s t e, R s t → keep e = false → R (step s e) t)
    (same : ∀ s t e, R s t → keep e = true → out s e = out t e)
    (quiet : ∀ s e, keep e = false → out s e = none)
    (es : List ε) {s t : σ} (h : R s t) :
    outputs step out s es = outputs step out t (es.filter keep) := by
  induction es generalizing s t with
  | nil => rfl
  | cons e es ih =>
    cases hk : keep e with
    | true =>
      simp only [List.filter_cons_of_pos hk, outputs, same s t e h hk]
      rw [ih (kept s t e h hk)]
    | false =>
      have hn : ¬ keep e = true := by simp [hk]
      simp only [List.filter_cons_of_neg hn, outputs, quiet s e hk, Option.toList_none,
        List.nil_append]
      exact ih (dropped s t e h hk)

/-- Under the same conditions the run with the deletions ends in a state
related to that of the full run. -/
theorem run_erase {keep : ε → Bool} {R : σ → σ → Prop}
    (kept : ∀ s t e, R s t → keep e = true → R (step s e) (step t e))
    (dropped : ∀ s t e, R s t → keep e = false → R (step s e) t)
    (es : List ε) {s t : σ} (h : R s t) : R (run step s es) (run step t (es.filter keep)) := by
  induction es generalizing s t with
  | nil => exact h
  | cons e es ih =>
    cases hk : keep e with
    | true =>
      rw [List.filter_cons_of_pos hk]
      exact ih (kept s t e h hk)
    | false =>
      have hn : ¬ keep e = true := by simp [hk]
      rw [List.filter_cons_of_neg hn]
      exact ih (dropped s t e h hk)

/-- One more event adds what it answers in the state the others led to. -/
theorem outputs_snoc (out : σ → ε → Option ω) (s : σ) (es : List ε) (e : ε) :
    outputs step out s (es ++ [e]) =
      outputs step out s es ++ (out (run step s es) e).toList := by
  rw [outputs_append]
  simp [outputs]

/-- **Traces.** A part of the state that reacts only to what the steps answer
runs as a system of its own over the answers. -/
theorem run_outputs {τ : Type*} {inner : τ → ω → τ} {out : σ → ε → Option ω} (part : σ → τ)
    (steps : ∀ s e, part (step s e) = (out s e).elim (part s) (inner (part s))) (s : σ)
    (es : List ε) : part (run step s es) = run inner (part s) (outputs step out s es) := by
  induction es generalizing s with
  | nil => rfl
  | cons e es ih =>
    rw [run_cons, ih, steps, outputs_cons, run_append]
    cases out s e <;> rfl

/-- What is left of the answers is answered by what is left of each. -/
theorem outputs_bind {ν : Type*} (out : σ → ε → Option ω) (f : ω → Option ν) (s : σ)
    (es : List ε) :
    outputs step (fun s e => (out s e).bind f) s es = (outputs step out s es).filterMap f := by
  induction es generalizing s with
  | nil => rfl
  | cons e es ih =>
    rw [outputs_cons, outputs_cons, List.filterMap_append, ih]
    cases out s e with
    | none => rfl
    | some answer => cases h : f answer <;> simp [h]

end Runs
