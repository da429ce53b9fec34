import Mathlib.Data.List.Basic
import Mathlib.Data.List.Infix
import Mathlib.Data.List.TakeWhile
import Mathlib.Tactic.TypeStar

/-!
# Dot segments of a path

Before a path is looked up its segments `.` and `..` are resolved.
`removeDotSegments` is the usual routine (RFC 3986, `remove_dot_segments`) on an
input and an output buffer. On the segments of an absolute path it is a stack
(`resolve`), and all that decides where the path leads is what follows the last
point at which the stack is empty (`behindRoot`).
-/

namespace DotSegments

variable {α : Type*}

/-! ## Segments -/

section

variable (slash : α)

/-- The absolute path with the given segments. -/
def unsegment (segs : List (List α)) : List α := segs.flatMap (slash :: ·)

/-- An absolute path of one name, closed by a slash or not. -/
def Plain (start : List α) : Prop :=
  ∃ name, name ≠ [] ∧ slash ∉ name ∧ (start = slash :: name ∨ start = slash :: name ++ [slash])

variable {slash}

@[simp] theorem unsegment_nil : unsegment slash ([] : List (List α)) = [] := rfl

@[simp] theorem unsegment_cons (seg : List α) (segs : List (List α)) :
    unsegment slash (seg :: segs) = slash :: seg ++ unsegment slash segs := rfl

@[simp] theorem unsegment_append (segs more : List (List α)) :
    unsegment slash (segs ++ more) = unsegment slash segs ++ unsegment slash more :=
  List.flatMap_append

/-- A path that goes on behind a name goes on with a slash. -/
theorem prefix_segment {name seg : List α} (plain : slash ∉ name) (rest : List (List α)) :
    name <+: seg ++ unsegment slash rest ↔ name <+: seg := by
  induction seg generalizing name with
  | nil =>
    cases name with
    | nil => simp
    | cons c name =>
      cases rest with
      | nil => simp
      | cons next rest =>
        have other : c ≠ slash := by
          rintro rfl
          exact plain List.mem_cons_self
        simp [List.cons_prefix_cons, other]
  | cons d seg ih =>
    cases name with
    | nil => simp
    | cons c name =>
      have rest := ih fun mem => plain (List.mem_cons_of_mem c mem)
      simp only [List.cons_append, List.cons_prefix_cons, rest]

/-- A name and the slash behind it are the first segment, and there are more. -/
theorem prefix_closed {name seg : List α} (plain : slash ∉ name) (clean : slash ∉ seg)
    (rest : List (List α)) :
    name ++ [slash] <+: seg ++ unsegment slash rest ↔ seg = name ∧ rest ≠ [] := by
  induction seg generalizing name with
  | nil =>
    cases rest with
    | nil => simp
    | cons next rest =>
      cases name with
      | nil => simp
      | cons c name =>
        have other : c ≠ slash := by
          rintro rfl
          exact plain List.mem_cons_self
        simp [List.cons_prefix_cons, other]
  | cons d seg ih =>
    cases name with
    | nil =>
      have other : slash ≠ d := by
        rintro rfl
        exact clean List.mem_cons_self
      simp [List.cons_prefix_cons, other]
    | cons c name =>
      have more := ih (fun mem => plain (List.mem_cons_of_mem c mem))
        fun mem => clean (List.mem_cons_of_mem d mem)
      simp only [List.cons_append, List.cons_prefix_cons, more, List.cons.injEq, and_assoc]
      exact and_congr_left fun _ => eq_comm

/-- Behind a slash a name is closed by the next one. -/
theorem slash_prefix_closed {name seg : List α} (free : slash ∉ name) (plain : slash ∉ seg)
    (rest : List (List α)) :
    slash :: name ++ [slash] <+: slash :: seg ++ unsegment slash rest ↔ seg = name ∧ rest ≠ [] := by
  rw [List.cons_append, List.cons_append, List.cons_prefix_cons, eq_self, true_and]
  exact prefix_closed free plain rest

theorem plain_prefix {start : List α} (plain : Plain slash start) {first : List α}
    (clean : slash ∉ first) {more others : List (List α)} (ends : more = [] ↔ others = []) :
    start <+: unsegment slash (first :: more) ↔ start <+: unsegment slash (first :: others) := by
  obtain ⟨name, -, free, rfl | rfl⟩ := plain
  · simp only [unsegment_cons, List.cons_append, List.cons_prefix_cons, true_and,
      prefix_segment free]
  · simp only [unsegment_cons, List.cons_append, List.cons_prefix_cons, true_and,
      prefix_closed free clean, ne_eq, ends]

variable [DecidableEq α]

theorem unsegment_splitOn (body : List α) :
    unsegment slash (body.splitOn slash) = slash :: body := by
  have joined : ∀ (seg : List α) (segs : List (List α)),
      unsegment slash (seg :: segs) = slash :: [slash].intercalate (seg :: segs) := by
    intro seg segs
    induction segs generalizing seg with
    | nil => simp
    | cons next segs ih =>
      rw [unsegment_cons, ih]
      simp
  obtain ⟨seg, segs, split⟩ := List.exists_cons_of_ne_nil (List.splitOn_ne_nil slash body)
  rw [split, joined, ← split, List.intercalate_splitOn]

theorem not_mem_splitOn (body : List α) : ∀ seg ∈ body.splitOn slash, slash ∉ seg := by
  induction body with
  | nil => simp
  | cons c body ih =>
    rw [List.splitOn_cons_eq_if_modifyHead]
    split
    · intro seg mem
      rcases List.mem_cons.mp mem with rfl | old
      · simp
      · exact ih seg old
    · rename_i other
      obtain ⟨head, segs, split⟩ := List.exists_cons_of_ne_nil (List.splitOn_ne_nil slash body)
      rw [split] at ih ⊢
      simp only [List.modifyHead_cons]
      intro seg mem
      rcases List.mem_cons.mp mem with rfl | old
      · have head := ih head List.mem_cons_self
        simp only [List.mem_cons, not_or]
        exact ⟨fun same => other (beq_iff_eq.mpr same.symm), head⟩
      · exact ih seg (List.mem_cons_of_mem head old)

end

/-! ## The routine -/

section

variable [DecidableEq α] (slash dot : α)

/-- The last segment goes off the output, and the slash before it. -/
def dropSegment (output : List α) : List α :=
  ((output.reverse.dropWhile (· ≠ slash)).drop 1).reverse

/-- The first segment of the input, with the slash before it if there is one. -/
def firstSegment : List α → List α
  | [] => []
  | c :: rest => c :: rest.takeWhile (· ≠ slash)

def loop : Nat → List α → List α → List α
  | 0, _, output => output
  | n + 1, input, output =>
    if [dot, dot, slash] <+: input then loop n (input.drop 3) output
    else if [dot, slash] <+: input then loop n (input.drop 2) output
    else if [slash, dot, slash] <+: input then loop n (input.drop 2) output
    else if input = [slash, dot] then loop n [slash] output
    else if [slash, dot, dot, slash] <+: input then
      loop n (input.drop 3) (dropSegment slash output)
    else if input = [slash, dot, dot] then loop n [slash] (dropSegment slash output)
    else if input = [dot] ∨ input = [dot, dot] then loop n [] output
    else loop n (input.drop (firstSegment slash input).length) (output ++ firstSegment slash input)

/-- Every turn of the loop shortens the input. -/
def removeDotSegments (path : List α) : List α := loop slash dot path.length path []

/-- What one segment does to the stack of those before it. -/
def push (stack : List (List α)) (seg : List α) : List (List α) :=
  if seg = [dot] then stack
  else if seg = [dot, dot] then stack.dropLast
  else stack ++ [seg]

/-- The segments of the resolved path. A dot segment in the last place leaves a
slash at the end. -/
def resolve (stack : List (List α)) : List (List α) → List (List α)
  | [] => stack
  | [seg] =>
    if seg = [dot] ∨ seg = [dot, dot] then push dot stack seg ++ [[]] else push dot stack seg
  | seg :: next :: rest => resolve (push dot stack seg) (next :: rest)

variable {slash dot}

theorem decide_ne_of_notMem {seg : List α} (plain : slash ∉ seg) :
    ∀ c ∈ seg, decide (c ≠ slash) = true := by
  intro c mem
  refine decide_eq_true ?_
  rintro rfl
  exact plain mem

theorem dropSegment_unsegment {stack : List (List α)} (clean : ∀ seg ∈ stack, slash ∉ seg) :
    dropSegment slash (unsegment slash stack) = unsegment slash stack.dropLast := by
  rcases stack.eq_nil_or_concat' with rfl | ⟨before, last, rfl⟩
  · rfl
  · have plain : slash ∉ last.reverse := fun mem => clean last (by simp) (List.mem_reverse.mp mem)
    simp only [dropSegment, unsegment_append, unsegment_cons, unsegment_nil, List.append_nil,
      List.reverse_append, List.reverse_cons, List.append_assoc, List.dropLast_concat]
    rw [List.dropWhile_append_of_pos (decide_ne_of_notMem plain)]
    simp

theorem firstSegment_unsegment {seg : List α} (plain : slash ∉ seg) (rest : List (List α)) :
    firstSegment slash (slash :: seg ++ unsegment slash rest) = slash :: seg := by
  simp only [List.cons_append, firstSegment]
  rw [List.takeWhile_append_of_pos (decide_ne_of_notMem plain)]
  cases rest <;> simp

theorem push_clean {stack : List (List α)} {seg : List α} (clean : ∀ s ∈ stack, slash ∉ s)
    (plain : slash ∉ seg) : ∀ s ∈ push dot stack seg, slash ∉ s := by
  unfold push
  split
  · exact clean
  · split
    · intro s mem
      exact clean s (List.mem_of_mem_dropLast mem)
    · intro s mem
      rcases List.mem_append.mp mem with old | new
      · exact clean s old
      · rw [List.mem_singleton.mp new]
        exact plain

omit [DecidableEq α] in
/-- An absolute path takes none of the branches for a relative one. -/
theorem absolute (distinct : slash ≠ dot) (tail : List α) :
    ¬ [dot, dot, slash] <+: slash :: tail ∧ ¬ [dot, slash] <+: slash :: tail ∧
      ¬ (slash :: tail = [dot] ∨ slash :: tail = [dot, dot]) := by
  simp [List.cons_prefix_cons, distinct, distinct.symm]

/-- The branches of a turn at the front of an absolute path that goes on behind
its first segment. -/
theorem loop_front (distinct : slash ≠ dot) {seg : List α} (plain : slash ∉ seg)
    (rest : List (List α)) (more : rest ≠ []) (n : Nat) (output : List α) :
    loop slash dot (n + 1) (slash :: seg ++ unsegment slash rest) output =
      if seg = [dot] then loop slash dot n (unsegment slash rest) output
      else if seg = [dot, dot] then
        loop slash dot n (unsegment slash rest) (dropSegment slash output)
      else loop slash dot n (unsegment slash rest) (output ++ slash :: seg) := by
  have free : slash ∉ [dot] ∧ slash ∉ [dot, dot] := by simp [distinct]
  have one : [slash, dot, slash] <+: slash :: seg ++ unsegment slash rest ↔ seg = [dot] :=
    (slash_prefix_closed free.1 plain rest).trans (and_iff_left more)
  have two : [slash, dot, dot, slash] <+: slash :: seg ++ unsegment slash rest ↔
      seg = [dot, dot] :=
    (slash_prefix_closed free.2 plain rest).trans (and_iff_left more)
  have longer (name : List α) (free : slash ∉ name) :
      slash :: seg ++ unsegment slash rest ≠ slash :: name := by
    obtain ⟨next, rest, rfl⟩ := List.exists_cons_of_ne_nil more
    intro same
    rw [List.cons_append, List.cons.injEq] at same
    refine free ?_
    rw [← same.2]
    simp
  obtain ⟨updots, updot, relative⟩ := absolute distinct (seg ++ unsegment slash rest)
  rw [← List.cons_append] at updots updot relative
  rw [loop, if_neg updots, if_neg updot, if_neg (longer _ free.1), if_neg (longer _ free.2),
    if_neg relative, firstSegment_unsegment plain, List.drop_left]
  simp only [one, two]
  split
  · rename_i here
    subst here
    rfl
  · split
    · rename_i here
      subst here
      rfl
    · rfl

/-- The same behind the last slash. -/
theorem loop_last (distinct : slash ≠ dot) {seg : List α} (plain : slash ∉ seg) (n : Nat)
    (output : List α) :
    loop slash dot (n + 1) (slash :: seg) output =
      if seg = [dot] then loop slash dot n [slash] output
      else if seg = [dot, dot] then loop slash dot n [slash] (dropSegment slash output)
      else loop slash dot n [] (output ++ slash :: seg) := by
  have free : slash ∉ [dot] ∧ slash ∉ [dot, dot] := by simp [distinct]
  have one : ¬ [slash, dot, slash] <+: slash :: seg := by
    simpa using slash_prefix_closed free.1 plain []
  have two : ¬ [slash, dot, dot, slash] <+: slash :: seg := by
    simpa using slash_prefix_closed free.2 plain []
  have first : firstSegment slash (slash :: seg) = slash :: seg := by
    simpa using firstSegment_unsegment plain []
  obtain ⟨updots, updot, relative⟩ := absolute distinct seg
  rw [loop, if_neg updots, if_neg updot, if_neg one, if_neg two, if_neg relative, first,
    List.drop_length]
  simp only [List.cons.injEq, true_and]

theorem loop_nil (n : Nat) (output : List α) : loop slash dot n [] output = output := by
  induction n generalizing output with
  | zero => rfl
  | succ n ih => simp [loop, firstSegment, ih]

theorem loop_slash (n : Nat) (distinct : slash ≠ dot) (output : List α) :
    loop slash dot (n + 1) [slash] output = output ++ [slash] := by
  rw [loop_last distinct List.not_mem_nil, if_neg nofun, if_neg nofun, loop_nil]

/-- **The routine is a stack.** On the segments of an absolute path the output
buffer is the path of the stack. -/
theorem loop_unsegment (distinct : slash ≠ dot) {segs : List (List α)}
    (clean : ∀ s ∈ segs, slash ∉ s) {stack : List (List α)} (kept : ∀ s ∈ stack, slash ∉ s)
    {n : Nat} (fuel : (unsegment slash segs).length ≤ n) :
    loop slash dot n (unsegment slash segs) (unsegment slash stack) =
      unsegment slash (resolve dot stack segs) := by
  induction segs generalizing stack n with
  | nil => exact loop_nil n _
  | cons seg rest ih =>
    have plain := clean seg List.mem_cons_self
    have others : ∀ s ∈ rest, slash ∉ s := fun s mem => clean s (List.mem_cons_of_mem seg mem)
    simp only [unsegment_cons, List.length_append, List.length_cons] at fuel
    obtain ⟨n, rfl⟩ := Nat.exists_eq_succ_of_ne_zero (show n ≠ 0 by omega)
    cases rest with
    | nil =>
      rw [unsegment_cons, unsegment_nil, List.append_nil, loop_last distinct plain]
      simp only [resolve, push]
      by_cases one : seg = [dot]
      · subst one
        obtain ⟨k, rfl⟩ := Nat.exists_eq_succ_of_ne_zero (show n ≠ 0 by simp at fuel; omega)
        simp [loop_slash, distinct]
      · by_cases two : seg = [dot, dot]
        · subst two
          obtain ⟨k, rfl⟩ := Nat.exists_eq_succ_of_ne_zero (show n ≠ 0 by simp at fuel; omega)
          simp [loop_slash, distinct, dropSegment_unsegment kept]
        · simp [one, two, loop_nil]
    | cons next rest =>
      rw [unsegment_cons, loop_front distinct plain _ (by simp)]
      have cleaned : ∀ s ∈ push dot stack seg, slash ∉ s := push_clean kept plain
      have step := ih others cleaned (n := n) (by omega)
      rw [resolve, ← step]
      unfold push
      split
      · rfl
      · split
        · rw [dropSegment_unsegment kept]
        · simp

theorem removeDotSegments_unsegment (distinct : slash ≠ dot) {segs : List (List α)}
    (clean : ∀ s ∈ segs, slash ∉ s) :
    removeDotSegments slash dot (unsegment slash segs) =
      unsegment slash (resolve dot [] segs) := by
  have kept : ∀ s ∈ ([] : List (List α)), slash ∉ s := by simp
  exact loop_unsegment distinct clean kept (le_refl _)

end

/-! ## Behind the root -/

section

variable [DecidableEq α] (dot : α)

/-- What follows the last segment after which the stack is empty. `since` are
the segments behind the last such one so far. -/
def behindRoot (stack since : List (List α)) : List (List α) → List (List α)
  | [] => since
  | seg :: rest =>
    if push dot stack seg = [] then behindRoot [] [] rest
    else behindRoot (push dot stack seg) (since ++ [seg]) rest

/-- No segment empties the stack. -/
def NeverAtRoot (stack : List (List α)) : List (List α) → Prop
  | [] => True
  | seg :: rest => push dot stack seg ≠ [] ∧ NeverAtRoot (push dot stack seg) rest

variable {dot}

theorem neverAtRoot_snoc {stack since : List (List α)} {seg : List α} :
    NeverAtRoot dot stack (since ++ [seg]) ↔
      NeverAtRoot dot stack since ∧ push dot (since.foldl (push dot) stack) seg ≠ [] := by
  induction since generalizing stack with
  | nil => simp [NeverAtRoot]
  | cons first since ih => simp only [List.cons_append, NeverAtRoot, ih, List.foldl_cons, and_assoc]

theorem resolve_append (stack since : List (List α)) {segs : List (List α)} (more : segs ≠ []) :
    resolve dot stack (since ++ segs) = resolve dot (since.foldl (push dot) stack) segs := by
  induction since generalizing stack with
  | nil => rfl
  | cons first since ih =>
    obtain ⟨next, rest, cons⟩ :=
      List.exists_cons_of_ne_nil (l := since ++ segs) (by simp [more])
    rw [List.cons_append, cons, resolve, ← cons, ih, List.foldl_cons]

theorem push_eq_nil {stack : List (List α)} {seg : List α} (empty : push dot stack seg = []) :
    seg = [dot] ∨ seg = [dot, dot] := by
  unfold push at empty
  split at empty
  · rename_i one
    exact .inl one
  · split at empty
    · rename_i two
      exact .inr two
    · simp at empty

/-- What is behind the root never returns there, and it alone decides what the
path resolves to. -/
theorem behindRoot_spec {since segs : List (List α)} (never : NeverAtRoot dot [] since)
    (some : segs ≠ []) :
    NeverAtRoot dot [] (behindRoot dot (since.foldl (push dot) []) since segs) ∧
    resolve dot [] (since ++ segs) =
      if behindRoot dot (since.foldl (push dot) []) since segs = [] then [[]]
      else resolve dot [] (behindRoot dot (since.foldl (push dot) []) since segs) := by
  induction segs generalizing since with
  | nil => exact absurd rfl some
  | cons seg rest ih =>
    rw [behindRoot]
    by_cases empty : push dot (since.foldl (push dot) []) seg = []
    · rw [if_pos empty]
      cases rest with
      | nil =>
        refine ⟨trivial, ?_⟩
        rw [resolve_append _ _ (by simp), resolve, if_pos (push_eq_nil empty), empty]
        rfl
      | cons next rest =>
        have fresh : NeverAtRoot dot [] ([] : List (List α)) := trivial
        obtain ⟨quiet, leads⟩ := ih fresh (by simp)
        refine ⟨quiet, ?_⟩
        rw [resolve_append _ _ (by simp), resolve, empty]
        exact leads
    · rw [if_neg empty]
      have grown : (since ++ [seg]).foldl (push dot) [] =
          push dot (since.foldl (push dot) []) seg := by
        rw [List.foldl_append, List.foldl_cons, List.foldl_nil]
      have still := neverAtRoot_snoc.mpr ⟨never, empty⟩
      cases rest with
      | nil =>
        refine ⟨still, ?_⟩
        simp [behindRoot]
      | cons next rest =>
        have step := ih still (by simp)
        rw [grown, List.append_assoc, List.singleton_append] at step
        exact step

theorem mem_behindRoot {stack since segs : List (List α)} {seg : List α}
    (mem : seg ∈ behindRoot dot stack since segs) : seg ∈ since ∨ seg ∈ segs := by
  induction segs generalizing stack since with
  | nil => exact .inl mem
  | cons next rest ih =>
    rw [behindRoot] at mem
    split at mem
    · rcases ih mem with none | there
      · cases none
      · exact .inr (List.mem_cons_of_mem next there)
    · rcases ih mem with here | there
      · rcases List.mem_append.mp here with old | new
        · exact .inl old
        · rw [List.mem_singleton.mp new]
          exact .inr List.mem_cons_self
      · exact .inr (List.mem_cons_of_mem next there)

/-- A stack that is not emptied keeps its first name. -/
theorem push_head {first seg : List α} {stack : List (List α)}
    (kept : push dot (first :: stack) seg ≠ []) :
    ∃ more, push dot (first :: stack) seg = first :: more := by
  unfold push at kept ⊢
  split
  · exact ⟨stack, rfl⟩
  · split
    · rename_i one two
      rw [if_neg one, if_pos two] at kept
      cases stack with
      | nil => simp at kept
      | cons second stack => exact ⟨(second :: stack).dropLast, rfl⟩
    · exact ⟨stack ++ [seg], rfl⟩

theorem resolve_head {first : List α} {stack segs : List (List α)}
    (never : NeverAtRoot dot (first :: stack) segs) (some : segs ≠ []) :
    ∃ next more, resolve dot (first :: stack) segs = first :: next :: more := by
  induction segs generalizing stack with
  | nil => exact absurd rfl some
  | cons seg rest ih =>
    obtain ⟨kept, never⟩ := never
    obtain ⟨more, pushed⟩ := push_head kept
    cases rest with
    | nil =>
      rw [resolve]
      by_cases dots : seg = [dot] ∨ seg = [dot, dot]
      · rw [if_pos dots, pushed]
        cases more with
        | nil => exact ⟨[], [], rfl⟩
        | cons second more => exact ⟨second, more ++ [[]], rfl⟩
      · obtain ⟨one, two⟩ := not_or.mp dots
        rw [if_neg dots, push, if_neg one, if_neg two]
        cases stack with
        | nil => exact ⟨seg, [], rfl⟩
        | cons second stack => exact ⟨second, stack ++ [seg], rfl⟩
    | cons next rest =>
      rw [resolve, pushed]
      rw [pushed] at never
      exact ih never (by simp)

/-- What never returns to the root resolves to a path with the same first name,
which ends there only if it did before. -/
theorem resolve_first {rest : List (List α)} (never : NeverAtRoot dot [] rest) (some : rest ≠ []) :
    ∃ first more others, rest = first :: others ∧ resolve dot [] rest = first :: more ∧
      (more = [] ↔ others = []) := by
  obtain ⟨first, others, rfl⟩ := List.exists_cons_of_ne_nil some
  obtain ⟨kept, never⟩ := never
  have single : push dot [] first = [first] := by
    unfold push at kept ⊢
    split
    · rename_i one
      simp [one] at kept
    · split
      · rename_i one two
        simp [two] at kept
      · rfl
  cases others with
  | nil =>
    refine ⟨first, [], [], rfl, ?_, Iff.rfl⟩
    have named : ¬ (first = [dot] ∨ first = [dot, dot]) := by
      rintro (rfl | rfl) <;> simp [push] at kept
    rw [resolve, if_neg named, single]
  | cons next others =>
    rw [single] at never
    obtain ⟨second, more, leads⟩ := resolve_head never (by simp)
    refine ⟨first, second :: more, next :: others, rfl, ?_, by simp⟩
    rw [resolve, single, leads]

variable {slash : α}

/-- **Where an absolute path leads** is decided behind the root. -/
theorem removeDotSegments_behindRoot (distinct : slash ≠ dot) (body : List α) :
    removeDotSegments slash dot (slash :: body) =
      if behindRoot dot [] [] (body.splitOn slash) = [] then [slash]
      else removeDotSegments slash dot
        (unsegment slash (behindRoot dot [] [] (body.splitOn slash))) := by
  have clean : ∀ seg ∈ body.splitOn slash, slash ∉ seg := not_mem_splitOn body
  have rest : ∀ s ∈ behindRoot dot [] [] (body.splitOn slash), slash ∉ s := by
    intro s mem
    exact clean s ((mem_behindRoot mem).resolve_left List.not_mem_nil)
  have fresh : NeverAtRoot dot [] ([] : List (List α)) := trivial
  obtain ⟨-, leads⟩ := behindRoot_spec fresh (List.splitOn_ne_nil slash body)
  rw [List.nil_append, List.foldl_nil] at leads
  have segments : unsegment slash (body.splitOn slash) = slash :: body := unsegment_splitOn body
  rw [← segments, removeDotSegments_unsegment distinct clean,
    removeDotSegments_unsegment distinct rest, leads]
  split <;> rfl

/-- It starts with a plain prefix exactly when what is behind the root does. -/
theorem prefix_removeDotSegments (distinct : slash ≠ dot) {start : List α}
    (plain : Plain slash start) (body : List α) :
    start <+: removeDotSegments slash dot (slash :: body) ↔
      start <+: unsegment slash (behindRoot dot [] [] (body.splitOn slash)) := by
  have clean : ∀ seg ∈ body.splitOn slash, slash ∉ seg := not_mem_splitOn body
  have fresh : NeverAtRoot dot [] ([] : List (List α)) := trivial
  obtain ⟨never, -⟩ := behindRoot_spec fresh (List.splitOn_ne_nil slash body)
  rw [List.foldl_nil] at never
  rw [removeDotSegments_behindRoot distinct]
  by_cases none : behindRoot dot [] [] (body.splitOn slash) = []
  · rw [if_pos none, none]
    obtain ⟨name, some, free, rfl | rfl⟩ := plain
    · simp [List.cons_prefix_cons, some]
    · simp [List.cons_prefix_cons]
  · have rest : ∀ s ∈ behindRoot dot [] [] (body.splitOn slash), slash ∉ s := by
      intro s mem
      exact clean s ((mem_behindRoot mem).resolve_left List.not_mem_nil)
    obtain ⟨first, more, others, split, leads, ends⟩ := resolve_first never none
    rw [if_neg none, removeDotSegments_unsegment distinct rest, leads, split]
    exact plain_prefix plain (rest first (by rw [split]; exact List.mem_cons_self)) ends

end

end DotSegments
