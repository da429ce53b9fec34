import Mathlib.Data.List.Basic
import Mathlib.Tactic.TypeStar

/-!
# The lines of a text

A text is cut at one separator (`List.splitOn`, with an empty piece behind the
last one), or at every character of a kind (`splitLines`, with none), where two
characters in a row may be one break. Lines that hold no break are what both
find in their `unlines`.
-/

namespace Lines

variable {α : Type*}

/-- The lines, each closed by `stop`. -/
def unlines (stop : α) (lines : List (List α)) : List α := lines.flatMap (· ++ [stop])

@[simp] theorem unlines_nil (stop : α) : unlines stop [] = [] := rfl

@[simp] theorem unlines_cons (stop : α) (line : List α) (lines : List (List α)) :
    unlines stop (line :: lines) = line ++ stop :: unlines stop lines := by
  simp [unlines]

/-- One more character of the first line. -/
def prepend (c : α) : List (List α) → List (List α)
  | [] => [[c]]
  | line :: lines => (c :: line) :: lines

/-- The lines of a text, without what breaks them: a character of the kind `brk`,
or a pair of characters. -/
def splitLines (brk : α → Bool) (pair : α → α → Bool) : List α → List (List α)
  | [] => []
  | [c] => if brk c then [[]] else [[c]]
  | c :: d :: rest =>
    if pair c d then [] :: splitLines brk pair rest
    else if brk c then [] :: splitLines brk pair (d :: rest)
    else prepend c (splitLines brk pair (d :: rest))

variable {brk : α → Bool} {pair : α → α → Bool}

/-- A line holds no break. -/
def Unbroken (brk : α → Bool) (line : List α) : Prop := ∀ c ∈ line, brk c = false

instance (line : List α) : Decidable (Unbroken brk line) :=
  inferInstanceAs (Decidable (∀ c ∈ line, brk c = false))

@[simp] theorem unbroken_append {line more : List α} :
    Unbroken brk (line ++ more) ↔ Unbroken brk line ∧ Unbroken brk more :=
  List.forall_mem_append

theorem unbroken_prepend {c : α} {lines : List (List α)} (plain : brk c = false)
    (each : ∀ line ∈ lines, Unbroken brk line) : ∀ line ∈ prepend c lines, Unbroken brk line := by
  cases lines with
  | nil => simpa [prepend, Unbroken] using plain
  | cons first lines =>
    obtain ⟨here, later⟩ := List.forall_mem_cons.mp each
    exact List.forall_mem_cons.mpr ⟨List.forall_mem_cons.mpr ⟨plain, here⟩, later⟩

/-- No line that a text is cut into holds a break. -/
theorem unbroken_of_mem_splitLines (s : List α) :
    ∀ line ∈ splitLines brk pair s, Unbroken brk line := by
  fun_induction splitLines brk pair s with
  | case1 => simp
  | case2 c broken => simp [Unbroken]
  | case3 c plain => simpa [Unbroken] using plain
  | case4 c d rest paired ih => exact List.forall_mem_cons.mpr ⟨by simp [Unbroken], ih⟩
  | case5 c d rest unpaired broken ih => exact List.forall_mem_cons.mpr ⟨by simp [Unbroken], ih⟩
  | case6 c d rest unpaired plain ih =>
    exact unbroken_prepend (Bool.eq_false_iff.mpr plain) ih

/-- What cuts a text at `stop`, whatever follows: `stop` breaks a line, begins no
pair, and no pair begins with a character that is no break. -/
structure Stops (brk : α → Bool) (pair : α → α → Bool) (stop : α) : Prop where
  breaks : brk stop = true
  alone : ∀ d, pair stop d = false
  pairs : ∀ c d, pair c d = true → brk c = true

variable {stop : α}

theorem splitLines_stop (stops : Stops brk pair stop) (rest : List α) :
    splitLines brk pair (stop :: rest) = [] :: splitLines brk pair rest := by
  cases rest with
  | nil => simp [splitLines, stops.breaks]
  | cons d rest => simp [splitLines, stops.breaks, stops.alone]

theorem splitLines_plain (stops : Stops brk pair stop) {c : α} (plain : brk c = false)
    (rest : List α) :
    splitLines brk pair (c :: rest) = prepend c (splitLines brk pair rest) := by
  cases rest with
  | nil => simp [splitLines, plain, prepend]
  | cons d rest =>
    have unpaired : pair c d = false := by
      cases paired : pair c d with
      | false => rfl
      | true => exact absurd (stops.pairs c d paired) (by simp [plain])
    simp [splitLines, plain, unpaired]

theorem splitLines_append (stops : Stops brk pair stop) {line : List α}
    (plain : Unbroken brk line) (rest : List α) :
    splitLines brk pair (line ++ stop :: rest) = line :: splitLines brk pair rest := by
  induction line with
  | nil => exact splitLines_stop stops rest
  | cons c line ih =>
    obtain ⟨here, later⟩ := List.forall_mem_cons.mp plain
    rw [List.cons_append, splitLines_plain stops here, ih later, prepend]

/-- **Lines come back**, cut at every break. -/
theorem splitLines_unlines (stops : Stops brk pair stop) {lines : List (List α)}
    (plain : ∀ line ∈ lines, Unbroken brk line) :
    splitLines brk pair (unlines stop lines) = lines := by
  induction lines with
  | nil => rfl
  | cons line lines ih =>
    obtain ⟨here, later⟩ := List.forall_mem_cons.mp plain
    rw [unlines_cons, splitLines_append stops here, ih later]

/-- **Lines come back**, cut at the separator. -/
theorem splitOn_unlines [DecidableEq α] (stop : α) {lines : List (List α)}
    (plain : ∀ line ∈ lines, stop ∉ line) :
    (unlines stop lines).splitOn stop = lines ++ [[]] := by
  induction lines with
  | nil => rfl
  | cons line lines ih =>
    obtain ⟨here, later⟩ := List.forall_mem_cons.mp plain
    rw [unlines_cons, List.splitOn_append_cons_self_of_not_mem here, ih later, List.cons_append]

end Lines
