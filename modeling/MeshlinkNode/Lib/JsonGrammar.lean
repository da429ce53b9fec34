import Mathlib.Data.List.Basic

/-!
# The JSON grammar

The texts of the standard, as lists of code points: what a writer of JSON has
to produce whatever it writes. Python's `NaN`, `Infinity` and `-Infinity` are
not among them. A writer shows its numbers and characters well formed, and puts
its values together by the constructors.
-/

namespace JsonGrammar

def Ws (s : List Nat) : Prop := ∀ c ∈ s, c = 0x20 ∨ c = 0x09 ∨ c = 0x0a ∨ c = 0x0d

def Digit (c : Nat) : Prop := 48 ≤ c ∧ c ≤ 57

def HexDigit (c : Nat) : Prop := Digit c ∨ (65 ≤ c ∧ c ≤ 70) ∨ (97 ≤ c ∧ c ≤ 102)

def Digits (s : List Nat) : Prop := s ≠ [] ∧ ∀ c ∈ s, Digit c

/-! ## Numbers -/

/-- No leading zero. -/
inductive IntPart : List Nat → Prop where
  | zero : IntPart [48]
  | nonzero {d : Nat} {rest : List Nat} : 49 ≤ d → d ≤ 57 → (∀ c ∈ rest, Digit c) →
      IntPart (d :: rest)

inductive Frac : List Nat → Prop where
  | absent : Frac []
  | digits {ds : List Nat} : Digits ds → Frac (46 :: ds)

inductive Exp : List Nat → Prop where
  | absent : Exp []
  | digits {e : Nat} {sign ds : List Nat} : e = 101 ∨ e = 69 →
      sign = [] ∨ sign = [43] ∨ sign = [45] → Digits ds → Exp (e :: (sign ++ ds))

inductive Number : List Nat → Prop where
  | mk {minus int frac exp : List Nat} : minus = [] ∨ minus = [45] → IntPart int → Frac frac →
      Exp exp → Number (minus ++ int ++ frac ++ exp)

/-! ## Values -/

/-- What stands between a string's quotes. -/
inductive Chars : List Nat → Prop where
  | nil : Chars []
  | plain {c : Nat} {rest : List Nat} : 0x20 ≤ c → c ≠ 34 → c ≠ 92 → c ≤ 0x10ffff →
      Chars rest → Chars (c :: rest)
  | escape {c : Nat} {rest : List Nat} : c ∈ [34, 92, 47, 98, 102, 110, 114, 116] →
      Chars rest → Chars (92 :: c :: rest)
  | unicode {digits rest : List Nat} : digits.length = 4 → (∀ c ∈ digits, HexDigit c) →
      Chars rest → Chars (92 :: 117 :: (digits ++ rest))

mutual

inductive Value : List Nat → Prop where
  | null : Value [110, 117, 108, 108]
  | true : Value [116, 114, 117, 101]
  | false : Value [102, 97, 108, 115, 101]
  | number {s : List Nat} : Number s → Value s
  | string {s : List Nat} : Chars s → Value (34 :: (s ++ [34]))
  | emptyArray {w : List Nat} : Ws w → Value (91 :: (w ++ [93]))
  | array {s : List Nat} : Elements s → Value (91 :: (s ++ [93]))
  | object {s : List Nat} : Object s → Value s

inductive Object : List Nat → Prop where
  | empty {w : List Nat} : Ws w → Object (123 :: (w ++ [125]))
  | members {s : List Nat} : Members s → Object (123 :: (s ++ [125]))

inductive Elements : List Nat → Prop where
  | one {w v w' : List Nat} : Ws w → Value v → Ws w' → Elements (w ++ v ++ w')
  | more {w v w' rest : List Nat} : Ws w → Value v → Ws w' → Elements rest →
      Elements (w ++ v ++ w' ++ 44 :: rest)

/-- A member is a name in quotes, a colon and a value. -/
inductive Members : List Nat → Prop where
  | one {w k w' w'' v w''' : List Nat} : Ws w → Chars k → Ws w' → Ws w'' → Value v → Ws w''' →
      Members (w ++ 34 :: (k ++ 34 :: (w' ++ 58 :: (w'' ++ v ++ w'''))))
  | more {w k w' w'' v w''' rest : List Nat} : Ws w → Chars k → Ws w' → Ws w'' → Value v →
      Ws w''' → Members rest →
      Members (w ++ 34 :: (k ++ 34 :: (w' ++ 58 :: (w'' ++ v ++ w''' ++ 44 :: rest))))

end

/-- A text is a value between white space; here an object. -/
def ObjectText (s : List Nat) : Prop := ∃ w v w', Ws w ∧ Object v ∧ Ws w' ∧ s = w ++ v ++ w'

/-! ## Rules for writers -/

theorem Ws.nil : Ws [] := by
  intro c mem
  cases mem

theorem IntPart.ne_nil {s : List Nat} (h : IntPart s) : s ≠ [] := by
  cases h with
  | zero => exact List.cons_ne_nil _ _
  | nonzero => exact List.cons_ne_nil _ _

theorem IntPart.snoc {s : List Nat} {d : Nat} (h : IntPart s) (positive : s ≠ [48])
    (digit : Digit d) : IntPart (s ++ [d]) := by
  cases h with
  | zero => exact absurd rfl positive
  | nonzero low high digits =>
    refine .nonzero low high ?_
    intro c mem
    rcases List.mem_append.mp mem with here | last
    · exact digits c here
    · rwa [List.mem_singleton.mp last]

theorem IntPart.number {s : List Nat} (h : IntPart s) : Number s := by
  simpa using Number.mk (.inl rfl) h .absent .absent

theorem IntPart.negative {s : List Nat} (h : IntPart s) : Number (45 :: s) := by
  simpa using Number.mk (.inr rfl) h .absent .absent

theorem Chars.append {s t : List Nat} (h : Chars s) (h' : Chars t) : Chars (s ++ t) := by
  induction h with
  | nil => exact h'
  | plain low quote slash high _ ih => exact .plain low quote slash high ih
  | escape known _ ih => exact .escape known ih
  | unicode four hex _ ih =>
    rw [List.cons_append, List.cons_append, List.append_assoc]
    exact .unicode four hex ih

theorem Digits.ascii {s : List Nat} (h : Digits s) : ∀ c ∈ s, c < 128 := by
  intro c mem
  obtain ⟨low, high⟩ := h.2 c mem
  omega

/-- A number is written in ASCII. -/
theorem Number.ascii {s : List Nat} (h : Number s) : ∀ c ∈ s, c < 128 := by
  cases h with
  | mk minus int frac exp =>
    simp only [List.forall_mem_append]
    refine ⟨⟨⟨?_, ?_⟩, ?_⟩, ?_⟩
    · rcases minus with rfl | rfl <;> simp
    · cases int with
      | zero => simp
      | nonzero low high digits =>
        refine List.forall_mem_cons.mpr ⟨by omega, ?_⟩
        intro c mem
        have := (digits c mem).2
        omega
    · cases frac with
      | absent => simp
      | digits ds => exact List.forall_mem_cons.mpr ⟨by decide, ds.ascii⟩
    · cases exp with
      | absent => simp
      | digits mark sign ds =>
        refine List.forall_mem_cons.mpr ⟨by omega, List.forall_mem_append.mpr ⟨?_, ds.ascii⟩⟩
        rcases sign with rfl | rfl | rfl <;> simp

end JsonGrammar
