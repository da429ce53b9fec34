import Mathlib.Data.List.TakeDrop
import Mathlib.Tactic.TypeStar

/-!
# Draining a buffer into items

A receiver that gets a stream in arbitrary pieces keeps the unread bytes in a
buffer and, after each piece, takes complete items off its front until the
front is incomplete or corrupt. `Splitter` says what one look at the front
does and that more bytes never change its mind; `drain` is the receiver's
loop. `drain_append` is the fact behind every property of reassembly: it does
not matter where the stream was cut.

A `Codec` adds the sender: an encoding whose images the splitter recognises
and whose proper prefixes it waits on. `drain_take` then computes what any
prefix of an encoded stream yields, and `Exact.drain_some_iff` and
`Exact.drain_none_iff` what any bytes do.
-/

namespace Drain

variable {β π : Type*}

/-- What the front of the buffer holds: nothing complete yet, a complete item
followed by `rest`, or something no further byte can repair. -/
inductive Front (β π : Type*) where
  | wait
  | item (p : π) (rest : List β)
  | corrupt
  deriving DecidableEq

structure Splitter (β π : Type*) where
  front : List β → Front β π
  shorter : ∀ {b p r}, front b = .item p r → r.length < b.length
  item_append : ∀ {b p r} d, front b = .item p r → front (b ++ d) = .item p (r ++ d)
  corrupt_append : ∀ {b} d, front b = .corrupt → front (b ++ d) = .corrupt

variable (S : Splitter β π)

/-- Take items off the front until it waits (the residue is kept) or is
corrupt (`none`). -/
def drain (b : List β) : List π × Option (List β) :=
  match _front : S.front b with
  | .wait => ([], some b)
  | .corrupt => ([], none)
  | .item p r => let d := drain r; (p :: d.1, d.2)
termination_by b.length
decreasing_by exact S.shorter _front

variable {S}

theorem drain_wait {b : List β} (h : S.front b = .wait) : drain S b = ([], some b) := by
  rw [drain]; split <;> simp_all

theorem drain_corrupt {b : List β} (h : S.front b = .corrupt) : drain S b = ([], none) := by
  rw [drain]; split <;> simp_all

theorem drain_item {b r : List β} {p : π} (h : S.front b = .item p r) :
    drain S b = (p :: (drain S r).1, (drain S r).2) := by
  rw [drain]; split <;> simp_all

/-- A residue is a buffer the loop has nothing more to do with. -/
theorem drain_residue {b r : List β} (h : (drain S b).2 = some r) : S.front r = .wait := by
  induction b using drain.induct S with
  | case1 b hb => rw [drain_wait hb] at h; cases h; exact hb
  | case2 b hb => rw [drain_corrupt hb] at h; cases h
  | case3 b p s hb ih => rw [drain_item hb] at h; exact ih h

/-- **Cuts do not matter.** Draining a buffer, then its residue with the next
piece, takes off what draining both at once takes off. -/
theorem drain_append {b r : List β} {ps : List π} (d : List β)
    (h : drain S b = (ps, some r)) :
    drain S (b ++ d) = (ps ++ (drain S (r ++ d)).1, (drain S (r ++ d)).2) := by
  induction b using drain.induct S generalizing ps with
  | case1 b hb => rw [drain_wait hb] at h; cases h; simp
  | case2 b hb => rw [drain_corrupt hb] at h; cases h
  | case3 b p s hb ih =>
    rw [drain_item hb] at h
    obtain ⟨rfl, hr⟩ := Prod.mk.injEq .. ▸ h
    have hs : drain S s = ((drain S s).1, some r) := by rw [← hr]
    rw [drain_item (S.item_append d hb), ih hs]
    simp

theorem drain_append_corrupt {b : List β} {ps : List π} (d : List β)
    (h : drain S b = (ps, none)) : drain S (b ++ d) = (ps, none) := by
  induction b using drain.induct S generalizing ps with
  | case1 b hb => rw [drain_wait hb] at h; cases h
  | case2 b hb =>
    rw [drain_corrupt hb] at h
    rw [drain_corrupt (S.corrupt_append d hb)]; exact h
  | case3 b p s hb ih =>
    rw [drain_item hb] at h
    obtain ⟨rfl, hr⟩ := Prod.mk.injEq .. ▸ h
    have hs : drain S s = ((drain S s).1, none) := by rw [← hr]
    rw [drain_item (S.item_append d hb), ih hs]

/-! ## Encoded streams -/

/-- A splitter with the encoding it undoes, for the items that satisfy `Fits`. -/
structure Codec (β π : Type*) extends Splitter β π where
  enc : π → List β
  Fits : π → Prop
  front_nil : front [] = .wait
  front_enc : ∀ {p} r, Fits p → front (enc p ++ r) = .item p r
  front_partial : ∀ {p b}, Fits p → b <+: enc p → b ≠ enc p → front b = .wait

variable (C : Codec β π)

/-- The encodings of the items, one after another. -/
def Codec.stream (ps : List π) : List β := ps.flatMap C.enc

@[simp] theorem Codec.stream_nil : C.stream [] = [] := rfl

@[simp] theorem Codec.stream_cons (p : π) (ps : List π) :
    C.stream (p :: ps) = C.enc p ++ C.stream ps := rfl

@[simp] theorem Codec.stream_append (ps qs : List π) :
    C.stream (ps ++ qs) = C.stream ps ++ C.stream qs := by
  simp [Codec.stream]

/-- How many of the items have their last byte within the first `n`. -/
def Codec.complete : List π → Nat → Nat
  | [], _ => 0
  | p :: ps, n =>
    if (C.enc p).length ≤ n then Codec.complete ps (n - (C.enc p).length) + 1 else 0

variable {C}

theorem Codec.lt_complete_iff (ps : List π) (n j : Nat) :
    j < C.complete ps n ↔ j < ps.length ∧ (C.stream (ps.take (j + 1))).length ≤ n := by
  induction ps generalizing n j with
  | nil => simp [Codec.complete]
  | cons p ps ih =>
    by_cases fits : (C.enc p).length ≤ n
    · cases j with
      | zero => simp [Codec.complete, fits]
      | succ j =>
        simp only [Codec.complete, fits, if_true, Nat.add_lt_add_iff_right, ih,
          List.length_cons, List.take_succ_cons, Codec.stream_cons, List.length_append]
        omega
    · simp only [Codec.complete, fits, if_false, Nat.not_lt_zero, List.take_succ_cons,
        Codec.stream_cons, List.length_append, false_iff, not_and]
      intro _
      omega

/-- All the items are complete exactly when all their bytes are there. -/
theorem Codec.take_complete (ps : List π) (n : Nat) :
    ps.take (C.complete ps n) = ps ↔ (C.stream ps).length ≤ n := by
  cases ps with
  | nil => simp
  | cons p ps =>
    have last := Codec.lt_complete_iff (C := C) (p :: ps) n ps.length
    have whole : (p :: ps).take (ps.length + 1) = p :: ps := List.take_of_length_le (by simp)
    rw [whole, List.length_cons] at last
    rw [List.take_eq_self_iff, List.length_cons, ← Nat.lt_iff_add_one_le, last]
    simp

theorem drain_stream_append {ps : List π} (hps : ∀ p ∈ ps, C.Fits p) (d : List β) :
    drain C.toSplitter (C.stream ps ++ d) =
      (ps ++ (drain C.toSplitter d).1, (drain C.toSplitter d).2) := by
  induction ps with
  | nil => simp
  | cons p ps ih =>
    rw [Codec.stream_cons, List.append_assoc,
      drain_item (C.front_enc _ (hps p List.mem_cons_self)),
      ih (fun q hq => hps q (List.mem_cons_of_mem p hq))]
    rfl

/-- **What a prefix yields.** The first `n` bytes of an encoded stream give the
items complete within them, and a residue. -/
theorem drain_take {ps : List π} (hps : ∀ p ∈ ps, C.Fits p)
    (n : Nat) :
    ∃ r, drain C.toSplitter ((C.stream ps).take n) = (ps.take (C.complete ps n), some r) := by
  induction ps generalizing n with
  | nil => exact ⟨[], by simpa using drain_wait C.front_nil⟩
  | cons p ps ih =>
    have hp := hps p List.mem_cons_self
    obtain ⟨r, hr⟩ := ih (fun q hq => hps q (List.mem_cons_of_mem p hq)) (n - (C.enc p).length)
    by_cases fits : (C.enc p).length ≤ n
    · refine ⟨r, ?_⟩
      rw [Codec.stream_cons, List.take_append, List.take_of_length_le fits,
        drain_item (C.front_enc _ hp), hr]
      simp [Codec.complete, fits]
    · have cut : (C.stream (p :: ps)).take n = (C.enc p).take n := by
        rw [Codec.stream_cons, List.take_append_of_le_length (by omega)]
      have proper : (C.enc p).take n ≠ C.enc p := by
        intro same
        have := congrArg List.length same
        simp only [List.length_take] at this
        omega
      refine ⟨(C.enc p).take n, ?_⟩
      rw [cut, drain_wait (C.front_partial hp (List.take_prefix _ _) proper)]
      simp [Codec.complete, fits]

/-! ## Arbitrary bytes -/

/-- The splitter takes off nothing but encodings. -/
def Codec.Exact (C : Codec β π) : Prop :=
  ∀ {b r p}, C.front b = .item p r → C.Fits p ∧ b = C.enc p ++ r

/-- What any bytes drain to are the encodings at their front, and what is left. -/
theorem Codec.Exact.decomposes (only : C.Exact) {b : List β} {ps : List π}
    {left : Option (List β)} (h : drain C.toSplitter b = (ps, left)) :
    (∀ p ∈ ps, C.Fits p) ∧ ∃ rest, b = C.stream ps ++ rest ∧
      (left = some rest ∧ C.front rest = .wait ∨ left = none ∧ C.front rest = .corrupt) := by
  induction b using drain.induct C.toSplitter generalizing ps with
  | case1 b waits =>
    rw [drain_wait waits] at h
    cases h
    exact ⟨by simp, b, rfl, .inl ⟨rfl, waits⟩⟩
  | case2 b corrupt =>
    rw [drain_corrupt corrupt] at h
    cases h
    exact ⟨by simp, b, rfl, .inr ⟨rfl, corrupt⟩⟩
  | case3 b p r found ih =>
    rw [drain_item found] at h
    obtain ⟨rfl, rfl⟩ := Prod.mk.injEq .. ▸ h
    obtain ⟨fits, rfl⟩ := only found
    obtain ⟨all, rest, split, ends⟩ := ih rfl
    refine ⟨by simpa using ⟨fits, all⟩, rest, ?_, ends⟩
    rw [Codec.stream_cons, List.append_assoc, ← split]

/-- **Draining arbitrary bytes.** The items taken are those of the one way to
read the bytes as encodings, up to where the front is incomplete. -/
theorem Codec.Exact.drain_some_iff (only : C.Exact) {b rest : List β} {ps : List π} :
    drain C.toSplitter b = (ps, some rest) ↔
      (∀ p ∈ ps, C.Fits p) ∧ b = C.stream ps ++ rest ∧ C.front rest = .wait := by
  constructor
  · intro h
    obtain ⟨all, left, split, ⟨same, waits⟩ | ⟨none, -⟩⟩ := only.decomposes h
    · cases same
      exact ⟨all, split, waits⟩
    · cases none
  · rintro ⟨all, rfl, waits⟩
    rw [drain_stream_append all, drain_wait waits, List.append_nil]

/-- The same where the front is corrupt. -/
theorem Codec.Exact.drain_none_iff (only : C.Exact) {b : List β} {ps : List π} :
    drain C.toSplitter b = (ps, none) ↔
      (∀ p ∈ ps, C.Fits p) ∧ ∃ rest, b = C.stream ps ++ rest ∧ C.front rest = .corrupt := by
  constructor
  · intro h
    obtain ⟨all, left, split, ⟨same, -⟩ | ⟨-, corrupt⟩⟩ := only.decomposes h
    · cases same
    · exact ⟨all, left, split, corrupt⟩
  · rintro ⟨all, rest, rfl, corrupt⟩
    rw [drain_stream_append all, drain_corrupt corrupt, List.append_nil]

end Drain
