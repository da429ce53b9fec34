import MeshlinkNode.Framing

/-!
# Reassembly of arbitrary bytes

Nothing makes a peer send frames. Whatever bytes arrive, `feed` takes off the
frames at their front and keeps less than a frame, or it meets a length beyond
`MAX_FRAME`, raises and clears the buffer.
-/

namespace MeshlinkNode

open Drain (drain)

theorem lengthPrefix_announced (hi lo : UInt8) : lengthPrefix (announced hi lo) = [hi, lo] := by
  have low := lo.toNat_lt
  have quotient : announced hi lo / 256 = hi.toNat := by
    unfold announced
    omega
  have top : UInt8.ofNat (announced hi lo / 256) = hi := by rw [quotient, UInt8.ofNat_toNat]
  have bottom : UInt8.ofNat (announced hi lo) = lo := by
    apply UInt8.toNat_inj.mp
    rw [UInt8.toNat_ofNat', announced]
    omega
  rw [lengthPrefix, top, bottom]

/-- The loop takes off nothing but frames. -/
theorem frames_exact : frames.Exact := by
  intro b r p found
  obtain ⟨hi, lo, body, rfl, fits, whole, rfl, rfl⟩ := FrameAssembler.front_item found
  have length : (body.take (announced hi lo)).length = announced hi lo :=
    List.length_take_of_le whole
  refine ⟨?_, ?_⟩
  · rw [← length] at fits
    exact fits
  · change _ = (lengthPrefix _ ++ _) ++ _
    rw [length, lengthPrefix_announced, List.append_assoc, List.take_append_drop]
    rfl

/-- Less than a length, or less than the frame whose length it begins with. -/
def Residue (buf : Bytes) : Prop :=
  buf.length < 2 ∨ ∃ packet framed, packet.length ≤ MAX_FRAME ∧ frame packet = .ok framed ∧
    buf <+: framed ∧ buf ≠ framed

/-- The bytes begin with a length beyond `MAX_FRAME`. -/
def Oversized (buf : Bytes) : Prop :=
  ∃ hi lo body, buf = hi :: lo :: body ∧ MAX_FRAME < announced hi lo

/-- The bytes are the frames of the packets, then `rest`. -/
def Decomposes (stream : Bytes) (packets : List Bytes) (rest : Bytes) : Prop :=
  (∀ p ∈ packets, p.length ≤ MAX_FRAME) ∧
    ∃ framed, packets.mapM frame = .ok framed ∧ stream = framed.flatten ++ rest

theorem Residue.length {buf : Bytes} (h : Residue buf) : buf.length ≤ MAX_FRAME + 1 := by
  rcases h with short | ⟨packet, framed, fits, framing, pre, proper⟩
  · unfold MAX_FRAME
    omega
  · obtain ⟨-, rfl⟩ := frame_ok framing
    have shorter : buf.length < (frames.enc packet).length :=
      lt_of_le_of_ne pre.length_le fun same => proper (pre.eq_of_length same)
    have frame_length : (frames.enc packet).length = packet.length + 2 := by
      simp [frames, lengthPrefix]
    omega

theorem front_wait_iff (buf : Bytes) : FrameAssembler.front buf = .wait ↔ Residue buf := by
  constructor
  · intro waits
    match buf, waits with
    | [], _ => exact .inl (by decide)
    | [_], _ => exact .inl (by simp)
    | hi :: lo :: body, waits =>
      obtain ⟨fits, short⟩ : announced hi lo ≤ MAX_FRAME ∧ body.length < announced hi lo := by
        simp only [FrameAssembler.front] at waits
        split at waits
        · cases waits
        · split at waits
          · omega
          · cases waits
      -- the announced packet, the bytes that did not come being anything
      let packet := body ++ List.replicate (announced hi lo - body.length) 0
      have length : packet.length = announced hi lo := by
        simp only [packet, List.length_append, List.length_replicate]
        omega
      have framed : frames.enc packet = hi :: lo :: packet := by
        change lengthPrefix _ ++ _ = _
        rw [length, lengthPrefix_announced]
        rfl
      have fits' : packet.length ≤ MAX_FRAME := length ▸ fits
      refine .inr ⟨packet, _, fits', frame_fits fits', ?_, ?_⟩
      · rw [framed]
        exact ⟨List.replicate (announced hi lo - body.length) 0, rfl⟩
      · intro same
        have := congrArg List.length same
        simp only [framed, List.length_cons, length] at this
        omega
  · rintro (short | ⟨packet, framed, fits, framing, pre, proper⟩)
    · match buf, short with
      | [], _ => rfl
      | [_], _ => rfl
    · obtain ⟨-, rfl⟩ := frame_ok framing
      exact frames.front_partial fits pre proper

theorem front_corrupt_iff (buf : Bytes) :
    FrameAssembler.front buf = .corrupt ↔ Oversized buf := by
  constructor
  · exact FrameAssembler.front_corrupt
  · rintro ⟨hi, lo, body, rfl, big⟩
    simp only [FrameAssembler.front, if_pos big]

theorem decomposes_iff {stream rest : Bytes} {packets : List Bytes} :
    Decomposes stream packets rest ↔
      (∀ p ∈ packets, frames.Fits p) ∧ stream = frames.stream packets ++ rest := by
  constructor
  · rintro ⟨fits, framed, framing, split⟩
    rw [mapM_frame fits] at framing
    cases framing
    exact ⟨fits, by rw [split, Drain.Codec.stream, List.flatMap_def]⟩
  · rintro ⟨fits, split⟩
    exact ⟨fits, _, mapM_frame fits, by rw [split, Drain.Codec.stream, List.flatMap_def]⟩

namespace FrameAssembler

/-- What a call returns is a decomposition of all it has seen, and the only one. -/
theorem feed_ok_iff (a : FrameAssembler) (data : Bytes) (packets : List Bytes) (buf : Bytes) :
    a.feed data = (.ok packets, ⟨buf⟩) ↔
      Decomposes (a.buf ++ data) packets buf ∧ Residue buf := by
  have exactly : Drain.drain frames.toSplitter (a.buf ++ data) = (packets, some buf) ↔ _ :=
    frames_exact.drain_some_iff
  rw [decomposes_iff, ← front_wait_iff, and_assoc]
  refine Iff.trans ?_ exactly
  constructor
  · intro fed
    unfold feed at fed
    split at fed
    · rename_i ps left drained
      cases fed
      exact drained
    · cases fed
  · exact feed_ok

theorem feed_error_iff (a : FrameAssembler) (data : Bytes) :
    (a.feed data).1 = .error .valueError ↔
      ∃ packets rest, Decomposes (a.buf ++ data) packets rest ∧ Oversized rest := by
  constructor
  · intro raised
    cases drained : drain splitter (a.buf ++ data) with
    | mk packets left =>
      cases left with
      | some buf =>
        rw [feed_ok drained] at raised
        cases raised
      | none =>
        obtain ⟨fits, rest, split, corrupt⟩ := frames_exact.drain_none_iff.mp drained
        exact ⟨packets, rest, decomposes_iff.mpr ⟨fits, split⟩, (front_corrupt_iff rest).mp corrupt⟩
  · rintro ⟨packets, rest, decomposes, big⟩
    obtain ⟨fits, split⟩ := decomposes_iff.mp decomposes
    have drained := frames_exact.drain_none_iff.mpr
      ⟨fits, rest, split, (front_corrupt_iff rest).mpr big⟩
    rw [frames_toSplitter] at drained
    simp only [feed, drained]

/-- A call returns or raises, and what it keeps is a residue. -/
theorem feed_cases (a : FrameAssembler) (data : Bytes) :
    (∃ packets buf, a.feed data = (.ok packets, ⟨buf⟩) ∧ Residue buf) ∨
      a.feed data = (.error .valueError, fresh) := by
  cases drained : drain splitter (a.buf ++ data) with
  | mk packets left =>
    cases left with
    | some buf =>
      refine .inl ⟨packets, buf, feed_ok drained, (front_wait_iff buf).mp ?_⟩
      exact Drain.drain_residue (S := splitter) (by rw [drained])
    | none => exact .inr (by simp only [feed, drained])

theorem feed_residue (a : FrameAssembler) (data : Bytes) : Residue (a.feed data).2.buf := by
  rcases feed_cases a data with ⟨packets, buf, fed, residue⟩ | raised
  · rw [fed]
    exact residue
  · rw [raised]
    exact .inl (by decide)

theorem feedAll_residue {a : FrameAssembler} (start : Residue a.buf) (pieces : List Bytes) :
    Residue (a.feedAll pieces).2.buf := by
  induction pieces generalizing a with
  | nil => exact start
  | cons data pieces ih => exact ih (feed_residue a data)

end FrameAssembler

/-- **Reassembly of arbitrary bytes.** After any feeds, the next one returns
exactly the decomposition of the buffer and the data, or raises exactly where
the decomposition meets a length beyond 460, the buffer then being empty; it
does one or the other, and never holds more than 461 bytes. -/
theorem feed_decomposes (pieces : List Bytes) (data : Bytes) :
    let a := (FrameAssembler.fresh.feedAll pieces).2
    ((∃ packets, (a.feed data).1 = .ok packets) ∨ (a.feed data).1 = .error .valueError) ∧
    (∀ packets buf, a.feed data = (.ok packets, ⟨buf⟩) ↔
      Decomposes (a.buf ++ data) packets buf ∧ Residue buf) ∧
    ((a.feed data).1 = .error .valueError ↔
      ∃ packets rest, Decomposes (a.buf ++ data) packets rest ∧ Oversized rest) ∧
    ((a.feed data).1 = .error .valueError → (a.feed data).2.buf = []) ∧
    a.buf.length ≤ 461 ∧ (a.feed data).2.buf.length ≤ 461 := by
  intro a
  have cases := a.feed_cases data
  refine ⟨?_, a.feed_ok_iff data, a.feed_error_iff data, ?_, ?_, (a.feed_residue data).length⟩
  · rcases cases with ⟨packets, buf, fed, -⟩ | raised
    · exact .inl ⟨packets, by rw [fed]⟩
    · exact .inr (by rw [raised])
  · intro raised
    rcases cases with ⟨packets, buf, fed, -⟩ | empties
    · rw [fed] at raised
      cases raised
    · rw [empties]
      rfl
  · exact (FrameAssembler.feedAll_residue (.inl (by decide)) pieces).length

end MeshlinkNode
