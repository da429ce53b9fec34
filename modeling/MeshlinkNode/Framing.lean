import MeshlinkNode.Python
import MeshlinkNode.Lib.Drain
import MeshlinkNode.Lib.Runs

/-!
# The length-prefix framing of both phone transports

`frame` puts a 2-byte big-endian length before a packet, `chunk` cuts the
framed bytes for one radio, and a `FrameAssembler` per peer takes packets back
out of whatever pieces arrive. A chunk boundary carries no meaning.
-/

namespace MeshlinkNode

/-- meshlink-core's MAX_PACKET; a longer frame can only be corruption. -/
def MAX_FRAME : Nat := 460

/-- `struct.pack(">H", n)`. -/
def lengthPrefix (n : Nat) : Bytes := [UInt8.ofNat (n / 256), UInt8.ofNat n]

/-- `struct.unpack(">H", …)`. -/
def announced (hi lo : UInt8) : Nat := 256 * hi.toNat + lo.toNat

def frame (packet : Bytes) : Except PyExc Bytes :=
  if packet.length < 65536 then .ok (lengthPrefix packet.length ++ packet)
  else .error .structError

/-- The slices `framed[i : i + chunk_size]` for `i` in steps of `chunk_size`. -/
def chunk (framed : Bytes) (chunkSize : Nat) : List Bytes :=
  (List.range' 0 ((framed.length + chunkSize - 1) / chunkSize) chunkSize).map fun i =>
    (framed.drop i).take chunkSize

namespace FrameAssembler

/-- One turn of the loop in `feed`: unpack the length at the front of the
buffer, and take the packet off if it is all there. -/
def front : Bytes → Drain.Front UInt8 Bytes
  | hi :: lo :: body =>
    if MAX_FRAME < announced hi lo then .corrupt
    else if body.length < announced hi lo then .wait
    else .item (body.take (announced hi lo)) (body.drop (announced hi lo))
  | _ => .wait

theorem front_item {b p r : Bytes} (h : front b = .item p r) :
    ∃ hi lo body, b = hi :: lo :: body ∧ announced hi lo ≤ MAX_FRAME ∧
      announced hi lo ≤ body.length ∧
      p = body.take (announced hi lo) ∧ r = body.drop (announced hi lo) := by
  unfold front at h
  split at h
  · rename_i hi lo body
    split at h
    · cases h
    · split at h
      · cases h
      · cases h
        exact ⟨hi, lo, body, rfl, by omega, by omega, rfl, rfl⟩
  · cases h

theorem front_corrupt {b : Bytes} (h : front b = .corrupt) :
    ∃ hi lo body, b = hi :: lo :: body ∧ MAX_FRAME < announced hi lo := by
  unfold front at h
  split at h
  · rename_i hi lo body
    split at h
    · exact ⟨hi, lo, body, rfl, by assumption⟩
    · split at h <;> cases h
  · cases h

/-- The loop of `feed`, as a splitter: later bytes never change what the front
of the buffer holds. -/
def splitter : Drain.Splitter UInt8 Bytes where
  front := front
  shorter := by
    intro b p r h
    obtain ⟨hi, lo, body, rfl, -, -, -, rfl⟩ := front_item h
    simp only [List.length_drop, List.length_cons]
    omega
  item_append := by
    intro b p r d h
    obtain ⟨hi, lo, body, rfl, fits, whole, rfl, rfl⟩ := front_item h
    have more : ¬ (body ++ d).length < announced hi lo := by
      simp only [List.length_append]
      omega
    simp only [List.cons_append, front, if_neg (Nat.not_lt.mpr fits), if_neg more,
      List.take_append_of_le_length whole, List.drop_append_of_le_length whole]
  corrupt_append := by
    intro b d h
    obtain ⟨hi, lo, body, rfl, big⟩ := front_corrupt h
    simp only [List.cons_append, front, if_pos big]

end FrameAssembler

structure FrameAssembler where
  buf : Bytes
  deriving DecidableEq, Repr

namespace FrameAssembler

def fresh : FrameAssembler := ⟨[]⟩

/-- Add received bytes and return every complete packet. On a length beyond
`MAX_FRAME` the buffer is cleared and the packets of this call are lost. -/
def feed (a : FrameAssembler) (data : Bytes) : Except PyExc (List Bytes) × FrameAssembler :=
  match Drain.drain splitter (a.buf ++ data) with
  | (packets, some buf) => (.ok packets, ⟨buf⟩)
  | (_, none) => (.error .valueError, fresh)

/-- Feed pieces in order; what each call returned, and the assembler after. -/
def feedAll (a : FrameAssembler) : List Bytes → List (Except PyExc (List Bytes)) × FrameAssembler
  | [] => ([], a)
  | data :: rest =>
    let out := a.feed data
    let tail := feedAll out.2 rest
    (out.1 :: tail.1, tail.2)

end FrameAssembler

example : FrameAssembler.fresh.feedAll [[0, 2, 7], [8, 0], [0]] =
    ([.ok [], .ok [[7, 8]], .ok [[]]], .fresh) := by decide +kernel

/-! ## Frames as a codec -/

theorem announced_lengthPrefix {n : Nat} (h : n < 65536) :
    announced (UInt8.ofNat (n / 256)) (UInt8.ofNat n) = n := by
  simp only [announced, UInt8.toNat_ofNat']
  omega

/-- Frames of packets the assembler accepts, as an encoding its loop undoes. -/
def frames : Drain.Codec UInt8 Bytes where
  toSplitter := FrameAssembler.splitter
  enc packet := lengthPrefix packet.length ++ packet
  Fits packet := packet.length ≤ MAX_FRAME
  front_nil := rfl
  front_enc := by
    intro p r fits
    have value := announced_lengthPrefix (n := p.length) (by unfold MAX_FRAME at fits; omega)
    simp only [FrameAssembler.splitter, lengthPrefix, List.cons_append, List.nil_append,
      FrameAssembler.front, value, if_neg (show ¬ MAX_FRAME < p.length by omega)]
    simp
  front_partial := by
    intro p b fits pre proper
    have value := announced_lengthPrefix (n := p.length) (by unfold MAX_FRAME at fits; omega)
    obtain ⟨t, ht⟩ := pre
    match b, ht, proper with
    | [], _, _ => rfl
    | [_], _, _ => rfl
    | hi :: lo :: body, ht, proper =>
      simp only [lengthPrefix, List.cons_append, List.nil_append, List.cons.injEq] at ht proper
      obtain ⟨rfl, rfl, rfl⟩ := ht
      have short : body.length < (body ++ t).length := by
        cases t with
        | nil => simp at proper
        | cons => simp
      simp only [FrameAssembler.splitter, FrameAssembler.front, value,
        if_neg (show ¬ MAX_FRAME < (body ++ t).length by omega), if_pos short]

@[simp] theorem frames_toSplitter : frames.toSplitter = FrameAssembler.splitter := rfl

theorem frame_eq {p : Bytes} (h : p.length < 65536) : frame p = .ok (frames.enc p) := by
  simp [frame, frames, h]

theorem frame_fits {p : Bytes} (h : p.length ≤ MAX_FRAME) : frame p = .ok (frames.enc p) :=
  frame_eq (by unfold MAX_FRAME at h; omega)

theorem mapM_frame {ps : List Bytes} (h : ∀ p ∈ ps, p.length ≤ MAX_FRAME) :
    ps.mapM frame = .ok (ps.map frames.enc) := by
  induction ps with
  | nil => rfl
  | cons p ps ih =>
    rw [List.mapM_cons, frame_fits (h p List.mem_cons_self),
      ih fun q hq => h q (List.mem_cons_of_mem p hq)]
    rfl

/-- Cutting loses nothing: the chunks in order are the framed bytes. -/
theorem chunk_flatten (framed : Bytes) {n : Nat} (hn : 1 ≤ n) :
    (chunk framed n).flatten = framed := by
  have cut : ∀ k start, (framed.drop start).length ≤ k * n →
      ((List.range' start k n).map fun i => (framed.drop i).take n).flatten =
        framed.drop start := by
    intro k
    induction k with
    | zero =>
      intro start h
      simp only [Nat.zero_mul, Nat.le_zero, List.length_eq_zero_iff] at h
      simp [h]
    | succ k ih =>
      intro start h
      have rest : (framed.drop (start + n)).length ≤ k * n := by
        simp only [List.length_drop, Nat.add_mul, Nat.one_mul] at h ⊢
        omega
      rw [List.range'_succ, List.map_cons, List.flatten_cons, ih (start + n) rest,
        ← List.drop_drop, List.take_append_drop]
  have enough : (framed.drop 0).length ≤ (framed.length + n - 1) / n * n := by
    have parts := Nat.div_add_mod' (framed.length + n - 1) n
    have small := Nat.mod_lt (framed.length + n - 1) hn
    simp only [List.drop_zero]
    omega
  simpa [chunk] using cut _ 0 enough

/-! ## Feeding a stream in pieces -/

namespace FrameAssembler

theorem feed_ok {a : FrameAssembler} {data buf : Bytes} {ps : List Bytes}
    (h : Drain.drain splitter (a.buf ++ data) = (ps, some buf)) :
    a.feed data = (.ok ps, ⟨buf⟩) := by
  simp only [feed, h]

/-- Until the stream is corrupt, the calls return together what one call with
all the pieces would, and leave the same buffer. -/
theorem feedAll_ok {a : FrameAssembler} {chunks : List Bytes} {ps : List Bytes} {buf : Bytes}
    (settled : front a.buf = .wait)
    (h : Drain.drain splitter (a.buf ++ chunks.flatten) = (ps, some buf)) :
    ∃ outs : List (List Bytes), a.feedAll chunks = (outs.map .ok, ⟨buf⟩) ∧ outs.flatten = ps ∧
      outs.length = chunks.length ∧
      ∀ k, (outs.take k).flatten = (Drain.drain splitter (a.buf ++ (chunks.take k).flatten)).1 := by
  induction chunks generalizing a ps with
  | nil =>
    have idle : Drain.drain splitter a.buf = ([], some a.buf) := Drain.drain_wait settled
    simp only [List.flatten_nil, List.append_nil, idle, Prod.mk.injEq, Option.some.injEq] at h
    obtain ⟨rfl, rfl⟩ := h
    exact ⟨[], rfl, rfl, rfl, by simp [idle]⟩
  | cons data rest ih =>
    cases hd : Drain.drain splitter (a.buf ++ data) with
    | mk now left =>
      cases left with
      | none =>
        have bad := Drain.drain_append_corrupt rest.flatten hd
        rw [List.flatten_cons, ← List.append_assoc, bad] at h
        cases h
      | some left =>
        have split := Drain.drain_append rest.flatten hd
        rw [List.flatten_cons, ← List.append_assoc, split] at h
        obtain ⟨rfl, hbuf⟩ := Prod.mk.injEq .. ▸ h
        have wait : front left = .wait := Drain.drain_residue (S := splitter) (by rw [hd])
        have hrest : Drain.drain splitter (FrameAssembler.buf ⟨left⟩ ++ rest.flatten) =
            ((Drain.drain splitter (left ++ rest.flatten)).1, some buf) := by rw [← hbuf]
        obtain ⟨outs, heq, hflat, hlen, hpre⟩ := ih wait hrest
        refine ⟨now :: outs, ?_, by simp [hflat], by simp [hlen], ?_⟩
        · simp only [feedAll, feed_ok hd, heq, List.map_cons]
        · intro k
          cases k with
          | zero =>
            have idle : Drain.drain splitter a.buf = ([], some a.buf) := Drain.drain_wait settled
            simp [idle]
          | succ k =>
            rw [List.take_succ_cons, List.take_succ_cons, List.flatten_cons, List.flatten_cons,
              ← List.append_assoc, Drain.drain_append _ hd, hpre k]

end FrameAssembler

/-- What reassembly owes the sender of `ps` when the chunks arrive in order:
no call raises, the packets come out once each and in order, packet `j` is
among the first `k` calls' packets exactly when its last byte was among their
bytes, and nothing stays in the buffer. -/
def RoundTrip (ps : List Bytes) (chunks : List Bytes) : Prop :=
  ∃ outs : List (List Bytes),
    FrameAssembler.fresh.feedAll chunks = (outs.map .ok, .fresh) ∧
    outs.length = chunks.length ∧ outs.flatten = ps ∧
    ∀ k j, j < ps.length →
      (j < (outs.take k).flatten.length ↔
        ((ps.take (j + 1)).map frames.enc).flatten.length ≤ (chunks.take k).flatten.length)

theorem roundTrip_of_stream {ps chunks : List Bytes} (hps : ∀ p ∈ ps, p.length ≤ MAX_FRAME)
    (h : chunks.flatten = frames.stream ps) : RoundTrip ps chunks := by
  have whole : Drain.drain FrameAssembler.splitter (FrameAssembler.fresh.buf ++ chunks.flatten) =
      (ps, some []) := by
    have all := Drain.drain_stream_append (C := frames) hps []
    rw [Drain.drain_wait frames.front_nil] at all
    simpa [FrameAssembler.fresh, h] using all
  obtain ⟨outs, run, flat, len, upto⟩ := FrameAssembler.feedAll_ok rfl whole
  refine ⟨outs, run, len, flat, ?_⟩
  intro k j hj
  obtain ⟨n, hn⟩ : ∃ n, (chunks.take k).flatten.length = n := ⟨_, rfl⟩
  -- the first `k` chunks are a prefix of the stream, so `drain_take` says what they yield
  have cut : (chunks.take k).flatten = (frames.stream ps).take n := by
    rw [← h, ← hn]
    conv => rhs; rw [← List.take_append_drop k chunks, List.flatten_append]
    simp
  obtain ⟨r, yields⟩ := Drain.drain_take (C := frames) hps n
  have out : (outs.take k).flatten = ps.take (frames.complete ps n) := by
    rw [upto k, FrameAssembler.fresh, List.nil_append, cut, ← frames_toSplitter, yields]
  have count := Drain.Codec.lt_complete_iff (C := frames) ps n j
  simp only [hj, true_and, Drain.Codec.stream] at count
  rw [out, List.length_take, hn, ← List.flatMap_def, ← count]
  omega

/-- **Framing round trip.** Packets of up to 460 bytes survive every cutting of
their concatenated frames, in particular the pieces `send_packet` makes with
any chunk size and any coalescing of them. -/
theorem framing_round_trip (ps : List Bytes) (hps : ∀ p ∈ ps, p.length ≤ MAX_FRAME) :
    ∃ fs, ps.mapM frame = .ok fs ∧
      (∀ chunks : List Bytes, chunks.flatten = fs.flatten → RoundTrip ps chunks) ∧
      ∀ n, 1 ≤ n → ∀ groups : List (List Bytes),
        groups.flatten = fs.flatMap (chunk · n) → RoundTrip ps (groups.map List.flatten) := by
  refine ⟨ps.map frames.enc, mapM_frame hps, ?_, ?_⟩
  · intro chunks h
    exact roundTrip_of_stream hps (by rw [h, Drain.Codec.stream, List.flatMap_def])
  · intro n hn groups h
    apply roundTrip_of_stream hps
    have join : (groups.map List.flatten).flatten = groups.flatten.flatten := by
      rw [List.flatten_flatten]
    rw [join, h]
    clear h join
    induction ps with
    | nil => rfl
    | cons p ps ih =>
      simp only [List.map_cons, List.flatMap_cons, List.flatten_append, chunk_flatten _ hn,
        Drain.Codec.stream_cons, ih fun q hq => hps q (List.mem_cons_of_mem p hq)]

theorem framing_round_trip_two :
    ∃ fs, [[(1 : UInt8)], []].mapM frame = .ok fs ∧
      (∀ chunks : List Bytes, chunks.flatten = fs.flatten → RoundTrip [[1], []] chunks) ∧
      ∀ n, 1 ≤ n → ∀ groups : List (List Bytes),
        groups.flatten = fs.flatMap (chunk · n) →
          RoundTrip [[1], []] (groups.map List.flatten) :=
  framing_round_trip [[1], []] (by decide)

/-- The packet can be framed, and an assembler that gets the framed bytes in
any pieces returns it and nothing else. -/
def Deliverable (packet : Bytes) : Prop :=
  ∃ framed, frame packet = .ok framed ∧
    ∀ chunks : List Bytes, chunks.flatten = framed → RoundTrip [packet] chunks

theorem frame_ok {packet framed : Bytes} (h : frame packet = .ok framed) :
    packet.length < 65536 ∧ framed = frames.enc packet := by
  by_cases fits : packet.length < 65536
  · rw [frame_eq fits] at h
    cases h
    exact ⟨fits, rfl⟩
  · simp [frame, fits] at h

/-- A frame longer than the assembler accepts raises when its length is read. -/
theorem feed_oversized {packet : Bytes} (small : packet.length < 65536)
    (long : MAX_FRAME < packet.length) :
    FrameAssembler.fresh.feed (frames.enc packet) = (.error .valueError, .fresh) := by
  have bad : FrameAssembler.splitter.front (frames.enc packet) = .corrupt := by
    have value := announced_lengthPrefix small
    simp only [frames, lengthPrefix, List.cons_append, List.nil_append, FrameAssembler.splitter,
      FrameAssembler.front, value, if_pos long]
  have drained := Drain.drain_corrupt bad
  simp only [FrameAssembler.feed, FrameAssembler.fresh, List.nil_append, drained]

/-- **What the framing layer delivers**: packets of up to 460 bytes. -/
theorem deliverable_iff (packet : Bytes) : Deliverable packet ↔ packet.length ≤ MAX_FRAME := by
  constructor
  · rintro ⟨framed, ok, arrives⟩
    obtain ⟨small, rfl⟩ := frame_ok ok
    by_contra long
    obtain ⟨outs, run, -⟩ := arrives [frames.enc packet] (by simp)
    simp only [FrameAssembler.feedAll, feed_oversized small (not_le.mp long), Prod.mk.injEq,
      and_true] at run
    cases outs with
    | nil => cases run
    | cons out outs => cases (List.cons.inj run).1
  · intro fits
    refine ⟨frames.enc packet, frame_fits fits, ?_⟩
    intro chunks cut
    apply roundTrip_of_stream (by simpa using fits)
    simp [cut]

end MeshlinkNode
