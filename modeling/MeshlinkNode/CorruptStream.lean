import MeshlinkNode.GattServer
import MeshlinkNode.WifiTransport

/-!
# What arrives before a corrupt length

`feed` raises out of its loop, and the packets it has already taken off the
buffer in that call go with it. So it matters where the chunks were cut, which
the wire format says it must not.
-/

namespace MeshlinkNode

/-- A chunk ends behind the last frame, before the corrupt length is complete. -/
def EndsBetween (ps chunks : List Bytes) : Prop :=
  ∃ m, (frames.stream ps).length ≤ (chunks.take m).flatten.length ∧
    (chunks.take m).flatten.length ≤ (frames.stream ps).length + 1

namespace FrameAssembler

theorem feed_raises {a : FrameAssembler} {data : Bytes} :
    (∃ exc, (a.feed data).1 = .error exc) ↔ (Drain.drain splitter (a.buf ++ data)).2 = none := by
  unfold feed
  split
  · rename_i drained
    simp [drained]
  · rename_i drained
    simp [drained]

/-- A call that raises delivers nothing. -/
theorem feed_raised {a : FrameAssembler} {data : Bytes}
    (corrupt : (Drain.drain splitter (a.buf ++ data)).2 = none) :
    a.feed data = (.error .valueError, fresh) := by
  unfold feed
  split
  · rename_i drained
    rw [drained] at corrupt
    cases corrupt
  · rfl

/-- While the bytes so far are not corrupt, what was delivered and what is
buffered depends on these alone. -/
theorem deliver_drained {a : FrameAssembler} {chunks : List Bytes} {ps : List Bytes} {buf : Bytes}
    (settled : front a.buf = .wait)
    (h : Drain.drain splitter (a.buf ++ chunks.flatten) = (ps, some buf)) :
    a.deliver (chunks.map some) = (ps, ⟨buf⟩) := by
  obtain ⟨outs, fed, rfl, -⟩ := feedAll_ok settled h
  clear h settled
  induction chunks generalizing a outs with
  | nil =>
    cases outs with
    | nil =>
      cases fed
      rfl
    | cons out outs => cases fed
  | cons data rest ih =>
    cases outs with
    | nil => cases fed
    | cons out outs =>
      simp only [feedAll, List.map_cons, Prod.mk.injEq, List.cons.injEq] at fed
      obtain ⟨⟨now, later⟩, left⟩ := fed
      have tail := ih (a := (a.feed data).2) outs (Prod.ext later left)
      simp only [List.map_cons, deliver, tail, now, List.flatten_cons]
      rfl

/-- The first chunk that completes something corrupt. -/
theorem first_corrupt {chunks : List Bytes}
    (corrupt : (Drain.drain splitter chunks.flatten).2 = none) :
    ∃ before data rest ps buf, chunks = before ++ data :: rest ∧
      Drain.drain splitter before.flatten = (ps, some buf) ∧
      (Drain.drain splitter (before.flatten ++ data)).2 = none := by
  induction chunks using List.reverseRecOn with
  | nil =>
    rw [List.flatten_nil, Drain.drain_wait (S := splitter) (b := []) rfl] at corrupt
    cases corrupt
  | append_singleton before data ih =>
    cases drained : Drain.drain splitter before.flatten with
    | mk ps left =>
      cases left with
      | none =>
        obtain ⟨early, first, rest, qs, buf, rfl, whole, bad⟩ := ih (by rw [drained])
        exact ⟨early, first, rest ++ [data], qs, buf, by simp, whole, bad⟩
      | some buf =>
        rw [List.flatten_append, List.flatten_singleton] at corrupt
        exact ⟨before, data, [], ps, buf, rfl, drained, corrupt⟩

end FrameAssembler

/-! ## Frames before a corrupt length -/

section Stream

variable {ps : List Bytes} (fits : ∀ p ∈ ps, p.length ≤ MAX_FRAME) {hi lo : UInt8}
  (big : MAX_FRAME < announced hi lo) {junk : Bytes}

include fits big

variable (junk) in
/-- Up to the first byte of the corrupt length the complete packets come out;
its second byte makes the stream corrupt. -/
theorem drain_cut (n : Nat) :
    (n ≤ (frames.stream ps).length + 1 ∧
      ∃ r, Drain.drain FrameAssembler.splitter ((frames.stream ps ++ hi :: lo :: junk).take n) =
        (ps.take (frames.complete ps n), some r)) ∨
    ((frames.stream ps).length + 1 < n ∧
      (Drain.drain FrameAssembler.splitter
        ((frames.stream ps ++ hi :: lo :: junk).take n)).2 = none) := by
  rcases Nat.lt_or_ge (frames.stream ps).length n with past | within
  · obtain ⟨k, rfl⟩ := Nat.exists_eq_add_of_lt past
    have tail : (frames.stream ps ++ hi :: lo :: junk).take ((frames.stream ps).length + k + 1) =
        frames.stream ps ++ hi :: (lo :: junk).take k := by
      rw [List.take_append, List.take_of_length_le (by omega)]
      congr 1
      rw [show (frames.stream ps).length + k + 1 - (frames.stream ps).length = k + 1 by omega]
      rfl
    rw [tail, ← frames_toSplitter, Drain.drain_stream_append (C := frames) fits]
    cases k with
    | zero =>
      have all : ps.take (frames.complete ps ((frames.stream ps).length + 0 + 1)) = ps :=
        (Drain.Codec.take_complete ps _).mpr (by omega)
      have idle : Drain.drain frames.toSplitter [hi] = ([], some [hi]) := Drain.drain_wait rfl
      refine .inl ⟨by omega, [hi], ?_⟩
      rw [all, List.take_zero, idle, List.append_nil]
    | succ k =>
      have bad : frames.front (hi :: lo :: junk.take k) = .corrupt := by
        exact if_pos big
      refine .inr ⟨by omega, ?_⟩
      rw [List.take_succ_cons, Drain.drain_corrupt bad]
  · refine .inl ⟨by omega, ?_⟩
    rw [List.take_append_of_le_length within]
    exact Drain.drain_take (C := frames) fits n

/-- **What comes out before the corruption is seen** is everything exactly when
a chunk ends between the frames and the corrupt length. -/
theorem before_corrupt {before : List Bytes} {data : Bytes} {rest qs : List Bytes} {buf : Bytes}
    (cut : (before ++ data :: rest).flatten = frames.stream ps ++ hi :: lo :: junk)
    (drained : Drain.drain FrameAssembler.splitter before.flatten = (qs, some buf))
    (corrupt : (Drain.drain FrameAssembler.splitter (before.flatten ++ data)).2 = none) :
    qs = ps ↔ EndsBetween ps (before ++ data :: rest) := by
  have early : before.flatten =
      (frames.stream ps ++ hi :: lo :: junk).take before.flatten.length := by
    rw [← cut, List.flatten_append, List.take_left]
  have late : before.flatten ++ data =
      (frames.stream ps ++ hi :: lo :: junk).take (before.flatten ++ data).length := by
    rw [← cut, List.flatten_append, List.flatten_cons, ← List.append_assoc, List.take_left]
  have raised : (frames.stream ps).length + 1 < (before.flatten ++ data).length := by
    rcases drain_cut fits big junk (before.flatten ++ data).length with
      ⟨-, r, settled⟩ | ⟨beyond, -⟩
    · rw [← late] at settled
      rw [settled] at corrupt
      cases corrupt
    · exact beyond
  rcases drain_cut fits big junk before.flatten.length with
    ⟨within, r, settled⟩ | ⟨-, broken⟩
  · rw [← early, drained] at settled
    cases settled
    rw [Drain.Codec.take_complete]
    constructor
    · intro all
      refine ⟨before.length, ?_, ?_⟩
      · rwa [List.take_left]
      · rwa [List.take_left]
    · rintro ⟨m, all, short⟩
      -- the boundary cannot lie behind the chunk that completes the corrupt length
      have inside : m ≤ before.length := by
        by_contra behind
        obtain ⟨k, rfl⟩ := Nat.exists_eq_add_of_lt (not_le.mp behind)
        have longer : (before.flatten ++ data).length ≤
            ((before ++ data :: rest).take (before.length + k + 1)).flatten.length := by
          rw [List.take_append, List.take_of_length_le (by omega),
            show before.length + k + 1 - before.length = k + 1 by omega]
          simp
        omega
      rw [List.take_append_of_le_length inside] at all
      have part : (before.take m).flatten.length ≤ before.flatten.length := by
        conv => rhs; rw [← List.take_append_drop m before, List.flatten_append, List.length_append]
        exact Nat.le_add_right _ _
      omega
  · rw [← early, drained] at broken
    cases broken

end Stream

/-! ## The GATT server -/

namespace Radio

/-- The event is a chunk of `peer` that its reassembler raises on. -/
def Corrupts (peer : PeerId) (radio : Radio) (event : RadioEvent) : Prop :=
  ∃ data, event = .chunk peer data ∧
    ∃ exc, ((radio.server.assembler peer).feed data).1 = .error exc

/-- Before the stream of `peer` is corrupt, its bytes alone say what was
delivered and what is buffered. -/
theorem after_drained {events : List RadioEvent} {peer : PeerId} {chunks ps : List Bytes}
    {buf : Bytes} (inputs : events.filterMap (·.input peer) = chunks.map some)
    (drained : Drain.drain FrameAssembler.splitter chunks.flatten = (ps, some buf)) :
    (after events).delivered peer = ps ∧ (after events).server.assembler peer = ⟨buf⟩ := by
  have all := delivered_after events peer
  have alone : FrameAssembler.fresh.deliver (chunks.map some) = (ps, ⟨buf⟩) :=
    FrameAssembler.deliver_drained rfl drained
  rw [inputs, alone] at all
  exact Prod.mk.injEq .. ▸ all

theorem corrupts_iff {events : List RadioEvent} {peer : PeerId} {chunks ps : List Bytes}
    {buf data : Bytes} (inputs : events.filterMap (·.input peer) = chunks.map some)
    (drained : Drain.drain FrameAssembler.splitter chunks.flatten = (ps, some buf)) :
    (after events).Corrupts peer (.chunk peer data) ↔
      (Drain.drain FrameAssembler.splitter (chunks.flatten ++ data)).2 = none := by
  obtain ⟨-, left⟩ := after_drained inputs drained
  rw [Drain.drain_append data drained]
  constructor
  · rintro ⟨d, same, raises⟩
    cases same
    rw [left] at raises
    exact FrameAssembler.feed_raises.mp raises
  · intro corrupt
    refine ⟨data, rfl, ?_⟩
    rw [left]
    exact FrameAssembler.feed_raises.mpr corrupt

theorem input_some {event : RadioEvent} {peer : PeerId} {data : Bytes}
    (h : event.input peer = some (some data)) : event = .chunk peer data := by
  cases event with
  | chunk p d =>
    simp only [RadioEvent.input] at h
    split at h
    · rename_i same
      cases h
      rw [same]
    · cases h
  | connected p => cases h
  | disconnected p =>
    simp only [RadioEvent.input] at h
    split at h <;> cases h

theorem input_chunk (peer : PeerId) (data : Bytes) :
    (RadioEvent.chunk peer data).input peer = some (some data) :=
  if_pos rfl

/-- The event that brings a given chunk of the stream. -/
theorem bringing {events : List RadioEvent} {peer : PeerId} {before rest : List Bytes}
    {data : Bytes}
    (inputs : events.filterMap (·.input peer) = (before ++ data :: rest).map some) :
    ∃ past tail, events = past ++ .chunk peer data :: tail ∧
      past.filterMap (·.input peer) = before.map some := by
  rw [List.map_append, List.map_cons] at inputs
  obtain ⟨early, late, rfl, inEarly, inLate⟩ := List.filterMap_eq_append_iff.mp inputs
  obtain ⟨silent, event, tail, rfl, none, isData, -⟩ := List.filterMap_eq_cons_iff.mp inLate
  refine ⟨early ++ silent, tail, ?_, ?_⟩
  · rw [input_some isData, List.append_assoc]
  · rw [List.filterMap_append, inEarly, List.filterMap_eq_nil_iff.mpr none, List.append_nil]

/-- No chunk raises while the bytes so far are not corrupt. -/
theorem never_corrupts {past : List RadioEvent} {peer : PeerId} {before ps : List Bytes}
    {buf : Bytes} (inputs : past.filterMap (·.input peer) = before.map some)
    (drained : Drain.drain FrameAssembler.splitter before.flatten = (ps, some buf)) :
    Runs.Along step (fun radio event => ¬ radio.Corrupts peer event) boot past := by
  apply Runs.along_iff.mpr
  rintro earlier event ⟨more, whole⟩ corrupts
  obtain ⟨data, rfl, -⟩ := id corrupts
  have split : before.map some = (earlier.filterMap (·.input peer)) ++
      some data :: more.filterMap (·.input peer) := by
    rw [← inputs, ← whole, List.filterMap_append, List.filterMap_append, List.filterMap_cons,
      input_chunk, List.append_assoc]
    rfl
  obtain ⟨first, others, rfl, inFirst, inOthers⟩ := List.map_eq_append_iff.mp split
  obtain ⟨d, others, rfl, same, -⟩ := List.map_eq_cons_iff.mp inOthers
  cases same
  rw [List.flatten_append, List.flatten_cons] at drained
  cases upTo : Drain.drain FrameAssembler.splitter first.flatten with
  | mk qs left =>
    cases left with
    | none =>
      rw [Drain.drain_append_corrupt _ upTo] at drained
      cases drained
    | some left =>
      have broken := (corrupts_iff inFirst.symm upTo).mp corrupts
      have whole : Drain.drain FrameAssembler.splitter (first.flatten ++ data) =
          ((Drain.drain FrameAssembler.splitter (first.flatten ++ data)).1, none) :=
        Prod.ext rfl broken
      rw [← List.append_assoc, Drain.drain_append_corrupt _ whole] at drained
      cases drained

/-- A stream that turns corrupt behind `ps` is declared corrupt at one chunk,
and what its peer has delivered by then is `ps` exactly when a chunk ended
between. -/
theorem declared_corrupt {events : List RadioEvent} {peer : PeerId} {ps chunks : List Bytes}
    (fits : ∀ p ∈ ps, p.length ≤ MAX_FRAME) {hi lo : UInt8} (big : MAX_FRAME < announced hi lo)
    {junk : Bytes} (cut : chunks.flatten = frames.stream ps ++ hi :: lo :: junk)
    (inputs : events.filterMap (·.input peer) = chunks.map some) :
    ∃ past data, past ++ [.chunk peer data] <+: events ∧
      Runs.Along step (fun radio event => ¬ radio.Corrupts peer event) boot past ∧
      (after past).Corrupts peer (.chunk peer data) ∧
      ((after (past ++ [.chunk peer data])).delivered peer = ps ↔ EndsBetween ps chunks) := by
  have corrupt : (Drain.drain FrameAssembler.splitter chunks.flatten).2 = none := by
    have bad : frames.front (hi :: lo :: junk) = .corrupt := if_pos big
    rw [cut, ← frames_toSplitter, Drain.drain_stream_append (C := frames) fits,
      Drain.drain_corrupt bad]
  obtain ⟨before, data, rest, qs, buf, rfl, drained, broken⟩ := FrameAssembler.first_corrupt corrupt
  obtain ⟨past, tail, rfl, sofar⟩ := bringing inputs
  refine ⟨past, data, ⟨tail, by simp⟩, never_corrupts sofar drained,
    (corrupts_iff sofar drained).mpr broken, ?_⟩
  have alone : FrameAssembler.fresh.deliver (before.map some) = (qs, ⟨buf⟩) :=
    FrameAssembler.deliver_drained rfl drained
  have raised : (Drain.drain FrameAssembler.splitter (buf ++ data)).2 = none := by
    rw [Drain.drain_append data drained] at broken
    exact broken
  have all := congrArg Prod.fst (delivered_after (past ++ [.chunk peer data]) peer)
  rw [List.filterMap_append, sofar, List.filterMap_cons, input_chunk, List.filterMap_nil,
    FrameAssembler.deliver_append, alone] at all
  simp only [FrameAssembler.deliver, FrameAssembler.feed_raised raised] at all
  rw [all.trans (List.append_nil qs), before_corrupt fits big cut drained broken]

end Radio

/-! ## A reader of the WiFi transport -/

namespace Conn

/-- The bytes `recv` returns in the next step, where the reader waits in it. -/
def receives (conn : Conn) (received : Except PyExc Bytes) : Option Bytes :=
  match conn.stage, received with
  | .receiving, .ok (b :: data) => some (b :: data)
  | _, _ => none

/-- The packet that the next step hands to `_dispatch`. -/
def hands (conn : Conn) : Option Bytes :=
  match conn.stage with
  | .dispatching (packet :: _) => some packet
  | _ => none

/-- Where the reader stands, given what it has received and what it has handed
on: until it leaves its loop the bytes it received are not corrupt. -/
def Follows (got out : List Bytes) (conn : Conn) : Prop :=
  match conn.stage with
  | .unstarted | .looping | .receiving =>
    Drain.drain FrameAssembler.splitter got.flatten = (out, some conn.assembler.buf)
  | .dispatching packets =>
    Drain.drain FrameAssembler.splitter got.flatten = (out ++ packets, some conn.assembler.buf)
  | .leaving | .closing | .exited => True

/-- What a reassembler that has drained a stream makes of more of it. -/
theorem drain_fed {got out packets : List Bytes} {assembler rest : FrameAssembler} {data : Bytes}
    (h : Drain.drain FrameAssembler.splitter got.flatten = (out, some assembler.buf))
    (fed : assembler.feed data = (.ok packets, rest)) :
    Drain.drain FrameAssembler.splitter (got ++ [data]).flatten =
      (out ++ packets, some rest.buf) := by
  rw [List.flatten_append, List.flatten_singleton, Drain.drain_append _ h]
  unfold FrameAssembler.feed at fed
  split at fed
  · rename_i drained
    cases fed
    simp only at drained ⊢
    rw [drained]
  · cases fed

theorem Follows.advance {got out : List Bytes} {conn : Conn} (h : conn.Follows got out)
    (received : Except PyExc Bytes) :
    (conn.advance received).Follows (got ++ (conn.receives received).toList)
      (out ++ conn.hands.toList) := by
  obtain ⟨addr, stage, assembler, dropped, closed⟩ := conn
  cases stage with
  | looping =>
    unfold Follows at h
    simp only [Conn.advance, receives, hands, Option.toList_none, List.append_nil]
    cases closed with
    | true => trivial
    | false => exact h
  | receiving =>
    unfold Follows at h
    cases received with
    | error exc => trivial
    | ok bytes =>
      cases bytes with
      | nil => trivial
      | cons b data =>
        simp only [Conn.advance, receives, hands, Option.toList_none, Option.toList_some,
          List.append_nil]
        cases fed : assembler.feed (b :: data) with
        | mk answer rest =>
          cases answer with
          | error exc => trivial
          | ok packets => exact drain_fed h fed
  | dispatching packets =>
    unfold Follows at h
    cases packets with
    | nil =>
      simp only [Conn.advance, receives, hands, Option.toList_none, List.append_nil] at h ⊢
      exact h
    | cons packet packets =>
      simp only [Conn.advance, receives, hands, Option.toList_none, Option.toList_some,
        List.append_nil]
      simp only [Follows, List.append_assoc, List.singleton_append]
      exact h
  | unstarted =>
    simp only [Conn.advance, receives, hands, Option.toList_none, List.append_nil]
    exact h
  | leaving | closing | exited => trivial

/-- Nothing but the reader's place and its reassembler decides. -/
theorem Follows.same {got out : List Bytes} {c d : Conn} (h : c.Follows got out)
    (stage : d.stage = c.stage ∨ c.stage = .unstarted ∧ d.stage = .looping)
    (assembler : d.assembler = c.assembler) : d.Follows got out := by
  unfold Follows at h ⊢
  rcases stage with same | ⟨un, started⟩
  · rw [same, assembler]
    exact h
  · rw [un] at h
    rw [started, assembler]
    exact h

theorem left_silent {conn : Conn} (left : conn.Left) : conn.hands = none := by
  unfold hands
  split
  · rename_i here
    simp [Left, here] at left
  · rfl

theorem advance_raised {conn : Conn} (waits : conn.stage = .receiving) {data : Bytes}
    (some : data ≠ [])
    (broken : (Drain.drain FrameAssembler.splitter (conn.assembler.buf ++ data)).2 = none) :
    conn.advance (.ok data) = { conn with stage := .leaving, assembler := .fresh } := by
  obtain ⟨b, data, rfl⟩ := List.exists_cons_of_ne_nil some
  simp only [Conn.advance, waits, FrameAssembler.feed_raised broken]

end Conn

namespace Wifi

def receivedFrom (n : Nat) (s : Wifi) : WifiEvent → Option Bytes
  | .reader m received => if m = n then s.accepted[n]?.bind (·.receives received) else none
  | _ => none

def handedFrom (n : Nat) (s : Wifi) : WifiEvent → Option Bytes
  | .reader m _ => if m = n then s.accepted[n]?.bind Conn.hands else none
  | _ => none

/-- What `recv` returned to the reader of a connection, call by call. -/
abbrev received (n : Nat) (events : List WifiEvent) : List Bytes :=
  Runs.outputs step (receivedFrom n) boot events

/-- The packets that reader handed to `_dispatch`. -/
abbrev handed (n : Nat) (events : List WifiEvent) : List Bytes :=
  Runs.outputs step (handedFrom n) boot events

/-- The calls of the relay's callback that reader makes. -/
def calledFrom (n : Nat) (s : Wifi) : WifiEvent → Option Bytes
  | .reader m _ => if m = n then s.accepted[n]?.bind Conn.dispatches else none
  | _ => none

/-- A step of somebody else may start a reader, and changes nothing else its
stream depends on. -/
structure Elsewhere (c d : Conn) : Prop where
  stage : d.stage = c.stage ∨ c.stage = .unstarted ∧ d.stage = .looping
  assembler : d.assembler = c.assembler

theorem Elsewhere.refl (c : Conn) : Elsewhere c c := ⟨.inl rfl, rfl⟩

theorem acceptLoop_accepted {s : Wifi} (sound : Sound s) (arrival : Option SockAddr) {n : Nat}
    {d : Conn} (h : (s.acceptLoop arrival).accepted[n]? = some d) :
    (∃ c, s.accepted[n]? = some c ∧ Elsewhere c d) ∨
      s.accepted[n]? = none ∧ ∃ addr, d = Conn.fresh addr := by
  unfold acceptLoop at h
  split at h
  · exact .inl ⟨d, h, .refl d⟩
  · exact .inl ⟨d, h, .refl d⟩
  · split at h
    · exact .inl ⟨d, h, .refl d⟩
    · rename_i addr
      split at h
      · rcases concat_some h with old | ⟨rfl, rfl⟩
        · exact .inl ⟨d, old, .refl d⟩
        · exact .inr ⟨by simp, addr, rfl⟩
      · exact .inl ⟨d, h, .refl d⟩
  · exact .inl ⟨d, h, .refl d⟩
  · exact .inl ⟨d, h, .refl d⟩
  · rename_i m ready
    obtain ⟨c, hc, rfl⟩ := modify_some h
    refine .inl ⟨c, hc, ?_⟩
    split
    · rename_i mine
      subst mine
      obtain ⟨-, c', hc', un⟩ := sound.current m (by rw [ready]; rfl)
      rw [hc] at hc'
      cases hc'
      exact ⟨.inr ⟨un, rfl⟩, rfl⟩
    · exact .refl c
  · exact .inl ⟨d, h, .refl d⟩

theorem stop_accepted {s : Wifi} {n : Nat} {d : Conn} (h : s.stop.accepted[n]? = some d) :
    ∃ c, s.accepted[n]? = some c ∧ Elsewhere c d := by
  unfold stop at h
  split at h
  · exact ⟨d, h, .refl d⟩
  · exact ⟨d, h, .refl d⟩
  · exact ⟨d, h, .refl d⟩
  · exact ⟨d, h, .refl d⟩
  · obtain ⟨c, hc, rfl⟩ := modify_some h
    refine ⟨c, hc, ?_⟩
    split
    · exact ⟨.inl rfl, rfl⟩
    · exact .refl c
  · exact ⟨d, h, .refl d⟩

/-- **What a step does to one connection**: its reader's step, somebody else's,
or its acceptance. -/
theorem step_accepted {s : Wifi} (sound : Sound s) (event : WifiEvent) {n : Nat} {d : Conn}
    (h : (s.step event).accepted[n]? = some d) :
    (∃ c r, s.accepted[n]? = some c ∧ event = .reader n r ∧ d = c.advance r) ∨
    ((∀ r, event ≠ .reader n r) ∧ ∃ c, s.accepted[n]? = some c ∧ Elsewhere c d) ∨
    s.accepted[n]? = none ∧ ∃ addr, d = Conn.fresh addr := by
  cases event with
  | acceptLoop arrival =>
    rcases acceptLoop_accepted sound arrival h with old | new
    · exact .inr (.inl ⟨nofun, old⟩)
    · exact .inr (.inr new)
  | stop => exact .inr (.inl ⟨nofun, stop_accepted h⟩)
  | drop m =>
    obtain ⟨c, hc, rfl⟩ := modify_some h
    refine .inr (.inl ⟨nofun, c, hc, ?_⟩)
    split
    · exact ⟨.inl rfl, rfl⟩
    · exact .refl c
  | reader m r =>
    obtain ⟨c, hc, rfl⟩ := modify_some h
    by_cases mine : m = n
    · subst mine
      exact .inl ⟨c, r, hc, rfl, if_pos rfl⟩
    · refine .inr (.inl ⟨?_, c, hc, ?_⟩)
      · rintro r' same
        cases same
        exact mine rfl
      · rw [if_neg mine]
        exact .refl c

theorem silent_elsewhere {n : Nat} {s : Wifi} {event : WifiEvent}
    (other : (∀ r, event ≠ .reader n r) ∨ s.accepted[n]? = none) :
    receivedFrom n s event = none ∧ handedFrom n s event = none := by
  cases event with
  | reader m r =>
    by_cases mine : m = n
    · subst mine
      have none := other.resolve_left fun all => all r rfl
      simp [receivedFrom, handedFrom, none]
    · simp [receivedFrom, handedFrom, mine]
  | acceptLoop arrival => exact ⟨rfl, rfl⟩
  | drop m => exact ⟨rfl, rfl⟩
  | stop => exact ⟨rfl, rfl⟩

theorem accepted_stays (s : Wifi) (event : WifiEvent) {n : Nat} {c : Conn}
    (here : s.accepted[n]? = some c) : ∃ d, (s.step event).accepted[n]? = some d := by
  have more : s.accepted.length ≤ (s.step event).accepted.length := by
    cases event with
    | acceptLoop arrival =>
      simp only [step, acceptLoop]
      split
      · exact le_refl _
      · exact le_refl _
      · split
        · exact le_refl _
        · split <;> simp
      · exact le_refl _
      · exact le_refl _
      · simp
      · exact le_refl _
    | reader m r => simp [step, reader]
    | drop m => simp [step]
    | stop =>
      simp only [step, stop]
      split <;> simp
  have bound : n < (s.step event).accepted.length := by
    have inside := lt_of_some here
    omega
  exact ⟨_, List.getElem?_eq_getElem bound⟩

/-- **Every reader follows its stream**, whatever the other threads do. -/
theorem follows_after (events : List WifiEvent) {n : Nat} {c : Conn}
    (here : (after events).accepted[n]? = some c) :
    c.Follows (received n events) (handed n events) := by
  suffices all : ((after events).accepted[n]? = none →
      received n events = [] ∧ handed n events = []) ∧
      ∀ c, (after events).accepted[n]? = some c →
        c.Follows (received n events) (handed n events) from all.2 c here
  clear here
  induction events using List.reverseRecOn with
  | nil =>
    refine ⟨fun _ => ⟨rfl, rfl⟩, ?_⟩
    intro c here
    simp [boot] at here
  | append_singleton past event ih =>
    obtain ⟨before, follows⟩ := ih
    simp only [received, handed, Runs.outputs_snoc, after, Runs.run_append, Runs.run_cons,
      Runs.run_nil] at before follows ⊢
    have silent (none : (after past).accepted[n]? = none) :
        receivedFrom n (after past) event = Option.none ∧
          handedFrom n (after past) event = Option.none :=
      silent_elsewhere (.inr none)
    constructor
    · intro none
      have earlier : (after past).accepted[n]? = Option.none := by
        cases hc : (after past).accepted[n]? with
        | none => rfl
        | some c =>
          obtain ⟨d, hd⟩ := accepted_stays _ event hc
          rw [after, none] at hd
          cases hd
      obtain ⟨noBytes, noPacket⟩ := silent earlier
      obtain ⟨got, out⟩ := before earlier
      rw [got, out, noBytes, noPacket]
      exact ⟨rfl, rfl⟩
    · intro d here
      rcases step_accepted (sound_after past) event here with
        ⟨c, r, hc, rfl, rfl⟩ | ⟨other, c, hc, same⟩ | ⟨none, addr, rfl⟩
      · have step := (follows c hc).advance r
        simpa [receivedFrom, handedFrom, hc] using step
      · obtain ⟨noBytes, noPacket⟩ := silent_elsewhere (.inl other)
        rw [noBytes, noPacket]
        simpa using (follows c hc).same same.stage same.assembler
      · obtain ⟨noBytes, noPacket⟩ := silent none
        obtain ⟨got, out⟩ := before none
        rw [got, out, noBytes, noPacket]
        exact Drain.drain_wait rfl

/-- A reader that has left its loop hands nothing on. -/
theorem handed_left {past more : List WifiEvent} {n : Nat} {c : Conn}
    (here : (after past).accepted[n]? = some c) (left : c.Left) :
    handed n (past ++ more) = handed n past := by
  have keeps (s : Wifi) (event : WifiEvent)
      (inv : Sound s ∧ ∃ c, s.accepted[n]? = some c ∧ c.Left) (_ : True) :
      Sound (s.step event) ∧ ∃ c, (s.step event).accepted[n]? = some c ∧ c.Left := by
    obtain ⟨sound, c, hc, left⟩ := inv
    obtain ⟨d, hd⟩ := accepted_stays s event hc
    refine ⟨sound_step s event sound, d, hd, ?_⟩
    rcases step_accepted sound event hd with
      ⟨c', r, hc', rfl, rfl⟩ | ⟨-, c', hc', same⟩ | ⟨none, -⟩
    · rw [hc] at hc'
      cases hc'
      exact (c.advance_evolves r).left left
    · rw [hc] at hc'
      cases hc'
      rcases same.stage with still | ⟨un, -⟩
      · unfold Conn.Left at left ⊢
        rw [still]
        exact left
      · simp [Conn.Left, un] at left
    · rw [hc] at none
      cases none
  have silent (s : Wifi) (event : WifiEvent)
      (inv : Sound s ∧ ∃ c, s.accepted[n]? = some c ∧ c.Left) (_ : True) :
      handedFrom n s event = none := by
    obtain ⟨-, c, hc, left⟩ := inv
    cases event with
    | reader m r => simp [handedFrom, hc, Conn.left_silent left]
    | acceptLoop arrival => rfl
    | drop m => rfl
    | stop => rfl
  have any : Runs.Along step (fun _ _ => True) (after past) more :=
    Runs.along_of_forall fun _ _ => trivial
  have rest := Runs.outputs_silent keeps silent ⟨sound_after past, c, here, left⟩ any
  rw [handed, Runs.outputs_append, rest, List.append_nil]

/-- The reader of a stream that turns corrupt behind `ps` has handed on, when
`feed` raises and ever after, `ps` exactly when a chunk ended between. -/
theorem declared_corrupt {ps chunks : List Bytes} (fits : ∀ p ∈ ps, p.length ≤ MAX_FRAME)
    {hi lo : UInt8} (big : MAX_FRAME < announced hi lo) {junk : Bytes}
    (cut : chunks.flatten = frames.stream ps ++ hi :: lo :: junk) {past : List WifiEvent}
    (more : List WifiEvent) {n : Nat} {c : Conn} {data : Bytes}
    (here : (after past).accepted[n]? = some c) (waits : c.stage = .receiving) (some : data ≠ [])
    (raises : ∃ exc, (c.assembler.feed data).1 = .error exc)
    (got : received n past ++ [data] <+: chunks) :
    handed n (past ++ .reader n (.ok data) :: more) = ps ↔ EndsBetween ps chunks := by
  have follows := follows_after past here
  unfold Conn.Follows at follows
  rw [waits] at follows
  have broken := FrameAssembler.feed_raises.mp raises
  obtain ⟨rest, rfl⟩ := got
  rw [List.append_assoc, List.singleton_append] at cut ⊢
  rw [← before_corrupt fits big cut follows (by rw [Drain.drain_append data follows]; exact broken)]
  have now : (after (past ++ [.reader n (.ok data)])).accepted[n]? =
      Option.some { c with stage := .leaving, assembler := .fresh } := by
    have modified : (after (past ++ [.reader n (.ok data)])).accepted =
        (after past).accepted.modify n (·.advance (.ok data)) := by
      simp only [after, Runs.run_append]
      rfl
    rw [modified, List.getElem?_modify_eq, here, ← Conn.advance_raised waits some broken]
    rfl
  have same : handed n (past ++ [.reader n (.ok data)]) = handed n past := by
    rw [handed, Runs.outputs_snoc]
    change handed n past ++ (handedFrom n (after past) _).toList = handed n past
    simp [handedFrom, here, Conn.hands, waits]
  rw [show past ++ .reader n (.ok data) :: more = (past ++ [.reader n (.ok data)]) ++ more by simp,
    handed_left now trivial, same]

end Wifi

/-- **Packets before a corrupt length.** However frames and a corrupt length
behind them are cut, both transports have delivered all the packets when the
stream is declared corrupt exactly when a chunk ends between the two. -/
theorem delivered_before_corruption_iff (ps : List Bytes) (fits : ∀ p ∈ ps, p.length ≤ MAX_FRAME)
    (hi lo : UInt8) (big : MAX_FRAME < announced hi lo) (junk : Bytes) :
    ∃ fs, ps.mapM frame = .ok fs ∧
      ∀ chunks : List Bytes, chunks.flatten = fs.flatten ++ hi :: lo :: junk →
      (∀ peer events, events.filterMap (·.input peer) = chunks.map some →
        ∃ past data, past ++ [.chunk peer data] <+: events ∧
          Runs.Along Radio.step (fun radio event => ¬ radio.Corrupts peer event) Radio.boot past ∧
          (Radio.after past).Corrupts peer (.chunk peer data) ∧
          ((Radio.after (past ++ [.chunk peer data])).delivered peer = ps ↔
            EndsBetween ps chunks)) ∧
      (∀ past more n c data, (Wifi.after past).accepted[n]? = some c → c.stage = .receiving →
        data ≠ [] → (∃ exc, (c.assembler.feed data).1 = .error exc) →
        Wifi.received n past ++ [data] <+: chunks →
        (Wifi.handed n (past ++ .reader n (.ok data) :: more) = ps ↔ EndsBetween ps chunks)) := by
  refine ⟨ps.map frames.enc, mapM_frame fits, ?_⟩
  intro chunks cut
  rw [← List.flatMap_def] at cut
  constructor
  · intro peer events inputs
    exact Radio.declared_corrupt fits big cut inputs
  · intro past more n c data here waits some raises got
    exact Wifi.declared_corrupt fits big cut more here waits some raises got

/-- A phone connects, and its reader waits in `recv`. -/
def reading (phone : SockAddr) : List WifiEvent :=
  [.acceptLoop none, .acceptLoop none, .acceptLoop (some phone), .acceptLoop none,
    .acceptLoop none, .acceptLoop none, .reader 0 (.ok [])]

/-- A packet and a corrupt length in one piece: the packet is lost. In two
pieces it is delivered. -/
theorem packet_lost_with_corruption :
    frame [7] = .ok [0, 1, 7] ∧ MAX_FRAME < announced 255 255 ∧
    (Radio.after [.chunk "phone" [0, 1, 7, 255, 255]]).delivered "phone" = [] ∧
    (Radio.after [.chunk "phone" [0, 1, 7], .chunk "phone" [255, 255]]).delivered "phone" = [[7]] ∧
    Wifi.handed 0 (reading ⟨"10.78.0.5", 40000, by decide⟩ ++
      [.reader 0 (.ok [0, 1, 7, 255, 255])]) = [] := by
  decide +kernel

theorem delivered_before_corruption_iff_one :
    ∃ fs, [[(7 : UInt8)]].mapM frame = .ok fs ∧
      ∀ chunks : List Bytes, chunks.flatten = fs.flatten ++ [255, 255] →
      (∀ peer events, events.filterMap (·.input peer) = chunks.map some →
        ∃ past data, past ++ [.chunk peer data] <+: events ∧
          Runs.Along Radio.step (fun radio event => ¬ radio.Corrupts peer event) Radio.boot past ∧
          (Radio.after past).Corrupts peer (.chunk peer data) ∧
          ((Radio.after (past ++ [.chunk peer data])).delivered peer = [[7]] ↔
            EndsBetween [[7]] chunks)) ∧
      (∀ past more n c data, (Wifi.after past).accepted[n]? = some c → c.stage = .receiving →
        data ≠ [] → (∃ exc, (c.assembler.feed data).1 = .error exc) →
        Wifi.received n past ++ [data] <+: chunks →
        (Wifi.handed n (past ++ .reader n (.ok data) :: more) = [[7]] ↔
          EndsBetween [[7]] chunks)) :=
  delivered_before_corruption_iff [[7]] (by decide) 255 255 (by decide) []

end MeshlinkNode
