import MeshlinkNode.Notify
import MeshlinkNode.WifiTransport

/-!
# What WiFi phones are sent

`send` looks its connection up under the lock and writes the frame outside it,
and any thread may call it: the relay's, a ping's, a proxy worker's. `sendall`
hands the kernel what it takes, piece by piece, so two calls for one phone may
have their pieces mixed. A call that raises has written some of its pieces and
writes no more.
-/

namespace MeshlinkNode

/-- A call of `sendall`: the peer and the packet `send` was called with, the
connection it found, and the bytes the kernel has yet to take. -/
structure Writing where
  peerId : PeerId
  packet : Bytes
  conn : Nat
  rest : Bytes
  deriving DecidableEq

/-- The transport, the calls so far, and what the kernel took for each
connection. -/
structure WifiSends where
  wifi : Wifi
  calls : List Writing
  taken : Nat → Bytes

inductive SendEvent where
  | transport (event : WifiEvent)
  | send (peerId : PeerId) (packet : Bytes)
  | write (call : Nat) (count : Nat)

namespace WifiSends

def boot : WifiSends := ⟨.boot, [], fun _ => []⟩

def step (s : WifiSends) : SendEvent → WifiSends
  | .transport event => { s with wifi := s.wifi.step event }
  | .send peerId packet =>
    match s.wifi.send peerId packet with
    | .ok (some (conn, framed)) =>
      { s with calls := s.calls ++ [⟨peerId, packet, conn, framed⟩] }
    | _ => s
  | .write call count =>
    match s.calls[call]? with
    | none => s
    | some c =>
      { s with
        calls := s.calls.set call { c with rest := c.rest.drop count }
        taken := Function.update s.taken c.conn (s.taken c.conn ++ c.rest.take count) }

abbrev after (events : List SendEvent) : WifiSends := Runs.run step boot events

/-! ## No phone gets another's bytes -/

/-- Every call writes to a connection from the address it was meant for. -/
structure Addressed (s : WifiSends) : Prop where
  sound : s.wifi.Sound
  named : ∀ c ∈ s.calls, ∃ d, s.wifi.accepted[c.conn]? = some d ∧ d.peerId = c.peerId

end WifiSends

/-- Whatever happens, a connection is from the address it is from. -/
theorem Wifi.keeps_addr (s : Wifi) (event : WifiEvent) {n : Nat} {c : Conn}
    (here : s.accepted[n]? = some c) :
    ∃ d, (s.step event).accepted[n]? = some d ∧ d.addr = c.addr := by
  have modified (m : Nat) (f : Conn → Conn) (same : ∀ d, (f d).addr = d.addr) :
      ∃ d, (s.accepted.modify m f)[n]? = some d ∧ d.addr = c.addr := by
    refine ⟨_, some_modify m f here, ?_⟩
    split
    · exact same c
    · rfl
  cases event with
  | acceptLoop arrival =>
    simp only [step, acceptLoop]
    split
    · exact ⟨c, here, rfl⟩
    · exact ⟨c, here, rfl⟩
    · split
      · exact ⟨c, here, rfl⟩
      · split
        · exact ⟨c, by rw [List.getElem?_append_left (lt_of_some here), here], rfl⟩
        · exact ⟨c, here, rfl⟩
    · exact ⟨c, here, rfl⟩
    · exact ⟨c, here, rfl⟩
    · exact modified _ _ fun _ => rfl
    · exact ⟨c, here, rfl⟩
  | reader m received => exact modified m _ fun d => (d.advance_evolves received).addr
  | drop m => exact modified m _ fun _ => rfl
  | stop =>
    simp only [step, stop]
    split
    · exact ⟨c, here, rfl⟩
    · exact ⟨c, here, rfl⟩
    · exact ⟨c, here, rfl⟩
    · exact ⟨c, here, rfl⟩
    · exact modified _ _ fun _ => rfl
    · exact ⟨c, here, rfl⟩

namespace WifiSends

theorem send_some {s : Wifi} {peerId : PeerId} {packet framed : Bytes} {conn : Nat}
    (sent : s.send peerId packet = .ok (some (conn, framed))) :
    s.conns.lookup peerId = some conn ∧ frame packet = .ok framed := by
  unfold Wifi.send at sent
  split at sent
  · cases sent
  · rename_i n found
    obtain ⟨bytes, framed, same⟩ := map_ok sent
    cases same
    exact ⟨found, framed⟩

theorem addressed_step (s : WifiSends) (event : SendEvent) (addressed : s.Addressed) :
    (s.step event).Addressed := by
  obtain ⟨sound, named⟩ := addressed
  cases event with
  | transport event =>
    refine ⟨Wifi.sound_step s.wifi event sound, fun c mem => ?_⟩
    obtain ⟨d, here, peer⟩ := named c mem
    obtain ⟨d', here', addr⟩ := s.wifi.keeps_addr event here
    exact ⟨d', here', by rw [← peer, Conn.peerId, addr, Conn.peerId]⟩
  | send peerId packet =>
    simp only [step]
    split
    · rename_i conn framed sent
      refine ⟨sound, fun c mem => ?_⟩
      obtain mem | mem := List.mem_append.mp mem
      · exact named c mem
      · cases List.mem_singleton.mp mem
        exact (sound.named peerId conn (send_some sent).1).2
    · exact ⟨sound, named⟩
  | write call count =>
    simp only [step]
    split
    · exact ⟨sound, named⟩
    · rename_i c found
      refine ⟨sound, fun d mem => ?_⟩
      obtain mem | rfl := List.mem_or_eq_of_mem_set mem
      · exact named d mem
      · exact named c (List.mem_of_getElem? found)

theorem addressed_boot : boot.Addressed := ⟨Wifi.sound_boot, by simp [boot]⟩

theorem addressed_after (events : List SendEvent) : (after events).Addressed :=
  Runs.invariant_always addressed_step addressed_boot events

end WifiSends

/-! ## When the frames stay whole -/

/-- The kernel has some of the call's bytes, and has yet to take others. -/
def Writing.partway (c : Writing) : Bool := c.rest ≠ [] && c.rest ≠ frames.enc c.packet

/-- Of a frame in two pieces the second is all there is to take, or partway. -/
theorem Writing.partway_iff {c : Writing} {part : Bytes} (left : c.rest ≠ [])
    (split : part ++ c.rest = frames.enc c.packet) : c.partway = true ↔ part ≠ [] := by
  have rest : c.rest = frames.enc c.packet ↔ part = [] := by
    rw [← split, List.self_eq_append_left]
  simp [partway, left, rest]

namespace WifiSends

/-- The packets whose `sendall` on the connection is through. -/
def finished (calls : List Writing) (conn : Nat) : List Bytes :=
  (calls.filter fun c => c.conn = conn ∧ c.rest = []).map (·.packet)

/-- No call on the connection but this one is partway. -/
def Alone (calls : List Writing) (conn call : Nat) : Prop :=
  ∀ (i : Nat) (c : Writing), calls[i]? = some c → i ≠ call → c.conn = conn → c.partway = false

instance (calls : List Writing) (conn call : Nat) : Decidable (Alone calls conn call) :=
  decidable_of_iff
    (∀ i : Fin calls.length, i.val ≠ call → calls[i].conn = conn → calls[i].partway = false)
    ⟨fun all i c here => by
      obtain ⟨bound, rfl⟩ := List.getElem?_eq_some_iff.mp here
      exact all ⟨i, bound⟩,
    fun alone i => alone i calls[i] (List.getElem?_eq_getElem i.isLt)⟩

/-- The steps that cannot tear a frame of the connection: packets a phone
accepts, and a write only while no other call is partway there. Whatever
happens on the other connections is permitted. -/
def Permits (conn : Nat) (s : WifiSends) : SendEvent → Prop
  | .transport _ => True
  | .send peerId packet => s.wifi.conns.lookup peerId = some conn → packet.length ≤ MAX_FRAME
  | .write call _ => (∃ c, s.calls[call]? = some c ∧ c.conn = conn) → Alone s.calls conn call

/-- The connection's last bytes are those of the one call that is partway there. -/
def Tail (calls : List Writing) (conn : Nat) (part : Bytes) : Prop :=
  (part = [] ∧ ∀ c ∈ calls, c.conn = conn → c.partway = false) ∨
    ∃ (i : Nat) (c : Writing), calls[i]? = some c ∧ c.conn = conn ∧ c.rest ≠ [] ∧ part ≠ [] ∧
      part ++ c.rest = frames.enc c.packet ∧ Alone calls conn i

/-- What the connection was given is the finished frames and a beginning of the
one in hand. -/
structure Whole (conn : Nat) (s : WifiSends) : Prop where
  fits : ∀ c ∈ s.calls, c.conn = conn → c.packet.length ≤ MAX_FRAME
  reads : ∃ ps part, ps.Perm (finished s.calls conn) ∧
    s.taken conn = frames.stream ps ++ part ∧ Tail s.calls conn part

theorem some_set {α : Type} {l : List α} {i j : Nat} {a b : α} (here : (l.set i a)[j]? = some b) :
    (j = i ∧ b = a) ∨ (j ≠ i ∧ l[j]? = some b) := by
  by_cases same : j = i
  · subst same
    have bound := (List.getElem?_eq_some_iff.mp here).1
    rw [List.getElem?_set_self (by simpa using bound)] at here
    exact .inl ⟨rfl, (Option.some.inj here).symm⟩
  · rw [List.getElem?_set_ne (Ne.symm same)] at here
    exact .inr ⟨same, here⟩

/-- What is finished before and after one call has gone on. -/
theorem finished_set {calls : List Writing} {call : Nat} {c : Writing}
    (found : calls[call]? = some c) (c' : Writing) (conn : Nat) :
    ∃ front back, finished calls conn = front ++ finished [c] conn ++ back ∧
      finished (calls.set call c') conn = front ++ finished [c'] conn ++ back := by
  obtain ⟨old, new⟩ := Notify.split_at found c'
  refine ⟨finished (calls.take call) conn, finished (calls.drop (call + 1)) conn, ?_, ?_⟩
  · conv => lhs; rw [old]
    simp only [finished, ← List.map_append, ← List.filter_append, List.append_assoc,
      List.singleton_append]
  · rw [new]
    simp only [finished, ← List.map_append, ← List.filter_append, List.append_assoc,
      List.singleton_append]

/-- A call that is by itself still is when it has gone on. -/
theorem Alone.set {calls : List Writing} {conn call : Nat} (alone : Alone calls conn call)
    (c' : Writing) : Alone (calls.set call c') conn call := by
  intro i d here away on
  obtain ⟨same, -⟩ | ⟨-, here⟩ := some_set here
  · exact absurd same away
  · exact alone i d here away on

/-- The write at hand goes on with the frame the connection's bytes end in. -/
theorem Tail.at_hand {calls : List Writing} {conn call : Nat} {part : Bytes} {c : Writing}
    (tail : Tail calls conn part) (found : calls[call]? = some c) (on : c.conn = conn)
    (left : c.rest ≠ []) (alone : Alone calls conn call) :
    part ++ c.rest = frames.enc c.packet := by
  obtain ⟨rfl, nobody⟩ | ⟨i, d, here, same, rest, some, split, -⟩ := tail
  · have idle := nobody c (List.mem_of_getElem? found) on
    simpa [Writing.partway, left] using idle
  · by_cases mine : i = call
    · subst mine
      rw [found] at here
      cases here
      exact split
    · have idle := alone i d here mine same
      rw [(Writing.partway_iff rest split).mpr some] at idle
      cases idle

/-- A call that goes on elsewhere leaves the connection's end as it was. -/
theorem Tail.elsewhere {calls : List Writing} {conn call : Nat} {part : Bytes} {c : Writing}
    (tail : Tail calls conn part) (found : calls[call]? = some c) (other : c.conn ≠ conn)
    {c' : Writing} (same : c'.conn = c.conn) : Tail (calls.set call c') conn part := by
  obtain ⟨none, nobody⟩ | ⟨i, d, here, on, left, some, split, alone⟩ := tail
  · refine .inl ⟨none, fun d mem on => ?_⟩
    obtain mem | rfl := List.mem_or_eq_of_mem_set mem
    · exact nobody d mem on
    · exact absurd (same.symm.trans on) other
  · have away : call ≠ i := by
      rintro rfl
      rw [found] at here
      cases here
      exact other on
    refine .inr ⟨i, d, by rw [List.getElem?_set_ne away, here], on, left, some, split, ?_⟩
    intro j e there away on
    obtain ⟨-, rfl⟩ | ⟨-, there⟩ := some_set there
    · exact absurd (same.symm.trans on) other
    · exact alone j e there away on

/-- A call that has written nothing leaves it as it was too. -/
theorem Tail.append {calls : List Writing} {conn : Nat} {part : Bytes} {c : Writing}
    (tail : Tail calls conn part) (fresh : c.partway = false) :
    Tail (calls ++ [c]) conn part := by
  obtain ⟨none, nobody⟩ | ⟨i, d, here, on, left, some, split, alone⟩ := tail
  · refine .inl ⟨none, fun d mem on => ?_⟩
    obtain mem | mem := List.mem_append.mp mem
    · exact nobody d mem on
    · cases List.mem_singleton.mp mem
      exact fresh
  · refine .inr ⟨i, d, ?_, on, left, some, split, ?_⟩
    · rw [List.getElem?_append_left (List.getElem?_eq_some_iff.mp here).1, here]
    · intro j e there away on
      by_cases old : j < calls.length
      · rw [List.getElem?_append_left old] at there
        exact alone j e there away on
      · rw [List.getElem?_append_right (by omega)] at there
        cases List.mem_singleton.mp (List.mem_of_getElem? there)
        exact fresh

/-- Where the call at hand is not partway either, nobody is. -/
theorem Alone.nobody {calls : List Writing} {conn call : Nat} {c : Writing}
    (alone : Alone calls conn call) (found : calls[call]? = some c) (idle : c.partway = false) :
    ∀ d ∈ calls, d.conn = conn → d.partway = false := by
  intro d mem on
  obtain ⟨i, here⟩ := List.mem_iff_getElem?.mp mem
  by_cases same : i = call
  · subst same
    rw [found] at here
    cases here
    exact idle
  · exact alone i d here same on

/-- A call by itself adds to the one frame that is in hand, and finishes it
with its last byte. -/
theorem reads_write {calls : List Writing} {conn call count : Nat} {taken : Bytes} {c : Writing}
    (found : calls[call]? = some c) (on : c.conn = conn) (left : c.rest ≠ [])
    (alone : Alone calls conn call)
    (reads : ∃ ps part, ps.Perm (finished calls conn) ∧ taken = frames.stream ps ++ part ∧
      Tail calls conn part) :
    ∃ ps part,
      ps.Perm (finished (calls.set call { c with rest := c.rest.drop count }) conn) ∧
      taken ++ c.rest.take count = frames.stream ps ++ part ∧
      Tail (calls.set call { c with rest := c.rest.drop count }) conn part := by
  obtain ⟨ps, part, perm, rfl, tail⟩ := reads
  obtain ⟨front, back, before, after⟩ :=
    finished_set found { c with rest := c.rest.drop count } conn
  have bound : call < calls.length := (List.getElem?_eq_some_iff.mp found).1
  have here : (calls.set call { c with rest := c.rest.drop count })[call]? =
      some { c with rest := c.rest.drop count } := List.getElem?_set_self bound
  have still := alone.set { c with rest := c.rest.drop count }
  have split : part ++ c.rest.take count ++ c.rest.drop count = frames.enc c.packet := by
    rw [List.append_assoc, List.take_append_drop]
    exact tail.at_hand found on left alone
  by_cases through : c.rest.drop count = []
  · refine ⟨ps ++ [c.packet], [], ?_, ?_, .inl ⟨rfl, still.nobody here ?_⟩⟩
    · have old : finished [c] conn = [] := by simp [finished, left]
      have new : finished [{ c with rest := c.rest.drop count }] conn = [c.packet] := by
        simp [finished, on, through]
      rw [after, new, List.append_assoc]
      rw [before, old, List.append_nil] at perm
      exact (perm.append_right _).trans ((List.perm_append_singleton _ _).trans
        List.perm_middle.symm)
    · rw [through, List.append_nil] at split
      simp [split]
    · simp [Writing.partway, through]
  · refine ⟨ps, part ++ c.rest.take count, ?_, List.append_assoc _ _ _, ?_⟩
    · have old : finished [c] conn = [] := by simp [finished, left]
      have new : finished [{ c with rest := c.rest.drop count }] conn = [] := by
        simp [finished, through]
      rw [after, new, ← old, ← before]
      exact perm
    · by_cases fresh : part ++ c.rest.take count = []
      · refine .inl ⟨fresh, still.nobody here ?_⟩
        rw [Bool.eq_false_iff]
        intro begun
        exact (Writing.partway_iff through split).mp begun fresh
      · exact .inr ⟨call, _, here, on, through, fresh, split, still⟩

theorem whole_write {s : WifiSends} {conn call : Nat} (whole : s.Whole conn) (count : Nat)
    (alone : (∃ c, s.calls[call]? = some c ∧ c.conn = conn) → Alone s.calls conn call) :
    (s.step (.write call count)).Whole conn := by
  cases found : s.calls[call]? with
  | none => simpa only [step, found] using whole
  | some c =>
    simp only [step, found]
    constructor
    · intro d mem on
      obtain mem | rfl := List.mem_or_eq_of_mem_set mem
      · exact whole.fits d mem on
      · exact whole.fits c (List.mem_of_getElem? found) on
    by_cases on : c.conn = conn
    · have wrote : Function.update s.taken c.conn (s.taken c.conn ++ c.rest.take count) conn =
          s.taken conn ++ c.rest.take count := by rw [on, Function.update_self]
      dsimp only
      rw [wrote]
      by_cases left : c.rest = []
      · -- a call that is through writes nothing
        have idle : { c with rest := c.rest.drop count } = c := by rw [left, List.drop_nil, ← left]
        obtain ⟨bound, rfl⟩ := List.getElem?_eq_some_iff.mp found
        rw [idle, List.set_getElem_self, left, List.take_nil, List.append_nil]
        exact whole.reads
      · exact reads_write found on left (alone ⟨c, found, on⟩) whole.reads
    · obtain ⟨ps, part, perm, taken, tail⟩ := whole.reads
      obtain ⟨front, back, before, after⟩ :=
        finished_set found { c with rest := c.rest.drop count } conn
      refine ⟨ps, part, ?_, ?_, tail.elsewhere found on rfl⟩
      · rw [after, finished, List.filter_cons_of_neg (by simp [on])]
        rw [before, finished, List.filter_cons_of_neg (by simp [on])] at perm
        exact perm
      · dsimp only
        rw [Function.update_of_ne (Ne.symm on)]
        exact taken

theorem whole_send {s : WifiSends} {conn : Nat} (whole : s.Whole conn) (peerId : PeerId)
    (packet : Bytes) (fits : s.wifi.conns.lookup peerId = some conn → packet.length ≤ MAX_FRAME) :
    (s.step (.send peerId packet)).Whole conn := by
  simp only [step]
  split
  · rename_i found framed sent
    obtain ⟨known, framed⟩ := send_some sent
    obtain ⟨-, rfl⟩ := frame_ok framed
    have fresh : (Writing.mk peerId packet found (frames.enc packet)).partway = false := by
      simp [Writing.partway]
    obtain ⟨ps, part, perm, taken, tail⟩ := whole.reads
    refine ⟨?_, ps, part, ?_, taken, ?_⟩
    · intro c mem on
      obtain mem | mem := List.mem_append.mp mem
      · exact whole.fits c mem on
      · cases List.mem_singleton.mp mem
        exact fits (on ▸ known)
    · have left : frames.enc packet ≠ [] := by simp [frames, lengthPrefix]
      simpa [finished, List.filter_cons, left] using perm
    · exact tail.append fresh
  · exact whole

theorem whole_step {conn : Nat} (s : WifiSends) (event : SendEvent) (whole : s.Whole conn)
    (permitted : Permits conn s event) : (s.step event).Whole conn := by
  cases event with
  | transport event => exact ⟨whole.fits, whole.reads⟩
  | send peerId packet => exact whole_send whole peerId packet permitted
  | write call count => exact whole_write whole count permitted

theorem whole_boot (conn : Nat) : boot.Whole conn where
  fits := by simp [boot]
  reads := ⟨[], [], .refl _, rfl, .inl ⟨rfl, by simp [boot]⟩⟩

/-- What is in hand is not a frame yet. -/
theorem Whole.drained {conn : Nat} {s : WifiSends} (whole : s.Whole conn) :
    ∃ ps part, ps.Perm (finished s.calls conn) ∧
      Drain.drain FrameAssembler.splitter (s.taken conn) = (ps, some part) := by
  obtain ⟨ps, part, perm, taken, tail⟩ := whole.reads
  have fit : ∀ p ∈ ps, p.length ≤ MAX_FRAME := by
    intro p mem
    obtain ⟨c, kept, rfl⟩ := List.mem_map.mp (perm.mem_iff.mp mem)
    obtain ⟨mem, through⟩ := List.mem_filter.mp kept
    exact whole.fits c mem (of_decide_eq_true through).1
  have waits : frames.front part = .wait := by
    obtain ⟨rfl, -⟩ | ⟨i, c, here, on, left, -, split, -⟩ := tail
    · exact frames.front_nil
    · apply frames.front_partial (whole.fits c (List.mem_of_getElem? here) on) ⟨c.rest, split⟩
      intro same
      rw [same, List.append_right_eq_self] at split
      exact left split
  refine ⟨ps, part, perm, ?_⟩
  have all := Drain.drain_stream_append (C := frames) fit part
  rw [Drain.drain_wait waits, List.append_nil, ← taken] at all
  exact all

/-- **What a phone reads.** Wherever no `sendall` for a phone writes while another
is partway, whatever happens to the other phones and however the phone cuts its
stream, it reads the packets whose `sendall` is through, each once, and they
were sent to its own peer id. -/
theorem phone_reads (conn : Nat) (events : List SendEvent)
    (permitted : Runs.Along step (Permits conn) boot events) (chunks : List Bytes)
    (cut : chunks.flatten = (after events).taken conn) :
    (∃ (outs : List (List Bytes)) (left : FrameAssembler),
      FrameAssembler.fresh.feedAll chunks = (outs.map .ok, left) ∧
      outs.flatten.Perm (finished (after events).calls conn)) ∧
    ∀ c ∈ (after events).calls, c.conn = conn →
      ((after events).wifi.accepted[conn]?.map Conn.peerId) = some c.peerId := by
  have whole : (after events).Whole conn := Runs.invariant whole_step (whole_boot conn) permitted
  constructor
  · obtain ⟨ps, part, perm, drained⟩ := whole.drained
    rw [← cut] at drained
    obtain ⟨outs, fed, all, -⟩ := FrameAssembler.feedAll_ok (a := .fresh) rfl drained
    exact ⟨outs, ⟨part⟩, fed, all ▸ perm⟩
  · rintro c mem rfl
    obtain ⟨d, here, same⟩ := (addressed_after events).named c mem
    rw [here, ← same]
    rfl

end WifiSends

namespace Sample

/-- A phone connects, and two threads send it a packet each. -/
def twoSends : List SendEvent :=
  let phone : SockAddr := ⟨"10.78.0.5", 40000, by decide⟩
  [.transport (.acceptLoop none), .transport (.acceptLoop none),
    .transport (.acceptLoop (some phone)), .transport (.acceptLoop none),
    .send phone.peerId [7], .send phone.peerId [8, 9]]

theorem phone_reads_two :
    (∃ (outs : List (List Bytes)) (left : FrameAssembler),
      FrameAssembler.fresh.feedAll [[0], [1, 7, 0, 2, 8], [9]] = (outs.map .ok, left) ∧
      outs.flatten.Perm [[7], [8, 9]]) := by
  have permitted : Runs.Along WifiSends.step (WifiSends.Permits 0) WifiSends.boot
      (twoSends ++ [.write 0 2, .write 0 1, .write 1 4]) :=
    ⟨trivial, trivial, trivial, trivial, fun _ => by decide, fun _ => by decide,
      fun _ => by decide +kernel, fun _ => by decide +kernel, fun _ => by decide +kernel, trivial⟩
  exact (WifiSends.phone_reads 0 _ permitted [[0], [1, 7, 0, 2, 8], [9]] (by decide +kernel)).1

/-- Mixed, the phone takes the second frame's length for a piece of the first. -/
example : (WifiSends.after (twoSends ++ [.write 0 2, .write 1 4, .write 0 1])).taken 0 =
    [0, 1, 0, 2, 8, 9, 7] := by decide +kernel

end Sample

end MeshlinkNode
