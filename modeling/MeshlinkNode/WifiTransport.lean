import MeshlinkNode.Core
import MeshlinkNode.Framing
import MeshlinkNode.Lib.Runs

/-!
# The WiFi transport's threads

The accept loop, one reader a connection and `stop` share the registry
`_conns`, which knows a connection only by the address it came from. What
`accept` and `recv` return, and when the kernel drops a connection, is part of
the event, so a run is an interleaving.
-/

namespace MeshlinkNode

/-- meshlink-core's MAX_PACKET. -/
def MAX_PACKET : Nat := 460

/-- The address of an `AF_INET` peer; a dotted quad has no colon. -/
structure SockAddr where
  host : String
  port : Nat
  quad : ':' ∉ host.toList
  deriving DecidableEq

def SockAddr.peerId (addr : SockAddr) : PeerId :=
  "wifi:" ++ addr.host ++ ":" ++ toString addr.port

/-- The registry's key tells addresses apart. -/
theorem SockAddr.peerId_inj {a b : SockAddr} (same : a.peerId = b.peerId) : a = b := by
  have chars : a.host.toList ++ ':' :: (toString a.port).toList =
      b.host.toList ++ ':' :: (toString b.port).toList := by
    have lists := congrArg String.toList same
    simpa [peerId, String.toList_append] using lists
  have digits : ':' ∉ (toString a.port).toList := by
    intro mem
    simp only [Nat.toString_eq_repr, Nat.toList_repr] at mem
    exact absurd (Nat.isDigit_of_mem_toDigits (by decide) (by decide) mem) (by decide)
  obtain ⟨hosts, -, ports⟩ := (List.append_cons_inj_of_notMem a.quad digits).mp chars
  have host : a.host = b.host := String.toList_inj.mp hosts
  have port : a.port = b.port := by
    have value := congrArg (Nat.ofDigitChars 10 · 0) ports
    simpa using value
  cases a
  cases b
  simp_all

/-- Where a `_reader` thread stands. -/
inductive ReaderStage where
  | unstarted
  | looping
  | receiving
  | dispatching (packets : List Bytes)
  | leaving
  | closing
  | exited
  deriving DecidableEq

/-- A connection that `accept` returned, and its reader. -/
structure Conn where
  addr : SockAddr
  stage : ReaderStage
  assembler : FrameAssembler
  dropped : Bool
  closed : Bool
  deriving DecidableEq

/-- What `_dispatch` hands to the relay's callback. -/
def dispatch (packet : Bytes) : Option Bytes :=
  if packet = [] ∨ MAX_PACKET < packet.length then none else some packet

namespace Conn

def fresh (addr : SockAddr) : Conn := ⟨addr, .unstarted, .fresh, false, false⟩

def peerId (conn : Conn) : PeerId := conn.addr.peerId

/-- Neither the kernel nor the node has given the connection up. -/
def Open (conn : Conn) : Prop := conn.dropped = false ∧ conn.closed = false

instance (conn : Conn) : Decidable conn.Open := inferInstanceAs (Decidable (_ ∧ _))

/-- The next step of `_reader`, and what `recv` returns or raises where it
waits in it. A call of `recv` after `close` raises; one that is waiting when
the socket is closed may still return. -/
def advance (conn : Conn) (received : Except PyExc Bytes) : Conn :=
  match conn.stage with
  | .looping => { conn with stage := if conn.closed then .leaving else .receiving }
  | .receiving =>
    match received with
    | .error _ | .ok [] => { conn with stage := .leaving }
    | .ok data =>
      let (fed, assembler) := conn.assembler.feed data
      match fed with
      | .error _ => { conn with stage := .leaving, assembler }
      | .ok packets => { conn with stage := .dispatching packets, assembler }
  | .dispatching [] => { conn with stage := .looping }
  | .dispatching (_ :: packets) => { conn with stage := .dispatching packets }
  | .leaving => { conn with stage := .closing }
  | .closing => { conn with stage := .exited, closed := true }
  | .unstarted | .exited => conn

/-- The callback that the next step of the reader makes. -/
def dispatches (conn : Conn) : Option Bytes :=
  match conn.stage with
  | .dispatching (packet :: _) => dispatch packet
  | _ => none

end Conn

/-- Where the accept loop stands. -/
inductive AcceptStage where
  | checking
  | listening
  | accepting
  | holding (conn : Nat) (addr : SockAddr)
  | registered (conn : Nat)
  | announced (conn : Nat)
  | ended
  deriving DecidableEq

/-- Where the call of `stop` stands. -/
inductive StopStage where
  | uncalled
  | flagged
  | unlistened
  | closing (conns : List Nat)
  | returned
  deriving DecidableEq

/-- A connection is its number among all that were accepted. -/
structure Wifi where
  accepted : List Conn
  conns : Dict PeerId Nat
  acceptor : AcceptStage
  stopping : StopStage

inductive WifiEvent where
  | acceptLoop (arrival : Option SockAddr)
  | reader (conn : Nat) (received : Except PyExc Bytes)
  | drop (conn : Nat)
  | stop

/-- A step of the accept loop. -/
def WifiEvent.Accepts : WifiEvent → Prop
  | .acceptLoop _ => True
  | _ => False

namespace Wifi

/-- The transport once `start` has returned. -/
def boot : Wifi := ⟨[], ∅, .checking, .uncalled⟩

/-- `_running`. -/
def Running (s : Wifi) : Prop := s.stopping = .uncalled

instance (s : Wifi) : Decidable s.Running := inferInstanceAs (Decidable (_ = _))

/-- The listening socket has not been closed. -/
def Listening (s : Wifi) : Prop := s.stopping = .uncalled ∨ s.stopping = .flagged

instance (s : Wifi) : Decidable s.Listening := inferInstanceAs (Decidable (_ ∨ _))

def listPeers (s : Wifi) : List PeerId := s.conns.keys

/-- The connection `send` writes to, and the bytes. -/
def send (s : Wifi) (peerId : PeerId) (data : Bytes) : Except PyExc (Option (Nat × Bytes)) :=
  match s.conns.lookup peerId with
  | none => .ok none
  | some conn => (frame data).map fun framed => some (conn, framed)

/-- No two connections of one address are open: the kernel refuses the second. -/
def Free (s : Wifi) (addr : SockAddr) : Prop :=
  ∀ conn ∈ s.accepted, conn.addr = addr → ¬ conn.Open

instance (s : Wifi) (addr : SockAddr) : Decidable (s.Free addr) :=
  inferInstanceAs (Decidable (∀ _ ∈ _, _))

/-- The next step of `_accept_loop`, and what `accept` returns where it waits
in it; `none` is an `OSError`. -/
def acceptLoop (s : Wifi) (arrival : Option SockAddr) : Wifi :=
  match s.acceptor with
  | .checking => { s with acceptor := if s.Running then .listening else .ended }
  | .listening => { s with acceptor := if s.Listening then .accepting else .ended }
  | .accepting =>
    match arrival with
    | none => { s with acceptor := .ended }
    | some addr =>
      if s.Free addr then
        { s with
          accepted := s.accepted ++ [Conn.fresh addr]
          acceptor := .holding s.accepted.length addr }
      else s
  | .holding conn addr =>
    { s with conns := s.conns.insert addr.peerId conn, acceptor := .registered conn }
  | .registered conn => { s with acceptor := .announced conn }
  | .announced conn =>
    { s with
      accepted := s.accepted.modify conn fun c => { c with stage := .looping }
      acceptor := .checking }
  | .ended => s

/-- The next step of a reader: in its cleanup it removes its address from the
registry, whatever connection the registry has there. -/
def reader (s : Wifi) (conn : Nat) (received : Except PyExc Bytes) : Wifi :=
  { s with
    accepted := s.accepted.modify conn (·.advance received)
    conns :=
      match s.accepted[conn]? with
      | some c => if c.stage = .leaving then s.conns.erase c.peerId else s.conns
      | none => s.conns }

/-- The next step of `stop`. The listening socket goes before the registry, and
the registry is emptied before the first of its connections is closed. -/
def stop (s : Wifi) : Wifi :=
  match s.stopping with
  | .uncalled => { s with stopping := .flagged }
  | .flagged => { s with stopping := .unlistened }
  | .unlistened => { s with conns := ∅, stopping := .closing (s.conns.entries.map Sigma.snd) }
  | .closing [] => { s with stopping := .returned }
  | .closing (conn :: conns) =>
    { s with
      accepted := s.accepted.modify conn fun c => { c with closed := true }
      stopping := .closing conns }
  | .returned => s

def step (s : Wifi) : WifiEvent → Wifi
  | .acceptLoop arrival => s.acceptLoop arrival
  | .reader conn received => s.reader conn received
  | .drop conn => { s with accepted := s.accepted.modify conn fun c => { c with dropped := true } }
  | .stop => s.stop

abbrev after (events : List WifiEvent) : Wifi := Runs.run step boot events

end Wifi

/-! ## What a step leaves of a connection -/

namespace Conn

/-- The reader has left its loop. -/
def Left (conn : Conn) : Prop :=
  match conn.stage with
  | .leaving | .closing | .exited => True
  | _ => False

/-- The reader is in its loop. -/
def Reading (conn : Conn) : Prop :=
  match conn.stage with
  | .looping | .receiving | .dispatching _ => True
  | _ => False

instance (conn : Conn) : Decidable conn.Left := by unfold Left; split <;> infer_instance

instance (conn : Conn) : Decidable conn.Reading := by unfold Reading; split <;> infer_instance

theorem reading_iff (conn : Conn) : conn.Reading ↔ ¬ conn.Left ∧ conn.stage ≠ .unstarted := by
  obtain ⟨addr, stage, assembler, dropped, closed⟩ := conn
  cases stage <;> simp [Reading, Left]

/-- Addresses stay; what was given up and what was left stays so; and a reader
starts only once. -/
structure Evolves (c d : Conn) : Prop where
  addr : d.addr = c.addr
  dropped : d.dropped = false → c.dropped = false
  closed : d.closed = false → c.closed = false
  left : c.Left → d.Left
  unstarted : d.stage = .unstarted → c.stage = .unstarted

theorem Evolves.refl (c : Conn) : c.Evolves c := ⟨rfl, id, id, id, id⟩

theorem Evolves.stillOpen {c d : Conn} (h : c.Evolves d) (opened : d.Open) : c.Open :=
  ⟨h.dropped opened.1, h.closed opened.2⟩

theorem advance_evolves (c : Conn) (received : Except PyExc Bytes) :
    c.Evolves (c.advance received) := by
  obtain ⟨addr, stage, assembler, dropped, closed⟩ := c
  unfold advance
  cases stage with
  | looping =>
    refine ⟨rfl, id, id, False.elim, ?_⟩
    cases closed <;> simp
  | receiving =>
    match received with
    | .error _ | .ok [] => exact ⟨rfl, id, id, False.elim, by simp⟩
    | .ok (b :: data) =>
      simp only
      split <;> exact ⟨rfl, id, id, False.elim, by simp⟩
  | dispatching packets =>
    cases packets <;> exact ⟨rfl, id, id, False.elim, by simp⟩
  | closing => exact ⟨rfl, id, by simp, fun _ => trivial, by simp⟩
  | leaving => exact ⟨rfl, id, id, fun _ => trivial, by simp⟩
  | unstarted | exited => exact .refl _

theorem drop_evolves (c : Conn) : c.Evolves { c with dropped := true } :=
  ⟨rfl, by simp, id, id, id⟩

theorem close_evolves (c : Conn) : c.Evolves { c with closed := true } :=
  ⟨rfl, id, by simp, id, id⟩

theorem advance_unstarted {c : Conn} (un : c.stage = .unstarted) (received : Except PyExc Bytes) :
    c.advance received = c := by
  simp [advance, un]

end Conn

namespace AcceptStage

/-- The connection that the accept loop has in hand and has not registered. -/
def held : AcceptStage → Option Nat
  | .holding conn _ => some conn
  | _ => none

/-- The connection whose reader the accept loop is yet to start. -/
def current : AcceptStage → Option Nat
  | .holding conn _ | .registered conn | .announced conn => some conn
  | _ => none

end AcceptStage

namespace Wifi

/-- The accept loop has one connection in hand at most, the newest; of the
connections of one address only the newest can be open; and the registry names
connections by the address they came from. -/
structure Sound (s : Wifi) : Prop where
  current : ∀ n, s.acceptor.current = some n →
    s.accepted.length = n + 1 ∧ ∃ c, s.accepted[n]? = some c ∧ c.stage = .unstarted
  holding : ∀ n addr, s.acceptor = .holding n addr →
    ∃ c, s.accepted[n]? = some c ∧ c.addr = addr
  waiting : ∀ n c, s.accepted[n]? = some c → c.stage = .unstarted → s.acceptor.current = some n
  older : ∀ (m n : Nat) (c d : Conn), m < n → s.accepted[m]? = some c → s.accepted[n]? = some d →
    c.addr = d.addr → ¬ c.Open
  named : ∀ peer n, s.conns.lookup peer = some n →
    s.acceptor.held ≠ some n ∧ ∃ c, s.accepted[n]? = some c ∧ c.peerId = peer

theorem modify_some {l : List Conn} {m n : Nat} {f : Conn → Conn} {d : Conn}
    (h : (l.modify m f)[n]? = some d) : ∃ c, l[n]? = some c ∧ d = if m = n then f c else c := by
  rw [List.getElem?_modify] at h
  obtain ⟨c, hc, rfl⟩ := Option.map_eq_some_iff.mp h
  exact ⟨c, hc, rfl⟩

theorem some_modify {l : List Conn} {n : Nat} {c : Conn} (m : Nat) (f : Conn → Conn)
    (h : l[n]? = some c) : (l.modify m f)[n]? = some (if m = n then f c else c) := by
  simp [List.getElem?_modify, h]

/-- A change of one connection that lets it evolve and does not start it. -/
theorem Sound.modify {s : Wifi} (sound : Sound s) {m : Nat} {f : Conn → Conn}
    (evolves : ∀ c : Conn, c.Evolves (f c))
    (starts : ∀ c, c.stage = .unstarted → (f c).stage = .unstarted) :
    Sound { s with accepted := s.accepted.modify m f } where
  current := by
    intro n hn
    obtain ⟨len, c, hc, un⟩ := sound.current n hn
    refine ⟨by simpa using len, _, some_modify m f hc, ?_⟩
    split
    · exact starts c un
    · exact un
  holding := by
    intro n addr hold
    obtain ⟨c, hc, here⟩ := sound.holding n addr hold
    refine ⟨_, some_modify m f hc, ?_⟩
    split
    · rw [(evolves c).addr, here]
    · exact here
  waiting := by
    intro n d hd un
    obtain ⟨c, hc, rfl⟩ := modify_some hd
    apply sound.waiting n c hc
    split at un
    · exact (evolves c).unstarted un
    · exact un
  older := by
    intro i j c d lt hc hd same
    obtain ⟨c, hc', rfl⟩ := modify_some hc
    obtain ⟨d, hd', rfl⟩ := modify_some hd
    have addrs : ∀ k c, (if m = k then f c else c).addr = c.addr := by
      intro k c
      split
      · exact (evolves c).addr
      · rfl
    rw [addrs, addrs] at same
    intro opened
    apply sound.older i j c d lt hc' hd' same
    split at opened
    · exact (evolves c).stillOpen opened
    · exact opened
  named := by
    intro peer n found
    obtain ⟨free, c, hc, here⟩ := sound.named peer n found
    refine ⟨free, _, some_modify m f hc, ?_⟩
    split
    · rw [Conn.peerId, (evolves c).addr]
      exact here
    · exact here

/-- Names can go from the registry. -/
theorem Sound.forget {s : Wifi} (sound : Sound s) {conns : Dict PeerId Nat} {stopping : StopStage}
    (fewer : ∀ peer n, conns.lookup peer = some n → s.conns.lookup peer = some n) :
    Sound { s with conns, stopping } :=
  { sound with named := fun peer n found => sound.named peer n (fewer peer n found) }

/-- The accept loop can go on between the connections it has in hand. -/
theorem Sound.acceptor {s : Wifi} (sound : Sound s) {acceptor : AcceptStage}
    (same : acceptor.current = s.acceptor.current) (free : acceptor.held = none) :
    Sound { s with acceptor } where
  current := fun n hn => sound.current n (same ▸ hn)
  holding := by
    intro n addr hold
    subst hold
    cases free
  waiting := fun n c hc un => same.trans (sound.waiting n c hc un)
  older := sound.older
  named := by
    intro peer n found
    refine ⟨?_, (sound.named peer n found).2⟩
    simp [free]

theorem reader_conns (s : Wifi) (m : Nat) (received : Except PyExc Bytes) {peer : PeerId} {n : Nat}
    (found : (s.reader m received).conns.lookup peer = some n) : s.conns.lookup peer = some n := by
  simp only [reader] at found
  split at found
  · rename_i c _
    split at found
    · by_cases mine : peer = c.peerId
      · rw [mine, AList.lookup_erase] at found
        cases found
      · rwa [AList.lookup_erase_ne mine] at found
    · exact found
  · exact found

theorem sound_reader {s : Wifi} (sound : Sound s) (m : Nat) (received : Except PyExc Bytes) :
    Sound (s.reader m received) := by
  have evolves : ∀ c : Conn, c.Evolves (c.advance received) := fun c => c.advance_evolves received
  have starts : ∀ c : Conn, c.stage = .unstarted → (c.advance received).stage = .unstarted := by
    intro c un
    rw [Conn.advance_unstarted un, un]
  exact (sound.modify (m := m) evolves starts).forget fun _ _ => s.reader_conns m received

theorem sound_stop {s : Wifi} (sound : Sound s) : Sound s.stop := by
  unfold stop
  split
  · exact sound.forget fun _ _ => id
  · exact sound.forget fun _ _ => id
  · exact sound.forget fun _ _ none => by cases none
  · exact sound.forget fun _ _ => id
  · exact (sound.modify Conn.close_evolves fun _ => id).forget fun _ _ => id
  · exact sound

theorem sound_drop {s : Wifi} (sound : Sound s) (m : Nat) : Sound (s.step (.drop m)) := by
  exact sound.modify Conn.drop_evolves fun _ => id

theorem concat_some {l : List Conn} {a c : Conn} {n : Nat} (h : (l ++ [a])[n]? = some c) :
    l[n]? = some c ∨ n = l.length ∧ c = a := by
  by_cases inside : n < l.length
  · rw [List.getElem?_append_left inside] at h
    exact .inl h
  · obtain ⟨k, rfl⟩ := Nat.exists_eq_add_of_le (not_lt.mp inside)
    rw [List.getElem?_append_right (by omega), Nat.add_sub_cancel_left] at h
    cases k with
    | zero => exact .inr ⟨rfl, by simpa using h.symm⟩
    | succ k => simp at h

theorem lt_of_some {l : List Conn} {n : Nat} {c : Conn} (h : l[n]? = some c) : n < l.length :=
  (List.getElem?_eq_some_iff.mp h).1

/-- A connection from a free address is the newest, and the older ones of its
address are not open. -/
theorem sound_accept {s : Wifi} (sound : Sound s) (idle : s.acceptor = .accepting)
    {addr : SockAddr} (free : s.Free addr) :
    Sound { s with
      accepted := s.accepted ++ [Conn.fresh addr]
      acceptor := .holding s.accepted.length addr } where
  current := by
    intro n hn
    cases hn
    exact ⟨by simp, Conn.fresh addr, by simp, rfl⟩
  holding := by
    intro n a hold
    cases hold
    exact ⟨Conn.fresh addr, by simp, rfl⟩
  waiting := by
    intro n c hc un
    rcases concat_some hc with old | ⟨rfl, -⟩
    · have busy := sound.waiting n c old un
      rw [idle] at busy
      cases busy
    · rfl
  older := by
    intro m n c d lt hc hd same
    rcases concat_some hd with old | ⟨rfl, rfl⟩
    · have inside := lt_of_some old
      rcases concat_some hc with older | ⟨rfl, -⟩
      · exact sound.older m n c d lt older old same
      · omega
    · rcases concat_some hc with older | ⟨rfl, -⟩
      · exact free c (List.mem_of_getElem? older) same
      · omega
  named := by
    intro peer n found
    obtain ⟨-, c, hc, here⟩ := sound.named peer n found
    have inside := lt_of_some hc
    refine ⟨?_, c, ?_, here⟩
    · simp only [AcceptStage.held, ne_eq, Option.some.injEq]
      omega
    · exact (List.getElem?_append_left inside).trans hc

/-- The accept loop registers the connection in hand under its address. -/
theorem sound_register {s : Wifi} (sound : Sound s) {n : Nat} {addr : SockAddr}
    (hold : s.acceptor = .holding n addr) :
    Sound { s with conns := s.conns.insert addr.peerId n, acceptor := .registered n } where
  current := by
    intro m hm
    cases hm
    exact sound.current n (by rw [hold]; rfl)
  holding := by
    intro m a hm
    cases hm
  waiting := by
    intro m c hc un
    have busy := sound.waiting m c hc un
    rw [hold] at busy
    exact busy
  older := sound.older
  named := by
    intro peer m found
    refine ⟨by simp [AcceptStage.held], ?_⟩
    by_cases mine : peer = addr.peerId
    · subst mine
      rw [AList.lookup_insert] at found
      cases found
      obtain ⟨c, hc, here⟩ := sound.holding n addr hold
      exact ⟨c, hc, congrArg SockAddr.peerId here⟩
    · rw [AList.lookup_insert_ne mine] at found
      exact (sound.named peer m found).2

/-- The accept loop starts the reader of the connection in hand. -/
theorem sound_spawn {s : Wifi} (sound : Sound s) {n : Nat} (ready : s.acceptor = .announced n) :
    Sound { s with
      accepted := s.accepted.modify n fun c => { c with stage := .looping }
      acceptor := .checking } where
  current := by
    intro m hm
    cases hm
  holding := by
    intro m a hm
    cases hm
  waiting := by
    intro m d hd un
    obtain ⟨c, hc, rfl⟩ := modify_some hd
    split at un
    · cases un
    · rename_i other
      have busy := sound.waiting m c hc un
      rw [ready] at busy
      cases busy
      exact absurd rfl other
  older := by
    intro i j c d lt hc hd same
    obtain ⟨c, hc', rfl⟩ := modify_some hc
    obtain ⟨d, hd', rfl⟩ := modify_some hd
    have older := sound.older i j c d lt hc' hd'
    split at same <;> split at same <;> split <;> exact older same
  named := by
    intro peer m found
    obtain ⟨-, c, hc, here⟩ := sound.named peer m found
    refine ⟨by simp [AcceptStage.held], _, some_modify n _ hc, ?_⟩
    split
    · exact here
    · exact here

theorem sound_acceptLoop {s : Wifi} (sound : Sound s) (arrival : Option SockAddr) :
    Sound (s.acceptLoop arrival) := by
  unfold acceptLoop
  split
  · rename_i idle
    apply sound.acceptor <;> split <;> simp [idle, AcceptStage.current, AcceptStage.held]
  · rename_i idle
    apply sound.acceptor <;> split <;> simp [idle, AcceptStage.current, AcceptStage.held]
  · rename_i idle
    split
    · exact sound.acceptor (by rw [idle]; rfl) rfl
    · split
      · rename_i free
        exact sound_accept sound idle free
      · exact sound
  · rename_i hold
    exact sound_register sound hold
  · rename_i here
    exact sound.acceptor (by rw [here]; rfl) rfl
  · rename_i ready
    exact sound_spawn sound ready
  · exact sound

theorem sound_step (s : Wifi) (event : WifiEvent) (sound : Sound s) : Sound (s.step event) := by
  cases event with
  | acceptLoop arrival => exact sound_acceptLoop sound arrival
  | reader conn received => exact sound_reader sound conn received
  | drop conn => exact sound_drop sound conn
  | stop => exact sound_stop sound

theorem sound_boot : Sound boot where
  current := by intro n hn; cases hn
  holding := by intro n addr hold; cases hold
  waiting := by intro n c hc; simp [boot] at hc
  older := by intro m n c d _ hc; simp [boot] at hc
  named := by intro peer n found; cases found

/-! ## Who is listed -/

/-- Every connection with a reader in its loop that is still open is registered
under its peer id, so that it is listed and `send` writes to it. -/
def Listed (s : Wifi) : Prop :=
  s.Running → ∀ n c, s.accepted[n]? = some c → c.Reading → c.Open →
    s.conns.lookup c.peerId = some n ∧ c.peerId ∈ s.listPeers ∧
    ∀ data, s.send c.peerId data = (frame data).map fun framed => some (n, framed)

/-- An open connection between its registration and its reader's leaving. -/
def Kept (s : Wifi) (n : Nat) (c : Conn) : Prop :=
  s.accepted[n]? = some c ∧ c.Open ∧ ¬ c.Left ∧ s.acceptor.held ≠ some n

def Registered (s : Wifi) : Prop :=
  s.Running → ∀ n c, s.Kept n c → s.conns.lookup c.peerId = some n

/-- No reader removes its address while the registry has a connection there
that is open and that no reader has left. -/
def Undisturbed (s : Wifi) : WifiEvent → Prop
  | .reader m _ => s.Running → ∀ c, s.accepted[m]? = some c → c.stage = .leaving →
    ∀ n d, s.conns.lookup c.peerId = some n → ¬ s.Kept n d
  | _ => True

theorem Registered.listed {s : Wifi} (sound : Sound s) (good : s.Registered) : s.Listed := by
  intro running n c hc reading opened
  obtain ⟨stays, started⟩ := c.reading_iff.mp reading
  have free : s.acceptor.held ≠ some n := by
    intro held
    have busy : s.acceptor.current = some n := by
      unfold AcceptStage.held at held
      split at held
      · rename_i hold
        rw [hold]
        exact held
      · cases held
    obtain ⟨-, d, hd, un⟩ := sound.current n busy
    rw [hc] at hd
    cases hd
    exact started un
  have found := good running n c ⟨hc, opened, stays, free⟩
  refine ⟨found, AList.mem_keys.mp (AList.lookup_isSome.mp (by simp [found])), ?_⟩
  intro data
  simp only [send, found]

/-- What is kept after a step that leaves the accept loop's hands as they were
was kept before it. -/
theorem kept_of_modify {s t : Wifi} {m n : Nat} {f : Conn → Conn} {d : Conn}
    (kept : t.Kept n d) (evolves : ∀ c : Conn, c.Evolves (f c))
    (accepted : t.accepted = s.accepted.modify m f) (held : t.acceptor.held = s.acceptor.held) :
    ∃ c, s.Kept n c ∧ c.peerId = d.peerId ∧ d = if m = n then f c else c := by
  obtain ⟨hd, opened, stays, free⟩ := kept
  rw [accepted] at hd
  rw [held] at free
  obtain ⟨c, hc, rfl⟩ := modify_some hd
  split at opened
  · rename_i here
    rw [if_pos here] at stays
    refine ⟨c, ⟨hc, (evolves c).stillOpen opened, fun left => stays ((evolves c).left left), free⟩,
      ?_, rfl⟩
    rw [if_pos here, Conn.peerId, Conn.peerId, (evolves c).addr]
  · rename_i here
    rw [if_neg here] at stays
    exact ⟨c, ⟨hc, opened, stays, free⟩, by rw [if_neg here], rfl⟩

theorem registered_drop {s : Wifi} (good : s.Registered) (m : Nat) :
    (s.step (.drop m)).Registered := by
  intro running n d kept
  obtain ⟨c, before, same, -⟩ := kept_of_modify (s := s) kept Conn.drop_evolves rfl rfl
  exact same ▸ good running n c before

/-- `stop` begins by ending `Running`. -/
theorem registered_stop (s : Wifi) : s.stop.Registered := by
  intro running
  unfold stop Running at running
  split at running <;> simp_all

/-- A reader's step keeps the registry right unless it removes an entry that
another connection is kept under. -/
theorem registered_reader {s : Wifi} (sound : Sound s) (good : s.Registered) (m : Nat)
    (received : Except PyExc Bytes) :
    (s.reader m received).Registered ↔ s.Undisturbed (.reader m received) := by
  have evolves : ∀ c : Conn, c.Evolves (c.advance received) := fun c => c.advance_evolves received
  constructor
  · intro after running c hc leaving n d found kept
    obtain ⟨hd, opened, stays, free⟩ := kept
    have other : m ≠ n := by
      rintro rfl
      rw [hc] at hd
      cases hd
      exact stays (by simp [Conn.Left, leaving])
    have still : (s.reader m received).Kept n d :=
      ⟨by simpa [reader, other] using some_modify m (·.advance received) hd, opened, stays, free⟩
    have mine : d.peerId = c.peerId := by
      obtain ⟨-, d', hd', here⟩ := sound.named _ _ found
      rw [hd] at hd'
      cases hd'
      exact here
    have now := after running n d still
    simp only [reader, hc, leaving, if_true] at now
    rw [mine, AList.lookup_erase] at now
    cases now
  · intro undisturbed running n d kept
    obtain ⟨c, before, same, -⟩ := kept_of_modify (s := s) kept evolves rfl rfl
    have found := good running n c before
    rw [← same]
    simp only [reader]
    split
    · rename_i gone hgone
      split
      · rename_i leaving
        by_cases mine : c.peerId = gone.peerId
        · exact absurd before (undisturbed running gone hgone leaving n c (mine ▸ found))
        · rw [AList.lookup_erase_ne mine]
          exact found
      · exact found
    · exact found

/-- The newest connection takes over the entry of its address. -/
theorem registered_register {s : Wifi} (sound : Sound s) (good : s.Registered) {m : Nat}
    {addr : SockAddr} (hold : s.acceptor = .holding m addr) :
    Registered { s with conns := s.conns.insert addr.peerId m, acceptor := .registered m } := by
  intro running n d kept
  obtain ⟨hd, opened, stays, -⟩ := kept
  have newest := (sound.current m (by rw [hold]; rfl)).1
  obtain ⟨c, hc, here⟩ := sound.holding m addr hold
  by_cases same : d.peerId = addr.peerId
  · have twin : d.addr = c.addr := (SockAddr.peerId_inj same).trans here.symm
    have inside : n < s.accepted.length := lt_of_some hd
    have last : n = m := by
      by_contra other
      exact sound.older n m d c (by omega) hd hc twin opened
    rw [same, last]
    exact AList.lookup_insert _
  · refine (AList.lookup_insert_ne same).trans ?_
    refine good running n d ⟨hd, opened, stays, ?_⟩
    rw [hold]
    intro mine
    cases mine
    rw [hc] at hd
    cases hd
    exact same (congrArg SockAddr.peerId here)

/-- An accept loop with nothing unregistered in hand can go on. -/
theorem Registered.acceptor {s : Wifi} (good : s.Registered) (free : s.acceptor.held = none)
    (acceptor : AcceptStage) : Registered { s with acceptor } := by
  rintro running n d ⟨hd, opened, stays, -⟩
  exact good running n d ⟨hd, opened, stays, by simp [free]⟩

theorem registered_acceptLoop {s : Wifi} (sound : Sound s) (good : s.Registered)
    (arrival : Option SockAddr) : (s.acceptLoop arrival).Registered := by
  unfold acceptLoop
  split
  · rename_i idle
    exact good.acceptor (by rw [idle]; rfl) _
  · rename_i idle
    exact good.acceptor (by rw [idle]; rfl) _
  · rename_i idle
    have free : s.acceptor.held = none := by rw [idle]; rfl
    split
    · exact good.acceptor free _
    · split
      · rintro running n d ⟨hd, opened, stays, hand⟩
        rcases concat_some hd with old | ⟨rfl, -⟩
        · exact good running n d ⟨old, opened, stays, by simp [free]⟩
        · exact absurd rfl hand
      · exact good
  · rename_i hold
    exact registered_register sound good hold
  · rename_i here
    exact good.acceptor (by rw [here]; rfl) _
  · rename_i m ready
    rintro running n d ⟨hd, opened, stays, -⟩
    obtain ⟨c, hc, rfl⟩ := modify_some hd
    have free : s.acceptor.held ≠ some n := by simp [ready, AcceptStage.held]
    split at opened
    · rename_i mine
      obtain ⟨-, e, he, un⟩ := sound.current m (by rw [ready]; rfl)
      rw [mine, hc] at he
      cases he
      rw [if_pos mine]
      exact good running n c ⟨hc, opened, by simp [Conn.Left, un], free⟩
    · rename_i other
      rw [if_neg other] at stays ⊢
      exact good running n c ⟨hc, opened, stays, free⟩
  · exact good

theorem registered_step (s : Wifi) (event : WifiEvent) (sound : Sound s) (good : s.Registered) :
    (s.step event).Registered ↔ s.Undisturbed event := by
  cases event with
  | acceptLoop arrival => exact iff_of_true (registered_acceptLoop sound good arrival) trivial
  | reader conn received => exact registered_reader sound good conn received
  | drop conn => exact iff_of_true (registered_drop good conn) trivial
  | stop => exact iff_of_true (registered_stop s) trivial

theorem registered_boot : boot.Registered := by
  rintro - n c ⟨hc, -⟩
  simp [boot] at hc

theorem sound_after (events : List WifiEvent) : Sound (after events) :=
  Runs.invariant_always sound_step sound_boot events

/-- Who is registered is so in exactly the runs where nobody is disturbed. -/
theorem registered_iff (events : List WifiEvent) :
    (∀ past, past <+: events → (after past).Registered) ↔
      Runs.Along step Undisturbed boot events :=
  Runs.always_iff sound_step registered_step sound_boot registered_boot events

/-- A connection that is missing when the accept loop has still to start its
reader is missing when it has. -/
theorem unlisted_at_start {s : Wifi} {n : Nat} (ready : s.acceptor = .announced n) {c : Conn}
    (running : s.Running) (hc : s.accepted[n]? = some c) (opened : c.Open)
    (missing : s.conns.lookup c.peerId ≠ some n) : ¬ (s.step (.acceptLoop none)).Listed := by
  have next : s.step (.acceptLoop none) =
      { s with
        accepted := s.accepted.modify n fun c => { c with stage := .looping }
        acceptor := .checking } := by
    simp only [step, acceptLoop, ready]
  have started := some_modify n (fun c => { c with stage := .looping }) hc
  rw [if_pos rfl] at started
  rw [next]
  intro listed
  exact missing (listed running n _ started trivial opened).1

/-- What is not registered is not listed once the accept loop has gone on. -/
theorem unlisted_of_unregistered {s : Wifi} (sound : Sound s) (bad : ¬ s.Registered) :
    ∃ more, (∀ e ∈ more, WifiEvent.Accepts e) ∧ ¬ Listed (Runs.run step s more) := by
  simp only [Registered, not_forall] at bad
  obtain ⟨running, n, c, ⟨hc, opened, stays, free⟩, missing⟩ := bad
  by_cases un : c.stage = .unstarted
  · have busy := sound.waiting n c hc un
    cases here : s.acceptor with
    | holding m addr =>
      rw [here] at busy free
      exact absurd busy free
    | registered m =>
      rw [here] at busy
      cases busy
      refine ⟨[.acceptLoop none, .acceptLoop none], by simp [WifiEvent.Accepts], ?_⟩
      have next : s.step (.acceptLoop none) = { s with acceptor := .announced n } := by
        simp only [step, acceptLoop, here]
      rw [Runs.run_cons, next]
      exact unlisted_at_start (s := { s with acceptor := .announced n }) rfl running hc opened
        missing
    | announced m =>
      rw [here] at busy
      cases busy
      refine ⟨[.acceptLoop none], by simp [WifiEvent.Accepts], ?_⟩
      exact unlisted_at_start here running hc opened missing
    | checking | listening | accepting | ended =>
      rw [here] at busy
      cases busy
  · have reading : c.Reading := c.reading_iff.mpr ⟨stays, un⟩
    exact ⟨[], by simp, fun listed => missing (listed running n c hc reading opened).1⟩

/-- **The WiFi registry.** In a run, and wherever the accept loop goes on from
one of its states, every phone with an open connection and a reader at work is
listed, exactly when no reader of an earlier connection removes the entry that a
phone's newer connection is kept under. -/
theorem listed_iff_undisturbed (events : List WifiEvent) :
    (∀ past, past <+: events → ∀ more, (∀ e ∈ more, WifiEvent.Accepts e) →
      (after (past ++ more)).Listed) ↔ Runs.Along step Undisturbed boot events := by
  rw [← registered_iff]
  constructor
  · intro listed past first
    by_contra bad
    obtain ⟨more, accepts, unlisted⟩ := unlisted_of_unregistered (sound_after past) bad
    apply unlisted
    rw [← Runs.run_append]
    exact listed past first more accepts
  · intro registered past first more accepts
    have keeps : ∀ s e, Sound s ∧ s.Registered → WifiEvent.Accepts e →
        Sound (s.step e) ∧ (s.step e).Registered := by
      rintro s e ⟨sound, good⟩ accept
      refine ⟨sound_step s e sound, (registered_step s e sound good).mpr ?_⟩
      cases e with
      | acceptLoop arrival => trivial
      | reader conn received => cases accept
      | drop conn => cases accept
      | stop => cases accept
    have ends := Runs.invariant keeps ⟨sound_after past, registered past first⟩
      (Runs.along_of_forall accepts)
    rw [← Runs.run_append] at ends
    exact ends.2.listed ends.1

/-- A phone comes back from its old address before the old reader cleans up. -/
def reconnect (phone : SockAddr) : List WifiEvent :=
  let connect : List WifiEvent :=
    [.acceptLoop none, .acceptLoop none, .acceptLoop (some phone), .acceptLoop none,
      .acceptLoop none, .acceptLoop none]
  connect ++ [.reader 0 (.ok []), .drop 0] ++ connect ++
    [.reader 0 (.ok []), .reader 0 (.ok [])]

/-- The old reader's cleanup takes the new connection off the list. -/
theorem reconnect_unlisted : ¬ (after (reconnect ⟨"10.78.0.5", 40000, by decide⟩)).Listed := by
  intro listed
  have found : (after (reconnect ⟨"10.78.0.5", 40000, by decide⟩)).accepted[1]? =
      some ⟨⟨"10.78.0.5", 40000, by decide⟩, .looping, .fresh, false, false⟩ := by decide +kernel
  have registered := (listed rfl 1 _ found trivial ⟨rfl, rfl⟩).1
  revert registered
  decide +kernel

end Wifi

end MeshlinkNode
