import MeshlinkNode.WifiTransport

/-!
# What `stop` leaves behind

`stop` empties the registry once and then closes what was in it. Whatever the
other threads have in their hands at those two moments it does not reach: a
connection that is not registered, or packets that a reader has yet to pass on.
-/

namespace MeshlinkNode

namespace Conn

/-- The reader has a packet in hand that the callback is going to get. -/
def Pending (conn : Conn) : Prop :=
  ∃ packets, conn.stage = .dispatching packets ∧ ∃ packet ∈ packets, (dispatch packet).isSome

theorem pending_of_dispatches {conn : Conn} (hands : conn.dispatches.isSome) : conn.Pending := by
  unfold dispatches at hands
  split at hands
  · rename_i packet packets stage
    exact ⟨packet :: packets, stage, packet, List.mem_cons_self, hands⟩
  · cases hands

/-- A reader gets a packet in hand only from bytes that `recv` returns. -/
theorem advance_pending {conn : Conn} {received : Except PyExc Bytes}
    (pending : (conn.advance received).Pending) :
    conn.Pending ∨ conn.stage = .receiving ∧ ∃ data packets assembler, received = .ok data ∧
      data ≠ [] ∧ conn.assembler.feed data = (.ok packets, assembler) ∧
      ∃ packet ∈ packets, (dispatch packet).isSome := by
  obtain ⟨addr, stage, assembler, dropped, closed⟩ := conn
  obtain ⟨packets, here, some⟩ := pending
  unfold advance at here
  cases stage with
  | looping =>
    cases closed <;> cases here
  | receiving =>
    refine .inr ⟨rfl, ?_⟩
    match received with
    | .error _ | .ok [] => cases here
    | .ok (b :: data) =>
      simp only at here ⊢
      cases fed : assembler.feed (b :: data) with
      | mk out rest =>
        rw [fed] at here
        cases out with
        | error exc => cases here
        | ok fresh =>
          cases here
          exact ⟨b :: data, packets, rest, rfl, by simp, fed, some⟩
  | dispatching held =>
    cases held with
    | nil => cases here
    | cons packet held =>
      cases here
      obtain ⟨p, mem, hands⟩ := some
      exact .inl ⟨packet :: packets, rfl, p, List.mem_cons_of_mem _ mem, hands⟩
  | unstarted | leaving | closing | exited => cases here

end Conn

/-- How many steps the accept loop is from the end of its iteration. -/
def AcceptStage.left : AcceptStage → Nat
  | .checking | .ended => 0
  | .accepting | .announced _ => 1
  | .listening | .registered _ => 2
  | .holding _ _ => 3

namespace Wifi

/-- `stop` has emptied the registry. -/
def Drained (s : Wifi) : Prop :=
  match s.stopping with
  | .closing _ | .returned => True
  | _ => False

/-- `stop` has returned, and no iteration of the accept loop is in progress. -/
def Stopped (s : Wifi) : Prop :=
  s.stopping = .returned ∧ (s.acceptor = .checking ∨ s.acceptor = .ended)

instance (s : Wifi) : Decidable s.Stopped := inferInstanceAs (Decidable (_ ∧ _))

/-- The callback that an event makes. -/
def dispatched (s : Wifi) : WifiEvent → Option Bytes
  | .reader n _ => s.accepted[n]?.bind Conn.dispatches
  | _ => none

/-- The callback, if everything was stopped before. -/
def late (s : Wifi) (event : WifiEvent) : Option Bytes :=
  if s.Stopped then s.dispatched event else none

/-- Once everything is stopped no peer is listed, every connection there ever
was is closed, and the relay has not been called since. -/
def Final (events : List WifiEvent) : Prop :=
  (after events).Stopped → (after events).listPeers = [] ∧
    (∀ c ∈ (after events).accepted, c.closed = true) ∧
    Runs.outputs step late boot events = []

/-- What has to hold when `stop` and `accept` go on: the registry is emptied
when every connection is registered or closed, and none is accepted later;
`stop` returns when no reader has a packet in hand, and none gets one later. -/
def Orderly (s : Wifi) : WifiEvent → Prop
  | .stop =>
    match s.stopping with
    | .unlistened => ∀ n c, s.accepted[n]? = some c →
      c.closed = true ∨ s.conns.lookup c.peerId = some n
    | .closing [] => ∀ c ∈ s.accepted, ¬ c.Pending
    | _ => True
  | .acceptLoop (some addr) => s.acceptor = .accepting → s.Free addr → ¬ s.Drained
  | .reader n (.ok data) => s.stopping = .returned → data ≠ [] → ∀ c packets assembler,
    s.accepted[n]? = some c → c.stage = .receiving →
    c.assembler.feed data = (.ok packets, assembler) →
    ∀ packet ∈ packets, dispatch packet = none
  | _ => True

/-- What an orderly run keeps. -/
structure Ordered (s : Wifi) : Prop where
  sound : Sound s
  unclosed : ¬ s.Drained → ∀ (n : Nat) (c : Conn), s.accepted[n]? = some c →
    c.stage = .unstarted → c.closed = false
  emptied : s.Drained → ∀ peer, s.conns.lookup peer = none
  idle : s.Drained → s.acceptor.held = none
  queued : ∀ rest, s.stopping = .closing rest → ∀ n ∈ rest, n < s.accepted.length
  shut : s.Drained → ∀ (n : Nat) (c : Conn), s.accepted[n]? = some c → c.closed = false →
    ∃ rest, s.stopping = .closing rest ∧ n ∈ rest
  quiet : s.stopping = .returned → ∀ (n : Nat) (c : Conn), s.accepted[n]? = some c → ¬ c.Pending

/-- A change of one connection that starts no reader, closes nothing unstarted
before the registry is emptied, and after the end gives no reader a packet. -/
theorem Ordered.modify {s : Wifi} (ordered : Ordered s) {m : Nat} {f : Conn → Conn}
    (evolves : ∀ c : Conn, c.Evolves (f c))
    (starts : ∀ c, c.stage = .unstarted → (f c).stage = .unstarted)
    (closes : ¬ s.Drained → ∀ c, c.stage = .unstarted → (f c).closed = c.closed)
    (pending : s.stopping = .returned → ∀ c, s.accepted[m]? = some c → (f c).Pending → c.Pending) :
    Ordered { s with accepted := s.accepted.modify m f } where
  sound := ordered.sound.modify evolves starts
  unclosed := by
    intro undrained n d hd un
    obtain ⟨c, hc, rfl⟩ := modify_some hd
    have before := ordered.unclosed undrained n c hc
    split at un
    · rename_i here
      have same := (evolves c).unstarted un
      rw [if_pos here, closes undrained c same]
      exact before same
    · rename_i here
      rw [if_neg here]
      exact before un
  emptied := ordered.emptied
  idle := ordered.idle
  queued := by
    intro rest closing n mem
    simpa using ordered.queued rest closing n mem
  shut := by
    intro drained n d hd unshut
    obtain ⟨c, hc, rfl⟩ := modify_some hd
    apply ordered.shut drained n c hc
    split at unshut
    · exact (evolves c).closed unshut
    · exact unshut
  quiet := by
    intro returned n d hd busy
    obtain ⟨c, hc, rfl⟩ := modify_some hd
    apply ordered.quiet returned n c hc
    split at busy
    · rename_i here
      exact pending returned c (here ▸ hc) busy
    · exact busy

/-- The accept loop can go on with nothing unregistered in hand. -/
theorem Ordered.acceptor {s : Wifi} (ordered : Ordered s) {acceptor : AcceptStage}
    (same : acceptor.current = s.acceptor.current) (free : acceptor.held = none) :
    Ordered { s with acceptor } :=
  { ordered with sound := ordered.sound.acceptor same free, idle := fun _ => free }

theorem ordered_drop {s : Wifi} (ordered : Ordered s) (m : Nat) : Ordered (s.step (.drop m)) :=
  ordered.modify Conn.drop_evolves (fun _ => id) (fun _ _ _ => rfl) fun _ _ _ => id

theorem ordered_reader {s : Wifi} (ordered : Ordered s) {m : Nat} {received : Except PyExc Bytes}
    (orderly : s.Orderly (.reader m received)) : Ordered (s.reader m received) := by
  have evolves : ∀ c : Conn, c.Evolves (c.advance received) := fun c => c.advance_evolves received
  have same : ∀ c : Conn, c.stage = .unstarted → c.advance received = c :=
    fun c un => Conn.advance_unstarted un received
  have moved := ordered.modify (m := m) evolves (fun c un => by rw [same c un, un])
    (fun _ c un => by rw [same c un]) (by
      intro returned c hc pending
      rcases Conn.advance_pending pending with
        before | ⟨here, data, packets, rest, rfl, ne, fed, some⟩
      · exact before
      · obtain ⟨packet, mem, hands⟩ := some
        simp [orderly returned ne c packets rest hc here fed packet mem] at hands)
  have fewer : ∀ peer, s.conns.lookup peer = none →
      (s.reader m received).conns.lookup peer = none := by
    intro peer none
    cases found : (s.reader m received).conns.lookup peer with
    | none => rfl
    | some n =>
      rw [s.reader_conns m received found] at none
      cases none
  exact { moved with
    sound := sound_reader ordered.sound m received
    emptied := fun drained peer => fewer peer (ordered.emptied drained peer) }

/-- Before the registry is emptied the accept loop can take a connection. -/
theorem ordered_accept {s : Wifi} (ordered : Ordered s) (idle : s.acceptor = .accepting)
    {addr : SockAddr} (free : s.Free addr) (undrained : ¬ s.Drained) :
    Ordered { s with
      accepted := s.accepted ++ [Conn.fresh addr]
      acceptor := .holding s.accepted.length addr } where
  sound := sound_accept ordered.sound idle free
  unclosed := by
    intro _ n c hc un
    rcases concat_some hc with old | ⟨-, rfl⟩
    · exact ordered.unclosed undrained n c old un
    · rfl
  emptied := fun drained => absurd drained undrained
  idle := fun drained => absurd drained undrained
  queued := by
    intro rest closing n mem
    have inside := ordered.queued rest closing n mem
    simp only [List.length_append, List.length_singleton]
    omega
  shut := fun drained => absurd drained undrained
  quiet := by
    intro returned
    have ends : s.stopping = .returned := returned
    exact absurd (by simp [Drained, ends]) undrained

theorem ordered_register {s : Wifi} (ordered : Ordered s) {n : Nat} {addr : SockAddr}
    (hold : s.acceptor = .holding n addr) :
    Ordered { s with conns := s.conns.insert addr.peerId n, acceptor := .registered n } := by
  have undrained : ¬ s.Drained := by
    intro drained
    have free := ordered.idle drained
    rw [hold] at free
    cases free
  exact { ordered with
    sound := sound_register ordered.sound hold
    emptied := fun drained => absurd drained undrained
    idle := fun _ => rfl }

/-- A reader that starts late finds its socket closed. -/
theorem ordered_spawn {s : Wifi} (ordered : Ordered s) {m : Nat}
    (ready : s.acceptor = .announced m) :
    Ordered { s with
      accepted := s.accepted.modify m fun c => { c with stage := .looping }
      acceptor := .checking } where
  sound := sound_spawn ordered.sound ready
  unclosed := by
    intro undrained n d hd un
    obtain ⟨c, hc, rfl⟩ := modify_some hd
    split at un
    · cases un
    · rename_i other
      rw [if_neg other]
      exact ordered.unclosed undrained n c hc un
  emptied := ordered.emptied
  idle := fun _ => rfl
  queued := by
    intro rest closing n mem
    simpa using ordered.queued rest closing n mem
  shut := by
    intro drained n d hd unshut
    obtain ⟨c, hc, rfl⟩ := modify_some hd
    apply ordered.shut drained n c hc
    split at unshut <;> exact unshut
  quiet := by
    intro returned n d hd busy
    obtain ⟨c, hc, rfl⟩ := modify_some hd
    apply ordered.quiet returned n c hc
    split at busy
    · obtain ⟨packets, stage, -⟩ := busy
      cases stage
    · exact busy

theorem ordered_acceptLoop {s : Wifi} (ordered : Ordered s) {arrival : Option SockAddr}
    (orderly : s.Orderly (.acceptLoop arrival)) : Ordered (s.acceptLoop arrival) := by
  unfold acceptLoop
  split
  · rename_i idle
    apply ordered.acceptor <;> split <;> simp [idle, AcceptStage.current, AcceptStage.held]
  · rename_i idle
    apply ordered.acceptor <;> split <;> simp [idle, AcceptStage.current, AcceptStage.held]
  · rename_i idle
    split
    · exact ordered.acceptor (by rw [idle]; rfl) rfl
    · split
      · rename_i free
        exact ordered_accept ordered idle free (orderly idle free)
      · exact ordered
  · rename_i hold
    exact ordered_register ordered hold
  · rename_i here
    exact ordered.acceptor (by rw [here]; rfl) rfl
  · rename_i ready
    exact ordered_spawn ordered ready
  · exact ordered

theorem mem_values {conns : Dict PeerId Nat} {n : Nat} :
    n ∈ conns.entries.map Sigma.snd ↔ ∃ peer, conns.lookup peer = some n := by
  simp only [List.mem_map]
  constructor
  · rintro ⟨⟨peer, m⟩, mem, rfl⟩
    exact ⟨peer, AList.mem_lookup_iff.mpr mem⟩
  · rintro ⟨peer, found⟩
    exact ⟨⟨peer, n⟩, AList.mem_lookup_iff.mp found, rfl⟩

/-- The registry is emptied of every connection that is not closed. -/
theorem ordered_drain {s : Wifi} (ordered : Ordered s) (ready : s.stopping = .unlistened)
    (all : ∀ n c, s.accepted[n]? = some c → c.closed = true ∨ s.conns.lookup c.peerId = some n) :
    Ordered { s with conns := ∅, stopping := .closing (s.conns.entries.map Sigma.snd) } where
  sound := ordered.sound.forget fun _ _ none => by cases none
  unclosed := fun undrained => absurd trivial undrained
  emptied := fun _ _ => rfl
  idle := by
    intro _
    have undrained : ¬ s.Drained := by simp [Drained, ready]
    cases here : s.acceptor with
    | holding n addr =>
      obtain ⟨-, c, hc, un⟩ := ordered.sound.current n (by rw [here]; rfl)
      rcases all n c hc with closed | found
      · rw [ordered.unclosed undrained n c hc un] at closed
        cases closed
      · exact absurd (by rw [here]; rfl) (ordered.sound.named _ _ found).1
    | checking | listening | accepting | registered | announced | ended => rfl
  queued := by
    rintro rest ⟨⟩ n mem
    obtain ⟨peer, found⟩ := mem_values.mp mem
    obtain ⟨-, c, hc, -⟩ := ordered.sound.named peer n found
    exact lt_of_some hc
  shut := by
    intro _ n c hc unshut
    refine ⟨_, rfl, mem_values.mpr ⟨c.peerId, ?_⟩⟩
    rcases all n c hc with closed | found
    · rw [unshut] at closed
      cases closed
    · exact found
  quiet := by
    intro returned
    cases returned

theorem ordered_flag {s : Wifi} (ordered : Ordered s) {stopping : StopStage}
    (before : ¬ s.Drained) (after : ¬ Drained { s with stopping }) :
    Ordered { s with stopping } where
  sound := ordered.sound.forget fun _ _ => id
  unclosed := fun _ => ordered.unclosed before
  emptied := fun drained => absurd drained after
  idle := fun drained => absurd drained after
  queued := by
    rintro rest rfl
    exact absurd trivial after
  shut := fun drained => absurd drained after
  quiet := by
    rintro rfl
    exact absurd trivial after

theorem ordered_return {s : Wifi} (ordered : Ordered s) (here : s.stopping = .closing [])
    (idle : ∀ c ∈ s.accepted, ¬ c.Pending) : Ordered { s with stopping := .returned } :=
  have drained : s.Drained := by simp [Drained, here]
  { ordered with
    sound := ordered.sound.forget fun _ _ => id
    unclosed := fun undrained => absurd trivial undrained
    emptied := fun _ => ordered.emptied drained
    idle := fun _ => ordered.idle drained
    queued := by rintro rest ⟨⟩
    shut := by
      intro _ n c hc unshut
      obtain ⟨rest, closing, mem⟩ := ordered.shut drained n c hc unshut
      rw [here] at closing
      cases closing
      cases mem
    quiet := fun _ n c hc => idle c (List.mem_of_getElem? hc) }

/-- What is still to be closed gets one shorter. -/
theorem ordered_close {s : Wifi} (ordered : Ordered s) {m : Nat} {rest : List Nat}
    (here : s.stopping = .closing (m :: rest)) :
    Ordered { s with
      accepted := s.accepted.modify m fun c => { c with closed := true }
      stopping := .closing rest } :=
  have drained : s.Drained := by simp [Drained, here]
  have closed := ordered.modify (m := m) Conn.close_evolves (fun _ => id)
    (fun undrained => absurd drained undrained) (fun _ _ _ => id)
  { closed with
    sound := closed.sound.forget fun _ _ => id
    unclosed := fun undrained => absurd trivial undrained
    emptied := fun _ => ordered.emptied drained
    idle := fun _ => ordered.idle drained
    queued := by
      rintro later ⟨⟩ n mem
      exact closed.queued _ here n (List.mem_cons_of_mem m mem)
    shut := by
      intro _ n d hd unshut
      obtain ⟨c, hc, rfl⟩ := modify_some hd
      split at unshut
      · cases unshut
      · rename_i other
        obtain ⟨held, closing, mem⟩ := ordered.shut drained n c hc unshut
        rw [here] at closing
        cases closing
        exact ⟨rest, rfl, (List.mem_cons.mp mem).resolve_left fun same => other same.symm⟩
    quiet := by rintro ⟨⟩ }

theorem ordered_stop {s : Wifi} (ordered : Ordered s) (orderly : s.Orderly .stop) :
    Ordered s.stop := by
  unfold stop
  split
  · rename_i here
    exact ordered_flag ordered (by simp [Drained, here]) id
  · rename_i here
    exact ordered_flag ordered (by simp [Drained, here]) id
  · rename_i here
    simp only [Orderly, here] at orderly
    exact ordered_drain ordered here orderly
  · rename_i here
    simp only [Orderly, here] at orderly
    exact ordered_return ordered here orderly
  · rename_i m rest here
    exact ordered_close ordered here
  · exact ordered

theorem ordered_step (s : Wifi) (event : WifiEvent) (ordered : Ordered s)
    (orderly : s.Orderly event) : Ordered (s.step event) := by
  cases event with
  | acceptLoop arrival => exact ordered_acceptLoop ordered orderly
  | reader conn received => exact ordered_reader ordered orderly
  | drop conn => exact ordered_drop ordered conn
  | stop => exact ordered_stop ordered orderly

theorem ordered_boot : Ordered boot where
  sound := sound_boot
  unclosed := by simp [boot]
  emptied := fun drained => drained.elim
  idle := fun drained => drained.elim
  queued := by rintro rest ⟨⟩
  shut := fun drained => drained.elim
  quiet := by rintro ⟨⟩

/-- An orderly run leaves nothing behind. -/
theorem final_of_orderly {events : List WifiEvent} (along : Runs.Along step Orderly boot events) :
    Final events := by
  intro stopped
  have ordered : Ordered (after events) := Runs.invariant ordered_step ordered_boot along
  have drained : (after events).Drained := by simp [Drained, stopped.1]
  refine ⟨?_, ?_, ?_⟩
  · apply List.eq_nil_iff_forall_not_mem.mpr
    intro peer mem
    have found := AList.lookup_isSome.mpr (AList.mem_keys.mpr mem)
    rw [ordered.emptied drained peer] at found
    cases found
  · intro c mem
    obtain ⟨n, hc⟩ := List.mem_iff_getElem?.mp mem
    by_contra unshut
    obtain ⟨rest, closing, -⟩ := ordered.shut drained n c hc (by simpa using unshut)
    rw [stopped.1] at closing
    cases closing
  · refine Runs.outputs_silent ordered_step ?_ ordered_boot along
    intro s event ordered _
    unfold late
    split
    · rename_i stopped
      cases event with
      | reader n received =>
        cases hands : s.dispatched (.reader n received) with
        | none => rfl
        | some packet =>
          obtain ⟨c, hc, dispatches⟩ := Option.bind_eq_some_iff.mp hands
          exact absurd (Conn.pending_of_dispatches (by simp [dispatches]))
            (ordered.quiet stopped.1 n c hc)
      | acceptLoop arrival => rfl
      | drop n => rfl
      | stop => rfl
    · rfl

/-! ## How a run that is not orderly goes wrong -/

theorem stop_closes {s : Wifi} {rest : List Nat} (closing : s.stopping = .closing rest) :
    ∃ more, let t := Runs.run step s more
      t.stopping = .returned ∧
      ∀ n c, s.accepted[n]? = some c → n ∉ rest → t.accepted[n]? = some c := by
  induction rest generalizing s with
  | nil =>
    refine ⟨[.stop], ?_⟩
    simp only [Runs.run_cons, Runs.run_nil, step, stop, closing]
    exact ⟨trivial, fun n c hc _ => hc⟩
  | cons m rest ih =>
    have next : s.step .stop =
        { s with
          accepted := s.accepted.modify m fun c => { c with closed := true }
          stopping := .closing rest } := by
      simp only [step, stop, closing]
    obtain ⟨more, returned, kept⟩ := ih (s := s.step .stop) (by rw [next])
    refine ⟨.stop :: more, returned, ?_⟩
    intro n c hc out
    apply kept n c
    · rw [next]
      have other : m ≠ n := fun same => out (same ▸ List.mem_cons_self)
      simpa [other] using some_modify m (fun c => { c with closed := true }) hc
    · exact fun mem => out (List.mem_cons_of_mem m mem)

/-- `stop` closes what it took from the registry and returns; it waits for
nobody. -/
theorem stop_returns {s : Wifi} (drained : s.Drained) :
    ∃ more, let t := Runs.run step s more
      t.stopping = .returned ∧
      ∀ n c, s.accepted[n]? = some c → (∀ rest, s.stopping = .closing rest → n ∉ rest) →
        t.accepted[n]? = some c := by
  cases here : s.stopping with
  | closing rest =>
    obtain ⟨more, returned, kept⟩ := stop_closes here
    exact ⟨more, returned, fun n c hc out => kept n c hc (out rest rfl)⟩
  | returned => exact ⟨[], here, fun n c hc _ => hc⟩
  | uncalled | flagged | unlistened =>
    rw [Drained, here] at drained
    exact drained.elim

/-- What steps of the accept loop do to the rest: nothing is closed, and no
reader at work moves. -/
structure Settling (s t : Wifi) : Prop where
  stopping : t.stopping = s.stopping
  kept : ∀ (n : Nat) (c : Conn), s.accepted[n]? = some c →
    ∃ d, t.accepted[n]? = some d ∧ d.closed = c.closed ∧ (c.stage ≠ .unstarted → d = c)

theorem Settling.trans {s t u : Wifi} (first : Settling s t) (second : Settling t u) :
    Settling s u where
  stopping := second.stopping.trans first.stopping
  kept := by
    intro n c hc
    obtain ⟨d, hd, closed, same⟩ := first.kept n c hc
    obtain ⟨e, he, closed', same'⟩ := second.kept n d hd
    refine ⟨e, he, closed'.trans closed, ?_⟩
    intro started
    obtain rfl := same started
    exact same' started

theorem settling_step {s : Wifi} (sound : Sound s) : Settling s (s.step (.acceptLoop none)) := by
  have same : ∀ t : Wifi, t.stopping = s.stopping → t.accepted = s.accepted → Settling s t :=
    fun t stopping accepted =>
      ⟨stopping, fun n c hc => ⟨c, by rw [accepted, hc], rfl, fun _ => rfl⟩⟩
  simp only [step, acceptLoop]
  split
  · exact same _ rfl rfl
  · exact same _ rfl rfl
  · exact same _ rfl rfl
  · exact same _ rfl rfl
  · exact same _ rfl rfl
  · rename_i m ready
    refine ⟨rfl, ?_⟩
    intro n c hc
    refine ⟨_, some_modify m _ hc, ?_⟩
    split
    · rename_i here
      obtain ⟨-, e, he, un⟩ := sound.current m (by rw [ready]; rfl)
      rw [here, hc] at he
      cases he
      exact ⟨rfl, fun started => absurd un started⟩
    · exact ⟨rfl, fun _ => rfl⟩
  · exact same _ rfl rfl

theorem left_step (s : Wifi) (busy : s.acceptor.left ≠ 0) :
    (s.step (.acceptLoop none)).acceptor.left < s.acceptor.left := by
  cases here : s.acceptor with
  | checking | ended =>
    rw [here] at busy
    exact absurd rfl busy
  | listening =>
    simp only [step, acceptLoop, here]
    by_cases open' : s.Listening <;> simp [open', AcceptStage.left]
  | accepting | holding n addr | registered n | announced n =>
    simp [step, acceptLoop, here, AcceptStage.left]

/-- The accept loop can always end its iteration. -/
theorem acceptLoop_settles {s : Wifi} (sound : Sound s) :
    ∃ more, ((Runs.run step s more).acceptor = .checking ∨
      (Runs.run step s more).acceptor = .ended) ∧ Settling s (Runs.run step s more) := by
  induction hk : s.acceptor.left using Nat.strong_induction_on generalizing s with
  | _ k ih =>
    by_cases idle : s.acceptor.left = 0
    · refine ⟨[], ?_, rfl, fun n c hc => ⟨c, hc, rfl, fun _ => rfl⟩⟩
      cases here : s.acceptor <;> simp_all [AcceptStage.left]
    · obtain ⟨more, ended, settling⟩ := ih _ (hk ▸ left_step s idle)
        (sound_step s (.acceptLoop none) sound) rfl
      exact ⟨.acceptLoop none :: more, ended, (settling_step sound).trans settling⟩

/-- A connection that `stop` does not reach is open when everything is
stopped. -/
theorem unfinal_of_unshut {events : List WifiEvent} (drained : (after events).Drained) {n : Nat}
    {c : Conn} (hc : (after events).accepted[n]? = some c) (unshut : c.closed = false)
    (out : ∀ rest, (after events).stopping = .closing rest → n ∉ rest) :
    ∃ more, ¬ Final (events ++ more) := by
  obtain ⟨closes, returned, kept⟩ := stop_returns drained
  have sound : Sound (Runs.run step (after events) closes) :=
    Runs.invariant_always sound_step (sound_after events) closes
  obtain ⟨accepts, idle, settling⟩ := acceptLoop_settles sound
  obtain ⟨d, hd, same, -⟩ := settling.kept n c (kept n c hc out)
  refine ⟨closes ++ accepts, ?_⟩
  intro final
  simp only [Final, Runs.run_append] at final
  have shut := (final ⟨settling.stopping.trans returned, idle⟩).2.1 d (List.mem_of_getElem? hd)
  rw [same, unshut] at shut
  cases shut

/-- A packet in hand reaches the relay. -/
theorem late_of_pending {s : Wifi} (stopped : s.Stopped) {n : Nat} {c : Conn}
    (hc : s.accepted[n]? = some c) (pending : c.Pending) :
    ∃ more, Runs.outputs step late s more ≠ [] ∧ (Runs.run step s more).Stopped := by
  obtain ⟨packets, stage, packet, mem, hands⟩ := pending
  induction packets generalizing s c with
  | nil => cases mem
  | cons p packets ih =>
    have still : (s.step (.reader n (.ok []))).Stopped := stopped
    by_cases first : (dispatch p).isSome
    · refine ⟨[.reader n (.ok [])], ?_, still⟩
      obtain ⟨sent, hsent⟩ := Option.isSome_iff_exists.mp first
      simp [Runs.outputs, late, stopped, dispatched, hc, Conn.dispatches, stage, hsent]
    · have next : (s.step (.reader n (.ok []))).accepted[n]? =
          some { c with stage := .dispatching packets } := by
        have moved := some_modify n (·.advance (.ok [])) hc
        simpa [step, reader, Conn.advance, stage] using moved
      have later : packet ∈ packets := by
        refine (List.mem_cons.mp mem).resolve_left ?_
        rintro rfl
        exact first hands
      obtain ⟨more, some, ends⟩ := ih still next rfl later
      refine ⟨.reader n (.ok []) :: more, ?_, ends⟩
      rw [Runs.outputs_cons]
      exact fun none => some (List.append_eq_nil_iff.mp none).2

theorem unfinal_of_pending {events : List WifiEvent}
    (returned : (after events).stopping = .returned) {n : Nat} {c : Conn}
    (hc : (after events).accepted[n]? = some c) (pending : c.Pending) :
    ∃ more, ¬ Final (events ++ more) := by
  obtain ⟨accepts, idle, settling⟩ := acceptLoop_settles (sound_after events)
  obtain ⟨d, hd, -, same⟩ := settling.kept n c hc
  have started : c.stage ≠ .unstarted := by
    obtain ⟨packets, stage, -⟩ := pending
    simp [stage]
  rw [same started] at hd
  obtain ⟨reads, some, ends⟩ := late_of_pending ⟨settling.stopping.trans returned, idle⟩ hd pending
  refine ⟨accepts ++ reads, ?_⟩
  intro final
  simp only [Final, Runs.run_append] at final
  have none := (final ends).2.2
  rw [Runs.outputs_append, Runs.outputs_append] at none
  exact some (List.append_eq_nil_iff.mp (List.append_eq_nil_iff.mp none).2).2

theorem unfinal_stop {past : List WifiEvent} (sound : Sound (after past))
    (refused : ¬ (after past).Orderly .stop) : ∃ more, ¬ Final (past ++ [.stop] ++ more) := by
  have last : after (past ++ [.stop]) = (after past).stop := by simp [step]
  cases here : (after past).stopping with
  | unlistened =>
    simp only [Orderly, here, not_forall, not_or] at refused
    obtain ⟨n, c, hc, unshut, missing⟩ := refused
    have drained : (after past).stop =
        { after past with
          conns := ∅
          stopping := .closing ((after past).conns.entries.map Sigma.snd) } := by
      simp only [stop, here]
    rw [drained] at last
    refine unfinal_of_unshut (n := n) (c := c) (by rw [last]; trivial) (by rw [last]; exact hc)
      (by simpa using unshut) ?_
    rw [last]
    rintro rest ⟨⟩ mem
    obtain ⟨peer, found⟩ := mem_values.mp mem
    obtain ⟨-, d, hd, named⟩ := sound.named peer n found
    rw [hc] at hd
    cases hd
    exact missing (named ▸ found)
  | closing rest =>
    cases rest with
    | nil =>
      simp only [Orderly, here, not_forall, not_not] at refused
      obtain ⟨c, mem, pending⟩ := refused
      obtain ⟨n, hc⟩ := List.mem_iff_getElem?.mp mem
      have returned : (after past).stop = { after past with stopping := .returned } := by
        simp only [stop, here]
      rw [returned] at last
      exact unfinal_of_pending (by rw [last]) (by rw [last]; exact hc) pending
    | cons m rest => exact absurd (by simp [Orderly, here]) refused
  | uncalled | flagged | returned => exact absurd (by simp [Orderly, here]) refused

theorem unfinal_acceptLoop {past : List WifiEvent} {arrival : Option SockAddr}
    (ordered : Ordered (after past)) (refused : ¬ (after past).Orderly (.acceptLoop arrival)) :
    ∃ more, ¬ Final (past ++ [.acceptLoop arrival] ++ more) := by
  cases arrival with
  | none => exact absurd trivial refused
  | some addr =>
    simp only [Orderly, Classical.not_imp, not_not] at refused
    obtain ⟨idle, free, drained⟩ := refused
    have last : after (past ++ [.acceptLoop (some addr)]) =
        { after past with
          accepted := (after past).accepted ++ [Conn.fresh addr]
          acceptor := .holding (after past).accepted.length addr } := by
      simp [step, acceptLoop, idle, free]
    refine unfinal_of_unshut (n := (after past).accepted.length) (c := Conn.fresh addr)
      (by rw [last]; exact drained) (by rw [last]; simp) rfl ?_
    rw [last]
    intro rest closing mem
    exact absurd (ordered.queued rest closing _ mem) (Nat.lt_irrefl _)

theorem unfinal_reader {past : List WifiEvent} {n : Nat} {received : Except PyExc Bytes}
    (refused : ¬ (after past).Orderly (.reader n received)) :
    ∃ more, ¬ Final (past ++ [.reader n received] ++ more) := by
  cases received with
  | error exc => exact absurd trivial refused
  | ok data =>
    simp only [Orderly, not_forall] at refused
    obtain ⟨returned, some, c, packets, assembler, hc, stage, fed, packet, mem, hands⟩ := refused
    have last : after (past ++ [.reader n (.ok data)]) = (after past).reader n (.ok data) := by
      simp [step]
    have moved : c.advance (.ok data) = { c with stage := .dispatching packets, assembler } := by
      cases data with
      | nil => exact absurd rfl some
      | cons b data => simp only [Conn.advance, stage, fed]
    have next := some_modify n (·.advance (.ok data)) hc
    rw [if_pos rfl, moved] at next
    refine unfinal_of_pending (n := n) (by rw [last]; exact returned) (by rw [last]; exact next) ?_
    exact ⟨packets, rfl, packet, mem, Option.isSome_iff_ne_none.mpr hands⟩

/-- **The end of the WiFi transport.** A run whose steps are all orderly leaves
nothing behind in any state it goes through. A run with a step that is not can
go on, from that step, to a state that does. -/
theorem final_while_orderly (events : List WifiEvent) :
    (Runs.Along step Orderly boot events → ∀ past, past <+: events → Final past) ∧
    (¬ Runs.Along step Orderly boot events →
      ∃ past event, past ++ [event] <+: events ∧ ¬ (after past).Orderly event ∧
        ∃ more, ¬ Final (past ++ [event] ++ more)) := by
  constructor
  · intro along past first
    obtain ⟨rest, rfl⟩ := first
    exact final_of_orderly (Runs.along_append.mp along).1
  · intro broken
    obtain ⟨past, event, first, along, refused⟩ := Runs.first_refused broken
    refine ⟨past, event, first, refused, ?_⟩
    have ordered : Ordered (after past) := Runs.invariant ordered_step ordered_boot along
    cases event with
    | stop => exact unfinal_stop ordered.sound refused
    | acceptLoop arrival => exact unfinal_acceptLoop ordered refused
    | reader n received => exact unfinal_reader refused
    | drop n => exact absurd trivial refused

/-- `stop` runs while the accept loop holds a connection. -/
def heldAtStop (phone : SockAddr) : List WifiEvent :=
  [.acceptLoop none, .acceptLoop none, .acceptLoop (some phone)] ++ List.replicate 4 .stop ++
    List.replicate 3 (.acceptLoop none)

/-- `stop` runs while a reader holds two packets. -/
def inHandAtStop (phone : SockAddr) : List WifiEvent :=
  [.acceptLoop none, .acceptLoop none, .acceptLoop (some phone), .acceptLoop none,
    .acceptLoop none, .acceptLoop none, .reader 0 (.ok []), .reader 0 (.ok [0, 1, 7, 0, 1, 8])] ++
    List.replicate 5 .stop ++ [.reader 0 (.ok [])]

/-- The connection is listed and open for good; the packets are relayed. -/
theorem stop_not_final :
    ¬ Final (heldAtStop ⟨"10.78.0.5", 40000, by decide⟩) ∧
    ¬ Final (inHandAtStop ⟨"10.78.0.5", 40000, by decide⟩) := by
  constructor
  · intro final
    have unlisted := (final (by decide +kernel)).1
    revert unlisted
    decide +kernel
  · intro final
    have silent := (final (by decide +kernel)).2.2
    revert silent
    decide +kernel

end Wifi

end MeshlinkNode
