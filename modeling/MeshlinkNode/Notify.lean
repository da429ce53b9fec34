import MeshlinkNode.Framing

/-!
# The one TX characteristic all centrals share

`send_packet` hands the chunks of a frame one by one to the backend's
`_notify_chunk`, with no lock around the frame, and every subscribed central
gets every chunk the radio takes. A central therefore reads whole frames only
while sends do not interleave and nobody subscribes inside a frame.
-/

namespace MeshlinkNode.Notify

/-- config.BLE_NOTIFY_CHUNK -/
def BLE_NOTIFY_CHUNK : Nat := 180

/-! ## The two backends -/

/-- BlueZ drops chunks until somebody subscribes. -/
structure TxCharacteristic where
  notifying : Bool
  deriving DecidableEq, Repr

def TxCharacteristic.notifyChunk (tx : TxCharacteristic) (data : Bytes) : List Bytes :=
  if tx.notifying then [data] else []

/-- CoreBluetooth keeps what `updateValue` refuses in `_pending`. -/
structure CoreBluetooth where
  txChar : Bool
  pending : List Bytes
  deriving DecidableEq, Repr

/-- `accepts` is the answer of `updateValue`, asked only without a backlog. -/
def CoreBluetooth.notifyChunk (s : CoreBluetooth) (accepts : Bool) (data : Bytes) :
    CoreBluetooth × List Bytes :=
  if s.txChar = false then (s, [])
  else if s.pending ≠ [] then ({ s with pending := s.pending ++ [data] }, [])
  else if accepts then (s, [data])
  else ({ s with pending := s.pending ++ [data] }, [])

/-- The loop of `_flush_pending`, over the answers `updateValue` gives. -/
def CoreBluetooth.flushPending (s : CoreBluetooth) : List Bool → CoreBluetooth × List Bytes
  | true :: answers =>
    match s.pending with
    | [] => (s, [])
    | data :: rest =>
      let out := flushPending { s with pending := rest } answers
      (out.1, data :: out.2)
  | _ => (s, [])

inductive Radio where
  | bluez (tx : TxCharacteristic)
  | coreBluetooth (s : CoreBluetooth)
  deriving DecidableEq, Repr

namespace Radio

/-- `_notify_chunk`; the second component is what goes on the air. -/
def notifyChunk : Radio → Bool → Bytes → Radio × List Bytes
  | .bluez tx, _, data => (.bluez tx, tx.notifyChunk data)
  | .coreBluetooth s, accepts, data =>
    (.coreBluetooth (s.notifyChunk accepts data).1, (s.notifyChunk accepts data).2)

def flush : Radio → List Bool → Radio × List Bytes
  | .bluez tx, _ => (.bluez tx, [])
  | .coreBluetooth s, answers =>
    (.coreBluetooth (s.flushPending answers).1, (s.flushPending answers).2)

def backlog : Radio → List Bytes
  | .bluez _ => []
  | .coreBluetooth s => s.pending

/-- Chunks handed to `_notify_chunk` are not thrown away. -/
def live : Radio → Bool
  | .bluez tx => tx.notifying
  | .coreBluetooth s => s.txChar

/-- A subscription: BlueZ calls StartNotify. CoreBluetooth only reports it, and
only once the service is registered. -/
def subscribed : Radio → Radio
  | .bluez _ => .bluez ⟨true⟩
  | r => r

/-- The last subscription ended: BlueZ calls StopNotify. -/
def deserted : Radio → Radio
  | .bluez _ => .bluez ⟨false⟩
  | r => r

/-- `_register_service` -/
def registered : Radio → Radio
  | .coreBluetooth s => .coreBluetooth { s with txChar := true }
  | r => r

/-- Whether a central can subscribe: on CoreBluetooth the characteristic must exist. -/
def open? : Radio → Bool
  | .bluez _ => true
  | .coreBluetooth s => s.txChar

theorem notifyChunk_live {r : Radio} (h : r.live = true) (accepts : Bool) (data : Bytes) :
    (r.notifyChunk accepts data).2 ++ (r.notifyChunk accepts data).1.backlog =
      r.backlog ++ [data] := by
  cases r with
  | bluez tx =>
    have on : tx.notifying = true := h
    simp [notifyChunk, TxCharacteristic.notifyChunk, backlog, on]
  | coreBluetooth s =>
    have on : s.txChar = true := h
    by_cases queue : s.pending = []
    · cases accepts <;> simp [notifyChunk, CoreBluetooth.notifyChunk, backlog, on, queue]
    · simp [notifyChunk, CoreBluetooth.notifyChunk, backlog, on, queue]

/-- The bytes on the air and in the backlog. -/
theorem notifyChunk_bytes {r : Radio} (h : r.live = true) (accepts : Bool) (data : Bytes) :
    (r.notifyChunk accepts data).2.flatten ++ (r.notifyChunk accepts data).1.backlog.flatten =
      r.backlog.flatten ++ data := by
  have moved := congrArg List.flatten (notifyChunk_live h accepts data)
  simpa only [List.flatten_append, List.flatten_cons, List.flatten_nil, List.append_nil] using moved

theorem notifyChunk_keeps_live (r : Radio) (accepts : Bool) (data : Bytes) :
    (r.notifyChunk accepts data).1.live = r.live := by
  cases r with
  | bluez => rfl
  | coreBluetooth s =>
    simp only [notifyChunk, live, CoreBluetooth.notifyChunk]
    repeat' split
    all_goals rfl

theorem flushPending_spec (s : CoreBluetooth) (answers : List Bool) :
    (s.flushPending answers).2 ++ (s.flushPending answers).1.pending = s.pending ∧
      (s.flushPending answers).1.txChar = s.txChar := by
  induction answers generalizing s with
  | nil => exact ⟨rfl, rfl⟩
  | cons a answers ih =>
    cases a with
    | false => exact ⟨rfl, rfl⟩
    | true =>
      cases hp : s.pending with
      | nil => simp [CoreBluetooth.flushPending, hp]
      | cons data rest =>
        have tail := ih { s with pending := rest }
        simp only [CoreBluetooth.flushPending, hp, List.cons_append]
        exact ⟨congrArg (data :: ·) tail.1, tail.2⟩

theorem flush_backlog (r : Radio) (answers : List Bool) :
    (r.flush answers).2 ++ (r.flush answers).1.backlog = r.backlog := by
  cases r with
  | bluez => rfl
  | coreBluetooth s => exact (flushPending_spec s answers).1

theorem flush_live (r : Radio) (answers : List Bool) : (r.flush answers).1.live = r.live := by
  cases r with
  | bluez => rfl
  | coreBluetooth s => exact (flushPending_spec s answers).2

end Radio

/-! ## Concurrent sends -/

/-- A `send_packet` call: its packet, and the chunks it has yet to notify. -/
structure Send where
  packet : Bytes
  rest : List Bytes
  deriving DecidableEq, Repr

/-- A central's subscription: the notifications it got since it began. -/
structure Subscription where
  central : Nat
  got : List Bytes
  deriving DecidableEq, Repr

structure Server where
  radio : Radio
  sends : List Send
  subscriptions : List Subscription
  deriving DecidableEq, Repr

/-- One atomic step. `notify` advances one call in progress by one chunk. -/
inductive Event where
  | sendPacket (packet : Bytes)
  | notify (call : Nat) (accepts : Bool)
  | flush (answers : List Bool)
  | registerService
  | subscribe (central : Nat)
  | unsubscribe (central : Nat)
  deriving DecidableEq, Repr

/-- Every subscribed central gets what goes on the air. -/
def deliver (aired : List Bytes) (subs : List Subscription) : List Subscription :=
  subs.map fun sub => { sub with got := sub.got ++ aired }

def step (s : Server) : Event → Server
  | .sendPacket packet =>
    match frame packet with
    | .ok framed => { s with sends := s.sends ++ [⟨packet, chunk framed BLE_NOTIFY_CHUNK⟩] }
    | .error _ => s
  | .notify call accepts =>
    match s.sends[call]? with
    | some ⟨packet, piece :: rest⟩ =>
      let out := s.radio.notifyChunk accepts piece
      { radio := out.1
        sends := s.sends.set call ⟨packet, rest⟩
        subscriptions := deliver out.2 s.subscriptions }
    | _ => s
  | .flush answers =>
    let out := s.radio.flush answers
    { s with radio := out.1, subscriptions := deliver out.2 s.subscriptions }
  | .registerService => { s with radio := s.radio.registered }
  | .subscribe central =>
    if s.radio.open? then
      { s with radio := s.radio.subscribed, subscriptions := s.subscriptions ++ [⟨central, []⟩] }
    else s
  | .unsubscribe central =>
    let left := s.subscriptions.filter fun sub => sub.central ≠ central
    { s with radio := if left = [] then s.radio.deserted else s.radio, subscriptions := left }

inductive Backend where
  | bluez
  | coreBluetooth
  deriving DecidableEq, Repr

def Server.start : Backend → Server
  | .bluez => ⟨.bluez ⟨false⟩, [], []⟩
  | .coreBluetooth => ⟨.coreBluetooth ⟨false, []⟩, [], []⟩

/-- No call and no backlog holds a chunk any more. -/
def Quiet (s : Server) : Prop := s.radio.backlog = [] ∧ ∀ c ∈ s.sends, c.rest = []

/-- Every central has read a prefix of complete frames of packets that were
sent; when all is quiet, exactly these frames, and reassembly returns exactly
their packets. -/
def FrameAtomic (s : Server) : Prop :=
  ∀ sub ∈ s.subscriptions, ∃ ps : List Bytes, (∀ p ∈ ps, ∃ c ∈ s.sends, c.packet = p) ∧
    sub.got.flatten <+: frames.stream ps ∧
    (Quiet s → sub.got.flatten = frames.stream ps ∧ RoundTrip ps sub.got)

/-- Two 179-byte packets, two chunks each, notified alternately. -/
def interleaved : List Event :=
  [.subscribe 1, .sendPacket (List.replicate 179 1), .sendPacket (List.replicate 179 2),
    .notify 0 true, .notify 1 true, .notify 0 true, .notify 1 true]

theorem interleaved_torn : ¬ FrameAtomic (Runs.run step (.start .bluez) interleaved) := by
  intro atomic
  obtain ⟨sub, hsub, quiet, raises⟩ :
      ∃ sub ∈ (Runs.run step (.start .bluez) interleaved).subscriptions,
        Quiet (Runs.run step (.start .bluez) interleaved) ∧
        ((FrameAssembler.fresh.feedAll sub.got).1.any fun out => out matches .error _) = true := by
    refine ⟨⟨1, (Runs.run step (.start .bluez) interleaved).subscriptions.flatMap (·.got)⟩, ?_,
      ⟨?_, ?_⟩, ?_⟩ <;> decide +kernel
  obtain ⟨ps, -, -, whole⟩ := atomic sub hsub
  obtain ⟨-, outs, fed, -⟩ := whole quiet
  rw [fed] at raises
  simp at raises

/-! ## When the stream is atomic -/

/-- Some of the call's chunks have been notified, and some have not. -/
def Send.partway (c : Send) : Bool :=
  c.rest ≠ [] && c.rest ≠ chunk (frames.enc c.packet) BLE_NOTIFY_CHUNK

/-- The bytes still to go on the air: the backlog, then the rest of the calls
that are partway. -/
def outstanding (s : Server) : Bytes :=
  s.radio.backlog.flatten ++ ((s.sends.filter (·.partway)).flatMap (·.rest)).flatten

/-- The steps that cannot tear a frame: packets a receiver accepts, a chunk
only while no other call is partway, and subscriptions only where what is
outstanding is whole frames. -/
def Permits (s : Server) : Event → Prop
  | .sendPacket packet => packet.length ≤ MAX_FRAME
  | .notify call _ => ∀ i c, s.sends[i]? = some c → i ≠ call → c.partway = false
  | .subscribe _ => ∃ ps : List Bytes, (∀ p ∈ ps, ∃ c ∈ s.sends, c.packet = p) ∧
      outstanding s = frames.stream ps
  | _ => True

/-- What a central has read and what is outstanding make whole frames. -/
structure Whole (s : Server) : Prop where
  fits : ∀ c ∈ s.sends, c.packet.length ≤ MAX_FRAME
  suffix : ∀ c ∈ s.sends, c.rest <:+ chunk (frames.enc c.packet) BLE_NOTIFY_CHUNK
  live : s.subscriptions ≠ [] → s.radio.live = true
  reads : ∀ sub ∈ s.subscriptions, ∃ ps : List Bytes, (∀ p ∈ ps, ∃ c ∈ s.sends, c.packet = p) ∧
    sub.got.flatten ++ outstanding s = frames.stream ps

theorem mem_deliver {aired : List Bytes} {subs : List Subscription} {sub : Subscription}
    (h : sub ∈ deliver aired subs) :
    ∃ old ∈ subs, sub.got.flatten = old.got.flatten ++ aired.flatten := by
  obtain ⟨old, mem, rfl⟩ := List.mem_map.mp h
  exact ⟨old, mem, by simp⟩

theorem deliver_eq_nil {aired : List Bytes} {subs : List Subscription} :
    deliver aired subs = [] ↔ subs = [] := List.map_eq_nil_iff

theorem not_partway_fresh (p : Bytes) :
    (Send.mk p (chunk (frames.enc p) BLE_NOTIFY_CHUNK)).partway = false := by
  simp [Send.partway]

/-- A call that is not partway and has chunks left has all of its frame left. -/
theorem flatten_of_untouched {p piece : Bytes} {rest : List Bytes}
    (untouched : (Send.mk p (piece :: rest)).partway = false) :
    (piece :: rest).flatten = frames.enc p := by
  have all : piece :: rest = chunk (frames.enc p) BLE_NOTIFY_CHUNK := by
    simpa [Send.partway] using untouched
  rw [all, chunk_flatten _ (by decide)]

/-- The rest of a call after one more chunk: partway unless that was its last. -/
theorem partway_tail {p piece : Bytes} {rest : List Bytes}
    (h : piece :: rest <:+ chunk (frames.enc p) BLE_NOTIFY_CHUNK) :
    (if (Send.mk p rest).partway then rest else []) = rest := by
  cases rest with
  | nil => simp
  | cons next rest =>
    have shorter : next :: rest ≠ chunk (frames.enc p) BLE_NOTIFY_CHUNK := by
      intro same
      have := h.length_le
      rw [← same] at this
      simp only [List.length_cons] at this
      omega
    simp [Send.partway, shorter]

theorem split_at {α : Type} {l : List α} {i : Nat} {a : α} (h : l[i]? = some a) (b : α) :
    l = l.take i ++ a :: l.drop (i + 1) ∧ l.set i b = l.take i ++ b :: l.drop (i + 1) := by
  obtain ⟨bound, rfl⟩ := List.getElem?_eq_some_iff.mp h
  exact ⟨by simp, by rw [List.set_eq_take_append_cons_drop, if_pos bound]⟩

/-- While no other call is partway, only the call at hand contributes. -/
theorem partway_rests {sends : List Send} {call : Nat} {c : Send} (hc : sends[call]? = some c)
    (alone : ∀ i d, sends[i]? = some d → i ≠ call → d.partway = false) (c' : Send) :
    ((sends.filter (·.partway)).flatMap (·.rest) = if c.partway then c.rest else []) ∧
    (((sends.set call c').filter (·.partway)).flatMap (·.rest) =
      if c'.partway then c'.rest else []) := by
  obtain ⟨old, new⟩ := split_at hc c'
  have before : (sends.take call).filter (·.partway) = [] := by
    rw [List.filter_eq_nil_iff]
    intro d hd
    obtain ⟨i, hi⟩ := List.mem_iff_getElem?.mp hd
    rw [List.getElem?_take] at hi
    split at hi
    · simp [alone i d hi (by omega)]
    · cases hi
  have after : (sends.drop (call + 1)).filter (·.partway) = [] := by
    rw [List.filter_eq_nil_iff]
    intro d hd
    obtain ⟨i, hi⟩ := List.mem_iff_getElem?.mp hd
    rw [List.getElem?_drop] at hi
    simp [alone _ d hi (by omega)]
  constructor
  · conv => lhs; rw [old]
    rw [List.filter_append, List.filter_cons, before, after]
    split <;> simp
  · rw [new, List.filter_append, List.filter_cons, before, after]
    split <;> simp

/-- A call that goes on is still one of its packet. -/
theorem mem_set_packet {sends : List Send} {call : Nat} {before after : Send}
    (found : sends[call]? = some before) (same : after.packet = before.packet) (p : Bytes)
    (sent : ∃ c ∈ sends, c.packet = p) : ∃ c ∈ sends.set call after, c.packet = p := by
  obtain ⟨c, hc, rfl⟩ := sent
  obtain ⟨i, hi⟩ := List.mem_iff_getElem?.mp hc
  by_cases here : i = call
  · subst i
    rw [found] at hi
    cases hi
    exact ⟨_, List.mem_set (List.getElem?_eq_some_iff.mp found).1 _, same⟩
  · refine ⟨c, List.mem_iff_getElem?.mpr ⟨i, ?_⟩, rfl⟩
    rw [List.getElem?_set_ne (Ne.symm here), hi]

theorem whole_notify {s : Server} {call : Nat} {accepts : Bool} (w : Whole s)
    (alone : ∀ i c, s.sends[i]? = some c → i ≠ call → c.partway = false) :
    Whole (step s (.notify call accepts)) := by
  simp only [step]
  split
  · rename_i packet piece rest found
    have mem : Send.mk packet (piece :: rest) ∈ s.sends := List.mem_of_getElem? found
    have suf := w.suffix _ mem
    obtain ⟨now, later⟩ := partway_rests found alone ⟨packet, rest⟩
    rw [partway_tail suf] at later
    have kept : ∀ p, (∃ c ∈ s.sends, c.packet = p) →
        ∃ c ∈ s.sends.set call ⟨packet, rest⟩, c.packet = p :=
      mem_set_packet found rfl
    constructor
    · intro c hc
      rcases List.mem_or_eq_of_mem_set hc with hc | rfl
      · exact w.fits c hc
      · exact w.fits ⟨packet, piece :: rest⟩ mem
    · intro c hc
      rcases List.mem_or_eq_of_mem_set hc with hc | rfl
      · exact w.suffix c hc
      · exact (List.suffix_cons piece rest).trans suf
    · intro some
      rw [Radio.notifyChunk_keeps_live]
      exact w.live fun none => some (deliver_eq_nil.mpr none)
    · intro sub hsub
      obtain ⟨old, hold, got⟩ := mem_deliver hsub
      obtain ⟨ps, sent, reads⟩ := w.reads old hold
      have moved := Radio.notifyChunk_bytes (w.live (List.ne_nil_of_mem hold)) accepts piece
      have after : sub.got.flatten ++ ((s.radio.notifyChunk accepts piece).1.backlog.flatten ++
          rest.flatten) =
            old.got.flatten ++ (s.radio.backlog.flatten ++ (piece :: rest).flatten) := by
        rw [got, List.append_assoc, ← List.append_assoc _ _ rest.flatten, moved]
        simp only [List.flatten_cons, List.append_assoc]
      simp only [outstanding, now] at reads
      simp only [outstanding, later, after]
      cases part : (Send.mk packet (piece :: rest)).partway with
      | true =>
        refine ⟨ps, fun p hp => kept p (sent p hp), ?_⟩
        rw [← reads]
        simp [part]
      | false =>
        -- an untouched call starts a new frame here
        have enc : (piece :: rest).flatten = frames.enc packet := flatten_of_untouched part
        refine ⟨ps ++ [packet], ?_, ?_⟩
        · intro p hp
          rcases List.mem_append.mp hp with hp | hp
          · exact kept p (sent p hp)
          · rw [List.mem_singleton.mp hp]
            exact kept _ ⟨_, mem, rfl⟩
        · rw [Drain.Codec.stream_append, ← reads, Drain.Codec.stream_cons, ← enc]
          simp [part]
  · exact w

theorem whole_sendPacket {s : Server} {packet : Bytes} (w : Whole s)
    (fits : packet.length ≤ MAX_FRAME) : Whole (step s (.sendPacket packet)) := by
  simp only [step, frame_fits fits]
  constructor
  · intro c hc
    rcases List.mem_append.mp hc with hc | hc
    · exact w.fits c hc
    · rw [List.mem_singleton.mp hc]; exact fits
  · intro c hc
    rcases List.mem_append.mp hc with hc | hc
    · exact w.suffix c hc
    · obtain rfl := List.mem_singleton.mp hc
      exact List.suffix_rfl
  · exact w.live
  · intro sub hsub
    obtain ⟨ps, sent, reads⟩ := w.reads sub hsub
    refine ⟨ps, ?_, ?_⟩
    · intro p hp
      obtain ⟨c, hc, rfl⟩ := sent p hp
      exact ⟨c, List.mem_append_left _ hc, rfl⟩
    · rw [← reads]
      simp [outstanding, not_partway_fresh]

theorem whole_flush {s : Server} (w : Whole s) (answers : List Bool) :
    Whole (step s (.flush answers)) := by
  simp only [step]
  refine ⟨w.fits, w.suffix, ?_, ?_⟩
  · intro some
    rw [Radio.flush_live]
    exact w.live fun none => some (deliver_eq_nil.mpr none)
  · intro sub hsub
    obtain ⟨old, hold, got⟩ := mem_deliver hsub
    obtain ⟨ps, sent, reads⟩ := w.reads old hold
    have moved := congrArg List.flatten (Radio.flush_backlog s.radio answers)
    rw [List.flatten_append] at moved
    refine ⟨ps, sent, ?_⟩
    rw [← reads, got, outstanding, outstanding, ← moved]
    simp only [List.append_assoc]

theorem whole_registerService {s : Server} (w : Whole s) : Whole (step s .registerService) := by
  have backlog : s.radio.registered.backlog = s.radio.backlog := by cases s.radio <;> rfl
  refine ⟨w.fits, w.suffix, ?_, ?_⟩
  · intro some
    have := w.live some
    simp only [step]
    cases hr : s.radio with
    | bluez tx => rw [hr] at this; exact this
    | coreBluetooth c => rfl
  · simpa only [step, outstanding, backlog] using w.reads

/-- A new central starts at what is outstanding. -/
theorem whole_subscribe {s : Server} {central : Nat} (w : Whole s)
    (boundary : ∃ ps : List Bytes, (∀ p ∈ ps, ∃ c ∈ s.sends, c.packet = p) ∧
      outstanding s = frames.stream ps) : Whole (step s (.subscribe central)) := by
  simp only [step]
  split
  · rename_i isOpen
    have backlog : s.radio.subscribed.backlog = s.radio.backlog := by cases s.radio <;> rfl
    refine ⟨w.fits, w.suffix, ?_, ?_⟩
    · intro _
      cases hr : s.radio with
      | bluez tx => rfl
      | coreBluetooth c => rw [hr] at isOpen; exact isOpen
    · intro sub hsub
      simp only [outstanding, backlog]
      rcases List.mem_append.mp hsub with hsub | hsub
      · exact w.reads sub hsub
      · rw [List.mem_singleton.mp hsub]
        obtain ⟨ps, sent, whole⟩ := boundary
        exact ⟨ps, sent, by simpa [outstanding] using whole⟩
  · exact w

theorem whole_unsubscribe {s : Server} (w : Whole s) (central : Nat) :
    Whole (step s (.unsubscribe central)) := by
  simp only [step]
  have backlog : (if (s.subscriptions.filter fun sub => sub.central ≠ central) = [] then
      s.radio.deserted else s.radio).backlog = s.radio.backlog := by
    split
    · cases s.radio <;> rfl
    · rfl
  refine ⟨w.fits, w.suffix, ?_, ?_⟩
  · intro some
    rw [if_neg some]
    apply w.live
    intro none
    simp [none] at some
  · intro sub hsub
    simp only [outstanding, backlog]
    exact w.reads sub (List.mem_filter.mp hsub).1

/-- A permitted step keeps every central on whole frames. -/
theorem whole_step (s : Server) (e : Event) (w : Whole s) (ok : Permits s e) :
    Whole (step s e) := by
  cases e with
  | sendPacket packet => exact whole_sendPacket w ok
  | notify call accepts => exact whole_notify w ok
  | flush answers => exact whole_flush w answers
  | registerService => exact whole_registerService w
  | subscribe central => exact whole_subscribe w ok
  | unsubscribe central => exact whole_unsubscribe w central

theorem Whole.frameAtomic {s : Server} (w : Whole s) : FrameAtomic s := by
  intro sub hsub
  obtain ⟨ps, sent, reads⟩ := w.reads sub hsub
  refine ⟨ps, sent, ⟨_, reads⟩, ?_⟩
  rintro ⟨backlog, done⟩
  have none : outstanding s = [] := by
    have idle : s.sends.filter (·.partway) = [] := by
      rw [List.filter_eq_nil_iff]
      intro c hc
      simp [Send.partway, done c hc]
    simp [outstanding, backlog, idle]
  rw [none, List.append_nil] at reads
  refine ⟨reads, roundTrip_of_stream ?_ reads⟩
  intro p hp
  obtain ⟨c, hc, rfl⟩ := sent p hp
  exact w.fits c hc

/-- **The TX stream is frame-atomic in every run of permitted steps.** -/
theorem tx_frame_atomic (backend : Backend) (es : List Event)
    (permitted : Runs.Along step Permits (.start backend) es) :
    FrameAtomic (Runs.run step (.start backend) es) := by
  have start : Whole (.start backend) := by
    cases backend <;> exact ⟨by simp [Server.start], by simp [Server.start], by simp [Server.start],
      by simp [Server.start]⟩
  exact (Runs.invariant whole_step start permitted).frameAtomic

/-- Two packets, the second sent before the first is out: a refused first chunk, a
flush, and the other chunks. -/
def refusedOnce : List Event :=
  [.registerService, .subscribe 1, .sendPacket (List.replicate 179 1),
    .sendPacket (List.replicate 179 2), .notify 0 false, .flush [true], .notify 0 true,
    .notify 1 true, .notify 1 true]

theorem tx_frame_atomic_refused_once :
    FrameAtomic (Runs.run step (.start .coreBluetooth) refusedOnce) := by
  have only {call : Nat} {s : Server}
      (whole : (s.sends.eraseIdx call).all (fun c => !c.partway) = true) :
      ∀ i c, s.sends[i]? = some c → i ≠ call → c.partway = false := by
    intro i c here other
    have mem : c ∈ s.sends.eraseIdx call := List.mem_eraseIdx_iff_getElem?.mpr ⟨i, other, here⟩
    simpa using List.all_eq_true.mp whole c mem
  have short (n : UInt8) : (List.replicate 179 n).length ≤ MAX_FRAME := by
    rw [List.length_replicate]
    decide
  apply tx_frame_atomic
  refine ⟨trivial, ⟨[], by simp, rfl⟩, short 1, short 2, only ?_, trivial, only ?_, only ?_,
    only ?_, trivial⟩ <;> decide +kernel

end MeshlinkNode.Notify
