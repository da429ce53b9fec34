import MeshlinkNode.ZoneSync

/-!
# The batman-adv backhaul

Zone addresses become UDP endpoints. `_send` swallows what the operating
system refuses, and nothing else.
-/

namespace MeshlinkNode

/-- A (str, int) tuple; a bool is an int. -/
def Addr.pair? : Addr → Option (PyStr × Int)
  | .tuple [.str host, .int port] => some (host, port)
  | .tuple [.str host, .bool b] => some (host, if b then 1 else 0)
  | _ => none

/-- The hosts that CPython's socket module hands to the operating system: without
a NUL, and ASCII or encoded by the "idna" codec. -/
def hostTaken (idna : PyStr → Bool) (host : PyStr) : Bool :=
  if host.all (· < 128) then !host.contains 0 else idna host

/-- What the operating system makes of a call: the hosts that it resolves, and
whether it then refuses to send. -/
structure Sockets where
  resolves : PyStr → Bool
  refused : Bool

def Sockets.up : Sockets := ⟨fun _ => true, false⟩

/-- A port in range. One that is a C `int` is only looked at once the host is
resolved. -/
def PortPasses (resolves : PyStr → Bool) (host : PyStr) (port : Int) : Prop :=
  0 ≤ port ∧ port ≤ 65535 ∨
    resolves host = false ∧ -2147483648 ≤ port ∧ port < 2147483648

instance (resolves : PyStr → Bool) (host : PyStr) (port : Int) :
    Decidable (PortPasses resolves host port) := inferInstanceAs (Decidable (_ ∨ _))

/-- A host that the socket takes, or such a host and a port that passes. -/
def Addr.Usable (takes resolves : PyStr → Bool) (addr : Addr) : Prop :=
  (∃ host, addr = .value (.str host) ∧ takes host = true) ∨
    ∃ host port, addr.pair? = some (host, port) ∧ takes host = true ∧
      PortPasses resolves host port

/-- `_endpoint`, with the configured port for a bare host. -/
def endpoint (udpPort : Fin 65536) : Addr → Addr
  | .value (.str host) => .tuple [.str host, .int udpPort.val]
  | addr => addr

/-- `socket.sendto`, in CPython's order: it wants a (str, int) pair, a host that
it takes, a port that is a C `int`, a host that resolves and a port in range, and
the operating system may still refuse. -/
def sendto (takes : PyStr → Bool) (sockets : Sockets) (dest : Addr) : Except PyExc Unit :=
  match dest.pair? with
  | none => .error .typeError
  | some (host, port) =>
    if takes host = false then .error .typeError
    else if ¬ (-2147483648 ≤ port ∧ port < 2147483648) then .error .overflowError
    else if sockets.resolves host = false then .error .osError
    else if ¬ (0 ≤ port ∧ port ≤ 65535) then .error .overflowError
    else if sockets.refused then .error .osError
    else .ok ()

/-- One call of `sendto`. -/
structure Datagram where
  dest : Addr
  packet : Bytes

structure BatmanBackhaul where
  zoneId : Int
  table : DynamicZoneTable Addr
  ownAddr : Addr
  broadcastAddr : Addr
  udpPort : Fin 65536
  /-- The hosts its socket takes; CPython's are `hostTaken`. -/
  takes : PyStr → Bool
  /-- The node's first announcement already went there. -/
  broadcastUsable : broadcastAddr.Usable takes fun _ => true

namespace BatmanBackhaul

/-- `_send`: the call it makes, and what it raises. -/
def send (takes : PyStr → Bool) (sockets : Sockets) (packet : Bytes) (dest : Addr) :
    List Datagram × Except PyExc Unit :=
  ([⟨dest, packet⟩],
    match sendto takes sockets dest with
    | .error .osError => .ok ()
    | result => result)

variable (b : BatmanBackhaul) (sockets : Sockets)

def broadcastToAllNodes (packet : Bytes) : List Datagram × Except PyExc Unit :=
  send b.takes sockets packet (endpoint b.udpPort b.broadcastAddr)

def forwardToZone (now : Seconds) (zoneId : Int) (packet : Bytes) :
    List Datagram × Except PyExc Unit :=
  if zoneId = b.zoneId then ([], .ok ())
  else match b.table.addrFor zoneId now with
    | none => b.broadcastToAllNodes sockets packet
    | some (.value .null) => b.broadcastToAllNodes sockets packet
    | some addr => send b.takes sockets packet (endpoint b.udpPort addr)

/-- What `_recv_loop` makes of a datagram. -/
inductive Received where
  | echo
  | control
  | data (peerId : String)
  deriving DecidableEq

def receive (source : String × Int) (data : Bytes) : Received :=
  if (endpoint b.udpPort b.ownAddr).pair? = some (text source.1, source.2) then .echo
  else if ZONE_SYNC_MAGIC <+: data then .control
  else .data ("backhaul:" ++ source.1 ++ ":" ++ toString source.2)

variable {b sockets}

/-- Ports out of range pass only where nothing resolves. -/
theorem usable_mono {takes resolves : PyStr → Bool} {addr : Addr}
    (usable : addr.Usable takes fun _ => true) : addr.Usable takes resolves := by
  obtain ⟨host, same, takes⟩ | ⟨host, port, pair, takes, range | ⟨unresolved, -⟩⟩ := usable
  · exact .inl ⟨host, same, takes⟩
  · exact .inr ⟨host, port, pair, takes, .inl range⟩
  · cases unresolved

/-- Where every host is taken and resolves, the type and the port decide. -/
theorem usable_iff_of_hosts {takes : PyStr → Bool} (all : ∀ host, takes host = true)
    (addr : Addr) : (addr.Usable takes fun _ => true) ↔
      (∃ host, addr = .value (.str host)) ∨
        ∃ host port, addr.pair? = some (host, port) ∧ 0 ≤ port ∧ port ≤ 65535 := by
  simp [Addr.Usable, PortPasses, all]

theorem usable_iff_pair (takes resolves : PyStr → Bool) (udpPort : Fin 65536) (addr : Addr) :
    addr.Usable takes resolves ↔
      ∃ host port, (endpoint udpPort addr).pair? = some (host, port) ∧ takes host = true ∧
        PortPasses resolves host port := by
  constructor
  · rintro (⟨host, rfl, takes⟩ | ⟨host, port, pair, passes⟩)
    · exact ⟨host, udpPort.val, rfl, takes, .inl ⟨by omega, by omega⟩⟩
    · cases addr with
      | value v => cases pair
      | tuple items => exact ⟨host, port, pair, passes⟩
  · rintro ⟨host, port, pair, taken, passes⟩
    cases addr with
    | value v =>
      cases v with
      | str s =>
        cases pair
        exact .inl ⟨_, rfl, taken⟩
      | _ => cases pair
    | tuple items => exact .inr ⟨host, port, pair, taken, passes⟩

instance (takes resolves : PyStr → Bool) (addr : Addr) :
    Decidable (addr.Usable takes resolves) :=
  match pair : (endpoint 0 addr).pair? with
  | some (host, port) =>
    decidable_of_iff (takes host = true ∧ PortPasses resolves host port) <| by
      rw [usable_iff_pair takes resolves 0, pair]
      constructor
      · intro passes
        exact ⟨host, port, rfl, passes⟩
      · rintro ⟨_, _, ⟨⟩, passes⟩
        exact passes
  | none =>
    isFalse <| by
      rw [usable_iff_pair takes resolves 0, pair]
      rintro ⟨_, _, ⟨⟩, -⟩

/-- `sendto` raises nothing but `OSError` exactly for the pairs that pass. -/
theorem sendto_swallowed {takes : PyStr → Bool} {dest : Addr} :
    (sendto takes sockets dest = .ok () ∨ sendto takes sockets dest = .error .osError) ↔
      ∃ host port, dest.pair? = some (host, port) ∧ takes host = true ∧
        PortPasses sockets.resolves host port := by
  unfold sendto PortPasses
  cases pair : dest.pair? with
  | none => simp
  | some found =>
    obtain ⟨host, port⟩ := found
    simp only [Option.some.injEq, Prod.mk.injEq, ↓existsAndEq, true_and, and_assoc]
    cases taken : takes host with
    | false => simp
    | true =>
      cases resolved : sockets.resolves host with
      | false =>
        by_cases int : -2147483648 ≤ port ∧ port < 2147483648
        · simp [int]
        · simp only [int, not_false_eq_true, if_true]
          simp
          omega
      | true =>
        by_cases range : 0 ≤ port ∧ port ≤ 65535
        · have int : -2147483648 ≤ port ∧ port < 2147483648 := by omega
          cases sockets.refused <;> simp [range, int]
        · by_cases int : -2147483648 ≤ port ∧ port < 2147483648 <;> simp [range, int]

/-- `_send` returns exactly for the addresses that make an endpoint. -/
theorem send_returns {takes : PyStr → Bool} (packet : Bytes) (udpPort : Fin 65536) (addr : Addr) :
    (send takes sockets packet (endpoint udpPort addr)).2 = .ok () ↔
      addr.Usable takes sockets.resolves := by
  rw [usable_iff_pair takes sockets.resolves udpPort, ← sendto_swallowed]
  unfold send
  cases sendto takes sockets (endpoint udpPort addr) with
  | ok => simp
  | error exc => cases exc <;> simp

theorem broadcast_returns (packet : Bytes) : (b.broadcastToAllNodes sockets packet).2 = .ok () :=
  (send_returns packet b.udpPort b.broadcastAddr).mpr (usable_mono b.broadcastUsable)

/-- The address a forward goes to, where it does not go to all nodes. -/
def zoneAddr (b : BatmanBackhaul) (now : Seconds) (zoneId : Int) : Option Addr :=
  match b.table.addrFor zoneId now with
  | some (.value .null) => none
  | found => found

theorem zoneAddr_eq_some {now : Seconds} {zoneId : Int} {addr : Addr} :
    b.zoneAddr now zoneId = some addr ↔
      b.table.addrFor zoneId now = some addr ∧ addr ≠ .value .null := by
  unfold zoneAddr
  split
  · rename_i null
    rw [null]
    constructor
    · intro h
      cases h
    · rintro ⟨⟨⟩, other⟩
      exact absurd rfl other
  · rename_i found other
    constructor
    · intro h
      refine ⟨h, ?_⟩
      rintro rfl
      exact other h
    · exact And.left

theorem forwardToZone_eq (now : Seconds) (zoneId : Int) (packet : Bytes) :
    b.forwardToZone sockets now zoneId packet =
      if zoneId = b.zoneId then ([], .ok ())
      else (b.zoneAddr now zoneId).elim (b.broadcastToAllNodes sockets packet)
        fun addr => send b.takes sockets packet (endpoint b.udpPort addr) := by
  unfold forwardToZone zoneAddr
  split
  · rfl
  · cases b.table.addrFor zoneId now with
    | none => rfl
    | some addr =>
      cases addr with
      | value v => cases v <;> rfl
      | tuple items => rfl

theorem forward_returns (now : Seconds) (zoneId : Int) (packet : Bytes) :
    (b.forwardToZone sockets now zoneId packet).2 = .ok () ↔
      zoneId = b.zoneId ∨ ∀ addr, b.zoneAddr now zoneId = some addr →
        addr.Usable b.takes sockets.resolves := by
  rw [forwardToZone_eq]
  by_cases own : zoneId = b.zoneId
  · simp [own]
  · cases found : b.zoneAddr now zoneId with
    | none => simp [own, broadcast_returns]
    | some addr => simp [own, send_returns]

/-- A forward makes at most one call to the socket. -/
theorem forward_at_most_one (now : Seconds) (zoneId : Int) (packet : Bytes) :
    (b.forwardToZone sockets now zoneId packet).1.length ≤ 1 := by
  rw [forwardToZone_eq]
  split
  · exact Nat.zero_le 1
  · cases b.zoneAddr now zoneId with
    | none => exact le_refl 1
    | some addr => exact le_refl 1

end BatmanBackhaul

namespace Sample

def backhaul : BatmanBackhaul where
  zoneId := 3
  table := .new ∅ 180
  ownAddr := .value (.str (text "10.77.0.3"))
  broadcastAddr := .value (.str (text "10.77.0.255"))
  udpPort := 19788
  takes := hostTaken fun _ => false
  broadcastUsable := .inl ⟨_, rfl, by decide⟩

end Sample

end MeshlinkNode
