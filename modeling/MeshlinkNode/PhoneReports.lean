import MeshlinkNode.Freshness
import MeshlinkNode.Lib.Runs
import MeshlinkNode.PhonePing
import Mathlib.Data.List.Sort

/-!
# What the reports say about the phones

`reports()` prunes the table it reads. Its rows are nevertheless those of the
history: each peer's last pong, if it is young enough.
-/

namespace MeshlinkNode

/-- A telemetry frame or a call of `reports()`, with the clock it reads. -/
inductive PingEvent where
  | frame (peerId : PeerId) (frame : Bytes) (now : Seconds)
  | reports (now : Seconds)

namespace PingEvent

def now : PingEvent → Seconds
  | .frame _ _ now | .reports now => now

def isFrame : PingEvent → Bool
  | .frame _ _ _ => true
  | .reports _ => false

end PingEvent

/-- What the heartbeat says of a pong at `now`. -/
def PhoneReport.row (report : PhoneReport) (peerId : PeerId) (now : Seconds) : PhoneRow :=
  ⟨peerId, report.lat, report.lon, report.battery, report.charging, ⌊now - report.receivedAt⌋⟩

namespace PhonePing

variable (lib : JsonLib)

/-- The report that a frame makes, if it is a pong whose numbers convert. -/
def pong (frame : Bytes) (now : Seconds) : Option PhoneReport :=
  match decode lib frame with
  | .ok (some body) => if body.hasType (text "pong") then (reportOf body now).toOption else none
  | _ => none

def step (svc : PhonePing) : PingEvent → PhonePing
  | .frame peerId frame now => svc.heard lib peerId frame now
  | .reports now => (svc.takeReports now).2

/-- The service after the events. -/
abbrev after (intervalS : Seconds) (events : List PingEvent) : PhonePing :=
  Runs.run (step lib) ⟨intervalS, ∅⟩ events

/-- The pong of `peer` in an event. -/
def pongOf (peer : PeerId) : PingEvent → Option PhoneReport
  | .frame p frame now => if p = peer then pong lib frame now else none
  | .reports _ => none

/-- The most recent pong of `peer`. -/
def lastPong (peer : PeerId) (events : List PingEvent) : Option PhoneReport :=
  (events.filterMap (pongOf lib peer)).getLast?

variable {lib}

/-- A pong is filed under its peer; every other frame changes nothing. -/
theorem heard_eq (svc : PhonePing) (peerId : PeerId) (frame : Bytes) (now : Seconds) :
    svc.heard lib peerId frame now =
      match pong lib frame now with
      | some report => { svc with reports := svc.reports.insert peerId report }
      | none => svc := by
  unfold heard pong
  cases decoded : decode lib frame with
  | error exc => rw [handleFrame_raised decoded]
  | ok read =>
    cases read with
    | none => rw [handleFrame_ignored decoded]
    | some body =>
      cases typed : body.hasType (text "pong") with
      | false =>
        rw [handleFrame_other decoded typed]
        simp [typed]
      | true =>
        rw [handleFrame_pong decoded typed]
        cases made : reportOf body now with
        | error exc => simp [typed, made, Except.map, Except.toOption]
        | ok report => simp [typed, made, Except.map, Except.toOption]

theorem pong_received {frame : Bytes} {now : Seconds} {report : PhoneReport}
    (made : pong lib frame now = some report) : report.receivedAt = now := by
  unfold pong at made
  split at made
  · rename_i body _
    split at made
    · unfold reportOf at made
      cases lat : asFloat (body.get (text "lat")) <;>
        cases lon : asFloat (body.get (text "lon")) <;>
        cases battery : asInt (body.get (text "battery")) <;>
        simp only [lat, lon, battery, bind, Except.bind, pure, Except.pure, Except.toOption,
          Option.some.injEq, reduceCtorEq] at made
      rw [← made]
    · cases made
  · cases made

theorem lastPong_snoc (peer : PeerId) (past : List PingEvent) (event : PingEvent) :
    lastPong lib peer (past ++ [event]) = (pongOf lib peer event).or (lastPong lib peer past) := by
  unfold lastPong
  cases made : pongOf lib peer event with
  | none => simp [made]
  | some report => simp [made]

/-- A pong was received when the clock of some event said so. -/
theorem lastPong_received {peer : PeerId} {events : List PingEvent} {report : PhoneReport}
    (last : lastPong lib peer events = some report) :
    ∃ event ∈ events, report.receivedAt = event.now := by
  obtain ⟨event, mem, made⟩ := List.mem_filterMap.mp (List.mem_of_getLast? last)
  refine ⟨event, mem, ?_⟩
  cases event with
  | frame p frame now =>
    simp only [pongOf] at made
    split at made
    · exact pong_received made
    · cases made
  | reports now => cases made

variable (lib) in
/-- What the table has of a peer is its last pong, and a last pong that it has
not was too old for some earlier call of `reports()`. -/
structure Remembers (intervalS : Seconds) (past : List PingEvent) (svc : PhonePing) : Prop where
  interval : svc.intervalS = intervalS
  filed : ∀ peer report, svc.reports.lookup peer = some report →
    lastPong lib peer past = some report
  pruned : ∀ peer report, lastPong lib peer past = some report → svc.reports.lookup peer = none →
    ∃ event ∈ past, report.receivedAt < event.now - 3 * intervalS

/-- `reports()` keeps what is young enough. -/
theorem lookup_takeReports {svc : PhonePing} {now : Seconds} {peer : PeerId}
    {report : PhoneReport} : (svc.takeReports now).2.reports.lookup peer = some report ↔
      svc.reports.lookup peer = some report ∧ now - 3 * svc.intervalS ≤ report.receivedAt := by
  have stale : peer ∈ ((svc.reports.entries.filter fun e =>
      e.2.receivedAt < now - svc.reportTtlS).map Sigma.fst) ↔
      ∃ r, svc.reports.lookup peer = some r ∧ r.receivedAt < now - 3 * svc.intervalS := by
    simp only [List.mem_map, List.mem_filter, decide_eq_true_eq]
    constructor
    · rintro ⟨⟨p, r⟩, ⟨mem, old⟩, rfl⟩
      exact ⟨r, AList.mem_lookup_iff.mpr mem, old⟩
    · rintro ⟨r, found, old⟩
      exact ⟨⟨peer, r⟩, ⟨AList.mem_lookup_iff.mp found, old⟩, rfl⟩
  simp only [takeReports, Assoc.lookup_eraseAll, stale]
  split
  · rename_i old
    obtain ⟨r, found, old⟩ := old
    refine iff_of_false (by simp) ?_
    rintro ⟨here, young⟩
    rw [found] at here
    cases here
    exact absurd old (not_lt.mpr young)
  · rename_i young
    refine ⟨fun found => ⟨found, ?_⟩, And.left⟩
    by_contra old
    exact young ⟨report, found, not_le.mp old⟩

/-- An event that files nothing, and after which only what is old is gone. -/
theorem Remembers.unfiled {intervalS : Seconds} {past : List PingEvent} {svc after : PhonePing}
    {event : PingEvent} (before : Remembers lib intervalS past svc)
    (interval : after.intervalS = svc.intervalS)
    (same : ∀ peer, lastPong lib peer (past ++ [event]) = lastPong lib peer past)
    (kept : ∀ peer report, after.reports.lookup peer = some report →
      svc.reports.lookup peer = some report)
    (gone : ∀ peer report, svc.reports.lookup peer = some report →
      after.reports.lookup peer = none → report.receivedAt < event.now - 3 * intervalS) :
    Remembers lib intervalS (past ++ [event]) after := by
  refine ⟨interval.trans before.interval, ?_, ?_⟩
  · intro peer report found
    rw [same]
    exact before.filed peer report (kept peer report found)
  · intro peer report last missing
    rw [same] at last
    cases had : svc.reports.lookup peer with
    | none =>
      obtain ⟨e, mem, old⟩ := before.pruned peer report last had
      exact ⟨e, List.mem_append_left _ mem, old⟩
    | some held =>
      have mine := before.filed peer held had
      rw [last] at mine
      cases mine
      exact ⟨event, by simp, gone peer report had missing⟩

/-- A pong takes the place of what its peer had. -/
theorem Remembers.filed_pong {intervalS : Seconds} {past : List PingEvent} {svc : PhonePing}
    {peerId : PeerId} {event : PingEvent} {fresh : PhoneReport}
    (before : Remembers lib intervalS past svc)
    (last : ∀ peer, lastPong lib peer (past ++ [event]) =
      if peerId = peer then some fresh else lastPong lib peer past) :
    Remembers lib intervalS (past ++ [event])
      { svc with reports := svc.reports.insert peerId fresh } := by
  refine ⟨before.interval, ?_, ?_⟩
  · intro peer report found
    rw [last]
    by_cases mine : peerId = peer
    · subst mine
      rw [AList.lookup_insert] at found
      rw [if_pos rfl, found]
    · rw [AList.lookup_insert_ne (Ne.symm mine)] at found
      rw [if_neg mine]
      exact before.filed peer report found
  · intro peer report lastly missing
    rw [last] at lastly
    by_cases mine : peerId = peer
    · subst mine
      rw [AList.lookup_insert] at missing
      cases missing
    · rw [AList.lookup_insert_ne (Ne.symm mine)] at missing
      rw [if_neg mine] at lastly
      obtain ⟨e, mem, old⟩ := before.pruned peer report lastly missing
      exact ⟨e, List.mem_append_left _ mem, old⟩

theorem remembers_step {intervalS : Seconds} {past : List PingEvent} {svc : PhonePing}
    (event : PingEvent) (before : Remembers lib intervalS past svc) :
    Remembers lib intervalS (past ++ [event]) (svc.step lib event) := by
  cases event with
  | frame peerId frame now =>
    simp only [step, heard_eq]
    cases made : pong lib frame now with
    | none =>
      refine before.unfiled rfl ?_ (fun _ _ found => found) ?_
      · intro peer
        simp [lastPong_snoc, pongOf, made]
      · intro peer report had missing
        rw [had] at missing
        cases missing
    | some fresh =>
      refine before.filed_pong fun peer => ?_
      by_cases mine : peerId = peer <;> simp [lastPong_snoc, pongOf, made, mine]
  | reports now =>
    refine before.unfiled rfl ?_ ?_ ?_
    · intro peer
      simp [lastPong_snoc, pongOf]
    · intro peer report found
      exact (lookup_takeReports.mp found).1
    · intro peer report had missing
      by_contra young
      have found : (svc.takeReports now).2.reports.lookup peer = some report :=
        lookup_takeReports.mpr ⟨had, before.interval ▸ not_lt.mp young⟩
      simp only [step] at missing
      rw [found] at missing
      cases missing

variable (lib) in
theorem remembers_after (intervalS : Seconds) (events : List PingEvent) :
    Remembers lib intervalS events (after lib intervalS events) := by
  refine Runs.history (Remembers lib intervalS) ⟨rfl, ?_, ?_⟩
    (fun _ _ e h => remembers_step e h) events
  · intro peer report found
    cases found
  · intro peer report last
    cases last

/-- The clock readings of the events and then `t` do not go back. -/
def Clocked (events : List PingEvent) (t : Seconds) : Prop :=
  (events.map PingEvent.now ++ [t]).Pairwise (· ≤ ·)

instance (events : List PingEvent) (t : Seconds) : Decidable (Clocked events t) :=
  inferInstanceAs (Decidable (List.Pairwise _ _))

theorem Clocked.le {events : List PingEvent} {t : Seconds} (clock : Clocked events t)
    {event : PingEvent} (mem : event ∈ events) : event.now ≤ t :=
  (List.pairwise_append.mp clock).2.2 _ (List.mem_map_of_mem mem) t List.mem_cons_self

theorem Clocked.received_le {events : List PingEvent} {t : Seconds} (clock : Clocked events t)
    {peer : PeerId} {report : PhoneReport} (last : lastPong lib peer events = some report) :
    report.receivedAt ≤ t := by
  obtain ⟨event, mem, at'⟩ := lastPong_received last
  rw [at']
  exact clock.le mem

/-- The rows of `reports()` at `t`. -/
def rows (lib : JsonLib) (intervalS : Seconds) (events : List PingEvent) (t : Seconds) :
    List PhoneRow :=
  ((after lib intervalS events).takeReports t).1

theorem rows_sorted (intervalS : Seconds) (events : List PingEvent) (t : Seconds) :
    (rows lib intervalS events t).Pairwise fun a b => a.peerId < b.peerId :=
  List.pairwise_map.mpr (Assoc.sorted_strict _)

theorem mem_rows {intervalS : Seconds} {events : List PingEvent} {t : Seconds}
    (clock : Clocked events t) {row : PhoneRow} :
    row ∈ rows lib intervalS events t ↔ ∃ report,
      lastPong lib row.peerId events = some report ∧
      t - report.receivedAt ≤ 3 * intervalS ∧ row = report.row row.peerId t := by
  have remembers := remembers_after lib intervalS events
  -- the table's age and the history's are the same number once the clock has not gone back
  have entry : ∀ peer report, ((after lib intervalS events).takeReports t).2.reports.lookup peer =
      some report ↔
      lastPong lib peer events = some report ∧ t - report.receivedAt ≤ 3 * intervalS := by
    intro peer report
    rw [lookup_takeReports, remembers.interval]
    constructor
    · rintro ⟨found, young⟩
      exact ⟨remembers.filed peer report found, by linarith⟩
    · rintro ⟨last, young⟩
      refine ⟨?_, by linarith⟩
      cases found : (after lib intervalS events).reports.lookup peer with
      | some kept =>
        have mine := remembers.filed peer kept found
        rw [last] at mine
        exact mine.symm
      | none =>
        obtain ⟨event, mem, old⟩ := remembers.pruned peer report last found
        have later := clock.le mem
        linarith
  have age : ∀ peer report, lastPong lib peer events = some report →
      truncInt (t - report.receivedAt) = ⌊t - report.receivedAt⌋ := by
    intro peer report last
    exact truncInt_eq_floor (sub_nonneg.mpr (clock.received_le last))
  simp only [rows]
  constructor
  · intro mem
    obtain ⟨⟨peer, report⟩, listed, rfl⟩ := List.mem_map.mp mem
    obtain ⟨last, young⟩ := (entry peer report).mp (Assoc.mem_sorted.mp listed)
    exact ⟨report, last, young, by simp only [PhoneReport.row, age peer report last]⟩
  · rintro ⟨report, last, young, here⟩
    have found := (entry row.peerId report).mpr ⟨last, young⟩
    refine List.mem_map.mpr ⟨⟨row.peerId, report⟩, Assoc.mem_sorted.mpr found, ?_⟩
    rw [here]
    simp only [PhoneReport.row, age _ report last]

theorem lastPong_frames (peer : PeerId) (events : List PingEvent) :
    lastPong lib peer (events.filter PingEvent.isFrame) = lastPong lib peer events := by
  unfold lastPong
  congr 1
  induction events with
  | nil => rfl
  | cons event events ih =>
    cases event with
    | frame p frame now =>
      rw [List.filter_cons_of_pos rfl, List.filterMap_cons, List.filterMap_cons, ih]
    | reports now =>
      rw [List.filter_cons_of_neg (by simp [PingEvent.isFrame]), List.filterMap_cons_none rfl, ih]

/-- **The reports are those of the history.** Whatever frames came and however
often the table was read and pruned, as long as the clock has not gone back:
the rows at `t` are in the order of the peer ids with none repeated, a peer has
one exactly if its last pong is at most three intervals old, with that pong's
values and the whole seconds since it; and any history with the same frames has
the same rows. -/
theorem reports_refine_history (lib : JsonLib) (intervalS : Seconds) (events : List PingEvent)
    (t : Seconds) (clock : Clocked events t) :
    (rows lib intervalS events t).Pairwise (fun a b => a.peerId < b.peerId) ∧
    (∀ row, row ∈ rows lib intervalS events t ↔ ∃ report,
      lastPong lib row.peerId events = some report ∧
      t - report.receivedAt ≤ 3 * intervalS ∧ row = report.row row.peerId t) ∧
    (∀ row ∈ rows lib intervalS events t, 0 ≤ row.ageS) ∧
    ∀ others, Clocked others t →
      others.filter PingEvent.isFrame = events.filter PingEvent.isFrame →
      rows lib intervalS others t = rows lib intervalS events t := by
  refine ⟨rows_sorted intervalS events t, fun row => mem_rows clock, ?_, ?_⟩
  · intro row mem
    obtain ⟨report, last, -, here⟩ := (mem_rows clock).mp mem
    rw [here]
    exact Int.floor_nonneg.mpr (sub_nonneg.mpr (clock.received_le last))
  · intro others clock' same
    have asym : Std.Antisymm fun a b : PhoneRow => a.peerId < b.peerId :=
      ⟨fun a b lt gt => absurd gt (lt_asymm lt)⟩
    have irr : Std.Irrefl fun a b : PhoneRow => a.peerId < b.peerId := ⟨fun a => lt_irrefl _⟩
    apply (rows_sorted intervalS others t).eq_of_mem_iff (rows_sorted intervalS events t)
    intro row
    have last : lastPong lib row.peerId others = lastPong lib row.peerId events := by
      rw [← lastPong_frames, same, lastPong_frames]
    rw [mem_rows clock', mem_rows clock, last]

end PhonePing

namespace Sample

/-- Every text reads as the same pong. -/
def pongJson : JsonLib where
  jsonLoads := fun _ => .error .valueError
  str := fun _ => .ok []
  intOfStr := fun _ => .error .valueError
  loads := fun _ => .ok (.obj [(text "t", .str (text "pong")), (text "battery", .int 80)])
  floatRepr := fun _ => []

/-- Two pongs, the older one pruned by an earlier read. -/
def pongs : List PingEvent :=
  [.frame "dev_A" PHONE_PING_MAGIC 0, .frame "dev_B" PHONE_PING_MAGIC 200, .reports 300]

theorem pongs_reports :
    (PhonePing.rows pongJson 90 pongs 301).Pairwise (fun a b => a.peerId < b.peerId) ∧
    (∀ row, row ∈ PhonePing.rows pongJson 90 pongs 301 ↔ ∃ report,
      PhonePing.lastPong pongJson row.peerId pongs = some report ∧
      301 - report.receivedAt ≤ 3 * 90 ∧ row = report.row row.peerId 301) ∧
    (∀ row ∈ PhonePing.rows pongJson 90 pongs 301, 0 ≤ row.ageS) ∧
    ∀ others, PhonePing.Clocked others 301 →
      others.filter PingEvent.isFrame = pongs.filter PingEvent.isFrame →
      PhonePing.rows pongJson 90 others 301 = PhonePing.rows pongJson 90 pongs 301 :=
  PhonePing.reports_refine_history pongJson 90 pongs 301 (by decide)

end Sample

end MeshlinkNode
