import MeshlinkNode.JsonReread
import MeshlinkNode.ConfGrammar
import MeshlinkNode.Gossip

/-!
# The node's configuration

What the node takes from its environment: the zone it serves, the address it
announces, and the routes an operator pins. A variable that cannot be read ends
the node before it starts.
-/

namespace MeshlinkNode

/-! ## `int` -/

/-- The zero of each decimal script beyond ASCII, as of Unicode 14. Its other
digits follow it. -/
def DECIMAL_ZEROS : List Nat :=
  [0x660, 0x6f0, 0x7c0, 0x966, 0x9e6, 0xa66, 0xae6, 0xb66, 0xbe6, 0xc66, 0xce6, 0xd66, 0xde6,
    0xe50, 0xed0, 0xf20, 0x1040, 0x1090, 0x17e0, 0x1810, 0x1946, 0x19d0, 0x1a80, 0x1a90, 0x1b50,
    0x1bb0, 0x1c40, 0x1c50, 0xa620, 0xa8d0, 0xa900, 0xa9d0, 0xa9f0, 0xaa50, 0xabf0, 0xff10,
    0x104a0, 0x10d30, 0x11066, 0x110f0, 0x11136, 0x111d0, 0x112f0, 0x11450, 0x114d0, 0x11650,
    0x116c0, 0x11730, 0x118e0, 0x11950, 0x11c50, 0x11d50, 0x11da0, 0x16a60, 0x16ac0, 0x16b50,
    0x1d7ce, 0x1d7d8, 0x1d7e2, 0x1d7ec, 0x1d7f6, 0x1e140, 0x1e2f0, 0x1e950, 0x1fbf0]

/-- A character as `int` sees it: a digit of any script is one of ours, white
space is a blank, and anything else beyond ASCII is a question mark. -/
def decimalChar (c : Nat) : Nat :=
  if c < 127 then c
  else if isSpace c then 32
  else
    match DECIMAL_ZEROS.find? fun first => first ≤ c && c ≤ first + 9 with
    | some first => 48 + (c - first)
    | none => 63

/-- Digits, in groups with one underscore between two. -/
def digitGroups (s : PyStr) : Option PyStr :=
  let groups := s.splitOn 95
  if groups.all fun group => group ≠ [] && group.all asciiDigit then some groups.flatten else none

/-- `int(s)`. -/
def pyInt (s : PyStr) : Except PyExc Int :=
  let trimmed := ((s.map decimalChar).dropWhile hexSpace).rdropWhile hexSpace
  let sign := matchSign trimmed
  match digitGroups (trimmed.drop sign.length) with
  | none => .error .valueError
  | some digits =>
    if 4300 < digits.length then .error .valueError
    else .ok (if sign = [45] then -natOfDigits digits else natOfDigits digits)

example : pyInt (text " -1_000\n") = .ok (-1000) := by rfl

example : pyInt [0x663, 0x32] = .ok 32 := by rfl

theorem digitGroups_digits {s digits : PyStr} (found : digitGroups s = some digits) :
    ∀ c ∈ digits, asciiDigit c = true := by
  obtain ⟨all, same⟩ := Option.ite_none_right_eq_some.mp found
  cases same
  intro c mem
  obtain ⟨group, here, mem⟩ := List.mem_flatten.mp mem
  have each := List.all_eq_true.mp all group here
  rw [Bool.and_eq_true] at each
  exact List.all_eq_true.mp each.2 c mem

/-- What `int` reads has few enough digits to be read again. -/
theorem pyInt_few {s : PyStr} {n : Int} (read : pyInt s = .ok n) : FewDigits n := by
  unfold pyInt at read
  extract_lets trimmed sign at read
  split at read
  · cases read
  · rename_i digits found
    split at read
    · cases read
    · have each : ∀ c ∈ digits, c - 48 < 10 := by
        intro c mem
        have digit := asciiDigit_iff.mp (digitGroups_digits found c mem)
        unfold JsonGrammar.Digit at digit
        omega
      have few := repr_length_le each (m := 4300) (by omega) (by decide)
      cases read
      unfold FewDigits
      split
      · rwa [Int.natAbs_neg, Int.natAbs_natCast]
      · rwa [Int.natAbs_natCast]

/-- White space around a number, which `int` passes over. -/
def Blank (w : PyStr) : Prop := ∀ c ∈ w, hexSpace c = true

theorem blank_nil : Blank [] := by simp [Blank]

theorem decimalChar_ascii {c : Nat} (ascii : c < 127) : decimalChar c = c := if_pos ascii

theorem blank_ascii {w : PyStr} (blank : Blank w) : ∀ c ∈ w, c < 127 := by
  intro c mem
  have := blank c mem
  simp only [hexSpace, Bool.or_eq_true, Bool.and_eq_true, beq_iff_eq, decide_eq_true_eq] at this
  omega

/-- White space goes, and nothing else. -/
theorem trim_padded {p : Nat → Bool} {w w' s : PyStr} (before : ∀ c ∈ w, p c = true)
    (after : ∀ c ∈ w', p c = true) (first : ∀ c, s.head? = some c → p c = false)
    (last : ∀ c, s.getLast? = some c → p c = false) :
    ((w ++ (s ++ w')).dropWhile p).rdropWhile p = s := by
  rw [List.dropWhile_append_of_pos before]
  cases s with
  | nil =>
    rw [List.nil_append, List.dropWhile_eq_nil_iff.mpr after]
    rfl
  | cons c rest =>
    rw [List.cons_append, List.dropWhile_cons_of_neg (by simp [first c rfl]), ← List.cons_append,
      List.rdropWhile, List.reverse_append,
      List.dropWhile_append_of_pos (by simpa using after)]
    cases whole : (c :: rest).reverse with
    | nil => simp at whole
    | cons d front =>
      have tail : p d = false := by
        apply last d
        rw [List.getLast?_eq_head?_reverse, whole]
        rfl
      rw [List.dropWhile_cons_of_neg (by simp [tail]), ← whole, List.reverse_reverse]

theorem digitGroups_plain {digits : PyStr} (some' : digits ≠ [])
    (each : ∀ c ∈ digits, asciiDigit c = true) : digitGroups digits = some digits := by
  have whole : 95 ∉ digits := fun mem => by
    have := each 95 mem
    simp [asciiDigit] at this
  rw [digitGroups, List.splitOn_eq_singleton whole]
  simp [some', List.all_eq_true.mpr each]

theorem natRepr_digits (n : Nat) :
    text (Nat.repr n) ≠ [] ∧ ∀ c ∈ text (Nat.repr n), asciiDigit c = true := by
  have integer := (natRepr_intPart n).1
  generalize text (Nat.repr n) = s at integer ⊢
  cases integer with
  | zero => exact ⟨by simp, by decide⟩
  | @nonzero d rest low high digits =>
    have first : asciiDigit d = true := asciiDigit_iff.mpr ⟨by omega, high⟩
    refine ⟨List.cons_ne_nil _ _, List.forall_mem_cons.mpr ⟨first, fun c mem => ?_⟩⟩
    exact asciiDigit_iff.mpr (digits c mem)

/-- What an integer is spelled with. -/
theorem intRepr_chars (n : Int) : ∀ c ∈ intRepr n, c = 45 ∨ asciiDigit c = true := by
  obtain ⟨minus, sign, spelled, -⟩ := intRepr_parts n
  intro c mem
  rw [spelled, List.mem_append] at mem
  obtain mem | mem := mem
  · obtain rfl | rfl := sign
    · cases mem
    · exact .inl (List.mem_singleton.mp mem)
  · exact .inr ((natRepr_digits _).2 c mem)

theorem intRepr_range {n : Int} {c : Nat} (mem : c ∈ intRepr n) : 45 ≤ c ∧ c < 58 := by
  obtain rfl | digit := intRepr_chars n c mem
  · decide
  · obtain ⟨low, high⟩ := asciiDigit_iff.mp digit
    omega

theorem hexSpace_intRepr {n : Int} {c : Nat} (mem : c ∈ intRepr n) : hexSpace c = false := by
  have := intRepr_range mem
  simp only [hexSpace, Bool.or_eq_false_iff, beq_eq_false_iff_ne, Bool.and_eq_false_iff,
    decide_eq_false_iff_not]
  omega

theorem isSpace_intRepr {n : Int} {c : Nat} (mem : c ∈ intRepr n) : isSpace c = false := by
  have := intRepr_range mem
  simp only [isSpace, Bool.or_eq_false_iff, Bool.and_eq_false_iff, beq_eq_false_iff_ne,
    decide_eq_false_iff_not]
  omega

theorem intRepr_ne_nil (n : Int) : intRepr n ≠ [] := by
  obtain ⟨minus, -, spelled, -⟩ := intRepr_parts n
  rw [spelled]
  exact List.append_ne_nil_of_right_ne_nil _ (natRepr_digits _).1

/-- **`int` reads what `str` writes**, with white space around it. -/
theorem pyInt_repr {n : Int} (few : FewDigits n) {w w' : PyStr} (before : Blank w)
    (after : Blank w') : pyInt (w ++ (intRepr n ++ w')) = .ok n := by
  have plain : (w ++ (intRepr n ++ w')).map decimalChar = w ++ (intRepr n ++ w') := by
    refine (List.map_congr_left fun c mem => decimalChar_ascii ?_).trans (List.map_id _)
    obtain mem | mem := List.mem_append.mp mem
    · exact blank_ascii before c mem
    · obtain mem | mem := List.mem_append.mp mem
      · have := intRepr_range mem
        omega
      · exact blank_ascii after c mem
  have trimmed : ((w ++ (intRepr n ++ w')).dropWhile hexSpace).rdropWhile hexSpace = intRepr n :=
    trim_padded before after (fun c first => hexSpace_intRepr (List.mem_of_head? first))
      fun c last => hexSpace_intRepr (List.mem_of_getLast? last)
  obtain ⟨minus, sign, spelled, negative⟩ := intRepr_parts n
  obtain ⟨some', digits⟩ := natRepr_digits n.natAbs
  have signed : matchSign (intRepr n) = minus := by
    rw [spelled]
    obtain rfl | rfl := sign
    · cases whole : text (Nat.repr n.natAbs) with
      | nil => exact absurd whole some'
      | cons d front =>
        obtain ⟨low, -⟩ := asciiDigit_iff.mp (digits d (by simp [whole]))
        rw [List.nil_append, matchSign, if_neg (by omega)]
    · rfl
  have rest : (intRepr n).drop minus.length = text (Nat.repr n.natAbs) := by
    rw [spelled, List.drop_left]
  rw [pyInt]
  simp only [plain, trimmed, signed, rest, digitGroups_plain some' digits]
  rw [if_neg (Nat.not_lt.mpr few), natOfDigits_repr]
  congr 1
  by_cases below : n < 0
  · rw [if_pos (negative.mpr below)]
    omega
  · rw [if_neg fun same => below (negative.mp same)]
    omega

/-! ## Addresses -/

/-- `s.rpartition(sep)` of one character; nothing if it is not there. -/
def rpartition (sep : Nat) (s : PyStr) : Option (PyStr × PyStr) :=
  if sep ∈ s then some ((s.rdropWhile (· ≠ sep)).dropLast, s.rtakeWhile (· ≠ sep)) else none

def parseAddr (s : PyStr) : Except PyExc NodeAddr := do
  let s := strip s
  match rpartition 58 s with
  | some (host, port) => return .hostPort host (← pyInt port)
  | none => return .host s

/-! ## The zone table -/

/-- An entry of the table: blank, or a zone, and behind the first `=` an
address. Without a `=` the address is empty. -/
def parseZoneEntry (entry : PyStr) : Except PyExc (Option (Int × Addr)) := do
  let entry := strip entry
  if entry = [] then return none
  else
    let (zone, addr) := (partition 61 entry).getD (entry, [])
    let addr ← parseAddr addr
    return some (← pyInt zone, addr.addr)

/-- The loop over the entries. -/
def parseZoneEntries (table : Dict Int Addr) : List PyStr → Except PyExc (Dict Int Addr)
  | [] => .ok table
  | entry :: rest => do
    match ← parseZoneEntry entry with
    | none => parseZoneEntries table rest
    | some (zone, addr) => parseZoneEntries (table.insert zone addr) rest

def parseZoneTable (s : PyStr) : Except PyExc (Dict Int Addr) :=
  parseZoneEntries ∅ (s.splitOn 44)

/-- The table of a list of entries, of which each can be read. -/
theorem parseZoneEntries_ok {pieces : List PyStr} {entries : List (Option (Int × Addr))}
    (read : List.Forall₂ (fun piece entry => parseZoneEntry piece = .ok entry) pieces entries)
    (table : Dict Int Addr) :
    parseZoneEntries table pieces = .ok (Assoc.update table entries.reduceOption) := by
  induction read generalizing table with
  | nil => rfl
  | @cons piece entry pieces entries first _ ih =>
    rw [parseZoneEntries, first]
    cases entry with
    | none => exact ih table
    | some entry => exact ih (table.insert entry.1 entry.2)

/-- From the other end, it is `partition`. -/
theorem rpartition_reverse (sep : Nat) (s : PyStr) :
    rpartition sep s = (partition sep s.reverse).map fun (after, before) =>
      (before.reverse, after.reverse) := by
  by_cases here : sep ∈ s
  · rw [rpartition, partition, if_pos here, if_pos (List.mem_reverse.mpr here), Option.map_some,
      List.rdropWhile, List.rtakeWhile, List.dropLast_reverse]
  · rw [rpartition, partition, if_neg here, if_neg (mt List.mem_reverse.mp here)]
    rfl

theorem rpartition_append {sep : Nat} (before : PyStr) {after : PyStr} (absent : sep ∉ after) :
    rpartition sep (before ++ sep :: after) = some (before, after) := by
  have parts : partition sep (before ++ sep :: after).reverse =
      some (after.reverse, before.reverse) :=
    partition_iff.mpr ⟨by simp, mt List.mem_reverse.mp absent⟩
  rw [rpartition_reverse, parts]
  simp

theorem rpartition_none {sep : Nat} {s : PyStr} (absent : sep ∉ s) : rpartition sep s = none :=
  if_neg absent

/-- White space around an entry, which `strip` takes off. -/
def White (w : PyStr) : Prop := ∀ c ∈ w, isSpace c = true

/-- Neither end is white space. -/
structure Trimmed (s : PyStr) : Prop where
  first : ∀ c, s.head? = some c → isSpace c = false
  last : ∀ c, s.getLast? = some c → isSpace c = false

theorem strip_padded {w w' s : PyStr} (before : White w) (after : White w') (trimmed : Trimmed s) :
    strip (w ++ (s ++ w')) = s := trim_padded before after trimmed.first trimmed.last

namespace NodeAddr

def spell : NodeAddr → PyStr
  | .host h => h
  | .hostPort h port => h ++ 58 :: intRepr port

/-- An address that a table can hold. -/
def Plain : NodeAddr → Prop
  | .host h => h ≠ [] ∧ 58 ∉ h ∧ 44 ∉ h ∧ Trimmed h
  | .hostPort h port => 44 ∉ h ∧ (∀ c, h.head? = some c → isSpace c = false) ∧ FewDigits port

theorem spell_trimmed {a : NodeAddr} (plain : a.Plain) : a.spell ≠ [] ∧ Trimmed a.spell := by
  cases a with
  | host h => exact ⟨plain.1, plain.2.2.2⟩
  | hostPort h port =>
    refine ⟨by simp [spell], ?_, ?_⟩
    · intro c first
      cases h with
      | nil =>
        cases first
        rfl
      | cons d rest => exact plain.2.1 c first
    · intro c last
      have some' := intRepr_ne_nil port
      rw [spell, ← List.singleton_append, ← List.append_assoc,
        List.getLast?_append_of_ne_nil _ some'] at last
      exact isSpace_intRepr (List.mem_of_getLast? last)

theorem parseAddr_spell {a : NodeAddr} (plain : a.Plain) {w w' : PyStr} (before : White w)
    (after : White w') : parseAddr (w ++ (a.spell ++ w')) = .ok a := by
  rw [parseAddr, strip_padded before after (spell_trimmed plain).2]
  cases a with
  | host h =>
    simp only [spell, rpartition_none plain.2.1]
    rfl
  | hostPort h port =>
    have parts : rpartition 58 (h ++ 58 :: intRepr port) = some (h, intRepr port) := by
      refine rpartition_append h fun mem => ?_
      have := intRepr_range mem
      omega
    have read : pyInt (intRepr port) = .ok port := by
      have := pyInt_repr plain.2.2 blank_nil blank_nil
      rwa [List.nil_append, List.append_nil] at this
    simp only [spell, parts, read]
    rfl

end NodeAddr

/-- What stands between two commas of a table, and the entry it makes. -/
inductive Spells : PyStr → Option (Int × Addr) → Prop where
  | blank {w : PyStr} : White w → Spells w none
  | pin {w w' before after : PyStr} {zone : Int} {addr : NodeAddr} : White w → White w' →
      Blank before → White after → FewDigits zone → addr.Plain →
      Spells (w ++ (intRepr zone ++ (before ++ 61 :: (after ++ addr.spell)) ++ w'))
        (some (zone, addr.addr))

theorem strip_white {w : PyStr} (white : White w) : strip w = [] := by
  rw [strip, List.dropWhile_eq_nil_iff.mpr white]
  rfl

theorem hexSpace_ne {c : Nat} (space : hexSpace c = true) : c ≠ 61 ∧ c ≠ 44 := by
  constructor
  · rintro rfl
    cases space
  · rintro rfl
    cases space

theorem parseZoneEntry_spells {piece : PyStr} {entry : Option (Int × Addr)}
    (spells : Spells piece entry) : parseZoneEntry piece = .ok entry := by
  cases spells with
  | blank white =>
    rw [parseZoneEntry, strip_white white]
    rfl
  | @pin w w' before after zone addr front back blank white few plain =>
    obtain ⟨some', trimmed⟩ := NodeAddr.spell_trimmed plain
    have first := intRepr_ne_nil zone
    have core : Trimmed (intRepr zone ++ (before ++ 61 :: (after ++ addr.spell))) := by
      constructor
      · intro c start
        rw [List.head?_append_of_ne_nil _ first] at start
        exact isSpace_intRepr (List.mem_of_head? start)
      · intro c stop
        rw [← List.cons_append, ← List.append_assoc, ← List.append_assoc,
          List.getLast?_append_of_ne_nil _ some'] at stop
        exact trimmed.last c stop
    have parts : partition 61 (intRepr zone ++ (before ++ 61 :: (after ++ addr.spell))) =
        some (intRepr zone ++ before, after ++ addr.spell) := by
      refine partition_iff.mpr ⟨by simp, fun mem => ?_⟩
      obtain mem | mem := List.mem_append.mp mem
      · have := intRepr_range mem
        omega
      · exact (hexSpace_ne (blank 61 mem)).1 rfl
    have number : pyInt (intRepr zone ++ before) = .ok zone := by
      have := pyInt_repr few blank_nil blank
      rwa [List.nil_append] at this
    have address : parseAddr (after ++ addr.spell) = .ok addr := by
      have none : White [] := by simp [White]
      have := NodeAddr.parseAddr_spell plain white none
      rwa [List.append_nil] at this
    rw [parseZoneEntry, strip_padded front back core]
    simp only [parts, Option.getD_some, address, number]
    rw [if_neg (List.append_ne_nil_of_left_ne_nil first _)]
    rfl

theorem comma_absent {piece : PyStr} {entry : Option (Int × Addr)} (spells : Spells piece entry) :
    44 ∉ piece := by
  have solid {w : PyStr} (white : White w) : 44 ∉ w := fun mem => nomatch white 44 mem
  cases spells with
  | blank white => exact solid white
  | @pin w w' before after zone addr front back blank white few plain =>
    have number : 44 ∉ intRepr zone := fun mem => by
      have := intRepr_range mem
      omega
    have address : 44 ∉ addr.spell := by
      cases addr with
      | host h => exact plain.2.2.1
      | hostPort h port =>
        intro mem
        obtain mem | mem := List.mem_append.mp mem
        · exact plain.1 mem
        · obtain same | mem := List.mem_cons.mp mem
          · cases same
          · have := intRepr_range mem
            omega
    simp only [List.mem_append, List.mem_cons, not_or]
    exact ⟨solid front, ⟨number, fun mem => (hexSpace_ne (blank 44 mem)).2 rfl, by decide,
      solid white, address⟩, solid back⟩

/-- **What an operator writes is what is pinned.** Blank entries count for
nothing, and of two for one zone the last counts. -/
theorem parseZoneTable_spells {pieces : List PyStr} {entries : List (Option (Int × Addr))}
    (some' : pieces ≠ []) (spells : List.Forall₂ Spells pieces entries) :
    parseZoneTable ([44].intercalate pieces) = .ok (Assoc.update ∅ entries.reduceOption) := by
  have plain : ∀ piece ∈ pieces, 44 ∉ piece := by
    clear some'
    induction spells with
    | nil => simp
    | cons first _ ih => exact List.forall_mem_cons.mpr ⟨comma_absent first, ih⟩
  rw [parseZoneTable, List.splitOn_intercalate 44 plain some']
  exact parseZoneEntries_ok (spells.imp fun _ _ => parseZoneEntry_spells) ∅

/-- The last entry for a zone. -/
def lastPin (entries : List (Option (Int × Addr))) (zone : Int) : Option Addr :=
  entries.reduceOption.reverse.lookup zone

/-- Where a node started on this table sends at `now`. -/
structure RoutesPinned (entries : List (Option (Int × Addr))) (seed : Dict Int Addr)
    (entryTtlS : Seconds) (changes : List (DynamicZoneTable.Change Addr)) (now : Seconds)
    (zone : Int) : Prop where
  fresh : ∀ addr seen, DynamicZoneTable.lastLearn zone changes = some (addr, seen) →
    now - seen ≤ entryTtlS →
      (DynamicZoneTable.after seed entryTtlS changes).addrFor zone now = some addr
  pinned : (∀ addr seen, DynamicZoneTable.lastLearn zone changes = some (addr, seen) →
    entryTtlS < now - seen) →
      (DynamicZoneTable.after seed entryTtlS changes).addrFor zone now = lastPin entries zone

/-- **What is pinned is routed.** A node started on a table an operator wrote
sends to the last address the table has for a zone, whatever it has learned
and forgotten, unless it has heard the zone announced within the ttl. -/
theorem pinned_routed (pieces : List PyStr) (entries : List (Option (Int × Addr)))
    (some' : pieces ≠ []) (spells : List.Forall₂ Spells pieces entries) :
    ∃ seed, parseZoneTable ([44].intercalate pieces) = .ok seed ∧
      ∀ entryTtlS changes now,
        (∀ change ∈ changes, ∀ reading, change.Reads reading → reading ≤ now) → ∀ zone,
          RoutesPinned entries seed entryTtlS changes now zone := by
  refine ⟨_, parseZoneTable_spells some' spells, fun entryTtlS changes now later zone => ?_⟩
  have routes := (DynamicZoneTable.remembers_after (Assoc.update ∅ entries.reduceOption) entryTtlS
    changes).addrFor later zone
  have pins : (Assoc.update ∅ entries.reduceOption : Dict Int Addr).lookup zone =
      lastPin entries zone := by
    rw [Assoc.lookup_update, AList.lookup_empty, Option.or_none, lastPin]
  constructor
  · intro addr seen last recent
    simp only [routes, DynamicZoneTable.routed, last, if_pos recent]
  · intro stale
    rw [routes, DynamicZoneTable.routed, pins]
    split
    · rename_i addr seen last
      rw [if_neg (not_le.mpr (stale addr seen last))]
    · rfl

/-! ## What pings say of the node -/

/-- What `_load_node_info` writes where there is no file. -/
def NODE_INFO_TEMPLATE : PyStr :=
  text "\x7b\n  \"node_name\": \"MeshLink Node\",\n  \"lat\": null,\n  \"lon\": null\n\x7d\n"

/-- `_load_node_info`: what is read, and the file afterwards. -/
def loadNodeInfo (lib : JsonLib) (file : Option PyStr) : Except PyExc Json × PyStr :=
  let there := file.getD NODE_INFO_TEMPLATE
  (lib.loads there, there)

/-- `bool(value)`. -/
def Json.truthy : Json → Bool
  | .null => false
  | .bool b => b
  | .int n => n ≠ 0
  | .float x => x ≠ .finite 0
  | .str s => s ≠ []
  | .arr items => !items.isEmpty
  | .obj fields => !fields.isEmpty

/-- `a or b`. -/
def Json.orElse (a b : Json) : Json := if a.truthy then a else b

structure NodeInfo where
  nodeName : Json
  nodeLat : Json
  nodeLon : Json

/-- `NODE_NAME`, `NODE_LAT` and `NODE_LON`. What is no object has no `get`. -/
def nodeInfo : Json → Option NodeInfo
  | .obj fields => some
    ⟨(Fields.get fields (text "node_name")).orElse (.str (text "MeshLink Node")),
      Fields.get fields (text "lat"), Fields.get fields (text "lon")⟩
  | _ => none

/-! ## The node as it announces itself -/

/-- The variables that say who the node is, and the name of the machine. -/
structure Environ where
  zoneId : Option PyStr
  zoneTable : Option PyStr
  advertiseAddr : Option PyStr
  nodeId : Option PyStr
  hostname : PyStr

namespace Environ

variable (env : Environ)

def nodeZoneId : Except PyExc Int := pyInt (env.zoneId.getD (text "1"))

/-- `parse_zone_table(env) if env else None`. -/
def backhaulZoneTable : Except PyExc (Option (Dict Int Addr)) :=
  match env.zoneTable with
  | none | some [] => .ok none
  | some s => (parseZoneTable s).map some

def backhaulAdvertiseAddr (zoneId : Int) : Except PyExc NodeAddr :=
  match env.advertiseAddr with
  | none | some [] => .ok (.host (text "10.77.0." ++ intRepr zoneId))
  | some s => parseAddr s

def gossipNode : Except PyExc GossipNode := do
  let zoneId ← env.nodeZoneId
  let ownAddr ← env.backhaulAdvertiseAddr zoneId
  return ⟨env.nodeId.getD env.hostname, zoneId, ownAddr⟩

end Environ

namespace Sample

/-- Zone 3 twice, an entry with blanks and one with nothing. -/
def pinnedPieces : List PyStr := ["3=10.0.0.3", " 2 = 10.0.0.2:19789", " ", "3=10.0.0.4"].map text

def pinnedEntries : List (Option (Int × Addr)) :=
  [some (3, (NodeAddr.host (text "10.0.0.3")).addr),
    some (2, (NodeAddr.hostPort (text "10.0.0.2") 19789).addr), none,
    some (3, (NodeAddr.host (text "10.0.0.4")).addr)]

theorem isSpace_numeric {c : Nat} (numeric : 46 ≤ c ∧ c < 58) : isSpace c = false := by
  simp only [isSpace, Bool.or_eq_false_iff, Bool.and_eq_false_iff, beq_eq_false_iff_ne,
    decide_eq_false_iff_not]
  omega

theorem plain_numeric {h : PyStr} (some' : h ≠ []) (numeric : ∀ c ∈ h, 46 ≤ c ∧ c < 58) :
    (NodeAddr.host h).Plain := by
  refine ⟨some', fun mem => ?_, fun mem => ?_, ?_, ?_⟩
  · have := numeric 58 mem
    omega
  · have := numeric 44 mem
    omega
  · exact fun c first => isSpace_numeric (numeric c (List.mem_of_head? first))
  · exact fun c last => isSpace_numeric (numeric c (List.mem_of_getLast? last))

theorem pinned_spells : List.Forall₂ Spells pinnedPieces pinnedEntries := by
  have blank : Blank [] ∧ Blank [32] := by simp [Blank, hexSpace]
  have white : White [] ∧ White [32] := by simp [White, isSpace]
  have few : FewDigits 3 ∧ FewDigits 2 ∧ FewDigits 19789 :=
    ⟨(by decide : 1 ≤ 4300), (by decide : 1 ≤ 4300), (by decide : 5 ≤ 4300)⟩
  have plain : (NodeAddr.hostPort (text "10.0.0.2") 19789).Plain := by
    refine ⟨by decide, fun c first => ?_, few.2.2⟩
    cases first
    rfl
  have first := plain_numeric (h := text "10.0.0.3") (by decide) (by decide)
  have last := plain_numeric (h := text "10.0.0.4") (by decide) (by decide)
  refine .cons ?_ (.cons ?_ (.cons ?_ (.cons ?_ .nil)))
  · exact .pin white.1 white.1 blank.1 white.1 few.1 first
  · exact .pin white.2 white.1 blank.2 white.2 few.2.1 plain
  · exact .blank white.2
  · exact .pin white.1 white.1 blank.1 white.1 few.1 last

/-- Zone 3 was announced from elsewhere, long ago. -/
def staleChanges : List (DynamicZoneTable.Change Addr) :=
  [.learn 3 (NodeAddr.host (text "10.0.0.9")).addr 10]

theorem pinned_routed_twice :
    ∃ seed, parseZoneTable ([44].intercalate pinnedPieces) = .ok seed ∧
      (DynamicZoneTable.after seed 180 staleChanges).addrFor 3 500 =
        some (NodeAddr.host (text "10.0.0.4")).addr := by
  obtain ⟨seed, read, routes⟩ :=
    pinned_routed pinnedPieces pinnedEntries (by simp [pinnedPieces]) pinned_spells
  have past : ∀ change ∈ staleChanges, ∀ reading, change.Reads reading → reading ≤ 500 := by
    intro change mem reading reads
    cases List.mem_singleton.mp mem
    cases reads
    norm_num
  refine ⟨seed, read, (routes 180 staleChanges 500 past 3).pinned fun addr seen last => ?_⟩
  cases last
  norm_num

end Sample

end MeshlinkNode
