import MeshlinkNode.Deployment
import Mathlib.Data.List.Perm.Basic

/-!
# What `parse_deployment_conf` accepts

The loop over the lines, its early errors and the checks after it come to a
grammar that says nothing of an order: every line is understood, one line
assigns each key, and the two values pass.
-/

namespace MeshlinkNode

/-- The class of what is raised: `UnicodeEncodeError`, from `str.encode`, is a
`ValueError` too. -/
def ConfError.exc : ConfError → PyExc
  | .noSeparator _ _ | .unknownKey _ _ | .duplicateKey _ _ | .missingKey _ => .valueError
  | .ssidSurrogate _ => .valueError
  | .ssidLength _ | .ssidControl | .passphraseLength _ | .passphraseAscii => .valueError

/-! ## The grammar -/

/-- A blank line or a comment. -/
def Ignored (line : PyStr) : Prop := line = [] ∨ text "#" <+: line

instance (line : PyStr) : Decidable (Ignored line) :=
  inferInstanceAs (Decidable (_ ∨ _))

def KnownKey (key : PyStr) : Prop := key = text "ssid" ∨ key = text "passphrase"

/-- `key=value`, split at the first `=`. -/
def Assigns (line key value : PyStr) : Prop :=
  ∃ before after, line = before ++ 61 :: after ∧ 61 ∉ before ∧ strip before = key ∧
    strip after = value

/-- One line assigns the key, and assigns it this value. -/
def OneAssigns (lines : List PyStr) (key value : PyStr) : Prop :=
  ∃ before line after, lines = before ++ line :: after ∧ Assigns line key value ∧
    ∀ other ∈ before ++ after, ∀ otherValue, ¬ Assigns other key otherValue

/-- The lines of a text as the parser looks at them. -/
def strippedLines (conf : PyStr) : List PyStr := (splitlines conf).map strip

structure ConfGrammar (conf : PyStr) (config : WifiDeploymentConfig) : Prop where
  lines : ∀ line ∈ strippedLines conf,
    Ignored line ∨ ∃ key value, KnownKey key ∧ Assigns line key value
  ssid : OneAssigns (strippedLines conf) (text "ssid") config.ssid
  passphrase : OneAssigns (strippedLines conf) (text "passphrase") config.passphrase
  values : config.Checked

/-! ## What a line says -/

/-- What a stripped line assigns, unless it is ignored. -/
def entry (line : PyStr) : Option (PyStr × PyStr) :=
  if Ignored line then none
  else (partition 61 line).map fun (key, value) => (strip key, strip value)

def entries (lines : List PyStr) : List (PyStr × PyStr) := lines.filterMap entry

def keys (lines : List PyStr) : List PyStr := (entries lines).map Prod.fst

theorem partition_iff {sep : Nat} {line before after : PyStr} :
    partition sep line = some (before, after) ↔ line = before ++ sep :: after ∧ sep ∉ before := by
  constructor
  · intro parts
    obtain ⟨here, same⟩ := Option.ite_none_right_eq_some.mp parts
    cases same
    have stops : sep ∉ line.takeWhile (· ≠ sep) := by
      intro mem
      simpa using List.mem_takeWhile_imp mem
    refine ⟨?_, stops⟩
    cases rest : line.dropWhile (· ≠ sep) with
    | nil =>
      have all := List.takeWhile_append_dropWhile (p := (· ≠ sep)) (l := line)
      rw [rest, List.append_nil] at all
      rw [all] at stops
      exact absurd here stops
    | cons c more =>
      have first : c = sep := by
        have stopped := List.head?_dropWhile_not (· ≠ sep) line
        rw [rest] at stopped
        simpa using stopped
      have all := List.takeWhile_append_dropWhile (p := (· ≠ sep)) (l := line)
      rw [rest, first] at all
      exact all.symm
  · rintro ⟨rfl, stops⟩
    have plain : ∀ c ∈ before, decide (c ≠ sep) = true := by
      intro c mem
      exact decide_eq_true fun same => stops (same ▸ mem)
    have taken : (before ++ sep :: after).takeWhile (· ≠ sep) = before := by
      rw [List.takeWhile_append_of_pos plain]
      simp
    have left : (before ++ sep :: after).dropWhile (· ≠ sep) = sep :: after := by
      rw [List.dropWhile_append_of_pos plain]
      simp
    rw [partition, if_pos (by simp), taken, left]
    rfl

theorem mem_strip_of_mem {s : PyStr} {c : Nat} (mem : c ∈ s) (solid : isSpace c = false) :
    c ∈ strip s := by
  have kept : c ∈ s.dropWhile isSpace := by
    rw [← List.takeWhile_append_dropWhile (p := isSpace) (l := s), List.mem_append] at mem
    rcases mem with white | kept
    · have := List.mem_takeWhile_imp white
      simp [solid] at this
    · exact kept
  rw [← List.rdropWhile_append_rtakeWhile (p := isSpace) (l := s.dropWhile isSpace),
    List.mem_append] at kept
  rcases kept with kept | white
  · exact kept
  · have := List.mem_rtakeWhile_imp white
    simp [solid] at this

/-- A comment assigns no key that is known. -/
theorem not_ignored {line key value : PyStr} (known : KnownKey key)
    (assigns : Assigns line key value) : ¬ Ignored line := by
  obtain ⟨before, after, rfl, -, rfl, -⟩ := assigns
  rintro (none | ⟨more, starts⟩)
  · simp at none
  · cases before with
    | nil =>
      have first := (List.cons.inj starts).1
      exact absurd first (by decide)
    | cons c before =>
      obtain rfl : 35 = c := (List.cons.inj starts).1
      have hash : 35 ∈ strip (35 :: before) := mem_strip_of_mem List.mem_cons_self (by decide)
      rcases known with same | same
      · rw [same] at hash
        exact absurd hash (by decide)
      · rw [same] at hash
        exact absurd hash (by decide)

theorem entry_iff {line key value : PyStr} :
    entry line = some (key, value) ↔ ¬ Ignored line ∧ Assigns line key value := by
  unfold entry
  by_cases ignored : Ignored line
  · simp [ignored]
  · rw [if_neg ignored, Option.map_eq_some_iff, and_iff_right ignored]
    constructor
    · rintro ⟨⟨before, after⟩, parts, same⟩
      obtain ⟨split, first⟩ := partition_iff.mp parts
      cases same
      exact ⟨before, after, split, first, rfl, rfl⟩
    · rintro ⟨before, after, split, first, rfl, rfl⟩
      exact ⟨(before, after), partition_iff.mpr ⟨split, first⟩, rfl⟩

theorem entry_known {line key value : PyStr} (known : KnownKey key) :
    entry line = some (key, value) ↔ Assigns line key value := by
  rw [entry_iff]
  exact and_iff_right_of_imp (not_ignored known)

/-! ## What the loop comes to -/

/-- The loop goes on past a line it ignores, or that assigns a known key for the
first time. -/
theorem parseLine_ok {values after : Dict PyStr PyStr} {lineno : Nat} {line : PyStr} :
    parseLine values lineno line = .ok after ↔
      (Ignored (strip line) ∧ after = values) ∨
      ∃ key value, entry (strip line) = some (key, value) ∧ KnownKey key ∧ key ∉ values ∧
        after = values.insert key value := by
  by_cases ignored : Ignored (strip line)
  · have silent : entry (strip line) = none := if_pos ignored
    have here : parseLine values lineno line = .ok values := if_pos ignored
    simp only [here, silent, ignored, true_and, Except.ok.injEq, reduceCtorEq, false_and,
      exists_false, or_false]
    exact eq_comm
  · cases parts : partition 61 (strip line) with
    | none =>
      have silent : entry (strip line) = none := by
        rw [entry, if_neg ignored, parts]
        rfl
      have here : parseLine values lineno line = .error (.noSeparator lineno (strip line)) := by
        refine (if_neg ignored).trans ?_
        rw [parts]
      simp [here, silent, ignored]
    | some pair =>
      obtain ⟨before, behind⟩ := pair
      have spoken : entry (strip line) = some (strip before, strip behind) := by
        rw [entry, if_neg ignored, parts]
        rfl
      have here : parseLine values lineno line =
          if strip before ≠ text "ssid" ∧ strip before ≠ text "passphrase" then
            .error (.unknownKey lineno (strip before))
          else if strip before ∈ values then .error (.duplicateKey lineno (strip before))
          else .ok (values.insert (strip before) (strip behind)) := by
        refine (if_neg ignored).trans ?_
        rw [parts]
      rw [here, spoken]
      have known : KnownKey (strip before) ↔
          ¬ (strip before ≠ text "ssid" ∧ strip before ≠ text "passphrase") := by
        unfold KnownKey
        tauto
      simp only [ignored, false_and, false_or, Option.some.injEq, Prod.mk.injEq]
      split_ifs with unknown duplicate
      · refine iff_of_false (by simp) ?_
        rintro ⟨_, _, ⟨rfl, rfl⟩, isKnown, -, -⟩
        exact known.mp isKnown unknown
      · refine iff_of_false (by simp) ?_
        rintro ⟨_, _, ⟨rfl, rfl⟩, -, fresh, -⟩
        exact fresh duplicate
      · constructor
        · intro same
          cases same
          exact ⟨_, _, ⟨rfl, rfl⟩, known.mpr unknown, duplicate, rfl⟩
        · rintro ⟨_, _, ⟨rfl, rfl⟩, -, -, rfl⟩
          rfl

/-- The loop's dict after lines that assign these values. -/
def assigned (values : Dict PyStr PyStr) (said : List (PyStr × PyStr)) : Dict PyStr PyStr :=
  said.foldl (fun values pair => values.insert pair.1 pair.2) values

/-- A line the parser does not stop at, whatever came before. -/
def Understood (line : PyStr) : Prop :=
  Ignored line ∨ ∃ key value, KnownKey key ∧ entry line = some (key, value)

/-- Keys are new after an assignment if they were before and are none of them
the one assigned. -/
theorem fresh_insert {values : Dict PyStr PyStr} {key value : PyStr} {keys : List PyStr} :
    (∀ other ∈ keys, other ∉ values.insert key value) ↔
      key ∉ keys ∧ ∀ other ∈ keys, other ∉ values := by
  simp only [AList.mem_insert, not_or]
  constructor
  · intro each
    exact ⟨fun here => (each key here).1 rfl, fun other mem => (each other mem).2⟩
  · rintro ⟨once, fresh⟩ other mem
    refine ⟨?_, fresh other mem⟩
    rintro rfl
    exact once mem

theorem parseLines_ok {values after : Dict PyStr PyStr} {lineno : Nat} {lines : List PyStr} :
    parseLines values lineno lines = .ok after ↔
      (∀ line ∈ lines.map strip, Understood line) ∧ (keys (lines.map strip)).Nodup ∧
      (∀ key ∈ keys (lines.map strip), key ∉ values) ∧
      after = assigned values (entries (lines.map strip)) := by
  induction lines generalizing values lineno with
  | nil =>
    simp only [parseLines, List.map_nil, keys, entries, List.filterMap_nil, assigned,
      List.foldl_nil, List.nodup_nil, List.not_mem_nil, false_imp_iff, implies_true, true_and,
      Except.ok.injEq]
    exact eq_comm
  | cons line lines ih =>
    have runs : parseLines values lineno (line :: lines) = .ok after ↔ ∃ next,
        parseLine values lineno line = .ok next ∧ parseLines next (lineno + 1) lines = .ok after :=
      bind_eq_ok
    simp only [runs, parseLine_ok, ih, List.map_cons, List.forall_mem_cons]
    cases said : entry (strip line) with
    | none =>
      have keys_same : keys (strip line :: lines.map strip) = keys (lines.map strip) := by
        simp [keys, entries, said]
      have entries_same : entries (strip line :: lines.map strip) = entries (lines.map strip) := by
        simp [entries, said]
      rw [keys_same, entries_same]
      constructor
      · rintro ⟨_, ⟨ignored, rfl⟩ | ⟨_, _, silent, -⟩, each, nodup, fresh, rfl⟩
        · exact ⟨⟨.inl ignored, each⟩, nodup, fresh, rfl⟩
        · cases silent
      · rintro ⟨⟨ignored | ⟨_, _, -, silent⟩, each⟩, nodup, fresh, rfl⟩
        · exact ⟨values, .inl ⟨ignored, rfl⟩, each, nodup, fresh, rfl⟩
        · rw [said] at silent
          cases silent
    | some pair =>
      obtain ⟨key, value⟩ := pair
      have spoken : ¬ Ignored (strip line) := (entry_iff.mp said).1
      have keys_more : keys (strip line :: lines.map strip) = key :: keys (lines.map strip) := by
        simp [keys, entries, said]
      have entries_more : entries (strip line :: lines.map strip) =
          (key, value) :: entries (lines.map strip) := by
        simp [entries, said]
      rw [keys_more, entries_more, List.nodup_cons]
      constructor
      · rintro ⟨_, ⟨ignored, -⟩ | ⟨_, _, ⟨⟩, known, fresh, rfl⟩, each, nodup, later, rfl⟩
        · exact absurd ignored spoken
        · obtain ⟨once, others⟩ := fresh_insert.mp later
          exact ⟨⟨.inr ⟨key, value, known, said⟩, each⟩, ⟨once, nodup⟩,
            List.forall_mem_cons.mpr ⟨fresh, others⟩, rfl⟩
      · rintro ⟨⟨ignored | ⟨_, _, known, same⟩, each⟩, ⟨once, nodup⟩, fresh, rfl⟩
        · exact absurd ignored spoken
        · cases said.symm.trans same
          obtain ⟨here, others⟩ := List.forall_mem_cons.mp fresh
          exact ⟨values.insert key value, .inr ⟨key, value, rfl, known, here, rfl⟩, each, nodup,
            fresh_insert.mpr ⟨once, others⟩, rfl⟩

theorem lookup_assigned {values : Dict PyStr PyStr} {said : List (PyStr × PyStr)}
    (nodup : (said.map Prod.fst).Nodup) (fresh : ∀ key ∈ said.map Prod.fst, key ∉ values)
    (key value : PyStr) : (assigned values said).lookup key = some value ↔
      (key, value) ∈ said ∨ values.lookup key = some value := by
  induction said generalizing values with
  | nil => simp [assigned]
  | cons pair said ih =>
    obtain ⟨first, held⟩ := pair
    obtain ⟨once, nodup⟩ := List.nodup_cons.mp nodup
    have later : ∀ other ∈ said.map Prod.fst, other ∉ values.insert first held := by
      intro other mem here
      rcases (AList.mem_insert _).mp here with rfl | here
      · exact once mem
      · exact fresh other (List.mem_cons_of_mem _ mem) here
    rw [show assigned values ((first, held) :: said) = assigned (values.insert first held) said
      from rfl, ih nodup later]
    by_cases same : key = first
    · subst same
      have unheld : values.lookup key = none :=
        AList.lookup_eq_none.mpr (fresh key List.mem_cons_self)
      have absent (v : PyStr) : (key, v) ∉ said := fun mem =>
        once (List.mem_map.mpr ⟨_, mem, rfl⟩)
      rw [AList.lookup_insert, unheld]
      simp [absent, eq_comm]
    · rw [AList.lookup_insert_ne same]
      simp [same]

/-! ## The parser against the grammar -/

theorem required_iff {values : Dict PyStr PyStr} {key value : PyStr} :
    required values key = .ok value ↔ values.lookup key = some value := by
  constructor
  · exact required_ok
  · intro found
    rw [required, found]
    rfl

theorem checked_iff {ssid passphrase : PyStr} {config : WifiDeploymentConfig} :
    checked ssid passphrase = .ok config ↔ config = ⟨ssid, passphrase⟩ ∧ config.Checked := by
  constructor
  · exact checked_ok
  · rintro ⟨rfl, good⟩
    obtain ⟨data, encoded, size⟩ := good.ssidLength
    have counted : encodedLength ssid = .ok data.length := by
      rw [encodedLength, encoded]
    have plain : ¬ ∃ c ∈ ssid, c < 0x20 ∨ c = 0x7f := by
      rintro ⟨c, mem, bad⟩
      obtain ⟨low, other⟩ := good.ssidChars c mem
      omega
    rw [checked, counted]
    change (if _ then _ else _) = _
    rw [if_neg (not_not.mpr size), if_neg plain, if_neg (not_not.mpr good.passphraseLength),
      if_neg (not_not.mpr good.passphraseChars)]
    rfl

/-- What it takes, in terms of what the lines say. -/
theorem parse_iff_entries {conf : PyStr} {config : WifiDeploymentConfig} :
    parseDeploymentConf conf = .ok config ↔
      (∀ line ∈ strippedLines conf, Understood line) ∧ (keys (strippedLines conf)).Nodup ∧
      (text "ssid", config.ssid) ∈ entries (strippedLines conf) ∧
      (text "passphrase", config.passphrase) ∈ entries (strippedLines conf) ∧ config.Checked := by
  have nothing (key : PyStr) : key ∉ (∅ : Dict PyStr PyStr) := AList.notMem_empty key
  have held (nodup : (keys (strippedLines conf)).Nodup) (key value : PyStr) :
      (assigned ∅ (entries (strippedLines conf))).lookup key = some value ↔
        (key, value) ∈ entries (strippedLines conf) := by
    rw [lookup_assigned nodup (fun key _ => nothing key)]
    simp
  simp only [parseDeploymentConf, bind_eq_ok, parseLines_ok, required_iff, checked_iff]
  constructor
  · rintro ⟨_, ⟨each, nodup, -, rfl⟩, ssid, name, passphrase, secret, rfl, good⟩
    exact ⟨each, nodup, (held nodup _ _).mp name, (held nodup _ _).mp secret, good⟩
  · rintro ⟨each, nodup, name, secret, good⟩
    exact ⟨_, ⟨each, nodup, fun key _ => nothing key, rfl⟩, _, (held nodup _ _).mpr name, _,
      (held nodup _ _).mpr secret, rfl, good⟩

theorem mem_keys {lines : List PyStr} {key : PyStr} :
    key ∈ keys lines ↔ ∃ line ∈ lines, ∃ value, entry line = some (key, value) := by
  simp only [keys, entries, List.mem_map, List.mem_filterMap]
  constructor
  · rintro ⟨⟨_, value⟩, ⟨line, mem, said⟩, rfl⟩
    exact ⟨line, mem, value, said⟩
  · rintro ⟨line, mem, value, said⟩
    exact ⟨(key, value), ⟨line, mem, said⟩, rfl⟩

theorem keys_append (lines more : List PyStr) : keys (lines ++ more) = keys lines ++ keys more := by
  simp [keys, entries]

theorem keys_cons {line key value : PyStr} (said : entry line = some (key, value))
    (lines : List PyStr) : keys (line :: lines) = key :: keys lines := by
  simp [keys, entries, said]

theorem oneAssigns_iff {lines : List PyStr} {key value : PyStr} (known : KnownKey key) :
    OneAssigns lines key value ↔ (key, value) ∈ entries lines ∧ (keys lines).count key = 1 := by
  have unsaid (others : List PyStr) :
      key ∉ keys others ↔ ∀ other ∈ others, ∀ v, ¬ Assigns other key v := by
    simp only [mem_keys, entry_known known, not_exists, not_and]
  constructor
  · rintro ⟨before, line, after, rfl, assigns, alone⟩
    have said := (entry_known known).mpr assigns
    have silent := (unsaid _).mpr alone
    rw [keys_append, List.mem_append, not_or] at silent
    refine ⟨List.mem_filterMap.mpr ⟨line, by simp, said⟩, ?_⟩
    rw [keys_append, keys_cons said, List.count_append, List.count_cons_self,
      List.count_eq_zero.mpr silent.1, List.count_eq_zero.mpr silent.2]
  · rintro ⟨mem, once⟩
    obtain ⟨line, here, said⟩ := List.mem_filterMap.mp mem
    obtain ⟨before, after, rfl⟩ := List.append_of_mem here
    rw [keys_append, keys_cons said, List.count_append, List.count_cons_self] at once
    refine ⟨before, line, after, rfl, (entry_known known).mp said, (unsaid _).mp ?_⟩
    rw [keys_append, List.mem_append, not_or]
    exact ⟨List.count_eq_zero.mp (by omega), List.count_eq_zero.mp (by omega)⟩

theorem understood_iff {line : PyStr} : Understood line ↔
    Ignored line ∨ ∃ key value, KnownKey key ∧ Assigns line key value := by
  unfold Understood
  constructor
  · rintro (ignored | ⟨key, value, known, said⟩)
    · exact .inl ignored
    · exact .inr ⟨key, value, known, (entry_known known).mp said⟩
  · rintro (ignored | ⟨key, value, known, assigns⟩)
    · exact .inl ignored
    · exact .inr ⟨key, value, known, (entry_known known).mpr assigns⟩

/-- Where every line is understood, all keys are known. -/
theorem known_of_mem_keys {lines : List PyStr} (each : ∀ line ∈ lines, Understood line)
    {key : PyStr} (mem : key ∈ keys lines) : KnownKey key := by
  obtain ⟨line, here, value, said⟩ := mem_keys.mp mem
  rcases each line here with ignored | ⟨_, _, known, same⟩
  · exact absurd ignored (entry_iff.mp said).1
  · cases said.symm.trans same
    exact known

theorem parse_iff_grammar {conf : PyStr} {config : WifiDeploymentConfig} :
    parseDeploymentConf conf = .ok config ↔ ConfGrammar conf config := by
  rw [parse_iff_entries]
  have ssid : KnownKey (text "ssid") := .inl rfl
  have passphrase : KnownKey (text "passphrase") := .inr rfl
  constructor
  · rintro ⟨each, nodup, name, secret, good⟩
    have once {key value : PyStr} (mem : (key, value) ∈ entries (strippedLines conf)) :
        (keys (strippedLines conf)).count key = 1 :=
      List.count_eq_one_of_mem nodup (List.mem_map.mpr ⟨_, mem, rfl⟩)
    exact ⟨fun line mem => understood_iff.mp (each line mem),
      (oneAssigns_iff ssid).mpr ⟨name, once name⟩,
      (oneAssigns_iff passphrase).mpr ⟨secret, once secret⟩, good⟩
  · intro grammar
    have each : ∀ line ∈ strippedLines conf, Understood line :=
      fun line mem => understood_iff.mpr (grammar.lines line mem)
    obtain ⟨name, nameOnce⟩ := (oneAssigns_iff ssid).mp grammar.ssid
    obtain ⟨secret, secretOnce⟩ := (oneAssigns_iff passphrase).mp grammar.passphrase
    refine ⟨each, List.nodup_iff_count_le_one.mpr ?_, name, secret, grammar.values⟩
    intro key
    by_cases mem : key ∈ keys (strippedLines conf)
    · rcases known_of_mem_keys each mem with rfl | rfl
      · exact nameOnce.le
      · exact secretOnce.le
    · rw [List.count_eq_zero.mpr mem]
      exact Nat.zero_le 1

/-! ## What does not matter -/

/-- The lines that are neither blank nor comments. -/
def spokenLines (conf : PyStr) : List PyStr :=
  (strippedLines conf).filter fun line => ¬ Ignored line

theorem entries_spoken (conf : PyStr) :
    entries (spokenLines conf) = entries (strippedLines conf) := by
  rw [entries, spokenLines, List.filterMap_filter]
  apply List.filterMap_congr
  intro line _
  by_cases ignored : Ignored line
  · simp [ignored, entry]
  · simp [ignored]

theorem understood_spoken (conf : PyStr) :
    (∀ line ∈ spokenLines conf, Understood line) ↔
      ∀ line ∈ strippedLines conf, Understood line := by
  constructor
  · intro each line mem
    by_cases ignored : Ignored line
    · exact .inl ignored
    · exact each line (List.mem_filter.mpr ⟨mem, by simpa using ignored⟩)
  · intro each line mem
    exact each line (List.mem_filter.mp mem).1

/-- The order of the lines that say something does not matter, and the other
lines do not matter at all. -/
theorem parse_rearranged {conf other : PyStr} {config : WifiDeploymentConfig}
    (same : (spokenLines other).Perm (spokenLines conf))
    (accepted : parseDeploymentConf conf = .ok config) :
    parseDeploymentConf other = .ok config := by
  have said : (entries (strippedLines other)).Perm (entries (strippedLines conf)) := by
    rw [← entries_spoken, ← entries_spoken conf]
    exact same.filterMap entry
  obtain ⟨each, nodup, name, secret, good⟩ := parse_iff_entries.mp accepted
  refine parse_iff_entries.mpr ⟨?_, ?_, said.mem_iff.mpr name, said.mem_iff.mpr secret, good⟩
  · rw [← understood_spoken] at each ⊢
    intro line mem
    exact each line (same.mem_iff.mp mem)
  · exact (said.map Prod.fst).nodup_iff.mpr nodup

/-- **The parser is its grammar**, every other text is a `ValueError`, and from
an accepted text lines may be permuted, and blank lines and comments put in. -/
theorem deployment_conf_grammar (conf : PyStr) :
    (∀ config, parseDeploymentConf conf = .ok config ↔ ConfGrammar conf config) ∧
    ((∀ config, ¬ ConfGrammar conf config) →
      ∃ err, parseDeploymentConf conf = .error err ∧ err.exc = .valueError) ∧
    ∀ config other, parseDeploymentConf conf = .ok config →
      ((splitlines other).Perm (splitlines conf) → parseDeploymentConf other = .ok config) ∧
      (spokenLines other = spokenLines conf → parseDeploymentConf other = .ok config) := by
  refine ⟨fun config => parse_iff_grammar, ?_, ?_⟩
  · intro outside
    cases result : parseDeploymentConf conf with
    | ok config => exact absurd (parse_iff_grammar.mp result) (outside config)
    | error err => exact ⟨err, rfl, by cases err <;> rfl⟩
  · intro config other accepted
    constructor
    · intro permuted
      exact parse_rearranged ((permuted.map strip).filter _) accepted
    · intro same
      exact parse_rearranged (same ▸ List.Perm.refl _) accepted

end MeshlinkNode
