import MeshlinkNode.BackendProxy
import MeshlinkNode.Lib.DotSegments

/-!
# Where an allowed path leads

`path_allowed` looks at the text of a path. The server behind it cuts the query
and the fragment off, decodes the percent escapes and resolves the dot segments
first, and an escaped dot is no ".." in the text.
-/

namespace MeshlinkNode

namespace BackendProxy

open DotSegments (removeDotSegments unsegment behindRoot Plain)

/-- What stands before any query or fragment. -/
def pathComponent (path : PyStr) : PyStr := path.takeWhile fun c => c ≠ 63 ∧ c ≠ 35

/-- Each escape becomes the octet it spells. An octet and a character of one
number are not told apart: nothing below looks at those beyond ASCII. -/
def percentDecode : PyStr → PyStr
  | [] => []
  | 37 :: hi :: lo :: rest =>
    match hexDigit hi, hexDigit lo with
    | some h, some l => (16 * h + l) :: percentDecode rest
    | _, _ => 37 :: percentDecode (hi :: lo :: rest)
  | c :: rest => c :: percentDecode rest

/-- The resource a server or proxy takes the path for. -/
def effectivePath (path : PyStr) : PyStr :=
  removeDotSegments 47 46 (percentDecode (pathComponent path))

def OnAllowlist (path : PyStr) : Prop :=
  (∃ start ∈ ALLOWED_PATH_PREFIXES, start <+: path) ∨ path ∈ ALLOWED_REST_PATHS

instance (path : PyStr) : Decidable (OnAllowlist path) :=
  inferInstanceAs (Decidable (_ ∨ _))

/-- What the module's documentation keeps phones away from. -/
def OPERATOR_PREFIXES : List PyStr := ["/heartbeat", "/admin", "/dashboard", "/noc"].map text

def OperatorSurface (path : PyStr) : Prop :=
  (∃ start ∈ OPERATOR_PREFIXES, start <+: path) ∨
    text "/rest/v1/" <+: path ∧ path ∉ ALLOWED_REST_PATHS

instance (path : PyStr) : Decidable (OperatorSurface path) :=
  inferInstanceAs (Decidable (_ ∨ _))

/-- The segments of the decoded path. -/
def decodedSegments (path : PyStr) : List PyStr :=
  (percentDecode (pathComponent path)).tail.splitOn 47

/-- The dot segments of the decoded path never take it back to the root, or what
follows the last one that does is on the allowlist again. -/
def StaysInside (path : PyStr) : Prop :=
  let rest := behindRoot 46 [] [] (decodedSegments path)
  rest = decodedSegments path ∨ (∃ start ∈ ALLOWED_PATH_PREFIXES, start <+: unsegment 47 rest) ∨
    removeDotSegments 47 46 (unsegment 47 rest) ∈ ALLOWED_REST_PATHS

instance (path : PyStr) : Decidable (StaysInside path) :=
  inferInstanceAs (Decidable (_ ∨ _ ∨ _))

/-! ## The allowlist itself -/

theorem prefix_plain {start : PyStr} (mem : start ∈ ALLOWED_PATH_PREFIXES) : Plain 47 start := by
  simp only [ALLOWED_PATH_PREFIXES, List.map_cons, List.map_nil, List.mem_cons, List.not_mem_nil,
    or_false] at mem
  rcases mem with rfl | rfl | rfl | rfl | rfl | rfl | rfl | rfl
  · exact ⟨text "auth", by decide, by decide, .inr rfl⟩
  · exact ⟨text "tickets", by decide, by decide, .inl rfl⟩
  · exact ⟨text "attestation", by decide, by decide, .inr rfl⟩
  · exact ⟨text "events", by decide, by decide, .inl rfl⟩
  · exact ⟨text "account", by decide, by decide, .inl rfl⟩
  · exact ⟨text "directory", by decide, by decide, .inr rfl⟩
  · exact ⟨text "friendships", by decide, by decide, .inl rfl⟩
  · exact ⟨text "health", by decide, by decide, .inl rfl⟩

/-- No prefix holds an escape, a query or a fragment. -/
theorem prefix_text : ∀ start ∈ ALLOWED_PATH_PREFIXES, ∀ c ∈ start, c ≠ 37 ∧ c ≠ 63 ∧ c ≠ 35 := by
  decide

/-- The exact paths mean what they say. -/
theorem rest_text : ∀ path ∈ ALLOWED_REST_PATHS, path.takeWhile (· ≠ 35) = path ∧
    percentDecode path = path ∧ removeDotSegments 47 46 path = path := by
  decide +kernel

/-! ## Decoding -/

theorem percentDecode_cons {c : Nat} (other : c ≠ 37) (rest : PyStr) :
    percentDecode (c :: rest) = c :: percentDecode rest := by
  rw [percentDecode]
  rintro hi lo tail rfl
  exact absurd rfl other

theorem percentDecode_append {plain : PyStr} (free : ∀ c ∈ plain, c ≠ 37) (rest : PyStr) :
    percentDecode (plain ++ rest) = plain ++ percentDecode rest := by
  induction plain with
  | nil => rfl
  | cons c plain ih =>
    have other : c ≠ 37 := free c List.mem_cons_self
    rw [List.cons_append, percentDecode_cons other,
      ih fun d mem => free d (List.mem_cons_of_mem c mem), List.cons_append]

theorem effective_prefix {path start : PyStr} (mem : start ∈ ALLOWED_PATH_PREFIXES)
    (first : start <+: path) : start <+: percentDecode (pathComponent path) := by
  obtain ⟨rest, rfl⟩ := first
  have plain := prefix_text start mem
  have kept : pathComponent (start ++ rest) = start ++ pathComponent rest := by
    apply List.takeWhile_append_of_pos
    intro c here
    simp [plain c here]
  rw [kept, percentDecode_append fun c here => (plain c here).1]
  exact List.prefix_append _ _

/-- An allowed path is absolute, and decoding it does not change that. -/
theorem decoded_absolute {path : PyStr} (absolute : text "/" <+: path) :
    ∃ body, percentDecode (pathComponent path) = 47 :: body := by
  obtain ⟨rest, rfl⟩ := absolute
  exact ⟨percentDecode (pathComponent rest), percentDecode_cons (by decide) _⟩

/-! ## Where a path leads -/

theorem onAllowlist_iff {path body : PyStr}
    (decoded : percentDecode (pathComponent path) = 47 :: body) :
    OnAllowlist (effectivePath path) ↔
      (∃ start ∈ ALLOWED_PATH_PREFIXES,
        start <+: unsegment 47 (behindRoot 46 [] [] (decodedSegments path))) ∨
      removeDotSegments 47 46 (unsegment 47 (behindRoot 46 [] [] (decodedSegments path))) ∈
        ALLOWED_REST_PATHS := by
  have distinct : (47 : Nat) ≠ 46 := by decide
  have segments : decodedSegments path = body.splitOn 47 := by rw [decodedSegments, decoded]; rfl
  rw [segments, OnAllowlist, effectivePath, decoded]
  refine or_congr ?_ ?_
  · refine exists_congr fun start => and_congr_right fun mem => ?_
    exact DotSegments.prefix_removeDotSegments distinct (prefix_plain mem) body
  · rw [DotSegments.removeDotSegments_behindRoot distinct]
    by_cases none : behindRoot 46 [] [] (body.splitOn 47) = []
    · rw [if_pos none, none]
      decide
    · rw [if_neg none]

theorem unsegment_decoded {path body : PyStr}
    (decoded : percentDecode (pathComponent path) = 47 :: body) :
    unsegment 47 (decodedSegments path) = percentDecode (pathComponent path) := by
  rw [decodedSegments, decoded]
  exact DotSegments.unsegment_splitOn body

/-- An allowed path that never goes back to the root leads where it says. -/
theorem allowed_inside {path body : PyStr} (allowed : pathAllowed path)
    (decoded : percentDecode (pathComponent path) = 47 :: body) :
    (∃ start ∈ ALLOWED_PATH_PREFIXES, start <+: unsegment 47 (decodedSegments path)) ∨
      removeDotSegments 47 46 (unsegment 47 (decodedSegments path)) ∈ ALLOWED_REST_PATHS := by
  rw [unsegment_decoded decoded]
  obtain ⟨-, -, ⟨start, mem, first⟩ | listed⟩ := allowed
  · exact .inl ⟨start, mem, effective_prefix mem first⟩
  · obtain ⟨noFragment, noEscape, noDots⟩ := rest_text _ listed
    have component : pathComponent path = path.takeWhile (· ≠ 63) := by
      rw [← noFragment, List.takeWhile_takeWhile]
      apply congrArg (List.takeWhile · path)
      funext c
      simp [and_comm]
    rw [component, noEscape, noDots]
    exact .inr listed

/-- The operator's side is not on the allowlist. -/
theorem not_operator {path : PyStr} (allowed : OnAllowlist path) : ¬ OperatorSurface path := by
  have apart : ∀ start ∈ ALLOWED_PATH_PREFIXES, ∀ other ∈ OPERATOR_PREFIXES ++ [text "/rest/v1/"],
      ¬ start <+: other ∧ ¬ other <+: start := by
    decide
  have unlike : ∀ path ∈ ALLOWED_REST_PATHS, ∀ other ∈ OPERATOR_PREFIXES, ¬ other <+: path := by
    decide
  have clash {start other : PyStr} (mem : start ∈ ALLOWED_PATH_PREFIXES)
      (operator : other ∈ OPERATOR_PREFIXES ++ [text "/rest/v1/"]) (first : start <+: path) :
      ¬ other <+: path := by
    intro also
    obtain ⟨before, after⟩ := apart start mem other operator
    rcases List.prefix_or_prefix_of_prefix first also with longer | shorter
    · exact before longer
    · exact after shorter
  rintro (⟨other, operator, also⟩ | ⟨also, unlisted⟩)
  · rcases allowed with ⟨start, mem, first⟩ | listed
    · exact clash mem (List.mem_append_left _ operator) first also
    · exact unlike path listed other operator also
  · rcases allowed with ⟨start, mem, first⟩ | listed
    · exact clash mem (List.mem_append_right _ (List.mem_singleton.mpr rfl)) first also
    · exact unlisted listed

/-- **Which allowed paths stay on the allowlist** when a server normalises
them, and so away from the operator's side. -/
theorem allowlist_survives_iff (path : PyStr) (allowed : pathAllowed path) :
    (OnAllowlist (effectivePath path) ↔ StaysInside path) ∧
    (StaysInside path → ¬ OperatorSurface (effectivePath path)) := by
  obtain ⟨body, decoded⟩ := decoded_absolute allowed.1
  have leads : OnAllowlist (effectivePath path) ↔ StaysInside path := by
    rw [onAllowlist_iff decoded]
    constructor
    · exact .inr
    · rintro (never | again)
      · rw [never]
        exact allowed_inside allowed decoded
      · exact again
  exact ⟨leads, fun inside => not_operator (leads.mpr inside)⟩

/-- Escaped dots pass the check and lead to the operator's heartbeat. -/
theorem escaped_dots_escape :
    pathAllowed (text "/tickets/%2e%2e/heartbeat") ∧
    effectivePath (text "/tickets/%2e%2e/heartbeat") = text "/heartbeat" ∧
    ¬ OnAllowlist (text "/heartbeat") ∧ OperatorSurface (text "/heartbeat") := by
  decide +kernel

theorem allowlist_survives_iff_tickets :
    (OnAllowlist (effectivePath (text "/tickets/tk%2D1/validity?event_id=e")) ↔
      StaysInside (text "/tickets/tk%2D1/validity?event_id=e")) ∧
    (StaysInside (text "/tickets/tk%2D1/validity?event_id=e") →
      ¬ OperatorSurface (effectivePath (text "/tickets/tk%2D1/validity?event_id=e"))) :=
  allowlist_survives_iff _ (by decide +kernel)

end BackendProxy

end MeshlinkNode
