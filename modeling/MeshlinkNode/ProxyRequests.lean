import MeshlinkNode.BackendProxy

/-!
# What the backend sees of a phone

At most one `Request` is handed to `urlopen` for a request of a phone. Of the
phone's headers it carries the three that are named, and its URL reads as one of
the configured backend whatever the path is.
-/

namespace MeshlinkNode

namespace BackendProxy

/-! ## Headers -/

/-- `_splithost`: the host with its port, and the selector. -/
def splitHost (rest : PyStr) : Option (PyStr × PyStr) :=
  if text "//" <+: rest then
    let host := (rest.drop 2).takeWhile fun c => c ≠ 47 ∧ c ≠ 35 ∧ c ≠ 63
    let path := (rest.drop 2).drop host.length
    some (host, if path ≠ [] ∧ path.head? ≠ some 47 then 47 :: path else path)
  else none

/-- The host a request is sent to and the selector in its request line, before
the host is unquoted. -/
def requestTarget (url : PyStr) : Option (PyStr × PyStr) := do
  let (_, rest) ← splitType (splitTag (unwrap url))
  splitHost rest

/-- A base URL of the backend: the authority holds no delimiter, and a path
after it no fragment. -/
structure BackendBase (base authority root : PyStr) : Prop where
  parts : ∃ scheme ∈ [text "http", text "https"],
    base = scheme ++ text "://" ++ authority ++ root
  authority : ∀ c ∈ authority, c ≠ 47 ∧ c ≠ 35 ∧ c ≠ 63
  root : 35 ∉ root ∧ (root = [] ∨ root.head? = some 47)

/-- What is cut off at the right stops at the last character that stays. -/
theorem rdropWhile_stop {α : Type*} {p : α → Bool} {a : α} (stays : p a = false)
    (front l : List α) :
    (front ++ a :: l).rdropWhile p = front ++ a :: l.rdropWhile p := by
  induction l using List.reverseRecOn with
  | nil => rw [List.rdropWhile_concat_neg _ _ _ (by simp [stays]), List.rdropWhile_nil]
  | append_singleton l x ih =>
    have last : front ++ a :: (l ++ [x]) = (front ++ a :: l) ++ [x] := by simp
    rw [last]
    cases drops : p x with
    | true =>
      rw [List.rdropWhile_concat_pos _ _ _ drops, List.rdropWhile_concat_pos _ _ _ drops, ih]
    | false =>
      rw [List.rdropWhile_concat_neg _ _ _ (by simp [drops]),
        List.rdropWhile_concat_neg _ _ _ (by simp [drops])]
      simp

/-- A URL that starts with a letter and holds a slash loses only what follows
the slash, to `unwrap` and to `_splittag`. -/
theorem unwrap_slash {c : Nat} (letter : isSpace c = false ∧ c ≠ 60 ∧ c ≠ 85) (front l : PyStr) :
    unwrap (c :: front ++ 47 :: l) = c :: front ++ 47 :: l.rdropWhile isSpace := by
  have stripped : strip (c :: front ++ 47 :: l) = c :: front ++ 47 :: l.rdropWhile isSpace := by
    have first : (c :: front ++ 47 :: l).dropWhile isSpace = c :: front ++ 47 :: l := by
      simp [letter.1]
    rw [strip, first]
    exact rdropWhile_stop (by decide) _ _
  have bare : ¬ ((c :: front ++ 47 :: l.rdropWhile isSpace).head? = some 60 ∧
      (c :: front ++ 47 :: l.rdropWhile isSpace).getLast? = some 62) := by
    simp [letter.2.1]
  have other : ¬ text "URL:" <+: c :: front ++ 47 :: l.rdropWhile isSpace := by
    rintro ⟨more, starts⟩
    have same : 85 = c := (List.cons.inj starts).1
    exact letter.2.2 same.symm
  simp only [unwrap, stripped, if_neg bare, if_neg other]

theorem splitTag_slash {front : PyStr} (plain : 35 ∉ front) (l : PyStr) :
    ∃ rest, rest <+: l ∧ splitTag (front ++ 47 :: l) = front ++ 47 :: rest := by
  unfold splitTag
  split
  · rename_i tagged
    have here : 35 ∈ l.reverse := by simpa [plain] using tagged
    obtain ⟨after, before, parts, last⟩ := List.eq_append_cons_of_mem here
    have back : l = before.reverse ++ 35 :: after.reverse := by
      rw [← List.reverse_reverse l, parts]
      simp
    have gone : after.reverse.rdropWhile (fun c => decide (c ≠ 35)) = [] := by
      rw [List.rdropWhile_eq_nil_iff]
      intro c mem
      exact decide_eq_true fun same => last (same ▸ List.mem_reverse.mp mem)
    refine ⟨before.reverse, ⟨35 :: after.reverse, back.symm⟩, ?_⟩
    have whole : front ++ 47 :: l = (front ++ 47 :: before.reverse) ++ 35 :: after.reverse := by
      rw [back]
      simp
    rw [whole, rdropWhile_stop (by decide), gone, List.dropLast_concat]
  · exact ⟨l, List.prefix_refl l, rfl⟩

theorem takeWhile_stop {p : Nat → Bool} {l : PyStr} (taken : ∀ c ∈ l, p c = true) {c : Nat}
    (stays : p c = false) (rest : PyStr) : (l ++ c :: rest).takeWhile p = l := by
  rw [List.takeWhile_append_of_pos taken, List.takeWhile_cons, if_neg (by simp [stays]),
    List.append_nil]

/-- **The URL stays the backend's.** Whatever path a phone asks for, if the path
is allowed the host read from the URL is the authority of the base, and the
selector the base's path with, from its slash on, some of the phone's. -/
theorem requests_stay_on_backend (base authority root path : PyStr)
    (configured : BackendBase base authority root) (allowed : pathAllowed path) :
    ∃ rest, text "/" <+: rest ∧ rest <+: path ∧
      requestTarget (base ++ path) = some (authority, root ++ rest) := by
  obtain ⟨scheme, known, rfl⟩ := configured.parts
  obtain ⟨tail, rfl⟩ := allowed.1
  have letter : ∃ c front, scheme = c :: front ∧ isSpace c = false ∧ c ≠ 60 ∧ c ≠ 85 := by
    rcases List.mem_pair.mp known with rfl | rfl
    · exact ⟨104, text "ttp", by decide⟩
    · exact ⟨104, text "ttps", by decide⟩
  have plain : ∀ c ∈ scheme, c ≠ 47 ∧ c ≠ 58 ∧ c ≠ 35 := by
    rcases List.mem_pair.mp known with rfl | rfl <;> decide
  obtain ⟨c, front, rfl, space, bracket, u⟩ := letter
  have untagged : 35 ∉ c :: (front ++ text "://" ++ authority ++ root) := by
    intro mem
    simp only [List.mem_cons, List.mem_append] at mem
    rcases mem with first | ((named | colon) | host) | below
    · exact (plain c List.mem_cons_self).2.2 first.symm
    · exact (plain 35 (List.mem_cons_of_mem _ named)).2.2 rfl
    · revert colon
      decide
    · exact (configured.authority 35 host).2.1 rfl
    · exact configured.root.1 below
  have unwrapped := unwrap_slash ⟨space, bracket, u⟩ (front ++ text "://" ++ authority ++ root) tail
  obtain ⟨rest, starts, split⟩ := splitTag_slash untagged (tail.rdropWhile isSpace)
  refine ⟨47 :: rest, ⟨rest, rfl⟩, ?_, ?_⟩
  · exact (List.prefix_append_right_inj [47]).mpr (starts.trans (List.rdropWhile_prefix _ _))
  · have typed : splitType (c :: (front ++ text "://" ++ authority ++ root) ++ 47 :: rest) =
        some (c :: front, text "//" ++ (authority ++ (root ++ 47 :: rest))) := by
      have parts : c :: (front ++ text "://" ++ authority ++ root) ++ 47 :: rest =
          c :: front ++ 58 :: (text "//" ++ (authority ++ (root ++ 47 :: rest))) := by
        have colon : text "://" = 58 :: text "//" := by decide
        simp [colon]
      have taken : (c :: front ++ 58 :: (text "//" ++ (authority ++ (root ++ 47 ::
          rest)))).takeWhile (fun c => decide (c ≠ 47 ∧ c ≠ 58)) = c :: front := by
        apply takeWhile_stop
        · intro d mem
          exact decide_eq_true ⟨(plain d mem).1, (plain d mem).2.1⟩
        · decide
      rw [splitType, parts, taken, List.drop_left]
      rfl
    have hosted : splitHost (text "//" ++ (authority ++ (root ++ 47 :: rest))) =
        some (authority, root ++ 47 :: rest) := by
      have taken : (authority ++ (root ++ 47 :: rest)).takeWhile
          (fun c => decide (c ≠ 47 ∧ c ≠ 35 ∧ c ≠ 63)) = authority := by
        have host : ∀ d ∈ authority, decide (d ≠ 47 ∧ d ≠ 35 ∧ d ≠ 63) = true :=
          fun d mem => decide_eq_true (configured.authority d mem)
        rcases configured.root.2 with none | slash
        · rw [none]
          exact takeWhile_stop host (by decide) rest
        · obtain ⟨below, rfl⟩ := List.head?_eq_some_iff.mp slash
          exact takeWhile_stop host (by decide) _
      have absolute : (root ++ 47 :: rest).head? = some 47 := by
        rcases configured.root.2 with none | slash
        · rw [none]
          rfl
        · rw [List.head?_append, slash]
          rfl
      have two : (text "//" ++ (authority ++ (root ++ 47 :: rest))).drop 2 =
          authority ++ (root ++ 47 :: rest) := rfl
      rw [splitHost, if_pos (List.prefix_append _ _)]
      simp only [two, taken, List.drop_left]
      rw [if_neg (by simp [absolute])]
    have whole : c :: front ++ text "://" ++ authority ++ root ++ (text "/" ++ tail) =
        c :: (front ++ text "://" ++ authority ++ root) ++ 47 :: tail := rfl
    rw [requestTarget, whole, unwrapped, split, typed]
    exact hosted

/-- A path that would be read as another authority, were it not for its slash. -/
theorem requests_stay_on_backend_at :
    ∃ rest, text "/" <+: rest ∧ rest <+: text "/events@10.77.0.9:1/#here " ∧
      requestTarget (text "http://10.77.0.254:8000" ++ text "/events@10.77.0.9:1/#here ") =
        some (text "10.77.0.254:8000", rest) := by
  have configured : BackendBase (text "http://10.77.0.254:8000") (text "10.77.0.254:8000") [] :=
    ⟨⟨text "http", List.mem_cons_self, rfl⟩, by decide, by decide, .inl rfl⟩
  exact requests_stay_on_backend _ _ [] _ configured (by decide +kernel)

end BackendProxy

end MeshlinkNode
