import MeshlinkNode.Core

/-!
# The node's copy of the user directory

Two indexes over the rows the backend sent, rebuilt together. The rows are
whatever JSON the backend returned; `_index` reads `username` and
`ed25519_pub` of each and nothing else.
-/

namespace MeshlinkNode

/-- `{key(u): u for u in users}`: a later row replaces an earlier one. -/
def indexBy {κ : Type} [DecidableEq κ] (key : Json → Except PyExc κ) (users : List Json) :
    Except PyExc (Dict κ Json) :=
  users.foldlM (fun index u => return index.insert (← key u) u) ∅

theorem indexBy_lookup {κ : Type} [DecidableEq κ] {key : Json → Except PyExc κ}
    {users : List Json} {index : Dict κ Json} (h : indexBy key users = .ok index)
    {k : κ} {u : Json} (found : index.lookup k = some u) : key u = .ok k := by
  suffices go : ∀ (users : List Json) (start : Dict κ Json),
      (∀ k u, start.lookup k = some u → key u = .ok k) →
      users.foldlM (fun index u => return index.insert (← key u) u) start = .ok index →
      key u = .ok k from
    go users ∅ (by simp) h
  clear h
  intro users
  induction users with
  | nil =>
    intro start hs h
    cases h
    exact hs k u found
  | cons v users ih =>
    intro start hs h
    rw [List.foldlM_cons] at h
    cases hv : key v with
    | error e => simp [hv, bind, Except.bind] at h
    | ok kv =>
      simp only [hv, bind, Except.bind, pure, Except.pure] at h
      apply ih (start.insert kv v) _ h
      intro k' u' hk
      by_cases same : k' = kv
      · subst same
        rw [AList.lookup_insert] at hk
        cases hk
        exact hv
      · rw [AList.lookup_insert_ne same] at hk
        exact hs k' u' hk

def rowEdPub (row : Json) : Except PyExc Bytes := do
  fromHex (← row.getItem (text "ed25519_pub"))

def rowCurvePub (row : Json) : Except PyExc Bytes := do
  fromHex (← row.getItem (text "curve25519_pub"))

variable (core : Core)

/-- The indexes. Every row is filed under the id of the key it carries. -/
structure DirectoryCache where
  byUsername : Dict Json.Key Json
  byEdId : Dict Bytes Json
  indexed : ∀ {id row}, byEdId.lookup id = some row →
    ∃ key, rowEdPub row = .ok key ∧ core.pubkeyId key = id

namespace DirectoryCache

def empty : DirectoryCache core := ⟨∅, ∅, by simp⟩

def edId (row : Json) : Except PyExc Bytes := return core.pubkeyId (← rowEdPub row)

/-- Both indexes are built before either replaces the old one. -/
def index (users : Json) : Except PyExc (DirectoryCache core) := do
  let rows ← users.iter
  let byUsername ← indexBy (fun u => do (← u.getItem (text "username")).hashKey) rows
  match h : indexBy (edId core) rows with
  | .error e => .error e
  | .ok byEdId => .ok ⟨byUsername, byEdId, by
      intro id row found
      have key := indexBy_lookup h found
      simp only [edId, bind, Except.bind, pure, Except.pure] at key
      split at key
      · cases key
      · rename_i k hk
        exact ⟨k, hk, Except.ok.inj key⟩⟩

variable {core}

/-- `refresh`, for the indexes: the request and the look at `["users"]` may
fail with the three classes that are caught, `_index` with any. -/
def refresh (cache : DirectoryCache core) (response : Except PyExc Json) :
    DirectoryCache core × Except PyExc Bool :=
  match response.bind fun body => body.getItem (text "users") with
  | .error exc =>
    if exc = .osError ∨ exc = .valueError ∨ exc = .keyError then (cache, .ok false)
    else (cache, .error exc)
  | .ok users =>
    match index core users with
    | .error exc => (cache, .error exc)
    | .ok fresh => (fresh, .ok true)

def byEd25519Id (cache : DirectoryCache core) (edPubkeyId : Bytes) : Option Json :=
  cache.byEdId.lookup edPubkeyId

theorem rowEdPub_of_byEd25519Id {cache : DirectoryCache core} {id : Bytes} {row : Json}
    (h : cache.byEd25519Id id = some row) :
    ∃ key, rowEdPub row = .ok key ∧ core.pubkeyId key = id :=
  cache.indexed h

end DirectoryCache

end MeshlinkNode
