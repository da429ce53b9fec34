import Mathlib.Data.List.AList
import Mathlib.Data.List.Induction
import Mathlib.Order.Lattice

/-!
# Changes of a dictionary

Entries written one after another, and keys dropped one after another. What a
lookup finds afterwards does not depend on the order as long as no key is
written twice. Where the order of the keys is of interest, one that is written
again keeps its place.
-/

namespace Assoc

variable {κ ν : Type*} [DecidableEq κ]

/-- Write an entry: a key that is there keeps its place, and a new one comes last. -/
def set (d : AList fun _ : κ => ν) (k : κ) (v : ν) : AList fun _ : κ => ν :=
  d.replace k v ∪ AList.singleton k v

theorem dlookup_kreplace (l : List (Sigma fun _ : κ => ν)) (k j : κ) (v : ν) :
    (List.kreplace k v l).dlookup j =
      if j = k ∧ j ∈ l.keys then some v else l.dlookup j := by
  induction l with
  | nil => simp [List.kreplace]
  | cons e l ih =>
    obtain ⟨i, w⟩ := e
    by_cases here : k = i
    · subst here
      have replaced : List.kreplace k v (⟨k, w⟩ :: l) = ⟨k, v⟩ :: l :=
        List.lookmap_cons_some _ _ (if_pos rfl)
      rw [replaced]
      by_cases same : j = k
      · subst same
        simp
      · rw [List.dlookup_cons_ne _ _ same, List.dlookup_cons_ne _ _ same, if_neg (same ·.1)]
    · have kept : List.kreplace k v (⟨i, w⟩ :: l) = ⟨i, w⟩ :: List.kreplace k v l :=
        List.lookmap_cons_none _ _ (if_neg here)
      rw [kept]
      by_cases same : j = i
      · subst same
        simp [Ne.symm here]
      · rw [List.dlookup_cons_ne _ _ same, List.dlookup_cons_ne _ _ same, ih]
        simp [same]

theorem lookup_set (d : AList fun _ : κ => ν) (k j : κ) (v : ν) :
    (set d k v).lookup j = if j = k then some v else d.lookup j := by
  have replaced : (d.replace k v).lookup j =
      if j = k ∧ j ∈ d.keys then some v else d.lookup j := dlookup_kreplace d.entries k j v
  unfold set
  by_cases there : j ∈ d
  · rw [AList.lookup_union_left (AList.mem_replace.mpr there), replaced]
    simp [AList.mem_keys.mp there]
  · rw [AList.lookup_union_right (AList.mem_replace.not.mpr there)]
    by_cases same : j = k
    · subst same
      rw [if_pos rfl]
      exact List.dlookup_cons_eq (β := fun _ => ν) [] j v
    · rw [if_neg same, AList.lookup_eq_none.mpr there]
      exact List.dlookup_cons_ne (β := fun _ => ν) [] ⟨k, v⟩ same

/-- Write the pairs in order; a later one replaces an earlier one. -/
def update (d : AList fun _ : κ => ν) (pairs : List (κ × ν)) : AList fun _ : κ => ν :=
  pairs.foldl (fun d p => d.insert p.1 p.2) d

def eraseAll (d : AList fun _ : κ => ν) (keys : List κ) : AList fun _ : κ => ν :=
  keys.foldl (fun d k => d.erase k) d

theorem lookup_update_of_notMem {d : AList fun _ : κ => ν} {pairs : List (κ × ν)} {k : κ}
    (absent : k ∉ pairs.map Prod.fst) : (update d pairs).lookup k = d.lookup k := by
  induction pairs generalizing d with
  | nil => rfl
  | cons p pairs ih =>
    obtain ⟨ne, rest⟩ := not_or.mp (List.mem_cons.not.mp (List.map_cons ▸ absent))
    have first : (d.insert p.1 p.2).lookup k = d.lookup k := AList.lookup_insert_ne ne
    exact (ih rest).trans first

theorem lookup_update_of_mem {d : AList fun _ : κ => ν} {pairs : List (κ × ν)} {k : κ} {v : ν}
    (once : (pairs.map Prod.fst).Nodup) (mem : (k, v) ∈ pairs) :
    (update d pairs).lookup k = some v := by
  induction pairs generalizing d with
  | nil => cases mem
  | cons p pairs ih =>
    obtain ⟨fresh, rest⟩ := List.nodup_cons.mp (List.map_cons ▸ once)
    cases mem with
    | head => exact (lookup_update_of_notMem fresh).trans (AList.lookup_insert d)
    | tail _ mem => exact ih rest mem

/-- The last write of a key counts. -/
theorem lookup_update (d : AList fun _ : κ => ν) (pairs : List (κ × ν)) (k : κ) :
    (update d pairs).lookup k = (pairs.reverse.lookup k).or (d.lookup k) := by
  induction pairs using List.reverseRecOn with
  | nil => rfl
  | append_singleton pairs p ih =>
    have last : update d (pairs ++ [p]) = (update d pairs).insert p.1 p.2 := by
      rw [update, List.foldl_append]
      rfl
    rw [last, List.reverse_append, List.reverse_singleton, List.singleton_append,
      List.lookup_cons]
    by_cases same : k = p.1
    · rw [same, AList.lookup_insert, beq_self_eq_true]
      rfl
    · rw [AList.lookup_insert_ne same, ih, beq_false_of_ne same]

theorem lookup_eraseAll (d : AList fun _ : κ => ν) (keys : List κ) (k : κ) :
    (eraseAll d keys).lookup k = if k ∈ keys then none else d.lookup k := by
  induction keys generalizing d with
  | nil => simp [eraseAll]
  | cons j keys ih =>
    have tail : (eraseAll d (j :: keys)).lookup k =
        if k ∈ keys then none else (d.erase j).lookup k := ih (d.erase j)
    rw [tail]
    by_cases same : k = j
    · subst same
      simp
    · simp only [List.mem_cons, same, false_or, AList.lookup_erase_ne same]

/-! ## A dictionary listed by key -/

theorem mem_sorted [LE κ] [DecidableLE κ] {d : AList fun _ : κ => ν} {e : Sigma fun _ : κ => ν} :
    e ∈ d.entries.mergeSort (fun e f => e.1 ≤ f.1) ↔ d.lookup e.1 = some e.2 := by
  rw [List.mem_mergeSort]
  exact AList.mem_lookup_iff.symm

/-- No key comes twice. -/
theorem sorted_strict {κ : Type*} [LinearOrder κ] (d : AList fun _ : κ => ν) :
    (d.entries.mergeSort (fun e f => e.1 ≤ f.1)).Pairwise fun e f => e.1 < f.1 := by
  have sorted : (d.entries.mergeSort (fun e f => e.1 ≤ f.1)).Pairwise fun e f => e.1 ≤ f.1 := by
    have all : (d.entries.mergeSort (fun e f => e.1 ≤ f.1)).Pairwise
        fun e f => decide (e.1 ≤ f.1) = true := by
      apply List.pairwise_mergeSort
      · intro a b c first second
        exact decide_eq_true (le_trans (of_decide_eq_true first) (of_decide_eq_true second))
      · intro a b
        rcases le_total a.1 b.1 with here | there
        · simp [here]
        · simp [there]
    exact all.imp of_decide_eq_true
  have distinct : (d.entries.mergeSort (fun e f => e.1 ≤ f.1)).Pairwise fun e f => e.1 ≠ f.1 := by
    apply List.pairwise_map.mp
    exact ((List.mergeSort_perm d.entries _).map Sigma.fst).nodup_iff.mpr d.keys_nodup
  exact (sorted.and distinct).imp fun both => lt_of_le_of_ne both.1 both.2

end Assoc
