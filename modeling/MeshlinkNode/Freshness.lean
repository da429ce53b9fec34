import MeshlinkNode.Service
import Mathlib.Data.Rat.Floor

/-!
# Which beacon an identity's row comes from

The store neither reads envelope timestamps nor keeps more than one row: the
beacon that arrived last wins, and its age counts from its arrival.
-/

namespace MeshlinkNode

theorem truncInt_eq_floor {x : ℚ} (h : 0 ≤ x) : truncInt x = ⌊x⌋ := by
  have num : 0 ≤ x.num := Rat.num_nonneg.mpr h
  rw [Rat.floor_def', truncInt, Int.tdiv_eq_ediv_of_nonneg num]

/-- From the arrival on, the age is the whole seconds since then. -/
theorem LocationStore.beaconAgeS_bounds {row : LocationRow} {now : Seconds}
    (h : row.lastBeaconTs ≤ now) :
    (LocationStore.beaconAgeS row now : ℚ) ≤ now - row.lastBeaconTs ∧
      now - row.lastBeaconTs < LocationStore.beaconAgeS row now + 1 := by
  have since : 0 ≤ now - row.lastBeaconTs := sub_nonneg.mpr h
  have floor : LocationStore.beaconAgeS row now = ⌊now - row.lastBeaconTs⌋ := by
    rw [LocationStore.beaconAgeS, truncInt_eq_floor since]
    exact max_eq_right (Int.floor_nonneg.mpr since)
  rw [floor]
  exact ⟨Int.floor_le _, Int.lt_floor_add_one _⟩

theorem LocationStore.beaconAgeS_nonneg (row : LocationRow) (now : Seconds) :
    0 ≤ LocationStore.beaconAgeS row now := le_max_left _ _

namespace LocationService

variable {core : Core}

/-- **The last arrival is served.** Whatever else the node handles, the row of
an identity is that of its beacon that arrived last: the one with the greatest
envelope timestamp if they arrived in that order. Its age is the whole seconds
since it arrived, and never negative. -/
theorem last_arrival_served (minIntervalS : Seconds) (directory : DirectoryCache core)
    (identity : core.Identity) (ephemId : Bytes) (zoneId : Int) (inputs : List Input)
    (sender : Bytes) (earlier : List Beacon) (b : Beacon)
    (arrived : beacons core sender inputs = earlier ++ [b]) :
    ((boot minIntervalS directory identity ephemId zoneId).after inputs).store.get sender =
      some b.row ∧
    ((beacons core sender inputs).Pairwise (fun c d => c.msg.timestamp < d.msg.timestamp) →
      ∀ c ∈ beacons core sender inputs, c.msg.timestamp ≤ b.msg.timestamp) ∧
    ∀ now, 0 ≤ LocationStore.beaconAgeS b.row now ∧
      (b.arrival ≤ now → (LocationStore.beaconAgeS b.row now : ℚ) ≤ now - b.arrival ∧
        now - b.arrival < LocationStore.beaconAgeS b.row now + 1) := by
  have row : ((boot minIntervalS directory identity ephemId zoneId).after inputs).store.get sender =
      some b.row := by
    rw [store_after _ rfl, arrived]
    simp
  have greatest : (beacons core sender inputs).Pairwise
      (fun c d => c.msg.timestamp < d.msg.timestamp) →
      ∀ c ∈ beacons core sender inputs, c.msg.timestamp ≤ b.msg.timestamp := by
    intro ordered c hc
    rw [arrived] at ordered hc
    rcases List.mem_append.mp hc with before | last
    · have earlier : c.msg.timestamp < b.msg.timestamp :=
        (List.pairwise_append.mp ordered).2.2 c before b (List.mem_singleton.mpr rfl)
      exact le_of_lt earlier
    · rw [List.mem_singleton.mp last]
  have age : ∀ now, b.arrival ≤ now → (LocationStore.beaconAgeS b.row now : ℚ) ≤ now - b.arrival ∧
      now - b.arrival < LocationStore.beaconAgeS b.row now + 1 := by
    intro now later
    have since : b.row.lastBeaconTs ≤ now := later
    exact LocationStore.beaconAgeS_bounds since
  exact ⟨row, greatest, fun now => ⟨LocationStore.beaconAgeS_nonneg _ _, age now⟩⟩

/-- Sent at 200 and at 100, received in that order at 201 and 210. -/
def overtaken : List Input :=
  [.message "phone" ⟨[1], 200, Sample.target, 3, .location, [1, 2, 3]⟩ ⟨201, 201, 201⟩,
    .message "relay" ⟨[2], 100, Sample.target, 3, .location, [4, 5, 6]⟩ ⟨210, 210, 210⟩]

def sentFirst : Beacon := ⟨⟨[2], 100, Sample.target, 3, .location, [4, 5, 6]⟩, 4, 5, 6, 210⟩

def sentLast : Beacon := ⟨⟨[1], 200, Sample.target, 3, .location, [1, 2, 3]⟩, 1, 2, 3, 201⟩

/-- The beacon with the greatest timestamp is not the one served, and at 210
the one served, sent at 100, reads as just received. -/
theorem overtaken_row :
    beacons Sample.core Sample.target overtaken = [sentLast, sentFirst] ∧
    (∀ c ∈ [sentLast, sentFirst], c.msg.timestamp ≤ sentLast.msg.timestamp) ∧
    ((boot 60 (.empty Sample.core) () [] 3).after overtaken).store.get Sample.target ≠
      some sentLast.row ∧
    ((boot 60 (.empty Sample.core) () [] 3).after overtaken).store.get Sample.target =
      some sentFirst.row ∧
    LocationStore.beaconAgeS sentFirst.row 210 < 210 - sentFirst.msg.timestamp := by
  decide +kernel

theorem last_arrival_served_overtaken :
    ((boot 60 (.empty Sample.core) () [] 3).after overtaken).store.get Sample.target =
      some sentFirst.row :=
  (last_arrival_served 60 (.empty Sample.core) () [] 3 overtaken Sample.target [sentLast]
    sentFirst (by decide +kernel)).1

end LocationService

end MeshlinkNode
