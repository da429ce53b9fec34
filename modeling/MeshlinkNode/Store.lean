import MeshlinkNode.Python

/-!
# Latest-coordinate-only location table

One row per identity, replaced by every beacon, stamped with the clock at its
arrival.
-/

namespace MeshlinkNode

structure LocationRow where
  latMicrodeg : Int
  lonMicrodeg : Int
  accuracyM : Int
  zoneId : Int
  lastBeaconTs : Seconds
  deriving DecidableEq

structure LocationStore where
  rows : Dict Bytes LocationRow

namespace LocationStore

def empty : LocationStore := ⟨∅⟩

def update (store : LocationStore) (identity : Bytes)
    (latMicrodeg lonMicrodeg accuracyM zoneId : Int) (now : Seconds) : LocationStore :=
  ⟨store.rows.insert identity ⟨latMicrodeg, lonMicrodeg, accuracyM, zoneId, now⟩⟩

def get (store : LocationStore) (identity : Bytes) : Option LocationRow :=
  store.rows.lookup identity

def beaconAgeS (row : LocationRow) (now : Seconds) : Int :=
  max 0 (truncInt (now - row.lastBeaconTs))

@[simp] theorem get_empty (identity : Bytes) : empty.get identity = none := AList.lookup_empty _

@[simp] theorem get_update_same (store : LocationStore) (identity : Bytes) (lat lon acc zone : Int)
    (now : Seconds) :
    (store.update identity lat lon acc zone now).get identity = some ⟨lat, lon, acc, zone, now⟩ :=
  AList.lookup_insert _

theorem get_update_ne (store : LocationStore) {identity other : Bytes} (lat lon acc zone : Int)
    (now : Seconds) (h : other ≠ identity) :
    (store.update identity lat lon acc zone now).get other = store.get other :=
  AList.lookup_insert_ne h

end LocationStore

end MeshlinkNode
