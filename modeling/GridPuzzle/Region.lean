import GridPuzzle.Location

/-!
Regions of connected locations. A region is grown from a location in rounds: in each round the pending
locations that are accepted join it, and the neighbors of those that joined are pending next, unless they
are occupied. A round that leaves anything pending has occupied a location that was free before, so there
are no more rounds than locations, and one to spare.
-/

namespace GridPuzzle

namespace Region

/-- A region under way. -/
structure Growth where
  /-- The locations of the region so far. -/
  joined : List Location
  /-- The locations of this and of all earlier regions. -/
  occupied : List Location
  /-- The locations to look at in the next round. -/
  pending : List Location

/-- What decides how a region grows. -/
structure Terrain where
  /-- The neighbors of a location. -/
  near : Location → List Location
  /-- Whether a location joins a region that was started at another one. -/
  joins : Location → Location → Bool

/-- One round. -/
def Growth.advance (terrain : Terrain) (start : Location) (g : Growth) : Growth :=
  let accepted := g.pending.filter (terrain.joins start)
  let occupied := accepted ++ g.occupied
  { joined := accepted ++ g.joined
    occupied
    pending := (accepted.flatMap terrain.near).eraseDups.filter (!occupied.contains ·) }

/-- Rounds until nothing is pending, `rounds` of them at most. -/
def Growth.complete (terrain : Terrain) (start : Location) : Nat → Growth → Growth
  | 0, g => g
  | rounds + 1, g =>
    if g.pending.isEmpty then g else complete terrain start rounds (g.advance terrain start)

/-- The region that is grown from a location among occupied ones. -/
def grow (terrain : Terrain) (rounds : Nat) (occupied : List Location) (start : Location) : Growth :=
  Growth.complete terrain start rounds ⟨[], occupied, [start]⟩

/-- The regions that are grown from those of the given locations that start one and are not occupied when
their turn comes. -/
def regionsFrom (terrain : Terrain) (rounds : Nat) (starts : Location → Bool) (occupied : List Location) :
    List Location → List (List Location)
  | [] => []
  | l :: rest =>
    if occupied.contains l || !starts l then regionsFrom terrain rounds starts occupied rest
    else
      let g := grow terrain rounds occupied l
      g.joined :: regionsFrom terrain rounds starts g.occupied rest

end Region

end GridPuzzle
