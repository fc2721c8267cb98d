import GridPuzzle.Proofs.NestedRing
import GridPuzzle.Proofs.Overlay
import GridPuzzle.Proofs.VisitOrder

/-!
# Frames in the colors of the nearest cells

The program of the task `49d1d64f` writes a board into the middle of a larger one, and then gives each location of the
frame, the corners apart, the color of the cell that is nearest to it. The cell is found by its distance, with a
function that is built for each location from the distance of two patches. It does not depend on the order in which
the cells are visited: whatever the location, one cell of the board is nearer to it than all others
(`Board.distance_nearest_lt`). On a side of the frame this is the cell next to the location.
-/

namespace GridPuzzle

open Value Eval

namespace Board

variable {g : Board Int} {k l : Location}

/-! ## The nearest cell -/

/-- The cell that is nearest to a location, where the locations count from the corner of a frame around the board. -/
def nearest (g : Board Int) (l : Location) : Location :=
  (max 0 (min (l.1 - 1) (g.height - 1)), max 0 (min (l.2 - 1) (g.width - 1)))

theorem inside_nearest (g : Board Int) (l : Location) : g.Inside (g.nearest l) := by
  have hheight := g.height_pos
  have hwidth := g.width_pos
  unfold Inside nearest
  dsimp only
  omega

/-- Every other cell is farther away. -/
theorem distance_nearest_lt (hk : g.Inside k) (other : k ≠ g.nearest l) :
    l.distance (Location.shift (1, 1) (g.nearest l)) < l.distance (Location.shift (1, 1) k) := by
  obtain ⟨row, column⟩ := k
  obtain ⟨hrow, hcolumn⟩ := hk
  have apart : row ≠ (g.nearest l).1 ∨ column ≠ (g.nearest l).2 := by
    by_contra same
    rw [not_or, not_not, not_not] at same
    exact other (Prod.ext same.1 same.2)
  simp only [nearest] at apart
  simp only [Location.distance, Location.shift, nearest]
  omega

theorem nearest_of_inside (hl : g.Inside (Location.back (1, 1) l)) : g.nearest l = Location.back (1, 1) l := by
  obtain ⟨hrow, hcolumn⟩ := hl
  simp only [Location.back] at hrow hcolumn
  refine Prod.ext ?_ ?_
  · simp only [nearest, Location.back]
    omega
  · simp only [nearest, Location.back]
    omega

end Board

/-! ## Finding the color of the nearest cell -/

/-- The function that gives the distance of a cell from a location. -/
def distanceFrom (serial serial' : Nat) (l : Location) : Value :=
  .compose serial' (.bindFirst serial 1 (.prim .distance) (.set [l.toValue])) (.prim .singleton)

/-- The function that builds, for a location, the function that gives the distance of a cell from it. -/
def distanceMaker : Value :=
  .compose3 3 (.bindLast 2 1 (.prim .compose) (.prim .singleton)) (.bindFirst 1 1 (.prim .bindFirst) (.prim .distance))
    (.prim .singleton)

/-- The function that gives the color of the cell of an object that is nearest to a location. -/
def nearestColor (cells : Value) : Value :=
  .compose3 5 (.prim .first) (.bindFirst 4 1 (.prim .leastBy) cells) distanceMaker

/-- The function that gives a location the color of the nearest cell. -/
def nearestSpot (cells : Value) : Value :=
  .fork 6 (.prim .makePair) (nearestColor cells) (.prim .identity)

theorem locationItems_cell (c : Value) (l : Location) :
    Patch.locationItems (.set [Spot.toValue ⟨some c, l⟩]) = .ok [l.toValue] := by
  have places : Patch.locations (.set [Spot.toValue ⟨some c, l⟩]) = .ok (.setOf [l.toValue]) := rfl
  rw [Patch.locationItems, places, setOf_singleton]
  rfl

theorem distance_cell (l k : Location) (c : Value) :
    Patch.distance (.set [l.toValue]) (.set [Spot.toValue ⟨some c, k⟩]) = .ok (l.distance k : Int) := by
  rw [Patch.distance, locationItems_cell]
  rfl

section

variable (order : VisitOrder) (depth : Nat)

theorem callIn_distanceFrom (serial serial' : Nat) (l k : Location) (c : Value) :
    Value.callIn order (depth + 1) (distanceFrom serial serial' l) [Spot.toValue ⟨some c, k⟩] =
      pure (.int (l.distance k)) := by
  have distance : Primitive.run (Value.callIn order depth) .distance
      [.set [l.toValue], .set [Spot.toValue ⟨some c, k⟩]] = pure (.int (l.distance k)) := by
    change Primitive.measure (Patch.distance _ _) = _
    rw [distance_cell]
    rfl
  rw [distanceFrom, Value.callIn, callWith_compose, callWith_prim, runIn_singleton, pure_bind, callWith_bindFirst,
    callWith_prim]
  exact runIn_eq_pure distance rfl

theorem gives_distanceMaker (l : Location) (s : Nat) :
    (Value.callIn order (depth + 1) distanceMaker [l.toValue]).Gives s (distanceFrom s (s + 1) l) (s + 2) := by
  rw [distanceMaker, Value.callIn, callWith_compose3, callWith_prim, runIn_singleton, pure_bind, callWith_bindFirst,
    callWith_prim]
  have fixed : (Primitive.runIn order (Value.callIn order depth) .bindFirst [.prim .distance, .set [l.toValue]]).Gives s
      (.bindFirst s 1 (.prim .distance) (.set [l.toValue])) (s + 1) := gives_runIn rfl rfl
  refine fixed.bind ?_
  rw [callWith_bindLast, callWith_prim]
  exact gives_runIn rfl rfl

end

/-! ## The nearest cell among the cells of a board -/

namespace Board

variable {g : Board Int} {cells cells' : Value}

/-- The cells of a board in the middle of a frame. -/
def IsFramedSpot (g : Board Int) : Spot → Prop :=
  Moved (Location.shift (1, 1)) (g.map Value.int).IsSpot

theorem isFramedSpot_iff {c : Value} {l : Location} : g.IsFramedSpot ⟨some c, l⟩ ↔
    g.Inside (Location.back (1, 1) l) ∧ c = .int (g.cell (Location.back (1, 1) l)) := by
  refine moved_isSpot.trans ?_
  rw [inside_map]
  refine and_congr_right fun inside => ?_
  rw [cell_map inside]

theorem exists_color_of_isFramedSpot {s : Spot} (h : g.IsFramedSpot s) : ∃ c, s.color = some c :=
  exists_color_of_moved (fun _ hs => ⟨_, hs.2⟩) h

/-- The nearest cell is found by its distance, in whatever order the cells are visited. -/
theorem bestBy_distanceFrom (figure : cells.IsFigure g.IsFramedSpot) (visits : cells'.IsOrderingOf cells)
    (order : VisitOrder) (depth serial serial' : Nat) (l : Location) :
    Function.bestBy (Value.callIn order (depth + 1)) Value.least cells' (distanceFrom serial serial' l) =
      pure (Spot.toValue ⟨some (.int (g.cell (g.nearest l))), Location.shift (1, 1) (g.nearest l)⟩) := by
  obtain ⟨spots, rfl, mem⟩ := figure.exists_visited visits
  have colored : ∀ v ∈ spots.map Spot.toValue, ∃ k, g.Inside k ∧
      v = Spot.toValue ⟨some (.int (g.cell k)), Location.shift (1, 1) k⟩ := by
    intro v hv
    obtain ⟨⟨color, k⟩, hs, rfl⟩ := List.mem_map.mp hv
    obtain ⟨c, rfl⟩ : ∃ c, color = some c := exists_color_of_isFramedSpot ((mem _).mp hs)
    obtain ⟨inside, rfl⟩ := isFramedSpot_iff.mp ((mem _).mp hs)
    exact ⟨_, inside, by rw [Location.shift_back]⟩
  refine bestBy_eq_of_least rfl (f := fun v => l.distance v.placeOf.toLocation) ?_ ?_ ?_
  · intro v hv
    obtain ⟨k, -, rfl⟩ := colored v hv
    exact callIn_distanceFrom order depth serial serial' l _ _
  · refine List.mem_map_of_mem ((mem _).mpr (isFramedSpot_iff.mpr ?_))
    rw [Location.back_shift]
    exact ⟨g.inside_nearest l, rfl⟩
  · intro v hv other
    obtain ⟨k, inside, rfl⟩ := colored v hv
    have apart : k ≠ g.nearest l := by
      rintro rfl
      exact other rfl
    exact Int.ofNat_lt.mpr (distance_nearest_lt inside apart)

theorem yields_nearestColor (figure : cells.IsFigure g.IsFramedSpot) (visits : cells'.IsOrderingOf cells)
    (order : VisitOrder) (depth : Nat) (l : Location) :
    (Value.callIn order (depth + 2) (nearestColor cells') [l.toValue]).Yields (.int (g.cell (g.nearest l))) := by
  intro s
  have found : Primitive.run (Value.callIn order (depth + 1)) .leastBy [cells', distanceFrom s (s + 1) l] =
      pure (Spot.toValue ⟨some (.int (g.cell (g.nearest l))), Location.shift (1, 1) (g.nearest l)⟩) :=
    bestBy_distanceFrom figure visits order depth s (s + 1) l
  refine ⟨s + 2, ?_⟩
  rw [nearestColor, Value.callIn, callWith_compose3]
  refine (gives_distanceMaker order (depth + 1) l s).bind ?_
  rw [callWith_bindFirst, callWith_prim, runIn_eq_pure found rfl, pure_bind, callWith_prim]
  exact gives_runIn rfl rfl

theorem yields_nearestSpot (figure : cells.IsFigure g.IsFramedSpot) (visits : cells'.IsOrderingOf cells)
    (order : VisitOrder) (depth : Nat) (l : Location) :
    (Value.callIn order (depth + 2) (nearestSpot cells') [l.toValue]).Yields
      (Spot.toValue ⟨some (.int (g.cell (g.nearest l))), l⟩) := by
  have place : Primitive.run (Value.callIn order (depth + 1)) .identity [l.toValue] = pure l.toValue := rfl
  have spot : Primitive.run (Value.callIn order (depth + 1)) .makePair [.int (g.cell (g.nearest l)), l.toValue] =
      pure (Spot.toValue ⟨some (.int (g.cell (g.nearest l))), l⟩) := rfl
  rw [nearestSpot, Value.callIn, callWith_fork]
  refine (yields_nearestColor figure visits order depth l).bind ?_
  rw [callWith_prim, runIn_eq_pure place rfl, pure_bind, callWith_prim, runIn_eq_pure spot rfl]
  exact yields_pure _

/-! ## The frame -/

/-- The box of a frame around the board. -/
def frameBox (g : Board Int) : Box :=
  ⟨0, 0, g.height + 1, g.width + 1⟩

/-- The locations of the frame, the corners apart. -/
def OnSide (g : Board Int) (l : Location) : Prop :=
  g.frameBox.OnBorder l ∧ ¬ g.frameBox.IsCorner l

/-- The sides of the frame in the colors of the nearest cells. -/
def IsSideSpot (g : Board Int) (s : Spot) : Prop :=
  g.OnSide s.place ∧ s.color = some (.int (g.cell (g.nearest s.place)))

theorem distinct_isSideSpot (g : Board Int) : Distinct g.IsSideSpot := by
  intro r s hr hs place
  cases r
  cases s
  cases place
  rw [Spot.mk.injEq]
  exact ⟨hr.2.trans hs.2.symm, rfl⟩

/-- The sides are colored one location after the other, in whatever order. -/
theorem exists_map_nearestSpot {sides sides' : Value} (figure : cells.IsFigure g.IsFramedSpot)
    (visits : cells'.IsOrderingOf cells) (h : sides.IsLocationSet g.OnSide) (visits' : sides'.IsOrderingOf sides)
    (order : VisitOrder) (depth : Nat) :
    ∃ object, (Function.map (Value.callIn order (depth + 2)) (nearestSpot cells') sides').Yields object ∧
      object.IsFigure g.IsSideSpot := by
  obtain ⟨ls, rfl, mem⟩ := h.exists_visited visits'
  let spot (l : Location) : Spot := ⟨some (.int (g.cell (g.nearest l))), l⟩
  have member : ∀ s, s ∈ ls.map spot ↔ g.IsSideSpot s := by
    intro s
    rw [List.mem_map]
    constructor
    · rintro ⟨l, hl, rfl⟩
      exact ⟨(mem l).mp hl, rfl⟩
    · obtain ⟨color, l⟩ := s
      rintro ⟨side, rfl : color = some (.int (g.cell (g.nearest l)))⟩
      exact ⟨l, (mem l).mpr side, rfl⟩
  have calls : ∀ x ∈ ls.map Location.toValue, (Value.callIn order (depth + 2) (nearestSpot cells') [x]).Yields
      (spot x.toLocation).toValue := by
    intro x hx
    obtain ⟨l, -, rfl⟩ := List.mem_map.mp hx
    exact yields_nearestSpot figure visits order depth l
  have results := yields_map_set calls
  rw [List.map_map] at results
  refine ⟨_, results, ?_⟩
  have listed : ls.map ((fun x : Value => (spot x.toLocation).toValue) ∘ Location.toValue) =
      (ls.map spot).map Spot.toValue := by
    rw [List.map_map]
    rfl
  rw [listed]
  refine (isFigure_setOf ?_ ?_).congr member
  · intro r hr s hs
    rw [((member r).mp hr).2, ((member s).mp hs).2]
    rfl
  · intro r hr s hs _ place
    exact g.distinct_isSideSpot r s ((member r).mp hr) ((member s).mp hs) place

/-! ## The board with its frame -/

/-- The empty board that the cells are written on. -/
def ground (g : Board Int) : Board Int :=
  uniform (Nat.succ_pos (g.height + 1)) (Nat.succ_pos (g.width + 1)) 0

theorem height_ground (g : Board Int) : g.ground.height = g.height + 2 := by
  simp [ground, uniform, tabulate, height]

theorem width_ground (g : Board Int) : g.ground.width = g.width + 2 :=
  rfl

instance (box : Box) (l : Location) : Decidable (box.IsCorner l) :=
  inferInstanceAs (Decidable (_ ∧ _))

/-- The board in a frame in the colors of the nearest cells, with empty corners. -/
def framed (g : Board Int) : Board Int :=
  g.ground.redraw fun l => if g.frameBox.IsCorner l then 0 else g.cell (g.nearest l)

theorem inside_ground_iff {l : Location} : g.ground.Inside l ↔ g.frameBox.Holds l := by
  simp only [Inside, Box.Holds, frameBox, height_ground, width_ground]
  omega

theorem inside_back_iff {l : Location} :
    g.Inside (Location.back (1, 1) l) ↔ g.frameBox.Holds l ∧ ¬ g.frameBox.OnBorder l := by
  simp only [Inside, Location.back, Box.Holds, Box.OnBorder, frameBox]
  omega

theorem cell_ground {l : Location} (inside : g.ground.Inside l) : g.ground.cell l = 0 :=
  cell_tabulate _ _ ((inside_tabulate_iff _ _).mp inside)

theorem onBorder_of_isCorner {l : Location} (h : g.frameBox.IsCorner l) : g.frameBox.OnBorder l := by
  simp only [Box.IsCorner, Box.OnBorder, frameBox] at h ⊢
  omega

theorem cell_framed {l : Location} (inside : g.ground.Inside l) :
    g.framed.cell l = if g.frameBox.IsCorner l then 0 else g.cell (g.nearest l) :=
  cell_redraw inside

/-- The cells of the board written in the middle, and then the sides of the frame, make the board with its frame. -/
theorem eq_framed {inner out : Board Value} (wrote : (g.ground.map Value.int).Wrote g.IsFramedSpot inner)
    (wrote' : inner.Wrote g.IsSideSpot out) : out = g.framed.map Value.int := by
  refine ext_cell (by simp [framed, wrote'.height, wrote.height]) (by simp [framed, wrote'.width, wrote.width]) ?_
  intro l hl
  have inside' : inner.Inside l := by rwa [Inside, ← wrote'.height, ← wrote'.width]
  have onGround : (g.ground.map Value.int).Inside l := by rwa [Inside, ← wrote.height, ← wrote.width]
  have inside : g.ground.Inside l := inside_map.mp onGround
  have result : (g.framed.map Value.int).cell l = .int (g.framed.cell l) := cell_map (inside_redraw.mpr inside)
  rw [result, cell_framed inside]
  by_cases border : g.frameBox.OnBorder l
  · have outside : ∀ c, ¬ g.IsFramedSpot ⟨some c, l⟩ := fun c spot =>
      (inside_back_iff.mp (isFramedSpot_iff.mp spot).1).2 border
    by_cases corner : g.frameBox.IsCorner l
    · have apart : ∀ c, ¬ g.IsSideSpot ⟨some c, l⟩ := fun c spot => spot.1.2 corner
      rw [if_pos corner, wrote'.kept l inside' apart, wrote.kept l onGround outside, cell_map inside]
      exact congrArg Value.int (cell_ground inside)
    · rw [if_neg corner]
      exact wrote'.written _ l inside' ⟨⟨border, corner⟩, rfl⟩
  · have middle : g.Inside (Location.back (1, 1) l) := inside_back_iff.mpr ⟨inside_ground_iff.mp inside, border⟩
    have near : g.nearest l = Location.back (1, 1) l := nearest_of_inside middle
    have apart : ∀ c, ¬ g.IsSideSpot ⟨some c, l⟩ := fun c spot => border spot.1.1
    rw [if_neg fun corner => border (onBorder_of_isCorner corner), near, wrote'.kept l inside' apart]
    exact wrote.written _ l onGround (isFramedSpot_iff.mpr ⟨middle, rfl⟩)

/-! ## The locations of the frame -/

theorem exists_allLocations (b : Board Value) :
    ∃ places, Grid.allLocations b.toValue = .ok places ∧ places.IsLocationSet b.Inside := by
  obtain ⟨row, hrow, hwidth⟩ := b.exists_first_row
  have rows : ((List.range b.height).mapM fun (i : Nat) => do
      let width ← (← b.toValue.nth 0).size
      return (List.range width).map fun (j : Nat) => Value.location i j) =
        (pure ((List.range b.height).map fun (i : Nat) => (List.range b.width).map fun (j : Nat) => .location i j) :
          Outcome (List (List Value))) := by
    refine mapM_eq_pure_map fun i _ => ?_
    rw [hrow, Outcome.ok_bind, hwidth, Outcome.ok_bind]
  refine ⟨.setOf ((Location.all b.height b.width).map Location.toValue), ?_, isLocationSet_setOf fun _ => mem_all_iff⟩
  rw [Grid.allLocations, size_toValue, Outcome.ok_bind, rows, pure_bind, Location.all, List.map_flatMap,
    ← List.flatMap_def]
  simp only [List.map_map]
  rfl

theorem box_ground (g : Board Int) : (g.ground.map Value.int).box = g.frameBox := by
  have bottom : ((g.height + 2 : Nat) : Int) - 1 = g.height + 1 := by omega
  have right : ((g.width + 2 : Nat) : Int) - 1 = g.width + 1 := by omega
  rw [box, frameBox, height_map, width_map, height_ground, width_ground, bottom, right]

theorem proper_frameBox (g : Board Int) : g.frameBox.Proper := by
  unfold Box.Proper frameBox
  dsimp only
  omega

/-- The function that gives the border of the box of some locations without its corners. -/
def sideFinder : Value :=
  .fork 0 (.prim .without) (.prim .ring) (.prim .corners)

/-- The sides are found in whatever order the locations, the border and the corners are visited. -/
theorem exists_sideFinder {all all' : Value} (places : all.IsLocationSet (g.ground.map Value.int).Inside)
    (visits : all'.IsOrderingOf all) (order : VisitOrder) (depth : Nat) :
    ∃ sides sides', Value.callIn order (depth + 1) sideFinder [all'] = pure sides' ∧ sides.IsLocationSet g.OnSide ∧
      sides'.IsOrderingOf sides := by
  have bounds := (g.ground.map Value.int).bounds_inside
  rw [box_ground] at bounds
  obtain ⟨ring, hring, border⟩ := places.exists_ring_arranged visits bounds
  obtain ⟨corners, hcorners, corner⟩ := (places.visits_arranged visits).exists_corners bounds
  rw [Box.grown_zero g.proper_frameBox] at border
  obtain ⟨ring', runRing, visitsRing⟩ :=
    order.exists_runIn (Value.callIn order depth) .ring [all'] (lift_ok hring) border
  obtain ⟨corners', runCorners, visitsCorners⟩ :=
    order.exists_runIn (Value.callIn order depth) .corners [all'] (lift_ok hcorners) corner
  obtain ⟨sides, hsides, side⟩ := border.exists_without_arranged visitsRing corner visitsCorners
  obtain ⟨sides', runSides, visitsSides⟩ :=
    order.exists_runIn (Value.callIn order depth) .without [ring', corners'] (lift_ok hsides) side
  refine ⟨sides, sides', ?_, side, visitsSides⟩
  rw [sideFinder, Value.callIn, callWith_fork, callWith_prim, callWith_prim, runRing, pure_bind, runCorners, pure_bind,
    callWith_prim, runSides]

/-! ## The program -/

theorem program_framing : Task.program? "49d1d64f" = some Task.task49d1d64f := by
  decide +kernel

/-- In every order of visits the program gives the board with its frame. -/
theorem runIn_framing (g : Board Int) (order : VisitOrder) :
    Task.task49d1d64f.runIn order g.grid = .ok g.framed.grid := by
  obtain ⟨whole, hwhole, figure⟩ := (g.map Value.int).exists_gridObject
  obtain ⟨whole', runWhole, visitsWhole⟩ :=
    order.exists_runIn (Value.callIn order 999) .gridObject [g.grid] (lift_ok hwhole) figure.isSetOf
  obtain ⟨l₀, hl₀⟩ := (g.map Value.int).bounds_box.exists_location
  obtain ⟨s₀, hs₀, -⟩ := hl₀
  obtain ⟨cells, hcells, middle⟩ := figure.exists_shift_arranged ⟨s₀, hs₀⟩ visitsWhole (1, 1)
  obtain ⟨cells', runCells, visitsCells⟩ :=
    order.exists_runIn (Value.callIn order 999) .shift [whole', .location 1 1] (lift_ok hcells) middle.isSetOf
  obtain ⟨inner, wrote, paints⟩ := exists_paint_toValue middle (fun _ => exists_color_of_isFramedSpot)
    ((g.map Value.int).distinct_isSpot.moved (Location.shift_injective (1, 1))) (g.ground.map Value.int)
  obtain ⟨all, hall, places⟩ := (g.ground.map Value.int).exists_allLocations
  obtain ⟨all', runAll, visitsAll⟩ :=
    order.exists_runIn (Value.callIn order 999) .allLocations [g.ground.grid] (lift_ok hall) places
  obtain ⟨sides, sides', runSides, side, visitsSides⟩ := exists_sideFinder places visitsAll order 999
  obtain ⟨object, yields, colored⟩ := exists_map_nearestSpot middle visitsCells side visitsSides order 997
  obtain ⟨t, mapped⟩ := yields 7
  obtain ⟨object', givesObject, visitsObject⟩ := order.exists_gives_runIn (Value.callIn order 999) .map
    [nearestSpot cells', sides'] mapped colored.isSetOf
  obtain ⟨out, wrote', paints'⟩ :=
    exists_paint_toValue colored (fun s hs => ⟨_, hs.2⟩) g.distinct_isSideSpot inner
  have result : out.toValue = g.framed.grid := by rw [eq_framed wrote wrote', grid]
  refine Program.runIn_eq_ok (t := t) ?_
  refine Program.gives_cons_in (v := .location g.height g.width) (t := 0) (gives_call_in rfl ?_) ?_
  · exact gives_runIn (gives_lift g.shape_grid 0) rfl
  refine Program.gives_cons_in (v := .location (g.height + 2) (g.width + 2)) (t := 0) (gives_call_in rfl ?_) ?_
  · exact gives_runIn rfl rfl
  refine Program.gives_cons_in (v := g.ground.grid) (t := 0) (gives_call_in rfl ?_) ?_
  · exact gives_runIn (gives_lift (canvas_uniform _ _ 0) 0) rfl
  refine Program.gives_cons_in (v := whole') (t := 0) (gives_call_in rfl (gives_of_eq_pure runWhole 0)) ?_
  refine Program.gives_cons_in (v := cells') (t := 0) (gives_call_in rfl (gives_of_eq_pure runCells 0)) ?_
  refine Program.gives_cons_in (v := inner.toValue) (t := 0) (gives_call_in rfl ?_) ?_
  · exact gives_runIn (gives_lift (paints cells' visitsCells) 0) rfl
  refine Program.gives_cons_in (v := all') (t := 0) (gives_call_in rfl (gives_of_eq_pure runAll 0)) ?_
  refine Program.gives_cons_in (v := sideFinder) (t := 1) (gives_call_in rfl (gives_runIn rfl rfl)) ?_
  refine Program.gives_cons_in (v := sides') (t := 1) (gives_callResult_in rfl rfl (gives_of_eq_pure runSides 1)) ?_
  -- The results so far are written as one list, or each later step would have to append them anew.
  simp only [List.nil_append, List.cons_append]
  refine Program.gives_cons_in (v := .bindFirst 1 1 (.prim .bindFirst) (.prim .distance)) (t := 2)
    (gives_call_in rfl (gives_runIn rfl rfl)) ?_
  refine Program.gives_cons_in (v := .bindLast 2 1 (.prim .compose) (.prim .singleton)) (t := 3)
    (gives_call_in rfl (gives_runIn rfl rfl)) ?_
  refine Program.gives_cons_in (v := distanceMaker) (t := 4) (gives_call_in rfl (gives_runIn rfl rfl)) ?_
  refine Program.gives_cons_in (v := .bindFirst 4 1 (.prim .leastBy) cells') (t := 5)
    (gives_call_in rfl (gives_runIn rfl rfl)) ?_
  refine Program.gives_cons_in (v := nearestColor cells') (t := 6) (gives_call_in rfl (gives_runIn rfl rfl)) ?_
  refine Program.gives_cons_in (v := nearestSpot cells') (t := 7) (gives_call_in rfl (gives_runIn rfl rfl)) ?_
  refine Program.gives_cons_in (v := object') (t := t) (gives_call_in rfl givesObject) ?_
  refine Program.gives_cons_in (v := g.framed.grid) (t := t) (gives_call_in rfl ?_) ?_
  · rw [← result]
    exact gives_runIn (gives_lift (paints' object' visitsObject) t) rfl
  exact Program.gives_nil_in rfl t

/-- A location of the frame that is not a corner has the color of the nearest cell. -/
theorem cell_framed_eq {i j i' j' : Int} (row : 0 ≤ i ∧ i ≤ g.height + 1) (column : 0 ≤ j ∧ j ≤ g.width + 1)
    (corner : ¬ ((i = 0 ∨ i = g.height + 1) ∧ (j = 0 ∨ j = g.width + 1)))
    (near : max 0 (min (i - 1) (g.height - 1)) = i') (near' : max 0 (min (j - 1) (g.width - 1)) = j') :
    g.framed.cell (i, j) = g.cell (i', j') := by
  have inside : g.ground.Inside (i, j) := inside_ground_iff.mpr ⟨row, column⟩
  have apart : ¬ g.frameBox.IsCorner (i, j) := corner
  have nearest : g.nearest (i, j) = (i', j') := Prod.ext near near'
  rw [cell_framed inside, if_neg apart, nearest]

theorem cell_framed_of_isCorner {l : Location} (corner : g.frameBox.IsCorner l) : g.framed.cell l = 0 := by
  have holds : g.frameBox.Holds l := by
    simp only [Box.IsCorner, Box.Holds, frameBox] at corner ⊢
    omega
  rw [cell_framed (inside_ground_iff.mpr holds), if_pos corner]

/-- **The program of task `49d1d64f` puts a frame around a grid.** For every grid of integers the result has two more
rows and two more columns. The grid stands in its middle, its four corners are zero, and each other cell of its border
has the color of the cell of the grid that is next to it. This holds in every order in which the members of the sets
are visited that the program makes on its way. -/
theorem frames_grid_in_the_colors_of_its_border (g : Board Int) :
    ∃ (program : Program) (out : Board Int), Task.program? "49d1d64f" = some program ∧
      Task.solve "49d1d64f" g.grid = .ok out.grid ∧
      (∀ order : VisitOrder, program.runIn order g.grid = .ok out.grid) ∧
      out.height = g.height + 2 ∧ out.width = g.width + 2 ∧
      (∀ i j : Int, g.Inside (i, j) → out.cell (i + 1, j + 1) = g.cell (i, j)) ∧
      (out.cell (0, 0) = 0 ∧ out.cell (0, g.width + 1) = 0 ∧
        out.cell (g.height + 1, 0) = 0 ∧ out.cell (g.height + 1, g.width + 1) = 0) ∧
      (∀ j : Int, 0 ≤ j → j < g.width →
        out.cell (0, j + 1) = g.cell (0, j) ∧ out.cell (g.height + 1, j + 1) = g.cell (g.height - 1, j)) ∧
      (∀ i : Int, 0 ≤ i → i < g.height →
        out.cell (i + 1, 0) = g.cell (i, 0) ∧ out.cell (i + 1, g.width + 1) = g.cell (i, g.width - 1)) := by
  have hheight := g.height_pos
  have hwidth := g.width_pos
  refine ⟨Task.task49d1d64f, g.framed, program_framing, ?_, g.runIn_framing, ?_, rfl, ?_, ?_, ?_, ?_⟩
  · rw [Task.solve_eq_run program_framing, ← Program.runIn_sorted, runIn_framing]
  · rw [framed, height_redraw, height_ground]
  · intro i j inside
    obtain ⟨hi, hj⟩ := inside
    dsimp only at hi hj
    apply cell_framed_eq <;> omega
  · refine ⟨?_, ?_, ?_, ?_⟩
    · exact cell_framed_of_isCorner ⟨.inl rfl, .inl rfl⟩
    · exact cell_framed_of_isCorner ⟨.inl rfl, .inr rfl⟩
    · exact cell_framed_of_isCorner ⟨.inr rfl, .inl rfl⟩
    · exact cell_framed_of_isCorner ⟨.inr rfl, .inr rfl⟩
  · intro j nonneg less
    constructor
    · apply cell_framed_eq <;> omega
    · apply cell_framed_eq <;> omega
  · intro i nonneg less
    constructor
    · apply cell_framed_eq <;> omega
    · apply cell_framed_eq <;> omega

end Board

end GridPuzzle
