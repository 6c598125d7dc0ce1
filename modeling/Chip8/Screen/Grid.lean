/-!
A switch for each of the 64 by 32 cells of the picture. Coordinates are unbounded; outside the
picture every cell reads as off, and writing there does nothing.
-/

namespace Chip8

def screenWidth : Nat := 64

def screenHeight : Nat := 32

def OnScreen (x y : Nat) : Prop :=
  x < screenWidth ∧ y < screenHeight

instance (x y : Nat) : Decidable (OnScreen x y) :=
  inferInstanceAs (Decidable (_ ∧ _))

/-- All cells row by row from the top, each row from the left. -/
def positions : List (Nat × Nat) :=
  (List.range screenHeight).flatMap fun y => (List.range screenWidth).map fun x => (x, y)

/-- The cells are kept row by row, as `positions` lists them. -/
structure Grid where
  cells : Vector Bool 2048
  deriving DecidableEq, Repr

namespace Grid

def blank : Grid := ⟨Vector.replicate 2048 false⟩

instance : Inhabited Grid := ⟨blank⟩

def offset (x y : Nat) : Nat :=
  screenWidth * y + x

def get (grid : Grid) (x y : Nat) : Bool :=
  if OnScreen x y then (grid.cells[offset x y]?).getD false else false

def set (grid : Grid) (x y : Nat) (on : Bool) : Grid :=
  if OnScreen x y then ⟨grid.cells.setIfInBounds (offset x y) on⟩ else grid

theorem offset_lt {x y : Nat} (inside : OnScreen x y) : offset x y < 2048 := by
  obtain ⟨left, above⟩ := inside
  simp only [offset, screenWidth, screenHeight] at *
  omega

theorem offset_injective {x y column row : Nat} (first : OnScreen x y)
    (second : OnScreen column row) (same : offset x y = offset column row) :
    x = column ∧ y = row := by
  obtain ⟨left, above⟩ := first
  obtain ⟨otherLeft, otherAbove⟩ := second
  simp only [offset, screenWidth, screenHeight] at *
  omega

theorem get_of_not_onScreen (grid : Grid) {x y : Nat} (outside : ¬OnScreen x y) :
    grid.get x y = false :=
  if_neg outside

theorem set_of_not_onScreen (grid : Grid) {x y : Nat} (outside : ¬OnScreen x y) (on : Bool) :
    grid.set x y on = grid :=
  if_neg outside

@[simp] theorem get_blank (x y : Nat) : blank.get x y = false := by
  by_cases inside : OnScreen x y
  · have bound := offset_lt inside
    simp [get, blank, inside, bound]
  · exact get_of_not_onScreen _ inside

theorem get_set (grid : Grid) (x y : Nat) (on : Bool) (column row : Nat) :
    (grid.set x y on).get column row =
      if OnScreen x y ∧ column = x ∧ row = y then on else grid.get column row := by
  by_cases inside : OnScreen x y
  · by_cases otherInside : OnScreen column row
    · have bound := offset_lt otherInside
      by_cases same : column = x ∧ row = y
      · obtain ⟨rfl, rfl⟩ := same
        simp [get, set, inside, bound]
      · have different : offset x y ≠ offset column row := by
          intro equal
          obtain ⟨rfl, rfl⟩ := offset_injective inside otherInside equal
          exact same ⟨rfl, rfl⟩
        simp [get, set, inside, otherInside, same, different]
    · have different : ¬(column = x ∧ row = y) := by
        rintro ⟨rfl, rfl⟩
        exact otherInside inside
      simp [get_of_not_onScreen _ otherInside, different]
  · simp [set_of_not_onScreen _ inside, inside]

theorem ext_get {first second : Grid}
    (same : ∀ x y, OnScreen x y → first.get x y = second.get x y) : first = second := by
  obtain ⟨firstCells⟩ := first
  obtain ⟨secondCells⟩ := second
  congr 1
  apply Vector.ext
  intro place bound
  have inside : OnScreen (place % 64) (place / 64) := by
    simp only [OnScreen, screenWidth, screenHeight]
    omega
  have back : offset (place % 64) (place / 64) = place := by
    simp only [offset, screenWidth]
    omega
  have equal := same _ _ inside
  simpa [get, inside, back, bound] using equal

end Grid

theorem mem_positions {x y : Nat} : (x, y) ∈ positions ↔ OnScreen x y := by
  simp only [positions, List.mem_flatMap, List.mem_map, List.mem_range, Prod.mk.injEq, OnScreen]
  constructor
  · rintro ⟨row, below, column, left, rfl, rfl⟩
    exact ⟨left, below⟩
  · rintro ⟨left, below⟩
    exact ⟨y, below, x, left, rfl, rfl⟩

end Chip8
