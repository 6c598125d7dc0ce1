import Chip8.Proofs.Operation
import Mathlib.Data.List.Nodup
/-!
What drawing a sprite changes, cell by cell. No cell stands twice in a sprite, so each one that is on the
screen is turned over once, and whether it was lit is seen before the draw has changed it.
-/

namespace Chip8

/-! ### The cells of a sprite -/

theorem mem_spriteCells {x y : Nat} {rows : List UInt8} {column row : Nat} :
    (column, row) ∈ spriteCells x y rows ↔
      x ≤ column ∧ y ≤ row ∧
        ∃ bits, rows[row - y]? = some bits ∧ spriteBit bits (column - x) = true := by
  simp only [spriteCells, List.mem_flatMap, List.mem_map, List.mem_filter, List.mem_range,
    Prod.mk.injEq]
  constructor
  · rintro ⟨⟨bits, number⟩, listed, place, ⟨_, set⟩, rfl, rfl⟩
    rw [Nat.add_sub_cancel_left, Nat.add_sub_cancel_left]
    exact ⟨Nat.le_add_right x place, Nat.le_add_right y number, bits,
      List.mem_zipIdx_iff_getElem?.mp listed, set⟩
  · rintro ⟨right, below, bits, listed, set⟩
    have near : column - x < 8 := by
      rw [spriteBit, Bool.and_eq_true, decide_eq_true_iff] at set
      exact set.1
    exact ⟨(bits, row - y), List.mem_zipIdx_iff_getElem?.mpr listed, column - x, ⟨near, set⟩,
      Nat.add_sub_cancel' right, Nat.add_sub_cancel' below⟩

theorem nodup_spriteCells (x y : Nat) (rows : List UInt8) : (spriteCells x y rows).Nodup := by
  refine List.nodup_flatMap.mpr ⟨?_, ?_⟩
  · intro numbered _
    refine (List.nodup_range.filter _).map ?_
    intro first second same
    exact Nat.add_left_cancel (Prod.mk.inj same).1
  · have numbers : (rows.zipIdx.map Prod.snd).Nodup := by
      rw [List.zipIdx_map_snd]
      exact List.nodup_range'
    refine (List.pairwise_map.mp numbers).imp ?_
    rintro first second different cell inFirst inSecond
    obtain ⟨_, _, rfl⟩ := List.mem_map.mp inFirst
    obtain ⟨_, _, same⟩ := List.mem_map.mp inSecond
    exact different (Nat.add_left_cancel (Prod.mk.inj same).2).symm

/-! ### Turning cells over -/

namespace Screen

variable (screen : Screen)

theorem get_flip {cells : List (Nat × Nat)} (distinct : cells.Nodup) (column row : Nat) :
    (screen.flip cells).1.pixels.get column row =
      (screen.pixels.get column row ^^ decide (OnScreen column row ∧ (column, row) ∈ cells)) := by
  induction cells generalizing screen with
  | nil => simp [flip]
  | cons cell rest ih =>
      obtain ⟨x, y⟩ := cell
      obtain ⟨new, distinct⟩ := List.nodup_cons.mp distinct
      rw [flip]
      dsimp only
      rw [ih _ distinct]
      change ((screen.toggle x y).pixels.get column row ^^ _) = _
      rw [get_toggle]
      by_cases here : column = x ∧ row = y
      · obtain ⟨rfl, rfl⟩ := here
        by_cases inside : OnScreen column row <;> simp [inside, new]
      · simp [here]

theorem marked_flip (cells : List (Nat × Nat)) (column row : Nat) :
    (screen.flip cells).1.marked.get column row =
      (screen.marked.get column row || decide (OnScreen column row ∧ (column, row) ∈ cells)) := by
  induction cells generalizing screen with
  | nil => simp [flip]
  | cons cell rest ih =>
      obtain ⟨x, y⟩ := cell
      rw [flip]
      dsimp only
      rw [ih, get_mark]
      by_cases here : column = x ∧ row = y
      · obtain ⟨rfl, rfl⟩ := here
        by_cases inside : OnScreen column row <;> simp [inside, toggle]
      · simp [here, toggle]

theorem allDue_flip (cells : List (Nat × Nat)) :
    (screen.flip cells).1.allDue = screen.allDue := by
  induction cells generalizing screen with
  | nil => rfl
  | cons cell rest ih => exact ih _

theorem flip_hit {cells : List (Nat × Nat)} (distinct : cells.Nodup) :
    (screen.flip cells).2 = true ↔ ∃ cell ∈ cells, screen.pixels.get cell.1 cell.2 = true := by
  induction cells generalizing screen with
  | nil => simp [flip]
  | cons cell rest ih =>
      obtain ⟨x, y⟩ := cell
      obtain ⟨new, distinct⟩ := List.nodup_cons.mp distinct
      have later : ∀ cell ∈ rest, (screen.toggle x y).pixels.get cell.1 cell.2 =
          screen.pixels.get cell.1 cell.2 := by
        intro cell listed
        rw [get_toggle, if_neg]
        rintro ⟨_, rfl, rfl⟩
        exact new listed
      rw [flip]
      dsimp only
      rw [Bool.or_eq_true, ih _ distinct, List.exists_mem_cons_iff]
      refine or_congr Iff.rfl (exists_congr fun cell => and_congr_right fun listed => ?_)
      rw [← later cell listed]
      rfl

end Screen

/-! ### A draw -/

namespace Machine

/-- The cell is on the screen, and the sprite at the index register, with its corner where the two registers
say, has a set bit over it. Column zero of a row of the sprite is its most significant bit. -/
def Touches (machine : Machine) (x y : Nat) (rows : UInt8) (column row : Nat) : Prop :=
  let left := (machine.registers.value x).toNat
  let top := (machine.registers.value y).toNat
  OnScreen column row ∧
    (left ≤ column ∧ column < left + 8) ∧ (top ≤ row ∧ row < top + rows.toNat) ∧
    (machine.memory.byteAt (machine.registers.index.toNat + (row - top))).toNat.testBit
      (7 - (column - left)) = true

instance (machine : Machine) (x y : Nat) (rows : UInt8) (column row : Nat) :
    Decidable (machine.Touches x y rows column row) :=
  inferInstanceAs (Decidable (_ ∧ _))

def Collides (machine : Machine) (x y : Nat) (rows : UInt8) : Prop :=
  ∃ column row, machine.Touches x y rows column row ∧
    machine.screen.pixels.get column row = true

variable (machine : Machine) (x y : Nat) (rows : UInt8)

theorem onScreen_mem_spriteCells_iff (column row : Nat) :
    OnScreen column row ∧
        (column, row) ∈ spriteCells (machine.registers.value x).toNat
          (machine.registers.value y).toNat
          (machine.memory.bytesFrom machine.registers.index.toNat rows.toNat) ↔
      machine.Touches x y rows column row := by
  rw [mem_spriteCells, Touches]
  refine and_congr_right fun _ => ?_
  constructor
  · rintro ⟨right, below, bits, listed, set⟩
    obtain ⟨near, bit⟩ := (Bool.and_eq_true _ _).mp set
    have above : row - (machine.registers.value y).toNat < rows.toNat := by
      have bound := (List.getElem?_eq_some_iff.mp listed).1
      rwa [Memory.length_bytesFrom] at bound
    rw [Memory.getElem?_bytesFrom _ _ above] at listed
    rw [Option.some.inj listed]
    have width := of_decide_eq_true near
    exact ⟨⟨right, by omega⟩, ⟨below, by omega⟩, bit⟩
  · rintro ⟨⟨right, near⟩, ⟨below, above⟩, bit⟩
    refine ⟨right, below, _, Memory.getElem?_bytesFrom _ _ (by omega), ?_⟩
    exact (Bool.and_eq_true _ _).mpr ⟨decide_eq_true (by omega), bit⟩

theorem get_drawn (column row : Nat) :
    (machine.drawn x y rows).1.pixels.get column row =
      (machine.screen.pixels.get column row ^^ decide (machine.Touches x y rows column row)) := by
  simp only [← onScreen_mem_spriteCells_iff]
  exact machine.screen.get_flip (nodup_spriteCells _ _ _) column row

theorem marked_drawn (column row : Nat) :
    (machine.drawn x y rows).1.marked.get column row =
      (machine.screen.marked.get column row || decide (machine.Touches x y rows column row)) := by
  simp only [← onScreen_mem_spriteCells_iff]
  exact machine.screen.marked_flip _ column row

theorem drawn_hit : (machine.drawn x y rows).2 = true ↔ machine.Collides x y rows := by
  refine (machine.screen.flip_hit (nodup_spriteCells _ _ _)).trans ?_
  constructor
  · rintro ⟨⟨column, row⟩, listed, lit⟩
    have inside : OnScreen column row := by
      by_contra outside
      rw [Grid.get_of_not_onScreen _ outside] at lit
      cases lit
    exact ⟨column, row, (machine.onScreen_mem_spriteCells_iff x y rows column row).mp
      ⟨inside, listed⟩, lit⟩
  · rintro ⟨column, row, touches, lit⟩
    exact ⟨(column, row),
      ((machine.onScreen_mem_spriteCells_iff x y rows column row).mpr touches).2, lit⟩

theorem perform_draw {x y : Nat} (xInside : x < 16) (yInside : y < 16)
    (fits : machine.registers.index.toNat + rows.toNat ≤ 4096) :
    machine.perform (execute (.draw x y rows)) = (.ok (), machine.update (.draw x y rows)) := by
  have readable : Memory.fault? machine.registers.index rows.toNat = none := if_pos fits
  have passed : machine.fault? (.draw x y rows) = none := by
    rw [fault?, Registers.fault?_of_lt xInside, Registers.fault?_of_lt yInside, readable]
    rfl
  rw [perform_execute, passed]

theorem value_draw (other : Nat) :
    (machine.registersAfter (.draw x y rows)).value other =
      if other = Registers.flag then (if (machine.drawn x y rows).2 then 1 else 0)
      else machine.registers.value other :=
  machine.registers.value_put (by decide : Registers.flag < 16) _ other

/-- A draw from inside the memory turns over the cells that the sprite touches and marks them, and leaves
all other cells alone; what would fall outside the screen is left out. The flag tells whether a touched
cell was lit before, also where a coordinate was read from it. The program counter goes on, and nothing
else changes. -/
theorem draw_composites (machine : Machine) {x y : Nat} (rows : UInt8) (xInside : x < 16)
    (yInside : y < 16) (fits : machine.registers.index.toNat + rows.toNat ≤ 4096) :
    ∃ after, machine.perform (execute (.draw x y rows)) = (.ok (), after) ∧
      (∀ column row, after.screen.pixels.get column row =
        (machine.screen.pixels.get column row ^^
          decide (machine.Touches x y rows column row))) ∧
      (∀ column row, after.screen.marked.get column row =
        (machine.screen.marked.get column row ||
          decide (machine.Touches x y rows column row))) ∧
      after.screen.allDue = machine.screen.allDue ∧
      (machine.Collides x y rows → after.registers.value Registers.flag = 1) ∧
      (¬machine.Collides x y rows → after.registers.value Registers.flag = 0) ∧
      (∀ other, other ≠ Registers.flag →
        after.registers.value other = machine.registers.value other) ∧
      after.registers.pc.toNat = (machine.registers.pc.toNat + 2) % 4096 ∧
      after = { machine with
        screen := after.screen
        registers := { machine.registers with
          v := after.registers.v
          pc := after.registers.pc } } := by
  refine ⟨_, machine.perform_draw rows xInside yInside fits, machine.get_drawn x y rows,
    machine.marked_drawn x y rows, machine.screen.allDue_flip _, ?_, ?_, ?_, ?_, rfl⟩
  · intro collides
    have hit := (machine.drawn_hit x y rows).mpr collides
    exact (machine.value_draw x y rows Registers.flag).trans (by rw [if_pos rfl, if_pos hit])
  · intro free
    have missed : ¬(machine.drawn x y rows).2 = true := fun hit =>
      free ((machine.drawn_hit x y rows).mp hit)
    exact (machine.value_draw x y rows Registers.flag).trans (by rw [if_pos rfl, if_neg missed])
  · intro other different
    exact (machine.value_draw x y rows other).trans (if_neg different)
  · exact Registers.toNat_advance_pc _ 1

/-- The digit zero in the lower right corner, with its row read from the flag register: all but three of
its set bits fall outside, and one of the three meets a lit pixel. -/
theorem draw_cuts_digit_at_corner :
    let machine := (powerOn 0).afterOperations
      [.execute (.setByte 0 62), .execute (.setByte 15 30), .screen (.toggle 63 30)]
    machine.registers.index.toNat + (5 : UInt8).toNat ≤ 4096 ∧
      ∃ after, machine.perform (execute (.draw 0 15 5)) = (.ok (), after) ∧
        after.screen.pixels.get 62 30 = true ∧ after.screen.pixels.get 63 30 = false ∧
        after.screen.pixels.get 62 31 = true ∧ after.screen.pixels.get 0 30 = false ∧
        after.registers.value 15 = 1 ∧ after.registers.pc.toNat = 0x206 := by
  intro machine
  have facts : machine.registers.index.toNat + (5 : UInt8).toNat ≤ 4096 ∧
      machine.registers.pc.toNat = 0x204 ∧
      (machine.Touches 0 15 5 62 30 ∧ machine.screen.pixels.get 62 30 = false) ∧
      (machine.Touches 0 15 5 63 30 ∧ machine.screen.pixels.get 63 30 = true) ∧
      (machine.Touches 0 15 5 62 31 ∧ machine.screen.pixels.get 62 31 = false) ∧
      (¬machine.Touches 0 15 5 0 30 ∧ machine.screen.pixels.get 0 30 = false) := by
    decide +kernel
  clear_value machine
  obtain ⟨fits, start, left, right, lower, opposite⟩ := facts
  obtain ⟨after, performed, pixels, _, _, hit, _, _, goesOn, _⟩ :=
    draw_composites machine 5 (by decide : 0 < 16) (by decide : 15 < 16) fits
  refine ⟨fits, after, performed, ?_, ?_, ?_, ?_, hit ⟨63, 30, right⟩, ?_⟩
  · rw [pixels, left.2, decide_eq_true left.1]
    rfl
  · rw [pixels, right.2, decide_eq_true right.1]
    rfl
  · rw [pixels, lower.2, decide_eq_true lower.1]
    rfl
  · rw [pixels, opposite.2, decide_eq_false opposite.1]
    rfl
  · rw [goesOn, start]

end Machine

end Chip8
