import Chip8.Proofs.Drawing
/-!
Sprites drawn one after the other. A cell ends up inverted if an odd number of them cover it, so their
order does not matter, and what is drawn twice is gone again. The flag of a draw tells whether the sprite
has met a lit cell, which for a sprite drawn again is one that it has lit the time before.
-/

namespace Chip8

/-! ### Sprites in memory -/

/-- Rows of eight bits in memory, and the place for their top left corner. -/
structure Sprite where
  column : UInt8
  row : UInt8
  address : UInt16
  rows : UInt8
  deriving DecidableEq, Repr

namespace Sprite

def InMemory (sprite : Sprite) : Prop :=
  sprite.address.toNat + sprite.rows.toNat ≤ 4096

instance (sprite : Sprite) : Decidable sprite.InMemory :=
  inferInstanceAs (Decidable (_ ≤ _))

def Covers (sprite : Sprite) (memory : Memory) (column row : Nat) : Prop :=
  OnScreen column row ∧
    (sprite.column.toNat ≤ column ∧ column < sprite.column.toNat + 8) ∧
    (sprite.row.toNat ≤ row ∧ row < sprite.row.toNat + sprite.rows.toNat) ∧
    (memory.byteAt (sprite.address.toNat + (row - sprite.row.toNat))).toNat.testBit
      (7 - (column - sprite.column.toNat)) = true

instance (sprite : Sprite) (memory : Memory) (column row : Nat) :
    Decidable (sprite.Covers memory column row) :=
  inferInstanceAs (Decidable (_ ∧ _))

def coverings (sprites : List Sprite) (memory : Memory) (column row : Nat) : Nat :=
  sprites.countP fun sprite => sprite.Covers memory column row

theorem coverings_cons (sprite : Sprite) (rest : List Sprite) (memory : Memory) (column row : Nat) :
    coverings (sprite :: rest) memory column row =
      coverings rest memory column row + if sprite.Covers memory column row then 1 else 0 := by
  unfold coverings
  rw [List.countP_cons]
  simp only [decide_eq_true_eq]

theorem coverings_append (first second : List Sprite) (memory : Memory) (column row : Nat) :
    coverings (first ++ second) memory column row =
      coverings first memory column row + coverings second memory column row :=
  List.countP_append

theorem coverings_perm {first second : List Sprite} (same : first.Perm second) (memory : Memory)
    (column row : Nat) :
    coverings first memory column row = coverings second memory column row :=
  same.countP_eq _

end Sprite

open Sprite

namespace Machine

def sprite (machine : Machine) (x y : Nat) (rows : UInt8) : Sprite :=
  ⟨machine.registers.value x, machine.registers.value y, machine.registers.index, rows⟩

/-- The sprites are drawn one after the other. Before each draw, two registers and the index register are
set for it in whatever way; memory and screen are left alone meanwhile. -/
inductive Draws : Machine → List Sprite → Machine → Prop where
  | nil (machine : Machine) : Draws machine [] machine
  | cons {machine ready after : Machine} {sprite : Sprite} {rest : List Sprite} {x y : Nat}
      (memory : ready.memory = machine.memory) (screen : ready.screen = machine.screen)
      (inside : x < 16 ∧ y < 16) (inMemory : sprite.InMemory)
      (named : ready.sprite x y sprite.rows = sprite)
      (later : Draws (ready.perform (execute (.draw x y sprite.rows))).2 rest after) :
      Draws machine (sprite :: rest) after

/-! ### One draw -/

variable {machine ready : Machine} {sprite : Sprite} {x y : Nat}

theorem perform_draw_sprite (inside : x < 16 ∧ y < 16) (inMemory : sprite.InMemory)
    (named : ready.sprite x y sprite.rows = sprite) :
    ready.perform (execute (.draw x y sprite.rows)) =
      (.ok (), ready.update (.draw x y sprite.rows)) := by
  refine ready.perform_draw sprite.rows inside.1 inside.2 ?_
  have address : ready.registers.index = sprite.address := congrArg Sprite.address named
  rw [address]
  exact inMemory

theorem touches_iff_covers (named : ready.sprite x y sprite.rows = sprite) (column row : Nat) :
    ready.Touches x y sprite.rows column row ↔ sprite.Covers ready.memory column row := by
  have same : ready.Touches x y sprite.rows column row ↔
      (ready.sprite x y sprite.rows).Covers ready.memory column row := Iff.rfl
  rw [same, named]

theorem collides_iff_covers (named : ready.sprite x y sprite.rows = sprite) :
    ready.Collides x y sprite.rows ↔
      ∃ column row, sprite.Covers ready.memory column row ∧
        ready.screen.pixels.get column row = true := by
  refine exists_congr fun column => exists_congr fun row => and_congr_left fun _ => ?_
  exact touches_iff_covers named column row

theorem flag_draw_iff (named : ready.sprite x y sprite.rows = sprite) :
    let flag := (ready.update (.draw x y sprite.rows)).registers.value Registers.flag
    let collides := ∃ column row, sprite.Covers ready.memory column row ∧
      ready.screen.pixels.get column row = true
    (flag = 1 ↔ collides) ∧ (flag = 0 ↔ ¬collides) := by
  intro flag collides
  have hit : (ready.drawn x y sprite.rows).2 = true ↔ collides :=
    (ready.drawn_hit x y sprite.rows).trans (collides_iff_covers named)
  have value : flag = if (ready.drawn x y sprite.rows).2 then 1 else 0 :=
    (ready.value_draw x y sprite.rows Registers.flag).trans (if_pos rfl)
  rw [value, ← hit]
  cases (ready.drawn x y sprite.rows).2 <;> decide

/-! ### One draw after the other -/

theorem odd_coverings_cons (sprite : Sprite) (rest : List Sprite) (memory : Memory)
    (column row : Nat) :
    decide (coverings (sprite :: rest) memory column row % 2 = 1) =
      (decide (sprite.Covers memory column row) ^^
        decide (coverings rest memory column row % 2 = 1)) := by
  rw [coverings_cons]
  by_cases covered : sprite.Covers memory column row
  · rw [if_pos covered, decide_eq_true covered, Bool.true_xor, ← decide_not]
    apply decide_eq_decide.mpr
    omega
  · rw [if_neg covered, decide_eq_false covered, Bool.false_xor, Nat.add_zero]

theorem some_coverings_cons (sprite : Sprite) (rest : List Sprite) (memory : Memory)
    (column row : Nat) :
    decide (0 < coverings (sprite :: rest) memory column row) =
      (decide (sprite.Covers memory column row) ||
        decide (0 < coverings rest memory column row)) := by
  rw [coverings_cons, ← Bool.decide_or]
  apply decide_eq_decide.mpr
  by_cases covered : sprite.Covers memory column row
  · rw [if_pos covered]
    exact iff_of_true (Nat.succ_pos _) (.inl covered)
  · rw [if_neg covered, Nat.add_zero, or_iff_right covered]

namespace Draws

variable {after : Machine} {sprites : List Sprite}

theorem memory_eq (draws : machine.Draws sprites after) : after.memory = machine.memory := by
  induction draws with
  | nil machine => rfl
  | cons memory screen inside inMemory named later ih =>
      rw [ih, perform_draw_sprite inside inMemory named]
      exact memory

theorem get_pixels (draws : machine.Draws sprites after) (column row : Nat) :
    after.screen.pixels.get column row =
      (machine.screen.pixels.get column row ^^
        decide (coverings sprites machine.memory column row % 2 = 1)) := by
  induction draws with
  | nil machine => exact (Bool.xor_false _).symm
  | @cons machine ready after sprite rest x y memory screen inside inMemory named later ih =>
      have drawn : (ready.drawn x y sprite.rows).1.pixels.get column row =
          (machine.screen.pixels.get column row ^^
            decide (sprite.Covers machine.memory column row)) := by
        rw [get_drawn, screen, ← memory]
        exact congrArg _ (decide_eq_decide.mpr (touches_iff_covers named column row))
      rw [perform_draw_sprite inside inMemory named] at ih
      rw [odd_coverings_cons, ← Bool.xor_assoc, ← drawn, ← memory]
      exact ih

theorem get_marked (draws : machine.Draws sprites after) (column row : Nat) :
    after.screen.marked.get column row =
      (machine.screen.marked.get column row ||
        decide (0 < coverings sprites machine.memory column row)) := by
  induction draws with
  | nil machine => exact (Bool.or_false _).symm
  | @cons machine ready after sprite rest x y memory screen inside inMemory named later ih =>
      have drawn : (ready.drawn x y sprite.rows).1.marked.get column row =
          (machine.screen.marked.get column row ||
            decide (sprite.Covers machine.memory column row)) := by
        rw [marked_drawn, screen, ← memory]
        exact congrArg _ (decide_eq_decide.mpr (touches_iff_covers named column row))
      rw [perform_draw_sprite inside inMemory named] at ih
      rw [some_coverings_cons, ← Bool.or_assoc, ← drawn, ← memory]
      exact ih

theorem allDue_eq (draws : machine.Draws sprites after) :
    after.screen.allDue = machine.screen.allDue := by
  induction draws with
  | nil machine => rfl
  | cons memory screen inside inMemory named later ih =>
      rw [ih, perform_draw_sprite inside inMemory named, ← screen]
      exact Screen.allDue_flip _ _

theorem screen_eq_of_perm {others : List Sprite} {other : Machine}
    (draws : machine.Draws sprites after) (drawsOthers : machine.Draws others other)
    (same : others.Perm sprites) : other.screen = after.screen := by
  have counts := coverings_perm same machine.memory
  have pixels : other.screen.pixels = after.screen.pixels := by
    apply Grid.ext_get
    intro column row _
    rw [drawsOthers.get_pixels, draws.get_pixels, counts]
  have marked : other.screen.marked = after.screen.marked := by
    apply Grid.ext_get
    intro column row _
    rw [drawsOthers.get_marked, draws.get_marked, counts]
  have allDue : other.screen.allDue = after.screen.allDue :=
    drawsOthers.allDue_eq.trans draws.allDue_eq.symm
  rw [show other.screen = ⟨_, _, _⟩ from rfl, pixels, marked, allDue]

theorem pixels_eq_of_twice (draws : machine.Draws (sprites ++ sprites) after) :
    after.screen.pixels = machine.screen.pixels := by
  apply Grid.ext_get
  intro column row _
  have even : ¬(coverings (sprites ++ sprites) machine.memory column row % 2 = 1) := by
    rw [coverings_append]
    omega
  rw [draws.get_pixels, decide_eq_false even, Bool.xor_false]

theorem flag_single (draws : machine.Draws [sprite] after) :
    let flag := after.registers.value Registers.flag
    let collides := ∃ column row, sprite.Covers machine.memory column row ∧
      machine.screen.pixels.get column row = true
    (flag = 1 ↔ collides) ∧ (flag = 0 ↔ ¬collides) := by
  cases draws with
  | cons memory screen inside inMemory named later =>
      cases later with
      | nil =>
          have flag := flag_draw_iff named
          rw [memory, screen] at flag
          rw [perform_draw_sprite inside inMemory named]
          exact flag

/-- Drawn again, a sprite meets the cells that it has lit the time before. -/
theorem flag_again (draws : machine.Draws [sprite, sprite] after) :
    let flag := after.registers.value Registers.flag
    let lights := ∃ column row, sprite.Covers machine.memory column row ∧
      machine.screen.pixels.get column row = false
    (flag = 1 ↔ lights) ∧ (flag = 0 ↔ ¬lights) := by
  cases draws with
  | @cons _ ready _ _ _ x y memory screen inside inMemory named again =>
      have first : machine.Draws [sprite] (ready.perform (execute (.draw x y sprite.rows))).2 :=
        .cons memory screen inside inMemory named (.nil _)
      have turned : ∀ column row, sprite.Covers machine.memory column row →
          ((ready.perform (execute (.draw x y sprite.rows))).2.screen.pixels.get column row = true ↔
            machine.screen.pixels.get column row = false) := by
        intro column row covered
        have once : coverings [sprite] machine.memory column row % 2 = 1 := by
          rw [coverings_cons, if_pos covered]
          rfl
        rw [first.get_pixels, decide_eq_true once, Bool.xor_true, Bool.not_eq_true']
      have flag := again.flag_single
      rw [first.memory_eq] at flag
      have same := exists_congr fun column => exists_congr fun row =>
        and_congr_right (turned column row)
      dsimp only at flag ⊢
      rw [same] at flag
      exact flag

end Draws

def readyFor (machine : Machine) (sprite : Sprite) : Machine :=
  { machine with
    registers :=
      { (machine.registers.put 0 sprite.column).put 1 sprite.row with index := sprite.address } }

theorem sprite_readyFor (machine : Machine) (sprite : Sprite) :
    (machine.readyFor sprite).sprite 0 1 sprite.rows = sprite := by
  have first : (machine.registers.put 0 sprite.column).value 0 = sprite.column :=
    (Registers.value_put _ (by decide : 0 < 16) sprite.column 0).trans (if_pos rfl)
  have column : (machine.readyFor sprite).registers.value 0 = sprite.column :=
    (Registers.value_put _ (by decide : 1 < 16) sprite.row 0).trans ((if_neg (by decide)).trans first)
  have row : (machine.readyFor sprite).registers.value 1 = sprite.row :=
    (Registers.value_put _ (by decide : 1 < 16) sprite.row 1).trans (if_pos rfl)
  rw [Machine.sprite, column, row]
  rfl

theorem exists_draws (machine : Machine) {sprites : List Sprite}
    (inMemory : ∀ sprite ∈ sprites, sprite.InMemory) : ∃ after, machine.Draws sprites after := by
  induction sprites generalizing machine with
  | nil => exact ⟨machine, .nil machine⟩
  | cons sprite rest ih =>
      obtain ⟨first, others⟩ := List.forall_mem_cons.mp inMemory
      obtain ⟨after, later⟩ :=
        ih ((machine.readyFor sprite).perform (execute (.draw 0 1 sprite.rows))).2 others
      refine ⟨after, .cons ?_ ?_ ?_ first (machine.sprite_readyFor sprite) later⟩
      · rfl
      · rfl
      · decide

/-- Any sprites that lie in memory can be drawn one after the other, and every such draw succeeds. A cell is
then inverted if an odd number of them cover it and marked if one does, whatever their order, and drawing
them all again restores the pixels. A sprite drawn twice sets the flag the second time if it covers a cell
that was not lit, and the first draw on a cleared screen never sets it. -/
theorem draws_add_up (machine : Machine) :
    (∀ sprites : List Sprite, (∀ sprite ∈ sprites, sprite.InMemory) →
        ∃ after, machine.Draws sprites after) ∧
      (∀ (ready : Machine) (x y : Nat) (sprite : Sprite), x < 16 ∧ y < 16 → sprite.InMemory →
        ready.sprite x y sprite.rows = sprite →
          (ready.perform (execute (.draw x y sprite.rows))).1 = .ok ()) ∧
      (∀ sprites after, machine.Draws sprites after →
        (∀ column row, after.screen.pixels.get column row =
          (machine.screen.pixels.get column row ^^
            decide (coverings sprites machine.memory column row % 2 = 1))) ∧
          (∀ column row, after.screen.marked.get column row =
            (machine.screen.marked.get column row ||
              decide (0 < coverings sprites machine.memory column row))) ∧
          ∀ others other, others.Perm sprites → machine.Draws others other →
            other.screen = after.screen) ∧
      (∀ sprites after, machine.Draws (sprites ++ sprites) after →
        after.screen.pixels = machine.screen.pixels) ∧
      (∀ sprite after, machine.Draws [sprite, sprite] after →
        let flag := after.registers.value Registers.flag
        let lights := ∃ column row, sprite.Covers machine.memory column row ∧
          machine.screen.pixels.get column row = false
        (flag = 1 ↔ lights) ∧ (flag = 0 ↔ ¬lights)) ∧
      ∀ sprite after, (machine.perform (execute .clear)).2.Draws [sprite] after →
        after.registers.value Registers.flag = 0 := by
  refine ⟨fun sprites inMemory => machine.exists_draws inMemory, ?_, ?_, ?_, ?_, ?_⟩
  · intro ready x y sprite inside inMemory named
    rw [perform_draw_sprite inside inMemory named]
  · intro sprites after draws
    exact ⟨draws.get_pixels, draws.get_marked, fun others other same drawsOthers =>
      draws.screen_eq_of_perm drawsOthers same⟩
  · intro sprites after draws
    exact draws.pixels_eq_of_twice
  · intro sprite after draws
    exact draws.flag_again
  · intro sprite after draws
    refine draws.flag_single.2.mpr ?_
    rintro ⟨column, row, _, lit⟩
    have dark : (machine.perform (execute .clear)).2.screen.pixels.get column row = false :=
      Grid.get_blank column row
    rw [dark] at lit
    cases lit

/-- The digits zero and one, one place apart: a cell under both is marked and dark, and a cell under one of
them is lit. -/
theorem digits_overlap_in_any_order :
    let machine := powerOn 0
    let zero : Sprite := ⟨0, 0, 0, 5⟩
    let one : Sprite := ⟨1, 1, 5, 5⟩
    (∃ after other, machine.Draws [zero, one] after ∧ machine.Draws [one, zero] other ∧
        other.screen = after.screen ∧
        after.screen.pixels.get 3 1 = false ∧ after.screen.marked.get 3 1 = true ∧
        after.screen.pixels.get 2 2 = true ∧ after.screen.marked.get 4 0 = false) ∧
      (∃ after, machine.Draws ([zero, one] ++ [zero, one]) after ∧
        after.screen.pixels = machine.screen.pixels) ∧
      (∃ after, machine.Draws [zero, zero] after ∧ after.registers.value Registers.flag = 1) ∧
      ∃ after, (machine.perform (execute .clear)).2.Draws [zero] after ∧
        after.registers.value Registers.flag = 0 := by
  intro machine zero one
  obtain ⟨drawable, _, sums, twice, again, cleared⟩ := draws_add_up machine
  obtain ⟨after, draws⟩ := drawable [zero, one] (by decide)
  obtain ⟨other, drawsOther⟩ := drawable [one, zero] (by decide)
  obtain ⟨restored, drawsTwice⟩ := drawable ([zero, one] ++ [zero, one]) (by decide)
  obtain ⟨repeated, drawsAgain⟩ := drawable [zero, zero] (by decide)
  obtain ⟨alone, drawsAlone⟩ :=
    (draws_add_up (machine.perform (execute .clear)).2).1 [zero] (by decide)
  obtain ⟨pixels, marked, anyOrder⟩ := sums _ _ draws
  have facts : (coverings [zero, one] machine.memory 3 1 = 2 ∧
      coverings [zero, one] machine.memory 2 2 = 1 ∧
      coverings [zero, one] machine.memory 4 0 = 0) ∧ zero.Covers machine.memory 0 0 := by
    decide +kernel
  have blank : ∀ column row, machine.screen.pixels.get column row = false ∧
      machine.screen.marked.get column row = false := fun column row =>
    ⟨Grid.get_blank column row, Grid.get_blank column row⟩
  refine ⟨⟨after, other, draws, drawsOther, ?_, ?_, ?_, ?_, ?_⟩, ⟨restored, drawsTwice, ?_⟩,
    ⟨repeated, drawsAgain, ?_⟩, alone, drawsAlone, cleared _ _ drawsAlone⟩
  · exact anyOrder _ _ (.swap zero one []) drawsOther
  · rw [pixels, (blank 3 1).1, facts.1.1]
    rfl
  · rw [marked, (blank 3 1).2, facts.1.1]
    rfl
  · rw [pixels, (blank 2 2).1, facts.1.2.1]
    rfl
  · rw [marked, (blank 4 0).2, facts.1.2.2]
    rfl
  · exact twice _ _ drawsTwice
  · exact (again _ _ drawsAgain).1.mpr ⟨0, 0, facts.2, (blank 0 0).1⟩

/-- Where the digit zero stands already, it is put out and drawn anew, and the second draw meets nothing,
though all its set bits are on the screen. -/
theorem second_draw_meets_nothing :
    let machine := (powerOn 0).afterOperation (.execute (.draw 0 0 5))
    let sprite : Sprite := ⟨0, 0, 0, 5⟩
    ∃ after, machine.Draws [sprite, sprite] after ∧
      (∃ column row, sprite.Covers machine.memory column row) ∧
      after.registers.value Registers.flag = 0 ∧
      ¬(after.registers.value Registers.flag = 1 ↔
        ∃ column row, sprite.Covers machine.memory column row) := by
  intro machine sprite
  obtain ⟨after, draws⟩ : ∃ after, machine.Draws [sprite, sprite] after :=
    machine.exists_draws (by decide)
  have covered : ∃ column row, sprite.Covers machine.memory column row :=
    ⟨0, 0, by decide +kernel⟩
  have dark : ∀ position ∈ positions, sprite.Covers machine.memory position.1 position.2 →
      machine.screen.pixels.get position.1 position.2 = true := by decide +kernel
  have unset : after.registers.value Registers.flag = 0 := by
    refine draws.flag_again.2.mpr ?_
    rintro ⟨column, row, covers, unlit⟩
    have lit := dark (column, row) (mem_positions.mpr covers.1) covers
    rw [unlit] at lit
    cases lit
  refine ⟨after, draws, covered, unset, ?_⟩
  rw [unset]
  exact fun same => absurd (same.mpr covered) (by decide)

end Machine

end Chip8
