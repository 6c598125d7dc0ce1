import Chip8.Proofs.Effects
import Chip8.Proofs.LastWriter
/-!
How wide the two addresses of a machine are when it is also handed instructions that no word means. The
program counter keeps to twelve bits, since every jump masks its target. The index register is masked
where something is added to it, and all glyphs lie low in memory. An address that it is given outright is
kept as it is, though, and stays until the register points anew.
-/

namespace Chip8

namespace Instruction

/-- The instruction makes the index register point anew. With a register out of range it faults before
that. -/
def PointsAnew : Instruction → Prop
  | .setIndex _ => True
  | .addIndex x | .pointAtGlyph x => x < 16
  | _ => False

/-- The last of the instructions that make the index register point anew gives it this address. -/
def LastGive (instructions : List Instruction) (address : UInt16) : Prop :=
  ∃ before, LastOf PointsAnew instructions before (.setIndex address)

end Instruction

namespace Machine

variable {machine : Machine} {instruction : Instruction}

/-! ### One instruction -/

def afterInstruction (machine : Machine) (instruction : Instruction) : Machine :=
  (machine.perform (execute instruction)).2

theorem residue_registers (machine : Machine) (instruction : Instruction) :
    (machine.residue instruction).registers.pc = machine.registers.pc ∧
      (machine.residue instruction).registers.index = machine.registers.index := by
  rcases machine.residue_cases instruction with
    left | ⟨_, _, _, _, left⟩ | ⟨_, _, _, _, left⟩
  · rw [left]
    exact ⟨rfl, rfl⟩
  · rw [left, wordUsed]
    exact ⟨rfl, rfl⟩
  · rw [left, registersLoaded]
    exact ⟨rfl, rfl⟩

theorem registersAfter_pc_le (bounded : machine.registers.pc.toNat ≤ 0xfff)
    (instruction : Instruction) : (machine.registersAfter instruction).pc.toNat ≤ 0xfff := by
  cases instruction with
  | unassigned opcode => exact bounded
  | awaitKey x =>
      unfold registersAfter
      dsimp only
      split
      · exact Registers.toNat_and_addressMask_le _
      · exact bounded
  | _ => exact Registers.toNat_and_addressMask_le _

theorem afterInstruction_pc_le (bounded : machine.registers.pc.toNat ≤ 0xfff)
    (instruction : Instruction) :
    (machine.afterInstruction instruction).registers.pc.toNat ≤ 0xfff := by
  rw [afterInstruction, perform_execute]
  cases machine.fault? instruction with
  | none => exact registersAfter_pc_le bounded instruction
  | some fault =>
      change (machine.residue instruction).registers.pc.toNat ≤ 0xfff
      rw [(machine.residue_registers instruction).1]
      exact bounded

theorem afterInstruction_index_of_spared (machine : Machine) (instruction : Instruction)
    (spared : ¬instruction.PointsAnew) :
    (machine.afterInstruction instruction).registers.index = machine.registers.index := by
  rw [afterInstruction, perform_execute]
  cases passed : machine.fault? instruction with
  | some fault => exact (machine.residue_registers instruction).2
  | none =>
      have untouched : ¬machine.MayChange .index instruction := by
        cases instruction with
        | setIndex address => exact absurd trivial spared
        | addIndex x | pointAtGlyph x =>
            rw [fault?, Registers.fault?_outside (Nat.le_of_not_lt spared)] at passed
            cases passed
        | _ => exact not_false
      have same : Part.Same machine (machine.update instruction) .index :=
        same_update passed untouched
      exact same

theorem afterInstruction_index_of_pointsAnew (machine : Machine)
    (points : instruction.PointsAnew) :
    let index := (machine.afterInstruction instruction).registers.index
    index.toNat ≤ 0xfff ∨ instruction = .setIndex index := by
  cases instruction with
  | setIndex address => exact Or.inr rfl
  | addIndex x =>
      have passed : machine.fault? (.addIndex x) = none := Registers.fault?_of_lt points
      rw [afterInstruction, perform_execute, passed]
      exact Or.inl (Registers.toNat_and_addressMask_le (machine.indexSum x))
  | pointAtGlyph x =>
      have passed : machine.fault? (.pointAtGlyph x) = none := Registers.fault?_of_lt points
      rw [afterInstruction, perform_execute, passed]
      exact Or.inl (glyph_address_le (machine.registers.value x))
  | _ => exact points.elim

/-! ### Every sequence -/

def afterInstructions (machine : Machine) (instructions : List Instruction) : Machine :=
  instructions.foldl afterInstruction machine

theorem afterInstructions_pc_le (bounded : machine.registers.pc.toNat ≤ 0xfff)
    (instructions : List Instruction) :
    (machine.afterInstructions instructions).registers.pc.toNat ≤ 0xfff :=
  List.foldlRecOn (motive := fun after => after.registers.pc.toNat ≤ 0xfff) instructions
    afterInstruction bounded fun _ here instruction _ => afterInstruction_pc_le here instruction

theorem afterInstructions_index_of_lastGive (machine : Machine) {instructions : List Instruction}
    {address : UInt16} (given : Instruction.LastGive instructions address) :
    (machine.afterInstructions instructions).registers.index = address := by
  obtain ⟨before, last⟩ := given
  have written : (machine.afterInstructions instructions).registers.index =
      ((machine.afterInstructions before).afterInstruction (.setIndex address)).registers.index :=
    last.view_foldl (fun machine => machine.registers.index) afterInstruction_index_of_spared machine
  exact written

theorem afterInstructions_index_cases (machine : Machine) (instructions : List Instruction) :
    let index := (machine.afterInstructions instructions).registers.index
    index = machine.registers.index ∨ index.toNat ≤ 0xfff ∨
      Instruction.LastGive instructions index := by
  intro index
  rcases none_or_lastOf Instruction.PointsAnew instructions with none | ⟨before, writer, last⟩
  · have kept : index = machine.registers.index :=
      view_foldl_of_spared (fun machine => machine.registers.index)
        afterInstruction_index_of_spared none machine
    exact Or.inl kept
  · have written : index =
        ((machine.afterInstructions before).afterInstruction writer).registers.index :=
      last.view_foldl (fun machine => machine.registers.index)
        afterInstruction_index_of_spared machine
    rcases (machine.afterInstructions before).afterInstruction_index_of_pointsAnew last.1 with
      narrow | gives
    · exact Or.inr (Or.inl (written ▸ narrow))
    · rw [← written] at gives
      exact Or.inr (Or.inr ⟨before, gives ▸ last⟩)

/-- After any instructions, faulted or not, the program counter of a machine that has been switched on is an
address of twelve bits. So is the index register, exactly if the last address that it was given outright
is, unless it has pointed anew since. A wider address it keeps as it is. -/
theorem index_within_address_iff (seed : UInt64) (instructions : List Instruction) :
    let machine := (powerOn seed).afterInstructions instructions
    machine.registers.pc.toNat ≤ 0xfff ∧
      (machine.registers.index.toNat ≤ 0xfff ↔
        ∀ address, Instruction.LastGive instructions address → address.toNat ≤ 0xfff) ∧
      ∀ address, Instruction.LastGive instructions address → machine.registers.index = address := by
  intro machine
  have bounds : (powerOn seed).registers.WellFormed := .initial
  have holds : ∀ address, Instruction.LastGive instructions address →
      machine.registers.index = address :=
    fun _ given => (powerOn seed).afterInstructions_index_of_lastGive given
  refine ⟨afterInstructions_pc_le bounds.pc_le instructions, ⟨?_, ?_⟩, holds⟩
  · intro narrow address given
    rw [← holds address given]
    exact narrow
  · intro narrow
    rcases (powerOn seed).afterInstructions_index_cases instructions with kept | bound | given
    · exact kept ▸ bounds.index_le
    · exact bound
    · exact narrow _ given

theorem wide_address_is_kept :
    let machine := (powerOn 0).afterInstructions [.setIndex 0x1234]
    (powerOn 0).perform (execute (.setIndex 0x1234)) = (.ok (), machine) ∧
      machine.registers.index = 0x1234 ∧ ¬machine.registers.index.toNat ≤ 0xfff := by
  refine ⟨rfl, rfl, ?_⟩
  decide

/-- A wide address outlives an instruction that would have masked it, had its register existed, and a jump
beyond the address space. -/
theorem wide_address_outlives_fault :
    let instructions := [.setIndex 0x1234, .addIndex 16, .jumpFromV0 0xffff]
    let machine := (powerOn 0).afterInstructions instructions
    Instruction.LastGive instructions 0x1234 ∧ machine.registers.pc.toNat ≤ 0xfff ∧
      machine.registers.index = 0x1234 ∧ ¬machine.registers.index.toNat ≤ 0xfff := by
  intro instructions machine
  have given : Instruction.LastGive instructions 0x1234 := by
    refine ⟨[], trivial, [.addIndex 16, .jumpFromV0 0xffff], rfl, ?_⟩
    intro later listed
    rcases List.mem_cons.mp listed with rfl | listed
    · exact Nat.lt_irrefl 16
    · rw [List.mem_singleton.mp listed]
      exact not_false
  obtain ⟨narrow, within, holds⟩ := index_within_address_iff 0 instructions
  refine ⟨given, narrow, holds _ given, fun small => ?_⟩
  exact absurd (within.mp small _ given) (by decide)

end Machine

end Chip8
