import Chip8.Registers
/-!
The register file read and written without checks. `Registers.read` and its kin refuse a number
outside the sixteen; the operations here answer zero or change nothing instead, and agree with the
checked ones on every number that is in range.
-/

namespace Chip8

namespace Registers

/-- The value of a register; zero outside the sixteen. -/
def value (registers : Registers) (x : Nat) : UInt8 :=
  (registers.v[x]?).getD 0

def slot (registers : Registers) (number : Nat) : UInt16 :=
  (registers.stack[number]?).getD 0

def put (registers : Registers) (x : Nat) (byte : UInt8) : Registers :=
  { registers with v := registers.v.setIfInBounds x byte }

def putOutcome (registers : Registers) (x : Nat) (outcome : UInt8 × Option UInt8) : Registers :=
  match outcome.2 with
  | some carry => (registers.put flag carry).put x outcome.1
  | none => registers.put x outcome.1

def putRun (registers : Registers) (first : Nat) : List UInt8 → Registers
  | [] => registers
  | byte :: rest => (registers.put first byte).putRun (first + 1) rest

def pushed (registers : Registers) (address : UInt16) : Registers :=
  { registers with
    stack := registers.stack.setIfInBounds registers.depth address
    depth := registers.depth + 1 }

def popped (registers : Registers) : Registers :=
  { registers with depth := registers.depth - 1 }

theorem getElem_eq_value (registers : Registers) {x : Nat} (inside : x < 16) :
    registers.v[x] = registers.value x := by
  rw [value, Vector.getElem?_eq_getElem inside]
  rfl

theorem read_of_lt (registers : Registers) {x : Nat} (inside : x < 16) :
    registers.read x = .ok (registers.value x) := by
  rw [read_eq registers inside, getElem_eq_value registers inside]

theorem readRun_of_le (registers : Registers) (first count : Nat) (inside : first + count ≤ 16) :
    registers.readRun first count =
      .ok ((List.range' first count).map registers.value) := by
  induction count generalizing first with
  | zero => rfl
  | succ count ih =>
      have here : first < 16 := by omega
      have later : first + 1 + count ≤ 16 := by omega
      rw [readRun, read_of_lt registers here, ih (first + 1) later, List.range'_succ,
        List.map_cons]
      rfl

theorem readRun_of_gt (registers : Registers) (first count : Nat) (bound : first ≤ 16)
    (outside : 16 < first + count) :
    registers.readRun first count = .error (.invalidIndex .register 16) := by
  induction count generalizing first with
  | zero => omega
  | succ count ih =>
      by_cases here : first < 16
      · rw [readRun, read_of_lt registers here, ih (first + 1) here (by omega)]
        rfl
      · have atEnd : first = 16 := by omega
        subst first
        rw [readRun, read_outside registers (Nat.le_refl 16)]
        rfl

theorem pop_of_le (registers : Registers) (used : registers.depth ≠ 0)
    (bounded : registers.depth - 1 < 16) :
    registers.pop = .ok (registers.slot (registers.depth - 1), registers.popped) := by
  rw [pop_eq registers used bounded, slot, Vector.getElem?_eq_getElem bounded]
  rfl

theorem pop_outside (registers : Registers) (used : registers.depth ≠ 0)
    (unbounded : 16 ≤ registers.depth - 1) :
    registers.pop = .error (.invalidIndex .stack (registers.depth - 1)) := by
  have refused : registers.readSlot (registers.depth - 1) =
      .error (.invalidIndex .stack (registers.depth - 1)) := by
    rw [readSlot, Vector.getElem?_eq_none unbounded]
  rw [pop, if_neg used, refused]
  rfl

theorem value_put (registers : Registers) {x : Nat} (inside : x < 16) (byte : UInt8)
    (other : Nat) :
    (registers.put x byte).value other = if other = x then byte else registers.value other := by
  by_cases same : other = x
  · subst other
    simp [value, put, inside]
  · have different : x ≠ other := fun equal => same equal.symm
    simp [value, put, same, different]

theorem value_putRun (registers : Registers) (first : Nat) (bytes : List UInt8) {x : Nat}
    (inside : x < 16) :
    (registers.putRun first bytes).value x =
      if first ≤ x ∧ x < first + bytes.length then (bytes[x - first]?).getD 0
      else registers.value x := by
  induction bytes generalizing registers first with
  | nil =>
      have empty : ¬(first ≤ x ∧ x < first + ([] : List UInt8).length) := by
        rw [List.length_nil]
        omega
      rw [if_neg empty]
      rfl
  | cons byte rest ih =>
      rw [putRun, ih, List.length_cons]
      by_cases here : x = first
      · subst x
        have notLater : ¬(first + 1 ≤ first ∧ first < first + 1 + rest.length) := by omega
        have covered : first ≤ first ∧ first < first + (rest.length + 1) := by omega
        rw [if_neg notLater, if_pos covered, value_put registers inside, if_pos rfl, Nat.sub_self]
        rfl
      · by_cases later : first + 1 ≤ x ∧ x < first + 1 + rest.length
        · have covered : first ≤ x ∧ x < first + (rest.length + 1) := by omega
          have shifted : x - first = x - (first + 1) + 1 := by omega
          rw [if_pos later, if_pos covered, shifted, List.getElem?_cons_succ]
        · have uncovered : ¬(first ≤ x ∧ x < first + (rest.length + 1)) := by omega
          have different : first ≠ x := fun equal => here equal.symm
          rw [if_neg later, if_neg uncovered]
          simp [value, put, different]

theorem put_outside (registers : Registers) {x : Nat} (outside : 16 ≤ x) (byte : UInt8) :
    registers.put x byte = registers := by
  have unchanged : registers.v.setIfInBounds x byte = registers.v :=
    Vector.setIfInBounds_eq_of_size_le outside
  rw [put, unchanged]

theorem putRun_outside (registers : Registers) {first : Nat} (outside : 16 ≤ first)
    (bytes : List UInt8) : registers.putRun first bytes = registers := by
  induction bytes generalizing first with
  | nil => rfl
  | cons byte rest ih =>
      rw [putRun, put_outside registers outside, ih (Nat.le_succ_of_le outside)]

theorem putOutcome_frame (registers : Registers) (x : Nat) (outcome : UInt8 × Option UInt8) :
    registers.putOutcome x outcome =
      { registers with v := (registers.putOutcome x outcome).v } := by
  obtain ⟨result, carry⟩ := outcome
  cases carry <;> rfl

theorem putRun_frame (registers : Registers) (first : Nat) (bytes : List UInt8) :
    registers.putRun first bytes =
      { registers with v := (registers.putRun first bytes).v } := by
  induction bytes generalizing registers first with
  | nil => rfl
  | cons byte rest ih =>
      rw [putRun, ih]
      rfl

theorem putRun_full (registers : Registers) {bytes : List UInt8} (enough : 16 ≤ bytes.length) :
    registers.putRun 0 bytes =
      { registers with v := Vector.ofFn fun register => (bytes[register.val]?).getD 0 } := by
  rw [putRun_frame]
  congr 1
  apply Vector.ext
  intro x inside
  have covered : 0 ≤ x ∧ x < 0 + bytes.length := by omega
  have filled := value_putRun registers 0 bytes inside
  rw [if_pos covered, Nat.sub_zero, ← getElem_eq_value _ inside] at filled
  rw [filled, Vector.getElem_ofFn]

/-! ### Addresses -/

theorem toNat_and_addressMask (word : UInt16) :
    (word &&& addressMask).toNat = word.toNat % 4096 := by
  rw [UInt16.toNat_and]
  exact Nat.and_two_pow_sub_one_eq_mod _ 12

theorem toNat_and_addressMask_le (word : UInt16) : (word &&& addressMask).toNat ≤ 0xfff := by
  rw [toNat_and_addressMask]
  exact Nat.le_of_lt_succ (Nat.mod_lt _ (by decide))

theorem toNat_jump_pc (registers : Registers) (target : UInt16) :
    (registers.jump target).pc.toNat = target.toNat % 4096 :=
  toNat_and_addressMask target

/-- The address space is a part of the sixteen bits of a word, so only its own end is gone round. -/
theorem toNat_advance_pc (registers : Registers) (count : UInt16) :
    (registers.advance count).pc.toNat = (registers.pc.toNat + 2 * count.toNat) % 4096 := by
  have bytes : (2 : UInt16).toNat = 2 := rfl
  rw [advance, toNat_jump_pc, UInt16.toNat_add, UInt16.toNat_mul, bytes]
  omega

end Registers

end Chip8
