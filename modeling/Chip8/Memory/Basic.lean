import Chip8.Fault
/-!
The byte store of 4096 addresses. Every access names a run of bytes by its first address and its
length, and succeeds exactly when the run fits; a write that does not fit changes nothing.
-/

namespace Chip8

def memorySize : Nat := 4096

structure Memory where
  bytes : Vector UInt8 4096
  deriving DecidableEq, Repr

namespace Memory

def zero : Memory := ⟨Vector.replicate 4096 0⟩

instance : Inhabited Memory := ⟨zero⟩

def Fits (address : UInt16) (length : Nat) : Prop :=
  address.toNat + length ≤ memorySize

instance (address : UInt16) (length : Nat) : Decidable (Fits address length) :=
  inferInstanceAs (Decidable (_ ≤ _))

/-- What a run that does not fit reports: its last address, or its first one when it is empty. -/
def outside (address : UInt16) (length : Nat) : Fault :=
  .invalidAddress (address.toNat + (length - 1))

/-- The byte at an address; zero outside memory. -/
def byteAt (memory : Memory) (address : Nat) : UInt8 :=
  (memory.bytes[address]?).getD 0

/-! ### Reading -/

def slice (memory : Memory) (address : UInt16) (length : Nat) : Except Fault (List UInt8) :=
  if Fits address length then
    .ok ((List.range length).map fun offset => memory.byteAt (address.toNat + offset))
  else .error (outside address length)

def read (memory : Memory) (address : UInt16) : Except Fault UInt8 :=
  if Fits address 1 then .ok (memory.byteAt address.toNat)
  else .error (outside address 1)

def readWord (memory : Memory) (address : UInt16) : Except Fault UInt16 :=
  if Fits address 2 then
    .ok ((memory.byteAt address.toNat).toUInt16 * 256 +
      (memory.byteAt (address.toNat + 1)).toUInt16)
  else .error (outside address 2)

/-! ### Writing -/

/-- Lays bytes over the store from an address on; what hangs over the end is dropped. -/
def overlay (memory : Memory) (address : Nat) : List UInt8 → Memory
  | [] => memory
  | byte :: rest =>
      overlay ⟨memory.bytes.setIfInBounds address byte⟩ (address + 1) rest

theorem byteAt_overlay (memory : Memory) (address : Nat) (data : List UInt8) (place : Nat)
    (fits : address + data.length ≤ memorySize) :
    (memory.overlay address data).byteAt place =
      if address ≤ place ∧ place < address + data.length then
        (data[place - address]?).getD 0
      else memory.byteAt place := by
  induction data generalizing memory address with
  | nil =>
      have none : ¬(address ≤ place ∧ place < address + ([] : List UInt8).length) := by
        simp only [List.length_nil]
        omega
      rw [if_neg none]
      rfl
  | cons byte rest ih =>
      simp only [List.length_cons, memorySize] at fits
      have bound : address < 4096 := by omega
      have later := ih ⟨memory.bytes.setIfInBounds address byte⟩ (address + 1)
        (by simp only [memorySize]; omega)
      change (overlay ⟨memory.bytes.setIfInBounds address byte⟩ (address + 1) rest).byteAt place = _
      rw [later]
      simp only [List.length_cons]
      by_cases first : place = address
      · subst place
        have notLater : ¬(address + 1 ≤ address ∧ address < address + 1 + rest.length) := by omega
        have inside : address ≤ address ∧ address < address + (rest.length + 1) := by omega
        rw [if_neg notLater, if_pos inside, Nat.sub_self]
        simp [byteAt, bound]
      · by_cases inRest : address + 1 ≤ place ∧ place < address + 1 + rest.length
        · have inside : address ≤ place ∧ place < address + (rest.length + 1) := by omega
          have shifted : place - address = (place - (address + 1)) + 1 := by omega
          rw [if_pos inRest, if_pos inside, shifted, List.getElem?_cons_succ]
        · have outside : ¬(address ≤ place ∧ place < address + (rest.length + 1)) := by omega
          rw [if_neg inRest, if_neg outside]
          have different : address ≠ place := fun equal => first equal.symm
          simp [byteAt, different]

theorem ext_byteAt {first second : Memory}
    (same : ∀ address, address < memorySize → first.byteAt address = second.byteAt address) :
    first = second := by
  obtain ⟨firstBytes⟩ := first
  obtain ⟨secondBytes⟩ := second
  congr 1
  apply Vector.ext
  intro address bound
  have equal := same address bound
  simpa [byteAt, bound] using equal

def writeSlice (memory : Memory) (address : UInt16) (data : List UInt8) : Except Fault Memory :=
  if Fits address data.length then .ok (memory.overlay address.toNat data)
  else .error (outside address data.length)

def write (memory : Memory) (address : UInt16) (byte : UInt8) : Except Fault Memory :=
  memory.writeSlice address [byte]

def fill (memory : Memory) (address : UInt16) (length : Nat) (byte : UInt8) :
    Except Fault Memory :=
  if Fits address length then
    .ok (memory.overlay address.toNat (List.replicate length byte))
  else .error (outside address length)

end Memory

end Chip8
