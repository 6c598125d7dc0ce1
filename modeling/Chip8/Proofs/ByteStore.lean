import Chip8.Memory.Source
import Chip8.Proofs.Execution
import Chip8.Proofs.FreshStart
import Chip8.Proofs.LastWriter
/-!
Memory as a store of 4096 bytes in which an access names a run and takes all of it or nothing. Runs are
opened for reading and for writing under one condition, with one answer where it fails, and a run that is
written replaces the bytes that stood there. So after any accesses a byte is the one that the last access
to cover it has put there.
-/

namespace Chip8

namespace Memory

variable {memory : Memory} {address : UInt16} {length : Nat}

/-! ### Runs that fit and runs that do not -/

/-- The last address of a run, or its first one when it is empty. -/
def lastAddress (address : UInt16) (length : Nat) : Nat :=
  address.toNat + max length 1 - 1

theorem outside_eq (address : UInt16) (length : Nat) :
    outside address length = .invalidAddress (lastAddress address length) := by
  have last : address.toNat + (length - 1) = lastAddress address length := by
    unfold lastAddress
    omega
  rw [outside, last]

theorem memorySize_le_lastAddress (beyond : memorySize < address.toNat + length) :
    memorySize ≤ lastAddress address length := by
  unfold lastAddress
  omega

/-- The answer of an access to a run. It is right if all of the run lies in memory, and names the last
address of the run if some of it does not. -/
structure AllOrNothing {α : Type} (answer : Except Fault α) (address : UInt16) (length : Nat)
    (right : α → Prop) : Prop where
  ok_iff : ∀ value, answer = .ok value ↔ address.toNat + length ≤ memorySize ∧ right value
  error_iff : ∀ fault, answer = .error fault ↔
    memorySize < address.toNat + length ∧ fault = .invalidAddress (lastAddress address length)

theorem allOrNothing_guarded {α : Type} (value : α) :
    AllOrNothing (if Fits address length then .ok value else .error (outside address length))
      address length (· = value) := by
  by_cases fits : Fits address length
  · have inside : address.toNat + length ≤ memorySize := fits
    rw [if_pos fits]
    constructor
    · intro given
      rw [and_iff_right inside, Except.ok.injEq, eq_comm]
    · intro fault
      constructor
      · intro refused
        cases refused
      · exact fun beyond => absurd beyond.1 (Nat.not_lt.mpr inside)
  · have beyond : memorySize < address.toNat + length := Nat.not_le.mp fits
    rw [if_neg fits, outside_eq]
    constructor
    · intro given
      constructor
      · intro answered
        cases answered
      · exact fun inside => absurd inside.1 fits
    · intro fault
      rw [and_iff_right beyond, Except.error.injEq, eq_comm]

theorem AllOrNothing.congr {α : Type} {answer : Except Fault α} {right other : α → Prop}
    (all : AllOrNothing answer address length right)
    (same : address.toNat + length ≤ memorySize → ∀ value, right value ↔ other value) :
    AllOrNothing answer address length other where
  ok_iff value := by
    rw [all.ok_iff]
    exact and_congr_right fun inside => same inside value
  error_iff := all.error_iff

/-! ### Runs as parts of a list -/

theorem eq_iff_toList {first second : Memory} :
    first = second ↔ first.bytes.toList = second.bytes.toList := by
  obtain ⟨firstBytes⟩ := first
  obtain ⟨secondBytes⟩ := second
  rw [Memory.mk.injEq]
  exact Vector.toList_inj.symm

theorem getElem?_toList (memory : Memory) {place : Nat} (inside : place < memorySize) :
    memory.bytes.toList[place]? = some (memory.byteAt place) := by
  have bound : place < 4096 := inside
  rw [Vector.getElem?_toList, byteAt, Vector.getElem?_eq_getElem bound]
  rfl

theorem bytesFrom_eq_take_drop (memory : Memory) {first : Nat} (fits : first + length ≤ memorySize) :
    memory.bytesFrom first length = (memory.bytes.toList.drop first).take length := by
  apply List.ext_getElem?
  intro place
  rcases Nat.lt_or_ge place length with inside | beyond
  · have stored := memory.getElem?_toList (Nat.lt_of_lt_of_le (Nat.add_lt_add_left inside first) fits)
    rw [getElem?_bytesFrom memory first inside, List.getElem?_take_of_lt inside, List.getElem?_drop,
      stored]
  · rw [List.getElem?_eq_none (by rw [length_bytesFrom]; exact beyond),
      List.getElem?_eq_none (Nat.le_trans (List.length_take_le _ _) beyond)]

/-! ### Opening a run for writing -/

def window (memory : Memory) (first length : Nat) : Vector UInt8 length :=
  Vector.ofFn fun offset => memory.byteAt (first + offset)

/-- Opens a run for writing: what the change makes of its bytes takes their place. -/
def edit (memory : Memory) (address : UInt16) (length : Nat)
    (change : Vector UInt8 length → Vector UInt8 length) : Except Fault Memory :=
  if Fits address length then
    .ok (memory.overlay address.toNat (change (memory.window address.toNat length)).toList)
  else .error (outside address length)

theorem toList_window (memory : Memory) (first length : Nat) :
    (memory.window first length).toList = memory.bytesFrom first length := by
  apply List.ext_getElem
  · rw [Vector.length_toList, length_bytesFrom]
  · intro place inside _
    rw [Vector.length_toList] at inside
    simp [window, bytesFrom]

theorem writeSlice_eq_edit (memory : Memory) (address : UInt16) (data : List UInt8) :
    memory.writeSlice address data =
      memory.edit address data.length fun _ => ⟨data.toArray, List.size_toArray⟩ := rfl

theorem edit_eq_writeSlice (memory : Memory) (address : UInt16) (length : Nat)
    (change : Vector UInt8 length → Vector UInt8 length) :
    memory.edit address length change =
      memory.writeSlice address (change (memory.window address.toNat length)).toList := by
  rw [edit, writeSlice, Vector.length_toList]

theorem fill_eq_edit (memory : Memory) (address : UInt16) (length : Nat) (byte : UInt8) :
    memory.fill address length byte =
      memory.edit address length fun _ => Vector.replicate length byte := by
  rw [fill, edit, Vector.toList_replicate]

/-! ### Storing byte by byte -/

/-- Stores byte after byte. A byte without a place ends it, and those before it stay. -/
def copyIn (memory : Memory) (place : Nat) : List UInt8 → Except Fault Unit × Memory
  | [] => (.ok (), memory)
  | byte :: rest =>
      if place < memorySize then
        copyIn ⟨memory.bytes.setIfInBounds place byte⟩ (place + 1) rest
      else (.error (.invalidAddress place), memory)

def store (memory : Memory) (address : UInt16) (data : List UInt8) : Except Fault Unit × Memory :=
  if Fits address data.length then memory.copyIn address.toNat data
  else (.error (outside address data.length), memory)

theorem copyIn_eq (memory : Memory) {place : Nat} {data : List UInt8}
    (fits : place + data.length ≤ memorySize) :
    memory.copyIn place data = (.ok (), memory.overlay place data) := by
  induction data generalizing memory place with
  | nil => rfl
  | cons byte rest ih =>
      rw [List.length_cons] at fits
      rw [copyIn, if_pos (by omega)]
      exact ih _ (by omega)

/-- No byte of a run that has been opened is without a place, so the memory never shows half of it. -/
theorem store_eq (memory : Memory) (address : UInt16) (data : List UInt8) :
    memory.store address data =
      match memory.writeSlice address data with
      | .ok written => (.ok (), written)
      | .error fault => (.error fault, memory) := by
  rw [store, writeSlice]
  by_cases fits : Fits address data.length
  · rw [if_pos fits, if_pos fits]
    exact memory.copyIn_eq fits
  · rw [if_neg fits, if_neg fits]

/-! ### The answers -/

theorem toNat_bigEndian (high low : UInt8) :
    (high.toUInt16 * 256 + low.toUInt16).toNat = 256 * high.toNat + low.toNat := by
  have highBound := high.toNat_lt
  have lowBound := low.toNat_lt
  rw [UInt16.toNat_add, UInt16.toNat_mul, UInt8.toNat_toUInt16, UInt8.toNat_toUInt16]
  change (high.toNat * 256 % 65536 + low.toNat) % 65536 = _
  omega

structure AnswersFrom (memory : Memory) (stored : List UInt8) : Prop where
  slice : ∀ address length, AllOrNothing (memory.slice address length) address length
    (· = (stored.drop address.toNat).take length)
  edit : ∀ address length change, AllOrNothing (memory.edit address length change) address length
    fun written => ∃ opened : Vector UInt8 length,
      opened.toList = (stored.drop address.toNat).take length ∧
        written.bytes.toList = stored.take address.toNat ++ (change opened).toList ++
          stored.drop (address.toNat + length)
  writeSlice : ∀ address data, AllOrNothing (memory.writeSlice address data) address data.length
    fun written => written.bytes.toList =
      stored.take address.toNat ++ data ++ stored.drop (address.toNat + data.length)
  fill : ∀ address length byte, AllOrNothing (memory.fill address length byte) address length
    fun written => written.bytes.toList = stored.take address.toNat ++ List.replicate length byte ++
      stored.drop (address.toNat + length)
  write : ∀ address byte, AllOrNothing (memory.write address byte) address 1
    fun written => written.bytes.toList = stored.set address.toNat byte
  read : ∀ address, AllOrNothing (memory.read address) address 1
    fun byte => stored[address.toNat]? = some byte
  readWord : ∀ address, AllOrNothing (memory.readWord address) address 2
    fun word => ∃ high low, stored[address.toNat]? = some high ∧
      stored[address.toNat + 1]? = some low ∧ word.toNat = 256 * high.toNat + low.toNat
  readWord_iff_read : ∀ address word, memory.readWord address = .ok word ↔
    ∃ high low, memory.read address = .ok high ∧ memory.read (address + 1) = .ok low ∧
      word.toNat = 256 * high.toNat + low.toNat

theorem slice_allOrNothing (memory : Memory) (address : UInt16) (length : Nat) :
    AllOrNothing (memory.slice address length) address length
      (· = (memory.bytes.toList.drop address.toNat).take length) := by
  refine (allOrNothing_guarded (memory.bytesFrom address.toNat length)).congr ?_
  intro inside bytes
  rw [memory.bytesFrom_eq_take_drop inside]

theorem edit_allOrNothing (memory : Memory) (address : UInt16) (length : Nat)
    (change : Vector UInt8 length → Vector UInt8 length) :
    AllOrNothing (memory.edit address length change) address length fun written =>
      ∃ opened : Vector UInt8 length,
        opened.toList = (memory.bytes.toList.drop address.toNat).take length ∧
          written.bytes.toList = memory.bytes.toList.take address.toNat ++ (change opened).toList ++
            memory.bytes.toList.drop (address.toNat + length) := by
  refine (allOrNothing_guarded _).congr ?_
  intro inside written
  have window_eq : (memory.window address.toNat length).toList =
      (memory.bytes.toList.drop address.toNat).take length := by
    rw [toList_window, memory.bytesFrom_eq_take_drop inside]
  have overlay_eq := memory.toList_overlay address.toNat
    (change (memory.window address.toNat length)).toList (by rw [Vector.length_toList]; exact inside)
  rw [Vector.length_toList] at overlay_eq
  rw [eq_iff_toList, overlay_eq]
  constructor
  · exact fun written_eq => ⟨_, window_eq, written_eq⟩
  · rintro ⟨opened, opened_eq, written_eq⟩
    obtain rfl : opened = memory.window address.toNat length :=
      Vector.toList_inj.mp (opened_eq.trans window_eq.symm)
    exact written_eq

theorem edit_const_allOrNothing (memory : Memory) (address : UInt16) (length : Nat)
    (bytes : Vector UInt8 length) :
    AllOrNothing (memory.edit address length fun _ => bytes) address length fun written =>
      written.bytes.toList = memory.bytes.toList.take address.toNat ++ bytes.toList ++
        memory.bytes.toList.drop (address.toNat + length) := by
  refine (memory.edit_allOrNothing address length fun _ => bytes).congr ?_
  intro inside written
  have window_eq := (memory.toList_window address.toNat length).trans
    (memory.bytesFrom_eq_take_drop inside)
  constructor
  · rintro ⟨_, _, written_eq⟩
    exact written_eq
  · exact fun written_eq => ⟨_, window_eq, written_eq⟩

theorem writeSlice_allOrNothing (memory : Memory) (address : UInt16) (data : List UInt8) :
    AllOrNothing (memory.writeSlice address data) address data.length fun written =>
      written.bytes.toList = memory.bytes.toList.take address.toNat ++ data ++
        memory.bytes.toList.drop (address.toNat + data.length) := by
  rw [writeSlice_eq_edit]
  exact memory.edit_const_allOrNothing address data.length ⟨data.toArray, List.size_toArray⟩

theorem fill_allOrNothing (memory : Memory) (address : UInt16) (length : Nat) (byte : UInt8) :
    AllOrNothing (memory.fill address length byte) address length fun written =>
      written.bytes.toList = memory.bytes.toList.take address.toNat ++ List.replicate length byte ++
        memory.bytes.toList.drop (address.toNat + length) := by
  rw [fill_eq_edit, ← Vector.toList_replicate]
  exact memory.edit_const_allOrNothing address length (Vector.replicate length byte)

theorem write_allOrNothing (memory : Memory) (address : UInt16) (byte : UInt8) :
    AllOrNothing (memory.write address byte) address 1 fun written =>
      written.bytes.toList = memory.bytes.toList.set address.toNat byte := by
  refine (memory.writeSlice_allOrNothing address [byte]).congr ?_
  intro inside written
  have here : address.toNat < memory.bytes.toList.length := by
    rw [Vector.length_toList]
    exact inside
  rw [List.set_eq_take_append_cons_drop, if_pos here, List.append_assoc, List.singleton_append]
  rfl

theorem read_allOrNothing (memory : Memory) (address : UInt16) :
    AllOrNothing (memory.read address) address 1 fun byte =>
      memory.bytes.toList[address.toNat]? = some byte := by
  refine (allOrNothing_guarded _).congr ?_
  intro inside byte
  rw [memory.getElem?_toList inside, Option.some.injEq, eq_comm]

theorem readWord_allOrNothing (memory : Memory) (address : UInt16) :
    AllOrNothing (memory.readWord address) address 2 fun word =>
      ∃ high low, memory.bytes.toList[address.toNat]? = some high ∧
        memory.bytes.toList[address.toNat + 1]? = some low ∧
          word.toNat = 256 * high.toNat + low.toNat := by
  refine (allOrNothing_guarded _).congr ?_
  intro inside word
  rw [memory.getElem?_toList (by omega), memory.getElem?_toList inside, ← UInt16.toNat_inj,
    toNat_bigEndian]
  constructor
  · exact fun word_eq => ⟨_, _, rfl, rfl, word_eq⟩
  · rintro ⟨high, low, high_eq, low_eq, word_eq⟩
    obtain rfl := Option.some.inj high_eq
    obtain rfl := Option.some.inj low_eq
    exact word_eq

theorem readWord_eq_ok_iff (memory : Memory) (address : UInt16) (word : UInt16) :
    memory.readWord address = .ok word ↔
      ∃ high low, memory.read address = .ok high ∧ memory.read (address + 1) = .ok low ∧
        word.toNat = 256 * high.toNat + low.toNat := by
  -- The second address wraps only behind a first one that is outside memory itself.
  have second : address.toNat + 1 ≤ memorySize → (address + 1).toNat = address.toNat + 1 := by
    intro inside
    have below : address.toNat + 1 < 65536 := Nat.lt_of_le_of_lt inside (by decide)
    rw [UInt16.toNat_add]
    exact Nat.mod_eq_of_lt below
  rw [(memory.readWord_allOrNothing address).ok_iff]
  simp only [(memory.read_allOrNothing _).ok_iff]
  constructor
  · rintro ⟨inside, high, low, high_eq, low_eq, word_eq⟩
    have next := second (by omega)
    exact ⟨high, low, ⟨by omega, high_eq⟩, ⟨by omega, by rw [next]; exact low_eq⟩, word_eq⟩
  · rintro ⟨high, low, ⟨inside, high_eq⟩, ⟨also, low_eq⟩, word_eq⟩
    have next := second inside
    rw [next] at also low_eq
    exact ⟨also, high, low, high_eq, low_eq, word_eq⟩

theorem answersFrom_toList (memory : Memory) : memory.AnswersFrom memory.bytes.toList where
  slice := memory.slice_allOrNothing
  edit := memory.edit_allOrNothing
  writeSlice := memory.writeSlice_allOrNothing
  fill := memory.fill_allOrNothing
  write := memory.write_allOrNothing
  read := memory.read_allOrNothing
  readWord := memory.readWord_allOrNothing
  readWord_iff_read := memory.readWord_eq_ok_iff

theorem slice_congr {first second : Memory}
    (same : ∀ place, address.toNat ≤ place → place < address.toNat + length →
      first.byteAt place = second.byteAt place) :
    first.slice address length = second.slice address length := by
  have bytes_eq : first.bytesFrom address.toNat length = second.bytesFrom address.toNat length := by
    apply List.map_congr_left
    intro offset listed
    exact same _ (Nat.le_add_right _ _) (Nat.add_lt_add_left (List.mem_range.mp listed) _)
  rw [slice, slice]
  exact if_congr Iff.rfl (congrArg Except.ok bytes_eq) rfl

end Memory

/-! ### Accesses -/

structure Run where
  first : Nat
  length : Nat

namespace Run

def Fits (run : Run) : Prop :=
  run.first + run.length ≤ memorySize

def Has (run : Run) (place : Nat) : Prop :=
  run.first ≤ place ∧ place < run.first + run.length

instance (run : Run) : Decidable run.Fits :=
  inferInstanceAs (Decidable (_ ≤ _))

instance (run : Run) (place : Nat) : Decidable (run.Has place) :=
  inferInstanceAs (Decidable (_ ∧ _))

end Run

/-- An access to memory. One that edits is given the bytes of its run and puts others in their place. -/
inductive Access where
  | read (address : UInt16)
  | readWord (address : UInt16)
  | slice (address : UInt16) (length : Nat)
  | write (address : UInt16) (byte : UInt8)
  | writeSlice (address : UInt16) (data : List UInt8)
  | edit (address : UInt16) (length : Nat) (change : Vector UInt8 length → Vector UInt8 length)
  | loadFont
  | loadProgram (program : List UInt8)
  | loadFrom (source : ByteSource)

namespace Access

/-- What the access writes if it fits; reads write an empty run, and so does a load whose source fails. -/
def written : Access → Run
  | .read _ | .readWord _ | .slice _ _ => ⟨0, 0⟩
  | .write address _ => ⟨address.toNat, 1⟩
  | .writeSlice address data => ⟨address.toNat, data.length⟩
  | .edit address length _ => ⟨address.toNat, length⟩
  | .loadFont => ⟨fontStart.toNat, font.length⟩
  | .loadProgram program => ⟨programStart.toNat, program.length⟩
  | .loadFrom source => ⟨programStart.toNat, (source.readToEnd.toOption.getD []).length⟩

def data (memory : Memory) : Access → List UInt8
  | .read _ | .readWord _ | .slice _ _ => []
  | .write _ byte => [byte]
  | .writeSlice _ data => data
  | .edit address length change => (change (memory.window address.toNat length)).toList
  | .loadFont => font
  | .loadProgram program => program
  | .loadFrom source => source.readToEnd.toOption.getD []

def Covers (access : Access) (place : Nat) : Prop :=
  access.written.Fits ∧ access.written.Has place

instance (access : Access) (place : Nat) : Decidable (access.Covers place) :=
  inferInstanceAs (Decidable (_ ∧ _))

theorem length_data (memory : Memory) (access : Access) :
    (access.data memory).length = access.written.length := by
  cases access with
  | edit address length change => exact Vector.length_toList
  | read | readWord | slice | write | writeSlice | loadFont | loadProgram | loadFrom => rfl

end Access

namespace Memory

def after (memory : Memory) : Access → Memory
  | .read _ | .readWord _ | .slice _ _ => memory
  | .write address byte => (memory.store address [byte]).2
  | .writeSlice address data => (memory.store address data).2
  | .edit address length change =>
      (memory.store address (change (memory.window address.toNat length)).toList).2
  | .loadFont => memory.loadFont
  | .loadProgram program => (memory.loadProgram program).2
  | .loadFrom source => (memory.loadFrom source).2

def afterAll (memory : Memory) (accesses : List Access) : Memory :=
  accesses.foldl after memory

theorem snd_store (memory : Memory) (address : UInt16) (data : List UInt8) :
    (memory.store address data).2 =
      if (Run.mk address.toNat data.length).Fits then memory.overlay address.toNat data
      else memory := by
  have fits_iff : Fits address data.length ↔ (Run.mk address.toNat data.length).Fits := Iff.rfl
  by_cases fits : Fits address data.length
  · rw [if_pos (fits_iff.mp fits), store, if_pos fits, memory.copyIn_eq fits]
  · rw [if_neg (mt fits_iff.mpr fits), store, if_neg fits]

theorem snd_loadProgram (memory : Memory) (program : List UInt8) :
    (memory.loadProgram program).2 =
      if (Run.mk programStart.toNat program.length).Fits then
        memory.overlay programStart.toNat program
      else memory := by
  have start : programStart.toNat = 512 := rfl
  rcases Nat.lt_or_ge programCapacity program.length with tooLarge | fits
  · rw [memory.loadProgram_of_tooLarge tooLarge, if_neg]
    simp only [Run.Fits, programCapacity, memorySize, start] at tooLarge ⊢
    omega
  · rw [memory.loadProgram_of_fits fits, if_pos]
    simp only [Run.Fits, programCapacity, memorySize, start] at fits ⊢
    omega

theorem after_eq (memory : Memory) (access : Access) :
    memory.after access =
      if access.written.Fits then memory.overlay access.written.first (access.data memory)
      else memory := by
  cases access with
  | read | readWord | slice => exact (if_pos (Nat.zero_le memorySize)).symm
  | write address byte => exact memory.snd_store address [byte]
  | writeSlice address data => exact memory.snd_store address data
  | edit address length change =>
      rw [after, snd_store, Vector.length_toList]
      rfl
  | loadFont => exact (if_pos (by decide)).symm
  | loadProgram program => exact memory.snd_loadProgram program
  | loadFrom source =>
      rw [after, loadFrom, Access.written, Access.data]
      cases source.readToEnd with
      | ok program => exact memory.snd_loadProgram program
      | error failure =>
          have start : programStart.toNat + 0 ≤ memorySize := by decide
          exact (if_pos start).symm

variable {access : Access} {place : Nat}

theorem byteAt_after (memory : Memory) (access : Access) (place : Nat) :
    (memory.after access).byteAt place =
      if access.Covers place then ((access.data memory)[place - access.written.first]?).getD 0
      else memory.byteAt place := by
  have length_eq := access.length_data memory
  rw [after_eq]
  by_cases fits : access.written.Fits
  · have covers_iff : access.Covers place ↔ access.written.Has place := and_iff_right fits
    rw [if_pos fits, byteAt_overlay _ _ _ _ (by rw [length_eq]; exact fits), length_eq]
    exact if_congr covers_iff.symm rfl rfl
  · have elsewhere : ¬access.Covers place := fun covers => fits covers.1
    rw [if_neg fits, if_neg elsewhere]

theorem byteAt_after_of_spared (other : ¬access.Covers place) (memory : Memory) :
    (memory.after access).byteAt place = memory.byteAt place := by
  rw [byteAt_after, if_neg other]

theorem byteAt_after_of_covers (covers : access.Covers place) (memory : Memory) :
    (access.data memory)[place - access.written.first]? =
      some ((memory.after access).byteAt place) := by
  have within : place - access.written.first < (access.data memory).length := by
    rw [access.length_data memory]
    exact Nat.sub_lt_left_of_lt_add covers.2.1 covers.2.2
  rw [byteAt_after, if_pos covers, List.getElem?_eq_getElem within]
  rfl

theorem after_eq_self (nothing : ∀ place, ¬access.Covers place) (memory : Memory) :
    memory.after access = memory :=
  ext_byteAt fun place _ => byteAt_after_of_spared (nothing place) memory

theorem byteAt_afterAll_of_spared {accesses : List Access}
    (none : ∀ access ∈ accesses, ¬access.Covers place) (start : Memory) :
    (start.afterAll accesses).byteAt place = start.byteAt place :=
  view_foldl_of_spared (fun memory : Memory => memory.byteAt place)
    (fun memory _ other => byteAt_after_of_spared other memory) none start

theorem byteAt_afterAll_of_lastOf {accesses before : List Access} {last : Access}
    (decides : LastOf (Access.Covers · place) accesses before last) (start : Memory) :
    (last.data (start.afterAll before))[place - last.written.first]? =
      some ((start.afterAll accesses).byteAt place) := by
  have written : (start.afterAll accesses).byteAt place =
      ((start.afterAll before).after last).byteAt place :=
    decides.view_foldl (fun memory : Memory => memory.byteAt place)
      (fun memory _ other => byteAt_after_of_spared other memory) start
  rw [written]
  exact byteAt_after_of_covers decides.1 _

theorem slice_afterAll_writeSlice {memory written : Memory} {address : UInt16} {data : List UInt8}
    (ok : memory.writeSlice address data = .ok written) {later : List Access} {start : UInt16}
    {length : Nat}
    (spared : ∀ access ∈ later, ∀ place, (Run.mk start.toNat length).Has place →
      ¬access.Covers place) :
    AllOrNothing ((written.afterAll later).slice start length) start length
      (· = ((memory.bytes.toList.take address.toNat ++ data ++
        memory.bytes.toList.drop (address.toNat + data.length)).drop start.toNat).take length) := by
  have unchanged : (written.afterAll later).slice start length = written.slice start length := by
    apply slice_congr
    intro place first last
    exact byteAt_afterAll_of_spared (fun access listed => spared access listed place ⟨first, last⟩) _
  have written_eq := ((memory.writeSlice_allOrNothing address data).ok_iff written).mp ok
  rw [unchanged, ← written_eq.2]
  exact written.slice_allOrNothing start length

/-- After any accesses, each further one is answered from the bytes that are stored, and takes all of its
run or nothing: a refusal names an address outside memory, and no byte has been stored before it. What has
been written is seen by all reads up to the next write to the same place, and a byte is the one that the
last access to cover its place has put there. -/
theorem accesses_are_all_or_nothing (start : Memory) (accesses : List Access) :
    let memory := start.afterAll accesses
    let stored := memory.bytes.toList
    memory.AnswersFrom stored ∧
      (∀ address length, memorySize < address.toNat + length →
        memorySize ≤ lastAddress address length) ∧
      (∀ address data, memory.store address data =
        match memory.writeSlice address data with
        | .ok written => (.ok (), written)
        | .error fault => (.error fault, memory)) ∧
      (∀ address length change,
        memory.store address (change (memory.window address.toNat length)).toList =
          match memory.edit address length change with
          | .ok written => (.ok (), written)
          | .error fault => (.error fault, memory)) ∧
      (∀ access : Access, (∀ place, ¬access.Covers place) → memory.after access = memory) ∧
      (∀ address data written, memory.writeSlice address data = .ok written →
        ∀ later start length, (∀ access ∈ later, ∀ place, (Run.mk start.toNat length).Has place →
            ¬access.Covers place) →
          AllOrNothing ((written.afterAll later).slice start length) start length
            (· = ((stored.take address.toNat ++ data ++
              stored.drop (address.toNat + data.length)).drop start.toNat).take length)) ∧
      (∀ place, (∀ access ∈ accesses, ¬access.Covers place) →
        memory.byteAt place = start.byteAt place) ∧
      ∀ place before last, LastOf (Access.Covers · place) accesses before last →
        (last.data (start.afterAll before))[place - last.written.first]? =
          some (memory.byteAt place) := by
  intro memory stored
  refine ⟨memory.answersFrom_toList, ?_, memory.store_eq, ?_, ?_, ?_, ?_, ?_⟩
  · intro address length beyond
    exact memorySize_le_lastAddress beyond
  · intro address length change
    rw [edit_eq_writeSlice, store_eq]
  · intro access nothing
    exact after_eq_self nothing memory
  · intro address data written ok later first length spared
    exact slice_afterAll_writeSlice ok spared
  · intro place none
    exact byteAt_afterAll_of_spared none start
  · intro place before last decides
    exact byteAt_afterAll_of_lastOf decides start

/-- Accesses at the very end of memory, one of which is refused and one of which overlaps what an earlier
one has written. -/
theorem last_bytes_are_written_once :
    let accesses : List Access :=
      [.writeSlice 0xffe [1, 2], .writeSlice 0xfff [3, 4], .edit 0xffd 2 Vector.reverse, .read 0xfff]
    let memory := initial.afterAll accesses
    memory.byteAt 0xfff = 2 ∧ memory.byteAt 0x300 = initial.byteAt 0x300 ∧
      memory.slice 0x1000 0 = .ok [] ∧
      memory.slice 0x1001 0 = .error (.invalidAddress 0x1001) ∧
      memory.store 0xfff [3, 4] = (.error (.invalidAddress 0x1000), memory) ∧
      memory.after (.writeSlice 0xfff [3, 4]) = memory ∧
      ∃ written, memory.writeSlice 0xffe [7, 8] = .ok written ∧
        (written.afterAll [.write 0xffd 9]).slice 0xffe 2 = .ok [7, 8] := by
  intro accesses memory
  obtain ⟨answers, _, store, _, refused, seen, untouched, last⟩ :=
    accesses_are_all_or_nothing initial accesses
  have decides : LastOf (Access.Covers · 0xfff) accesses [] (.writeSlice 0xffe [1, 2]) :=
    ⟨by decide, _, rfl, by decide⟩
  have short : memory.writeSlice 0xfff [3, 4] = .error (.invalidAddress 0x1000) :=
    ((answers.writeSlice 0xfff [3, 4]).error_iff _).mpr ⟨by decide, rfl⟩
  have place_eq : ([1, 2] : List UInt8)[1]? = some (memory.byteAt 0xfff) := last 0xfff _ _ decides
  have ok : memory.writeSlice 0xffe [7, 8] = .ok (memory.overlay 0xffe [7, 8]) := if_pos (by decide)
  have spared : ∀ access ∈ [Access.write 0xffd 9], ∀ place,
      (Run.mk 0xffe 2).Has place → ¬access.Covers place := by
    intro access listed place has covers
    rw [List.mem_singleton.mp listed] at covers
    have before : place < 0xffe := covers.2.2
    exact absurd has.1 (Nat.not_le.mpr before)
  have data_eq : ((memory.bytes.toList.take 0xffe ++ [7, 8] ++ memory.bytes.toList.drop 0x1000).drop
      0xffe).take 2 = [7, 8] := by
    have ahead : (memory.bytes.toList.take 0xffe).length = 0xffe := by
      rw [List.length_take, Vector.length_toList]
      rfl
    rw [List.append_assoc, List.drop_left' ahead]
    rfl
  refine ⟨(Option.some.inj place_eq).symm, untouched 0x300 (by decide), ?_, ?_, ?_, ?_, _, ok, ?_⟩
  · exact ((answers.slice 0x1000 0).ok_iff []).mpr ⟨by decide, rfl⟩
  · exact ((answers.slice 0x1001 0).error_iff _).mpr ⟨by decide, rfl⟩
  · rw [store, short]
  · exact refused _ fun place covers => absurd covers.1 (by decide)
  · exact ((seen 0xffe [7, 8] _ ok _ 0xffe 2 spared).ok_iff [7, 8]).mpr ⟨by decide, data_eq.symm⟩

end Memory

end Chip8
