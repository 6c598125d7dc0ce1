import Chip8.Instruction.Listing
import Chip8.Proofs.Encoding
import Chip8.Proofs.Numerals
/-!
Reading a program listing back. The words of a line are told apart by its spaces, the operands by their first
characters and their lengths, and the instructions that share a mnemonic by their operands. So no two
instructions have the same text, and what decoding has left of a word can be had from the text alone.
-/

namespace Chip8

open Text (isHexDigit numeralValue)

namespace Text

theorem mem_upperHexDigits {value : Nat} {character : Char}
    (listed : character ∈ upperHexDigits value) :
    ∃ digit < 16, character = digit.digitChar.toUpper := by
  obtain ⟨lower, among, rfl⟩ := List.mem_map.mp listed
  obtain ⟨digit, inside, rfl⟩ := mem_toDigits (by decide) value among
  exact ⟨digit, inside, rfl⟩

theorem upper_digit_ne {digit : Nat} (inside : digit < 16) :
    digit.digitChar.toUpper ≠ ' ' ∧ digit.digitChar.toUpper ≠ ',' := by
  interval_cases digit <;> decide

end Text

/-! ### Operands -/

namespace Operand

def ofHexDigits (digits : List Char) : Operand :=
  if digits.length = 2 then .byte (UInt8.ofNat (numeralValue 16 digits))
  else .address (UInt16.ofNat (numeralValue 16 digits))

/-- Numbers without a mark are counts and words. Words have four digits, and counts have three at most. -/
def read? (characters : List Char) : Option Operand :=
  if characters.all isHexDigit then
    if characters.length < 4 then some (.count (UInt8.ofNat (numeralValue 10 characters)))
    else some (.word (UInt16.ofNat (numeralValue 16 characters)))
  else
    match characters with
    | 'V' :: digits => some (.register (numeralValue 16 digits))
    | '0' :: 'x' :: digits => some (ofHexDigits digits)
    | ['I'] => some .index
    | ['[', 'I', ']'] => some .indirect
    | ['D', 'T'] => some .delayTimer
    | ['S', 'T'] => some .soundTimer
    | ['K'] => some .key
    | ['F'] => some .glyph
    | ['B'] => some .decimal
    | _ => none

theorem read?_characters (operand : Operand) : read? operand.characters = some operand := by
  unfold read?
  cases operand with
  | register number =>
      rw [characters, if_neg (by simp [isHexDigit])]
      exact congrArg (fun value => some (register value))
        (Text.numeralValue_upperHexDigits number)
  | address value =>
      have wide : ¬(Text.hexDigits 3 value.toNat).length = 2 := by
        have least := Text.le_length_hexDigits 3 value.toNat
        omega
      rw [characters, if_neg (by simp [isHexDigit])]
      change some (ofHexDigits (Text.hexDigits 3 value.toNat)) = some (address value)
      rw [ofHexDigits, if_neg wide, Text.numeralValue_hexDigits, UInt16.ofNat_toNat]
  | byte value =>
      have exact : (Text.hexDigits 2 value.toNat).length = 2 :=
        Text.length_hexDigits (by decide) value.toNat_lt
      rw [characters, if_neg (by simp [isHexDigit])]
      change some (ofHexDigits (Text.hexDigits 2 value.toNat)) = some (byte value)
      rw [ofHexDigits, if_pos exact, Text.numeralValue_hexDigits, UInt8.ofNat_toNat]
  | count value =>
      have short : (Nat.toDigits 10 value.toNat).length < 4 := by
        have below := value.toNat_lt
        have bound := (Nat.length_toDigits_le_iff (b := 10) (n := value.toNat) (k := 3)
          (by decide) (by decide)).mpr (by omega)
        omega
      have digits : (Nat.toDigits 10 value.toNat).all isHexDigit = true :=
        List.all_eq_true.mpr fun _ listed =>
          Text.isHexDigit_of_mem_toDigits (by decide) (by decide) listed
      rw [characters, if_pos digits, if_pos short,
        Text.numeralValue_toDigits (by decide) (by decide), UInt8.ofNat_toNat]
  | word value =>
      have long : ¬(Text.hexDigits 4 value.toNat).length < 4 := by
        have least := Text.le_length_hexDigits 4 value.toNat
        omega
      have digits : (Text.hexDigits 4 value.toNat).all isHexDigit = true :=
        List.all_eq_true.mpr fun _ listed => Text.isHexDigit_of_mem_hexDigits listed
      rw [characters, if_pos digits, if_neg long, Text.numeralValue_hexDigits, UInt16.ofNat_toNat]
  | index | indirect | delayTimer | soundTimer | key | glyph | decimal => rfl

theorem separate_characters (operand : Operand) :
    ' ' ∉ operand.characters ∧ ',' ∉ operand.characters := by
  have hex : ∀ width value, ' ' ∉ Text.hexDigits width value ∧ ',' ∉ Text.hexDigits width value :=
    fun width value => ⟨Text.notMem_hexDigits rfl width value, Text.notMem_hexDigits rfl width value⟩
  cases operand with
  | register number =>
      constructor
      · intro listed
        rcases List.mem_cons.mp listed with mark | digit
        · exact absurd mark (by decide)
        · obtain ⟨value, inside, same⟩ := Text.mem_upperHexDigits digit
          exact (Text.upper_digit_ne inside).1 same.symm
      · intro listed
        rcases List.mem_cons.mp listed with mark | digit
        · exact absurd mark (by decide)
        · obtain ⟨value, inside, same⟩ := Text.mem_upperHexDigits digit
          exact (Text.upper_digit_ne inside).2 same.symm
  | address value =>
      have digits := hex 3 value.toNat
      simp [characters, digits]
  | byte value =>
      have digits := hex 2 value.toNat
      simp [characters, digits]
  | count value =>
      exact ⟨Text.notMem_toDigits (by decide) (by decide) rfl value.toNat,
        Text.notMem_toDigits (by decide) (by decide) rfl value.toNat⟩
  | word value => exact hex 4 value.toNat
  | index | indirect | delayTimer | soundTimer | key | glyph | decimal => decide

end Operand

/-! ### Lines -/

namespace Listing

def words (characters : List Char) : List (List Char) :=
  (characters.filter (· != ',')).splitOn ' '

def read? (characters : List Char) : Option Listing :=
  match words characters with
  | [] => none
  | mnemonic :: operands => do
      return ⟨String.ofList mnemonic, ← operands.mapM Operand.read?⟩

theorem filter_of_plain {word : List Char} (plain : ',' ∉ word) :
    word.filter (· != ',') = word := by
  refine List.filter_eq_self.mpr ?_
  intro character listed
  have different : character ≠ ',' := by
    rintro rfl
    exact plain listed
  exact bne_iff_ne.mpr different

theorem filter_intercalate {words : List (List Char)} (plain : ∀ word ∈ words, ',' ∉ word) :
    ([',', ' '].intercalate words).filter (· != ',') = [' '].intercalate words := by
  induction words with
  | nil => rfl
  | cons word rest ih =>
      have kept := filter_of_plain (plain word List.mem_cons_self)
      have later := ih fun other listed => plain other (List.mem_cons_of_mem word listed)
      cases rest with
      | nil =>
          simp only [List.intercalate_singleton]
          exact kept
      | cons next rest =>
          simp only [List.intercalate_cons_cons, List.filter_append, kept, later]
          rfl

variable {listing : Listing}

theorem words_characters (whole : ' ' ∉ listing.mnemonic.toList)
    (plain : ',' ∉ listing.mnemonic.toList) :
    words listing.characters = listing.mnemonic.toList :: listing.operands.map Operand.characters := by
  have spaceless : ∀ word ∈ listing.mnemonic.toList :: listing.operands.map Operand.characters,
      ' ' ∉ word := by
    intro word listed
    rcases List.mem_cons.mp listed with rfl | among
    · exact whole
    · obtain ⟨operand, _, rfl⟩ := List.mem_map.mp among
      exact operand.separate_characters.1
  have commaless : ∀ word ∈ listing.operands.map Operand.characters, ',' ∉ word := by
    intro word among
    obtain ⟨operand, _, rfl⟩ := List.mem_map.mp among
    exact operand.separate_characters.2
  have kept := filter_of_plain plain
  have joined : listing.characters.filter (· != ',') =
      [' '].intercalate (listing.mnemonic.toList :: listing.operands.map Operand.characters) := by
    unfold characters
    split
    · rename_i none
      rw [none, List.map_nil, List.intercalate_singleton]
      exact kept
    · rename_i some
      cases operands : listing.operands with
      | nil => exact absurd operands some
      | cons first rest =>
          rw [operands] at commaless
          rw [List.map_cons] at commaless ⊢
          rw [List.filter_append, kept, List.filter_cons_of_pos (by decide),
            filter_intercalate commaless, List.intercalate_cons_cons, List.append_assoc]
          rfl
  rw [words, joined]
  exact List.splitOn_intercalate ' ' spaceless (List.cons_ne_nil _ _)

theorem mapM_read?_characters (operands : List Operand) :
    (operands.map Operand.characters).mapM Operand.read? = some operands := by
  induction operands with
  | nil => rfl
  | cons operand rest ih =>
      rw [List.map_cons, List.mapM_cons, Operand.read?_characters, ih]
      rfl

theorem read?_characters (whole : ' ' ∉ listing.mnemonic.toList)
    (plain : ',' ∉ listing.mnemonic.toList) : read? listing.characters = some listing := by
  rw [read?, words_characters whole plain]
  dsimp only
  rw [mapM_read?_characters, String.ofList_toList]
  rfl

end Listing

/-! ### Instructions -/

def AluOperation.ofMnemonic? (mnemonic : String) : Option AluOperation :=
  match mnemonic with
  | "LD" => some .assign
  | "OR" => some .or
  | "AND" => some .and
  | "XOR" => some .xor
  | "ADD" => some .add
  | "SUB" => some .subtract
  | "SHR" => some .shiftRight
  | "SUBN" => some .subtractFrom
  | "SHL" => some .shiftLeft
  | _ => none

namespace Instruction

def ofListing? (listing : Listing) : Option Instruction :=
  match listing.mnemonic, listing.operands with
  | "CLS", [] => some .clear
  | "RET", [] => some .ret
  | "JP", [.address target] => some (.jump target)
  | "JP", [.register 0, .address base] => some (.jumpFromV0 base)
  | "CALL", [.address target] => some (.call target)
  | "SE", [.register x, .byte byte] => some (.skipIfByte x byte)
  | "SE", [.register x, .register y] => some (.skipIfEqual x y)
  | "SNE", [.register x, .byte byte] => some (.skipUnlessByte x byte)
  | "SNE", [.register x, .register y] => some (.skipUnlessEqual x y)
  | "SKP", [.register x] => some (.skipIfDown x)
  | "SKNP", [.register x] => some (.skipIfUp x)
  | "RND", [.register x, .byte mask] => some (.random x mask)
  | "DRW", [.register x, .register y, .count rows] => some (.draw x y rows)
  | "ADD", [.register x, .byte byte] => some (.addByte x byte)
  | "ADD", [.index, .register x] => some (.addIndex x)
  | "LD", [.register x, .byte byte] => some (.setByte x byte)
  | "LD", [.index, .address address] => some (.setIndex address)
  | "LD", [.register x, .delayTimer] => some (.readDelay x)
  | "LD", [.register x, .key] => some (.awaitKey x)
  | "LD", [.delayTimer, .register x] => some (.setDelay x)
  | "LD", [.soundTimer, .register x] => some (.setSound x)
  | "LD", [.glyph, .register x] => some (.pointAtGlyph x)
  | "LD", [.decimal, .register x] => some (.storeDecimal x)
  | "LD", [.indirect, .register x] => some (.storeRange x)
  | "LD", [.register x, .indirect] => some (.loadRange x)
  | "???", [.word opcode] => some (.unassigned opcode)
  | mnemonic, [.register x, .register y] =>
      (AluOperation.ofMnemonic? mnemonic).map fun operation => .alu operation x y
  | _, _ => none

theorem ofListing?_listing (instruction : Instruction) :
    ofListing? instruction.listing = some instruction := by
  cases instruction with
  | alu operation x y => cases operation <;> rfl
  | _ => rfl

def parse? (text : String) : Option Instruction :=
  (Listing.read? text.toList).bind ofListing?

theorem separate_mnemonic (instruction : Instruction) :
    ' ' ∉ instruction.listing.mnemonic.toList ∧ ',' ∉ instruction.listing.mnemonic.toList := by
  cases instruction with
  | alu operation x y =>
      cases operation <;> dsimp only [listing, AluOperation.mnemonic] <;> decide
  | _ =>
      dsimp only [listing]
      decide

theorem parse?_text (instruction : Instruction) : parse? instruction.text = some instruction := by
  obtain ⟨whole, plain⟩ := instruction.separate_mnemonic
  rw [parse?, text, String.toList_ofList, Listing.read?_characters whole plain]
  exact instruction.ofListing?_listing

theorem text_injective : Function.Injective text := by
  intro first second same
  have read := first.parse?_text
  rw [same, parse?_text] at read
  exact (Option.some.inj read).symm

/-! ### Words -/

/-- The least word that means the instruction: a digit that is free in the word is zero. -/
def leastWord : Instruction → Nat
  | .clear => 0x00e0
  | .ret => 0x00ee
  | .jump target => 0x1000 + target.toNat
  | .call target => 0x2000 + target.toNat
  | .skipIfByte x byte => 0x3000 + 0x100 * x + byte.toNat
  | .skipUnlessByte x byte => 0x4000 + 0x100 * x + byte.toNat
  | .skipIfEqual x y => 0x5000 + 0x100 * x + 0x10 * y
  | .setByte x byte => 0x6000 + 0x100 * x + byte.toNat
  | .addByte x byte => 0x7000 + 0x100 * x + byte.toNat
  | .alu operation x y => 0x8000 + 0x100 * x + 0x10 * y + operation.digit.toNat
  | .skipUnlessEqual x y => 0x9000 + 0x100 * x + 0x10 * y
  | .setIndex address => 0xa000 + address.toNat
  | .jumpFromV0 base => 0xb000 + base.toNat
  | .random x mask => 0xc000 + 0x100 * x + mask.toNat
  | .draw x y rows => 0xd000 + 0x100 * x + 0x10 * y + rows.toNat
  | .skipIfDown x => 0xe000 + 0x100 * x + 0x9e
  | .skipIfUp x => 0xe000 + 0x100 * x + 0xa1
  | .readDelay x => 0xf000 + 0x100 * x + 0x07
  | .awaitKey x => 0xf000 + 0x100 * x + 0x0a
  | .setDelay x => 0xf000 + 0x100 * x + 0x15
  | .setSound x => 0xf000 + 0x100 * x + 0x18
  | .addIndex x => 0xf000 + 0x100 * x + 0x1e
  | .pointAtGlyph x => 0xf000 + 0x100 * x + 0x29
  | .storeDecimal x => 0xf000 + 0x100 * x + 0x33
  | .storeRange x => 0xf000 + 0x100 * x + 0x55
  | .loadRange x => 0xf000 + 0x100 * x + 0x65
  | .unassigned opcode => opcode.toNat

end Instruction

namespace Opcode

def LastDigitFree (opcode : UInt16) : Prop :=
  family opcode = 0x5 ∨ family opcode = 0x9

instance (opcode : UInt16) : Decidable (LastDigitFree opcode) :=
  inferInstanceAs (Decidable (_ ∨ _))

def withoutFreeDigit (opcode : UInt16) : Nat :=
  if LastDigitFree opcode then opcode.toNat / 16 * 16 else opcode.toNat

theorem lastDigitFree_iff (opcode : UInt16) :
    LastDigitFree opcode ↔ opcode.toNat / 0x1000 = 0x5 ∨ opcode.toNat / 0x1000 = 0x9 := by
  rw [LastDigitFree, ← UInt16.toNat_inj, ← UInt16.toNat_inj, toNat_family]
  rfl

theorem withoutFreeDigit_eq (opcode : UInt16) :
    withoutFreeDigit opcode =
      if opcode.toNat / 0x1000 = 0x5 ∨ opcode.toNat / 0x1000 = 0x9 then opcode.toNat / 16 * 16
      else opcode.toNat :=
  if_congr (lastDigitFree_iff opcode) rfl rfl

theorem decode_of_lastDigitFree {opcode : UInt16} (free : LastDigitFree opcode) :
    Instruction.decode opcode = .skipIfEqual (x opcode) (y opcode) ∨
      Instruction.decode opcode = .skipUnlessEqual (x opcode) (y opcode) := by
  rcases free with equal | unequal
  · exact Or.inl (by simp only [Instruction.decode, equal])
  · exact Or.inr (by simp only [Instruction.decode, unequal])

/-- The words compare the same registers in the same way. -/
def SameComparison (first second : UInt16) : Prop :=
  LastDigitFree first ∧ family first = family second ∧ x first = x second ∧ y first = y second

theorem sameComparison_of_withoutFreeDigit {first second : UInt16}
    (same : withoutFreeDigit first = withoutFreeDigit second) :
    first = second ∨ SameComparison first second := by
  rw [withoutFreeDigit_eq, withoutFreeDigit_eq] at same
  by_cases free : LastDigitFree first
  · have digits := (lastDigitFree_iff first).mp free
    have higher : first.toNat / 0x10 = second.toNat / 0x10 := by
      rw [if_pos digits] at same
      split at same <;> omega
    refine Or.inr ⟨free, ?_, ?_, ?_⟩
    · apply UInt16.toNat_inj.mp
      rw [toNat_family, toNat_family]
      omega
    · rw [x_eq, x_eq]
      omega
    · rw [y_eq, y_eq, higher]
  · have digits := (lastDigitFree_iff first).not.mp free
    refine Or.inl (UInt16.toNat_inj.mp ?_)
    rw [if_neg digits] at same
    split at same <;> omega

end Opcode

namespace Instruction

theorem EncodedBy.leastWord_eq {instruction : Instruction} {opcode : UInt16}
    (assigned : instruction.Assigned) (means : instruction.EncodedBy opcode.toNat) :
    instruction.leastWord = Opcode.withoutFreeDigit opcode := by
  rw [Opcode.withoutFreeDigit_eq]
  cases instruction with
  | clear | ret =>
      have word : opcode.toNat = _ := means
      rw [word]
      rfl
  | jump target | call target | setIndex target | jumpFromV0 target =>
      obtain ⟨below, word⟩ := means
      rw [if_neg (by omega), word]
      rfl
  | skipIfByte x byte | skipUnlessByte x byte | setByte x byte | addByte x byte | random x byte =>
      obtain ⟨inside, word⟩ := means
      have low := byte.toNat_lt
      rw [if_neg (by omega), word]
      rfl
  | skipIfEqual x y | skipUnlessEqual x y =>
      obtain ⟨xInside, yInside, last, bound, word⟩ := means
      rw [if_pos (by omega), leastWord]
      omega
  | alu operation x y =>
      obtain ⟨xInside, yInside, word⟩ := means
      have bound := operation.toNat_digit_lt
      rw [if_neg (by omega), word]
      rfl
  | draw x y rows =>
      obtain ⟨xInside, yInside, bound, word⟩ := means
      rw [if_neg (by omega), word]
      rfl
  | skipIfDown x | skipIfUp x | readDelay x | awaitKey x | setDelay x | setSound x | addIndex x
  | pointAtGlyph x | storeDecimal x | storeRange x | loadRange x =>
      obtain ⟨inside, word⟩ := means
      rw [if_neg (by omega), word]
      rfl
  | unassigned word => cases assigned

theorem eq_of_decode_unassigned {opcode word : UInt16}
    (unassigned : decode opcode = .unassigned word) : word = opcode := by
  have means := decode_encodedBy opcode
  rw [unassigned] at means
  exact (UInt16.toNat_inj.mp means).symm

theorem leastWord_decode (opcode : UInt16) :
    (decode opcode).leastWord = Opcode.withoutFreeDigit opcode := by
  have means := decode_encodedBy opcode
  by_cases assigned : (decode opcode).Assigned
  · exact means.leastWord_eq assigned
  · have bound : ¬Opcode.LastDigitFree opcode := by
      intro free
      rcases Opcode.decode_of_lastDigitFree free with equal | unequal
      · exact assigned (equal ▸ trivial)
      · exact assigned (unequal ▸ trivial)
    rw [Opcode.withoutFreeDigit, if_neg bound]
    cases read : decode opcode with
    | unassigned word => rw [eq_of_decode_unassigned read, leastWord]
    | _ => exact absurd (read ▸ trivial) assigned

theorem text_decode_eq_iff (first second : UInt16) :
    (decode first).text = (decode second).text ↔
      first = second ∨ Opcode.SameComparison first second := by
  constructor
  · intro same
    have least : (decode first).leastWord = (decode second).leastWord := by
      rw [text_injective same]
    rw [leastWord_decode, leastWord_decode] at least
    exact Opcode.sameComparison_of_withoutFreeDigit least
  · rintro (rfl | ⟨free, family, x, y⟩)
    · rfl
    · rcases free with equal | unequal
      · simp only [decode, ← family, equal, x, y]
      · simp only [decode, ← family, unequal, x, y]

/-- No two instructions have the same text, so a listing can be read back. Two words are listed alike only
if they are the same, or compare the same registers in the same way and differ in the digit that then is
free. The operands of a decoded word keep to the width of their digits, a word that means nothing is kept
whole, and the text of any word gives the word back up to a free digit. -/
theorem listing_is_unambiguous :
    (∀ first second : Instruction, first.text = second.text ↔ first = second) ∧
      (∀ instruction : Instruction, parse? instruction.text = some instruction) ∧
      (∀ first second : UInt16, (decode first).text = (decode second).text ↔
        first = second ∨ Opcode.SameComparison first second) ∧
      ∀ opcode : UInt16,
        (decode opcode).OperandsInRange ∧
          (∀ word, decode opcode = .unassigned word → word = opcode) ∧
          (parse? (decode opcode).text).map leastWord = some (Opcode.withoutFreeDigit opcode) := by
  refine ⟨fun _ _ => text_injective.eq_iff, parse?_text, text_decode_eq_iff, ?_⟩
  intro opcode
  refine ⟨decode_operandsInRange opcode, fun _ => eq_of_decode_unassigned, ?_⟩
  rw [parse?_text, Option.map_some, leastWord_decode]

/-- A comparison with a free digit, and a word that means nothing. -/
theorem comparison_and_unassigned_read_back :
    (decode 0x5abc).text = (decode 0x5ab0).text ∧
      (parse? (decode 0x5abc).text).map leastWord = some 0x5ab0 ∧
      decode 0x812d = .unassigned 0x812d ∧
      (parse? (decode 0x812d).text).map leastWord = some 0x812d := by
  obtain ⟨_, _, alike, decoded⟩ := listing_is_unambiguous
  have same : Opcode.SameComparison 0x5abc 0x5ab0 := ⟨by decide, by decide, by decide, by decide⟩
  have unassigned : decode 0x812d = .unassigned 0x812d := by decide
  have whole := (decoded 0x812d).2.1 0x812d unassigned
  have comparison := (decoded 0x5abc).2.2
  have word := (decoded 0x812d).2.2
  have freed : Opcode.withoutFreeDigit 0x5abc = 0x5ab0 := by decide
  have kept : Opcode.withoutFreeDigit 0x812d = 0x812d := by decide
  rw [freed] at comparison
  rw [kept] at word
  exact ⟨(alike _ _).mpr (Or.inr same), comparison, unassigned, word⟩

end Instruction

end Chip8
