import Chip8.Text.Hex
import Mathlib.Tactic.IntervalCases
/-!
Numerals read back. Zeros on the left and the case of the letters do not change what a hexadecimal numeral
stands for, so two numbers that are written alike are the same number.
-/

namespace Chip8.Text

def digitValue (digit : Char) : Nat :=
  if digit.isDigit then digit.toNat - 48
  else if digit.isUpper then digit.toNat - 55
  else digit.toNat - 87

def numeralValue (base : Nat) (digits : List Char) : Nat :=
  digits.foldl (fun value digit => base * value + digitValue digit) 0

def isHexDigit (character : Char) : Bool :=
  character.isDigit || ('a' ≤ character && character ≤ 'f')

/-! ### One digit -/

theorem digitValue_digitChar {digit : Nat} (inside : digit < 16) :
    digitValue digit.digitChar = digit := by
  interval_cases digit <;> rfl

theorem digitValue_toUpper_digitChar {digit : Nat} (inside : digit < 16) :
    digitValue digit.digitChar.toUpper = digit := by
  interval_cases digit <;> rfl

theorem isHexDigit_digitChar {digit : Nat} (inside : digit < 16) :
    isHexDigit digit.digitChar = true := by
  interval_cases digit <;> rfl

theorem mem_toDigits {base : Nat} (several : 1 < base) (value : Nat) {character : Char}
    (listed : character ∈ Nat.toDigits base value) :
    ∃ digit < base, character = digit.digitChar := by
  induction value using Nat.strongRecOn with
  | ind value ih =>
      rcases Nat.lt_or_ge value base with small | large
      · rw [Nat.toDigits_of_lt_base small, List.mem_singleton] at listed
        exact ⟨value, small, listed⟩
      · rw [Nat.toDigits_of_base_le several large, List.mem_append, List.mem_singleton] at listed
        rcases listed with earlier | last
        · have positive : 0 < value := by omega
          exact ih (value / base) (Nat.div_lt_self positive several) earlier
        · exact ⟨value % base, Nat.mod_lt _ (by omega), last⟩

theorem isHexDigit_of_mem_toDigits {base value : Nat} (several : 1 < base) (few : base ≤ 16)
    {character : Char} (listed : character ∈ Nat.toDigits base value) :
    isHexDigit character = true := by
  obtain ⟨digit, inside, rfl⟩ := mem_toDigits several value listed
  exact isHexDigit_digitChar (Nat.lt_of_lt_of_le inside few)

theorem isHexDigit_of_mem_hexDigits {width value : Nat} {character : Char}
    (listed : character ∈ hexDigits width value) : isHexDigit character = true := by
  rcases List.mem_append.mp listed with zero | digit
  · rw [List.eq_of_mem_replicate zero]
    rfl
  · exact isHexDigit_of_mem_toDigits (by decide) (Nat.le_refl 16) digit

theorem notMem_toDigits {base : Nat} (several : 1 < base) (few : base ≤ 16) {character : Char}
    (other : isHexDigit character = false) (value : Nat) : character ∉ Nat.toDigits base value := by
  intro listed
  rw [isHexDigit_of_mem_toDigits several few listed] at other
  cases other

theorem notMem_hexDigits {character : Char} (other : isHexDigit character = false)
    (width value : Nat) : character ∉ hexDigits width value := by
  intro listed
  rw [isHexDigit_of_mem_hexDigits listed] at other
  cases other

/-! ### Whole numerals -/

theorem numeralValue_append_singleton (base : Nat) (digits : List Char) (digit : Char) :
    numeralValue base (digits ++ [digit]) = base * numeralValue base digits + digitValue digit := by
  unfold numeralValue
  rw [List.foldl_append]
  rfl

theorem numeralValue_replicate_zero_append (base count : Nat) (digits : List Char) :
    numeralValue base (List.replicate count '0' ++ digits) = numeralValue base digits := by
  induction count with
  | zero => rfl
  | succ count ih =>
      rw [List.replicate_succ, List.cons_append]
      exact ih

/-- A numeral whose digits have been spelled so that each keeps its value stands for its number. -/
theorem numeralValue_map_toDigits {base : Nat} (several : 1 < base) {spell : Char → Char}
    (kept : ∀ digit < base, digitValue (spell digit.digitChar) = digit) (value : Nat) :
    numeralValue base ((Nat.toDigits base value).map spell) = value := by
  induction value using Nat.strongRecOn with
  | ind value ih =>
      rcases Nat.lt_or_ge value base with small | large
      · rw [Nat.toDigits_of_lt_base small, List.map_singleton]
        change base * 0 + digitValue (spell value.digitChar) = value
        rw [kept value small, Nat.mul_zero, Nat.zero_add]
      · have earlier := ih (value / base) (Nat.div_lt_self (by omega) several)
        have last := kept (value % base) (Nat.mod_lt _ (by omega))
        rw [Nat.toDigits_of_base_le several large, List.map_append, List.map_singleton,
          numeralValue_append_singleton, earlier, last]
        exact Nat.div_add_mod value base

theorem numeralValue_toDigits {base : Nat} (several : 1 < base) (few : base ≤ 16) (value : Nat) :
    numeralValue base (Nat.toDigits base value) = value := by
  have kept : ∀ digit < base, digitValue (id digit.digitChar) = digit := fun digit inside =>
    digitValue_digitChar (Nat.lt_of_lt_of_le inside few)
  have read := numeralValue_map_toDigits several kept value
  rw [List.map_id] at read
  exact read

@[simp] theorem numeralValue_hexDigits (width value : Nat) :
    numeralValue 16 (hexDigits width value) = value := by
  rw [hexDigits, padded, numeralValue_replicate_zero_append]
  exact numeralValue_toDigits (by decide) (Nat.le_refl 16) value

@[simp] theorem numeralValue_upperHexDigits (value : Nat) :
    numeralValue 16 (upperHexDigits value) = value :=
  numeralValue_map_toDigits (by decide) (fun _ inside => digitValue_toUpper_digitChar inside) value

theorem toDigits_ten_injective {first second : Nat}
    (same : Nat.toDigits 10 first = Nat.toDigits 10 second) : first = second := by
  have value : ∀ number, numeralValue 10 (Nat.toDigits 10 number) = number :=
    numeralValue_toDigits (by decide) (by decide)
  rw [← value first, same, value second]

theorem hexDigits_injective {width first second : Nat}
    (same : hexDigits width first = hexDigits width second) : first = second := by
  rw [← numeralValue_hexDigits width first, same, numeralValue_hexDigits]

/-! ### Texts and lengths -/

theorem toList_hex (width value : Nat) : (hex width value).toList = hexDigits width value :=
  String.toList_ofList

theorem toList_toString (value : Nat) : (toString value).toList = Nat.toDigits 10 value := by
  rw [Nat.toString_eq_ofList_toDigits, String.toList_ofList]

theorem length_hexDigits {width value : Nat} (positive : 0 < width) (below : value < 16 ^ width) :
    (hexDigits width value).length = width := by
  have short := (Nat.length_toDigits_le_iff (by decide) positive).mpr below
  rw [hexDigits, length_padded]
  omega

theorem le_length_hexDigits (width value : Nat) : width ≤ (hexDigits width value).length := by
  rw [hexDigits, length_padded]
  exact Nat.le_max_left _ _

end Chip8.Text
