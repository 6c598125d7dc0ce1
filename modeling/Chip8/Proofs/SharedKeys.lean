import Chip8.Proofs.CheckedArithmetic
import Chip8.Proofs.ControlFlow
import Chip8.Proofs.LastWriter
/-!
Keys that several threads work at once. The keys are the bits of one word, and an operation exchanges the
word as a whole, so what the threads do falls into one sequence. Such a sequence leaves each key as the last
operation that concerns the key has left it, and it does not matter what happens to other keys, that is to
other bits of the same word, in between.
-/

namespace Chip8

namespace KeyOperation

def Concerns (key : Nat) : KeyOperation → Prop
  | .press other | .release other => other = key
  | .releaseAll => True

instance (key : Nat) : DecidablePred (Concerns key)
  | .press other | .release other => inferInstanceAs (Decidable (other = key))
  | .releaseAll => inferInstanceAs (Decidable True)

def leavesDown : KeyOperation → Bool
  | .press _ => true
  | .release _ | .releaseAll => false

def mask (key : Nat) : Except Fault UInt16 :=
  if key < 16 then .ok (1 <<< UInt16.ofNat key) else .error (.invalidIndex .key key)

/-- One exchange of the word that holds the keys as bits. Without a bit for the key there is none. -/
def exchangeBit (word : UInt16) (key : Nat) (change : UInt16 → UInt16) :
    Except Fault Unit × UInt16 :=
  match mask key with
  | .error fault => (.error fault, word)
  | .ok bit => (.ok (), change bit)

def exchange (word : UInt16) : KeyOperation → Except Fault Unit × UInt16
  | .press key => exchangeBit word key fun bit => word ||| bit
  | .release key => exchangeBit word key fun bit => word &&& ~~~bit
  | .releaseAll => (.ok (), 0)

end KeyOperation

open KeyOperation (Concerns)

namespace Keypad

/-! ### One operation -/

def attempt (keypad : Keypad) : KeyOperation → Except Fault Unit × Keypad
  | .press key => keypad.press key
  | .release key => keypad.release key
  | .releaseAll => (.ok (), released)

theorem after_eq_attempt (keypad : Keypad) (operation : KeyOperation) :
    keypad.after operation = (keypad.attempt operation).2 := by
  cases operation <;> rfl

theorem setKey_outside (keypad : Keypad) {key : Nat} (outside : 16 ≤ key) (down : Bool) :
    keypad.setKey key down = (.error (.invalidIndex .key key), keypad) :=
  if_neg (Nat.not_lt.mpr outside)

theorem isDown_released (key : Nat) : released.isDown key = false := by
  rcases Nat.lt_or_ge key 16 with inside | outside
  · simp [released, isDown, inside]
  · exact released.isDown_outside outside

theorem ext_isDown {first second : Keypad}
    (same : ∀ key < 16, first.isDown key = second.isDown key) : first = second := by
  obtain ⟨firstDown⟩ := first
  obtain ⟨secondDown⟩ := second
  congr 1
  apply Vector.ext
  intro key inside
  have equal := same key inside
  simpa [isDown, inside] using equal

theorem isDown_setKey (keypad : Keypad) {key : Nat} (inside : key < 16) (other : Nat)
    (down : Bool) :
    (keypad.setKey other down).2.isDown key =
      if other = key then down else keypad.isDown key := by
  rcases Nat.lt_or_ge other 16 with present | outside
  · rw [setKey_eq keypad present]
    change isDown ⟨keypad.down.setIfInBounds other down⟩ key = _
    rw [isDown_setIfInBounds keypad present]
    simp only [eq_comm]
  · have apart : other ≠ key := Nat.ne_of_gt (Nat.lt_of_lt_of_le inside outside)
    rw [setKey_outside keypad outside, if_neg apart]

theorem isDown_after (keypad : Keypad) {key : Nat} (inside : key < 16) (operation : KeyOperation) :
    (keypad.after operation).isDown key =
      if operation.Concerns key then operation.leavesDown else keypad.isDown key := by
  cases operation with
  | press other => exact keypad.isDown_setKey inside other true
  | release other => exact keypad.isDown_setKey inside other false
  | releaseAll => exact isDown_released key

theorem isDown_after_of_spared {key : Nat} (inside : key < 16) (keypad : Keypad)
    (operation : KeyOperation) (other : ¬operation.Concerns key) :
    (keypad.after operation).isDown key = keypad.isDown key := by
  rw [isDown_after keypad inside, if_neg other]

/-! ### The keys as a word -/

theorem word_eq_of_bits {keypad : Keypad} {word : UInt16}
    (same : ∀ key < 16, keypad.isDown key = word.toBitVec.getLsbD key) : keypad.word = word := by
  apply UInt16.toBitVec_inj.mp
  apply BitVec.eq_of_getLsbD_eq
  intro key inside
  rw [getLsbD_word keypad inside]
  exact same key inside

theorem word_released : word released = 0 := by
  apply word_eq_of_bits
  intro key inside
  rw [isDown_released]
  exact BitVec.getLsbD_zero.symm

theorem word_setIfInBounds (keypad : Keypad) {key : Nat} (inside : key < 16) (down : Bool) :
    word ⟨keypad.down.setIfInBounds key down⟩ =
      if down then keypad.word ||| 1 <<< UInt16.ofNat key
      else keypad.word &&& ~~~(1 <<< UInt16.ofNat key) := by
  apply word_eq_of_bits
  intro other below
  rw [isDown_setIfInBounds keypad inside]
  cases down with
  | true =>
      rw [if_pos rfl, UInt16.toBitVec_or, BitVec.getLsbD_or, getLsbD_word keypad below,
        mask_toBitVec inside, BitVec.getLsbD_twoPow]
      by_cases same : other = key
      · simp [same, inside]
      · have different : key ≠ other := fun equal => same equal.symm
        simp [same, different]
  | false =>
      rw [if_neg Bool.false_ne_true, UInt16.toBitVec_and, UInt16.toBitVec_not, BitVec.getLsbD_and,
        BitVec.getLsbD_not, getLsbD_word keypad below, mask_toBitVec inside, BitVec.getLsbD_twoPow]
      by_cases same : other = key
      · simp [same, inside]
      · have different : key ≠ other := fun equal => same equal.symm
        simp [same, different, below]

theorem map_word_setKey (keypad : Keypad) (key : Nat) (down : Bool) :
    (keypad.setKey key down).map id word =
      KeyOperation.exchangeBit keypad.word key fun bit =>
        if down then keypad.word ||| bit else keypad.word &&& ~~~bit := by
  rcases Nat.lt_or_ge key 16 with inside | outside
  · have placed : KeyOperation.mask key = .ok (1 <<< UInt16.ofNat key) := if_pos inside
    rw [setKey_eq keypad inside, KeyOperation.exchangeBit, placed]
    exact congrArg (Except.ok (), ·) (keypad.word_setIfInBounds inside down)
  · have missing : KeyOperation.mask key = .error (.invalidIndex .key key) :=
      if_neg (Nat.not_lt.mpr outside)
    rw [setKey_outside keypad outside, KeyOperation.exchangeBit, missing]
    rfl

theorem map_word_attempt (keypad : Keypad) (operation : KeyOperation) :
    (keypad.attempt operation).map id word = operation.exchange keypad.word := by
  cases operation with
  | press key => exact keypad.map_word_setKey key true
  | release key => exact keypad.map_word_setKey key false
  | releaseAll => exact congrArg (Except.ok (), ·) word_released

theorem word_after (keypad : Keypad) (operation : KeyOperation) :
    (keypad.after operation).word = (operation.exchange keypad.word).2 := by
  rw [← map_word_attempt, after_eq_attempt]
  rfl

theorem isDown_eq_bit (keypad : Keypad) {key : Nat} (inside : key < 16) :
    keypad.isDown key = (keypad.word &&& 1 <<< UInt16.ofNat key != 0) := by
  have read := keypad.isDownChecked_eq key
  rw [isDownChecked, if_pos inside, Checked.shiftWordLeft, if_pos inside] at read
  exact (Option.some.inj read).symm

/-! ### Sequences -/

def afterAll (keypad : Keypad) (operations : List KeyOperation) : Keypad :=
  operations.foldl after keypad

theorem word_afterAll (keypad : Keypad) (operations : List KeyOperation) :
    (keypad.afterAll operations).word =
      operations.foldl (fun word operation => (operation.exchange word).2) keypad.word :=
  (List.foldl_hom word fun keypad operation => (keypad.word_after operation).symm).symm

theorem isDown_afterAll_of_lastOf (keypad : Keypad) {key : Nat} (inside : key < 16)
    {operations before : List KeyOperation} {last : KeyOperation}
    (decides : LastOf (Concerns key) operations before last) :
    (keypad.afterAll operations).isDown key = last.leavesDown := by
  have written : (keypad.afterAll operations).isDown key =
      ((keypad.afterAll before).after last).isDown key :=
    decides.view_foldl (fun keypad => keypad.isDown key) (isDown_after_of_spared inside) keypad
  rw [written, isDown_after _ inside, if_pos decides.1]

theorem isDown_afterAll_released_iff (operations : List KeyOperation) {key : Nat}
    (inside : key < 16) :
    (released.afterAll operations).isDown key = true ↔
      ∃ before, LastOf (Concerns key) operations before (.press key) := by
  constructor
  · intro down
    rcases none_or_lastOf (Concerns key) operations with none | ⟨before, last, decides⟩
    · have up : (released.afterAll operations).isDown key = released.isDown key :=
        view_foldl_of_spared (fun keypad => keypad.isDown key) (isDown_after_of_spared inside) none
          released
      rw [up, isDown_released] at down
      cases down
    · rw [isDown_afterAll_of_lastOf released inside decides] at down
      cases last with
      | press other =>
          obtain rfl : other = key := decides.1
          exact ⟨before, decides⟩
      | release _ | releaseAll => cases down
  · rintro ⟨before, decides⟩
    exact isDown_afterAll_of_lastOf released inside decides

theorem isDown_afterAll_filter (keypad : Keypad) {key : Nat} (inside : key < 16)
    (operations : List KeyOperation) :
    (keypad.afterAll (operations.filter fun operation => operation.Concerns key)).isDown key =
      (keypad.afterAll operations).isDown key := by
  let written := fun (down : Bool) (operation : KeyOperation) =>
    if operation.Concerns key then operation.leavesDown else down
  have run : ∀ listed : List KeyOperation,
      (keypad.afterAll listed).isDown key = listed.foldl written (keypad.isDown key) := by
    intro listed
    exact (List.foldl_hom (fun keypad : Keypad => keypad.isDown key)
      fun keypad operation => (isDown_after keypad inside operation).symm).symm
  rw [run, run, List.foldl_filter]
  congr 1
  funext down operation
  by_cases concerns : operation.Concerns key
  · simp [written, concerns]
  · simp [written, concerns]

theorem afterAll_eq_of_filter_eq (keypad : Keypad) {first second : List KeyOperation}
    (same : ∀ key < 16, (first.filter fun operation => operation.Concerns key) =
      second.filter fun operation => operation.Concerns key) :
    keypad.afterAll first = keypad.afterAll second := by
  apply ext_isDown
  intro key inside
  rw [← keypad.isDown_afterAll_filter inside first, same key inside,
    keypad.isDown_afterAll_filter inside second]

theorem afterAll_swap (keypad : Keypad) {first second : KeyOperation}
    (apart : ∀ key, ¬(first.Concerns key ∧ second.Concerns key)) (before after : List KeyOperation) :
    keypad.afterAll (before ++ first :: second :: after) =
      keypad.afterAll (before ++ second :: first :: after) := by
  apply keypad.afterAll_eq_of_filter_eq
  intro key _
  rw [List.filter_append, List.filter_append]
  congr 1
  by_cases concerns : first.Concerns key
  · have other : ¬second.Concerns key := fun both => apart key ⟨concerns, both⟩
    simp [concerns, other]
  · simp [List.filter_cons, concerns]

/-! ### The first key that is down -/

theorem firstDown_eq_some_iff (keypad : Keypad) (limit key : Nat) :
    keypad.firstDown limit = some key ↔
      key < min limit 16 ∧ keypad.isDown key = true ∧
        ∀ lower < key, keypad.isDown lower = false := by
  rw [firstDown, List.find?_range_eq_some]
  simp only [List.mem_range, Bool.not_eq_true']
  exact and_left_comm

theorem firstDown_eq_none_iff (keypad : Keypad) (limit : Nat) :
    keypad.firstDown limit = none ↔ ∀ key < min limit 16, keypad.isDown key = false := by
  rw [firstDown, List.find?_range_eq_none]
  simp only [Bool.not_eq_true']

end Keypad

/-! ### Threads -/

/-- An order in which the operations of several threads can take effect: at each turn some thread makes its
next one, until all threads are through. -/
inductive Interleaves {α : Type} : List (List α) → List α → Prop
  | through {threads : List (List α)} (done : ∀ thread ∈ threads, thread = []) :
      Interleaves threads []
  | turn {threads : List (List α)} {number : Nat} {operation : α} {rest order : List α}
      (ahead : threads[number]? = some (operation :: rest))
      (later : Interleaves (threads.set number rest) order) :
      Interleaves threads (operation :: order)

def Alone {α : Type} (kind : α → Prop) (threads : List (List α)) (number : Nat) : Prop :=
  ∀ other ≠ number, ∀ idle : List α, threads[other]? = some idle →
    ∀ operation ∈ idle, ¬kind operation

theorem Interleaves.filter_eq {α : Type} {kind : α → Prop} [DecidablePred kind]
    {threads : List (List α)} {order : List α} (interleaves : Interleaves threads order)
    {number : Nat} {thread : List α} (own : threads[number]? = some thread)
    (alone : Alone kind threads number) :
    (order.filter fun operation => kind operation) =
      thread.filter fun operation => kind operation := by
  induction interleaves generalizing thread with
  | through done => rw [done thread (List.mem_of_getElem? own)]
  | @turn threads acting operation rest order ahead later ih =>
      by_cases same : acting = number
      · subst acting
        obtain rfl : operation :: rest = thread := Option.some.inj (ahead.symm.trans own)
        have bound := (List.getElem?_eq_some_iff.mp own).1
        have rest_eq : (order.filter fun operation => kind operation) =
            rest.filter fun operation => kind operation := by
          refine ih (List.getElem?_set_self bound) ?_
          intro other apart idle found
          rw [List.getElem?_set_ne (Ne.symm apart)] at found
          exact alone other apart idle found
        rw [List.filter_cons, List.filter_cons, rest_eq]
      · have otherKind := alone acting same _ ahead
        have notKind : ¬decide (kind operation) = true :=
          fun isKind => otherKind operation List.mem_cons_self (of_decide_eq_true isKind)
        rw [List.filter_cons, if_neg notKind]
        refine ih ((List.getElem?_set_ne same).trans own) ?_
        intro other apart idle found
        by_cases acts : acting = other
        · subst acting
          rw [List.getElem?_set_self (List.getElem?_eq_some_iff.mp ahead).1] at found
          obtain rfl := Option.some.inj found
          intro later listed
          exact otherKind later (List.mem_cons_of_mem operation listed)
        · rw [List.getElem?_set_ne acts] at found
          exact alone other apart idle found

namespace Keypad

theorem isDown_afterAll_of_alone (keypad : Keypad) {threads : List (List KeyOperation)}
    {order : List KeyOperation} (interleaves : Interleaves threads order) {key : Nat}
    (inside : key < 16) {number : Nat} {thread : List KeyOperation}
    (own : threads[number]? = some thread) (alone : Alone (Concerns key) threads number) :
    (keypad.afterAll order).isDown key = (keypad.afterAll thread).isDown key := by
  rw [← keypad.isDown_afterAll_filter inside order, interleaves.filter_eq own alone,
    keypad.isDown_afterAll_filter inside thread]

/-- After any operations, in whatever order threads have made them, a key is down exactly if the last
operation that concerns it is its press. Operations on different keys commute, and of a key that only one
thread works the others change nothing. A key out of range is refused and is never down, and a search finds
the lowest key below its limit that is down. The same holds of the keys as bits of one word, which every
operation exchanges. -/
theorem no_key_update_is_lost (operations : List KeyOperation) :
    let keypad := released.afterAll operations
    (∀ key < 16, keypad.isDown key = true ↔
        ∃ before, LastOf (Concerns key) operations before (.press key)) ∧
      (∀ before first second after, operations = before ++ first :: second :: after →
        (∀ key, ¬(first.Concerns key ∧ second.Concerns key)) →
          keypad = released.afterAll (before ++ second :: first :: after)) ∧
      (∀ threads : List (List KeyOperation), Interleaves threads operations →
        ∀ number thread, threads[number]? = some thread →
          ∀ key < 16, Alone (Concerns key) threads number →
            keypad.isDown key = (released.afterAll thread).isDown key) ∧
      (∀ key, 16 ≤ key →
        keypad.press key = (.error (.invalidIndex .key key), keypad) ∧
          keypad.release key = (.error (.invalidIndex .key key), keypad) ∧
          keypad.after (.press key) = keypad ∧ keypad.after (.release key) = keypad ∧
          keypad.isDown key = false) ∧
      (∀ limit,
        (∀ key, keypad.firstDown limit = some key ↔
          key < min limit 16 ∧ keypad.isDown key = true ∧
            ∀ lower < key, keypad.isDown lower = false) ∧
        (keypad.firstDown limit = none ↔ ∀ key < min limit 16, keypad.isDown key = false)) ∧
      keypad.word = operations.foldl (fun word operation => (operation.exchange word).2) 0 ∧
      (∀ operation, (keypad.attempt operation).map id word = operation.exchange keypad.word) ∧
      ∀ key < 16, keypad.isDown key = (keypad.word &&& 1 <<< UInt16.ofNat key != 0) := by
  intro keypad
  refine ⟨?_, ?_, ?_, ?_, ?_, ?_, keypad.map_word_attempt, ?_⟩
  · intro key inside
    exact isDown_afterAll_released_iff operations inside
  · rintro before first second after rfl apart
    exact released.afterAll_swap apart before after
  · intro threads interleaves number thread own key inside alone
    exact released.isDown_afterAll_of_alone interleaves inside own alone
  · intro key outside
    have refused := keypad.setKey_outside outside
    exact ⟨refused true, refused false, congrArg Prod.snd (refused true),
      congrArg Prod.snd (refused false), keypad.isDown_outside outside⟩
  · intro limit
    exact ⟨keypad.firstDown_eq_some_iff limit, keypad.firstDown_eq_none_iff limit⟩
  · rw [← word_released]
    exact released.word_afterAll operations
  · intro key inside
    exact keypad.isDown_eq_bit inside

/-- Two threads work their keys in turns, one of them also a key that does not exist. -/
theorem keys_of_two_threads_stay_apart :
    let host := [KeyOperation.press 3, .press 9, .release 3]
    let other := [KeyOperation.press 5, .release 20]
    let order := [KeyOperation.press 3, .press 5, .press 9, .release 20, .release 3]
    let keypad := released.afterAll order
    Interleaves [host, other] order ∧
      keypad.isDown 9 = true ∧
      keypad = released.afterAll [.press 5, .press 3, .press 9, .release 20, .release 3] ∧
      keypad.isDown 3 = (released.afterAll host).isDown 3 ∧
      keypad.release 20 = (.error (.invalidIndex .key 20), keypad) ∧ keypad.after (.release 20) = keypad ∧
      keypad.firstDown 15 = some 5 ∧ keypad.firstDown 5 = none := by
  intro host other order keypad
  have interleaves : Interleaves [host, other] order := by
    refine @Interleaves.turn _ [host, other] 0 _ _ _ rfl ?_
    refine @Interleaves.turn _ _ 1 _ _ _ rfl ?_
    refine @Interleaves.turn _ _ 0 _ _ _ rfl ?_
    refine @Interleaves.turn _ _ 1 _ _ _ rfl ?_
    refine @Interleaves.turn _ _ 0 _ _ _ rfl ?_
    exact .through (by decide)
  obtain ⟨last, commute, threads, outside, first, _⟩ := no_key_update_is_lost order
  have pressed : LastOf (Concerns 9) order [.press 3, .press 5] (.press 9) :=
    ⟨rfl, [.release 20, .release 3], rfl, by decide⟩
  have apart : ∀ key, ¬((KeyOperation.press 3).Concerns key ∧ (KeyOperation.press 5).Concerns key) := by
    rintro key ⟨three, five⟩
    exact absurd (three.trans five.symm) (by decide)
  have alone : Alone (Concerns 3) [host, other] 0 := by
    intro number apart idle found
    obtain rfl : number = 1 := by
      have bound := (List.getElem?_eq_some_iff.mp found).1
      simp only [List.length_cons, List.length_nil] at bound
      omega
    obtain rfl := Option.some.inj found
    decide
  obtain ⟨_, refused, _, unchanged, _⟩ := outside 20 (by decide)
  refine ⟨interleaves, (last 9 (by decide)).mpr ⟨_, pressed⟩,
    commute [] _ _ _ rfl apart, threads _ interleaves 0 host rfl 3 (by decide) alone, refused,
    unchanged, ?_, ?_⟩
  · exact ((first 15).1 5).mpr (by decide)
  · exact (first 5).2.mpr (by decide)

end Keypad

end Chip8
