import Chip8.HostInput
import Mathlib.Data.List.Basic
import Mathlib.Data.List.Induction
/-!
How long a typed key is held. The keypad knows which keys are down, and beside it stands the time at which
each of them was typed; both say the same of a key after any history, in which time may also go backwards.
So a key is down exactly if it was typed and nothing that came after its last typing has found the hold
time gone by.
-/

namespace Chip8

/-! ### The keys of the keyboard -/

def HostEvent.Types (event : HostEvent) (key : Nat) : Prop :=
  ∃ typed, event = .character typed ∧ keyCharacters[key]? = some typed.toLower

theorem nodup_keyCharacters : keyCharacters.Nodup := by decide

theorem keyFor?_eq_some_iff {typed : Char} {key : Nat} :
    keyFor? typed = some key ↔ keyCharacters[key]? = some typed.toLower := by
  rw [keyFor?, List.findIdx?_eq_some_iff_getElem, List.getElem?_eq_some_iff]
  constructor
  · rintro ⟨inside, same, _⟩
    exact ⟨inside, beq_iff_eq.mp same⟩
  · rintro ⟨inside, same⟩
    refine ⟨inside, beq_iff_eq.mpr same, ?_⟩
    intro earlier before sameToo
    have equal : keyCharacters[earlier] = keyCharacters[key] :=
      (beq_iff_eq.mp sameToo).trans same.symm
    exact Nat.ne_of_lt before ((List.getElem_inj nodup_keyCharacters).mp equal)

namespace HostEvent

theorem request?_of_types {event : HostEvent} {key : Nat} (types : event.Types key) :
    event.request? = none := by
  obtain ⟨typed, rfl, stands⟩ := types
  have apart : typed ≠ 'p' := by
    rintro rfl
    have listed : 'p'.toLower ∈ keyCharacters := List.mem_of_getElem? stands
    exact absurd listed (by decide)
  unfold request?
  split
  case h_2 same => exact absurd (HostEvent.character.inj same) apart
  case h_6 => rfl
  case h_1 same | h_3 same | h_4 same | h_5 same => cases same

theorem key?_eq_some_iff {event : HostEvent} {key : Nat} :
    event.key? = some key ↔ event.Types key := by
  constructor
  · intro found
    unfold key? at found
    split at found
    · rename_i typed _
      exact ⟨typed, rfl, keyFor?_eq_some_iff.mp found⟩
    · cases found
  · intro types
    have silent := request?_of_types types
    obtain ⟨typed, rfl, stands⟩ := types
    unfold key?
    rw [silent]
    exact keyFor?_eq_some_iff.mpr stands

theorem Types.lt {event : HostEvent} {key : Nat} (types : event.Types key) : key < 16 := by
  obtain ⟨typed, _, stands⟩ := types
  exact (List.getElem?_eq_some_iff.mp stands).1

theorem Types.unique {event : HostEvent} {key other : Nat} (types : event.Types key)
    (typesToo : event.Types other) : key = other :=
  Option.some.inj ((key?_eq_some_iff.mpr types).symm.trans (key?_eq_some_iff.mpr typesToo))

end HostEvent

/-! ### One step -/

inductive TypingStep where
  | event (event : HostEvent) (now : Duration)
  | expire (now : Duration)
  deriving DecidableEq, Repr

namespace HeldKeys

theorem lastTyped_empty (key : Nat) : empty.lastTyped key = none := by
  rcases Nat.lt_or_ge key 16 with inside | outside
  · simp [empty, lastTyped, inside]
  · simp [empty, lastTyped, outside]

theorem lastTyped_record (held : HeldKeys) {key : Nat} (inside : key < 16)
    (time : Option Duration) (other : Nat) :
    (held.record key time).lastTyped other = if other = key then time else held.lastTyped other := by
  by_cases same : other = key
  · subst other
    simp [lastTyped, record, inside]
  · have different : key ≠ other := fun equal => same equal.symm
    simp [lastTyped, record, same, different]

/-- A time before the typing leaves nothing of the difference, so it lets no key go. -/
theorem hasExpired_iff {held : HeldKeys} {now : Duration} {key : Nat} :
    held.hasExpired now key = true ↔
      ∃ since, held.lastTyped key = some since ∧
        since.nanoseconds + holdTime.nanoseconds ≤ now.nanoseconds := by
  have positive : 0 < holdTime.nanoseconds := by decide
  unfold hasExpired
  cases held.lastTyped key with
  | none => simp
  | some since =>
      rw [decide_eq_true_iff]
      constructor
      · intro gone
        exact ⟨since, rfl, by omega⟩
      · rintro ⟨_, ⟨⟩, gone⟩
        omega

end HeldKeys

namespace Typing

def after (typing : Typing) : TypingStep → Typing
  | .event event now => (typing.handle event now).2
  | .expire now => typing.releaseExpired now

def afterAll (typing : Typing) (steps : List TypingStep) : Typing :=
  steps.foldl after typing

theorem afterAll_append_singleton (typing : Typing) (steps : List TypingStep) (last : TypingStep) :
    typing.afterAll (steps ++ [last]) = (typing.afterAll steps).after last :=
  List.foldl_concat after typing last steps

def Alike (typing other : Typing) (key : Nat) : Prop :=
  other.keypad.isDown key = typing.keypad.isDown key ∧
    other.held.lastTyped key = typing.held.lastTyped key

theorem isDown_setKey (typing : Typing) {key : Nat} (inside : key < 16) (down : Bool)
    (time : Option Duration) (other : Nat) :
    (typing.setKey key down time).keypad.isDown other =
      if other = key then down else typing.keypad.isDown other := by
  rw [setKey, Keypad.setKey_eq _ inside]
  exact typing.keypad.isDown_setIfInBounds inside down other

theorem lastTyped_setKey (typing : Typing) {key : Nat} (inside : key < 16) (down : Bool)
    (time : Option Duration) (other : Nat) :
    (typing.setKey key down time).held.lastTyped other =
      if other = key then time else typing.held.lastTyped other :=
  typing.held.lastTyped_record inside time other

theorem handle_of_types (typing : Typing) {event : HostEvent} {key : Nat} (types : event.Types key)
    (now : Duration) : typing.handle event now = (none, typing.setKey key true (some now)) := by
  rw [handle, HostEvent.key?_eq_some_iff.mpr types]

theorem handle_of_not_types (typing : Typing) {event : HostEvent}
    (untyped : ∀ key, ¬event.Types key) (now : Duration) :
    typing.handle event now = (event.request?, typing) := by
  have none : event.key? = none := by
    apply Option.eq_none_iff_forall_ne_some.mpr
    intro key found
    exact untyped key (HostEvent.key?_eq_some_iff.mp found)
  rw [handle, none]

theorem alike_handle (typing : Typing) {event : HostEvent} {key : Nat} (other : ¬event.Types key)
    (now : Duration) : typing.Alike (typing.handle event now).2 key := by
  by_cases typesOne : ∃ typed, event.Types typed
  · obtain ⟨typed, types⟩ := typesOne
    have apart : key ≠ typed := fun same => other (same ▸ types)
    rw [handle_of_types typing types]
    constructor
    · rw [isDown_setKey typing types.lt, if_neg apart]
    · rw [lastTyped_setKey typing types.lt, if_neg apart]
  · rw [handle_of_not_types typing (not_exists.mp typesOne)]
    exact ⟨rfl, rfl⟩

theorem foldl_release (typing : Typing) {released : List Nat}
    (inside : ∀ key ∈ released, key < 16) (key : Nat) :
    let after := released.foldl (fun left key => left.setKey key false none) typing
    after.keypad.isDown key = (if key ∈ released then false else typing.keypad.isDown key) ∧
      after.held.lastTyped key = if key ∈ released then none else typing.held.lastTyped key := by
  induction released generalizing typing with
  | nil => exact ⟨rfl, rfl⟩
  | cons first rest ih =>
      have here := inside first List.mem_cons_self
      obtain ⟨down, typed⟩ := ih (typing.setKey first false none)
        (fun key listed => inside key (List.mem_cons_of_mem first listed))
      rw [List.foldl_cons]
      dsimp only
      rw [down, typed, isDown_setKey typing here, lastTyped_setKey typing here]
      by_cases listed : key ∈ rest
      · simp [listed]
      · by_cases same : key = first
        · simp [same]
        · simp [listed, same]

theorem releaseExpired_view (typing : Typing) (now : Duration) (key : Nat) :
    (typing.releaseExpired now).keypad.isDown key =
        (if typing.held.hasExpired now key then false else typing.keypad.isDown key) ∧
      (typing.releaseExpired now).held.lastTyped key =
        if typing.held.hasExpired now key then none else typing.held.lastTyped key := by
  have inside : ∀ key ∈ (List.range 16).filter (typing.held.hasExpired now), key < 16 := by
    intro key listed
    exact List.mem_range.mp (List.mem_filter.mp listed).1
  have listed : key ∈ (List.range 16).filter (typing.held.hasExpired now) ↔
      typing.held.hasExpired now key = true := by
    rw [List.mem_filter, List.mem_range]
    refine and_iff_right_of_imp fun expired => ?_
    by_contra outside
    have none : typing.held.lastTyped key = none := by
      rw [HeldKeys.lastTyped, Vector.getElem?_eq_none (Nat.le_of_not_lt outside)]
      rfl
    obtain ⟨since, typed, _⟩ := HeldKeys.hasExpired_iff.mp expired
    rw [none] at typed
    cases typed
  have view := typing.foldl_release inside key
  simp only [listed] at view
  exact view

/-! ### Histories -/

/-- The step leaves a key held that was typed at the given time: it does not type it again, and it does not
let keys go when the whole hold time has gone by. -/
def Keeps (key : Nat) (since : Duration) : TypingStep → Prop
  | .event event _ => ¬event.Types key
  | .expire now => now.nanoseconds < since.nanoseconds + holdTime.nanoseconds

/-- The history has left the key held: it was typed at that time, and all steps since then have kept it. -/
def HeldSince (steps : List TypingStep) (key : Nat) (since : Duration) : Prop :=
  ∃ before event after, steps = before ++ .event event since :: after ∧ event.Types key ∧
    ∀ step ∈ after, Keeps key since step

theorem not_heldSince_nil (key : Nat) (since : Duration) : ¬HeldSince [] key since := by
  rintro ⟨before, event, after, split, _⟩
  exact List.append_ne_nil_of_right_ne_nil before (List.cons_ne_nil _ _) split.symm

theorem heldSince_append_singleton {steps : List TypingStep} {last : TypingStep} {key : Nat}
    {since : Duration} :
    HeldSince (steps ++ [last]) key since ↔
      (∃ event, last = .event event since ∧ event.Types key) ∨
        (HeldSince steps key since ∧ Keeps key since last) := by
  constructor
  · rintro ⟨before, event, after, split, types, kept⟩
    rcases List.eq_nil_or_concat' after with rfl | ⟨earlier, final, rfl⟩
    · obtain ⟨_, same⟩ := List.append_inj' split rfl
      exact Or.inl ⟨event, List.singleton_inj.mp same, types⟩
    · have regrouped : steps ++ [last] = (before ++ .event event since :: earlier) ++ [final] := by
        rw [split, List.append_assoc, List.cons_append]
      obtain ⟨rfl, same⟩ := List.append_inj' regrouped rfl
      obtain rfl := List.singleton_inj.mp same
      refine Or.inr ⟨⟨before, event, earlier, rfl, types, ?_⟩, ?_⟩
      · intro step within
        exact kept step (List.mem_append_left _ within)
      · exact kept last (List.mem_append_right earlier List.mem_cons_self)
  · rintro (⟨event, rfl, types⟩ | ⟨⟨before, event, after, rfl, types, kept⟩, keptLast⟩)
    · exact ⟨steps, event, [], rfl, types, List.forall_mem_nil _⟩
    · refine ⟨before, event, after ++ [last], by rw [List.append_assoc, List.cons_append], types, ?_⟩
      intro step listed
      rcases List.mem_append.mp listed with within | final
      · exact kept step within
      · rw [List.mem_singleton.mp final]
        exact keptLast

theorem lastTyped_after (typing : Typing) (step : TypingStep) (key : Nat) (since : Duration) :
    (typing.after step).held.lastTyped key = some since ↔
      (∃ event, step = .event event since ∧ event.Types key) ∨
        (typing.held.lastTyped key = some since ∧ Keeps key since step) := by
  cases step with
  | event event now =>
      change (typing.handle event now).2.held.lastTyped key = some since ↔ _
      by_cases types : event.Types key
      · rw [handle_of_types typing types, lastTyped_setKey typing types.lt, if_pos rfl]
        simp [Keeps, types, eq_comm]
      · rw [(typing.alike_handle types now).2]
        simp [Keeps, types]
  | expire now =>
      change (typing.releaseExpired now).held.lastTyped key = some since ↔ _
      rw [(typing.releaseExpired_view now key).2]
      constructor
      · intro still
        split at still
        case isTrue => cases still
        case isFalse unexpired =>
          refine Or.inr ⟨still, Nat.lt_of_not_le fun gone => unexpired ?_⟩
          exact HeldKeys.hasExpired_iff.mpr ⟨since, still, gone⟩
      · rintro (⟨_, ⟨⟩, _⟩ | ⟨found, early⟩)
        have unexpired : ¬typing.held.hasExpired now key = true := by
          intro expired
          obtain ⟨typed, same, gone⟩ := HeldKeys.hasExpired_iff.mp expired
          rw [found] at same
          cases same
          exact Nat.not_le.mpr early gone
        rw [if_neg unexpired, found]

/-- The keypad and the times beside it say the same of every key. -/
def Coherent (typing : Typing) : Prop :=
  ∀ key, typing.keypad.isDown key = (typing.held.lastTyped key).isSome

theorem coherent_start : start.Coherent := by
  intro key
  have up : start.keypad.isDown key = false := by
    rcases Nat.lt_or_ge key 16 with inside | outside
    · simp [start, Keypad.released, Keypad.isDown, inside]
    · simp [start, Keypad.released, Keypad.isDown, outside]
  have untyped : start.held.lastTyped key = none := HeldKeys.lastTyped_empty key
  rw [up, untyped]
  rfl

theorem Coherent.after {typing : Typing} (coherent : typing.Coherent) (step : TypingStep) :
    (typing.after step).Coherent := by
  intro key
  cases step with
  | event event now =>
      change (typing.handle event now).2.keypad.isDown key =
        ((typing.handle event now).2.held.lastTyped key).isSome
      by_cases types : event.Types key
      · rw [handle_of_types typing types, isDown_setKey typing types.lt,
          lastTyped_setKey typing types.lt, if_pos rfl, if_pos rfl]
        rfl
      · obtain ⟨down, typed⟩ := typing.alike_handle types now
        rw [down, typed]
        exact coherent key
  | expire now =>
      change (typing.releaseExpired now).keypad.isDown key =
        ((typing.releaseExpired now).held.lastTyped key).isSome
      obtain ⟨down, typed⟩ := typing.releaseExpired_view now key
      rw [down, typed, coherent key]
      split <;> rfl

theorem coherent_afterAll (steps : List TypingStep) : (start.afterAll steps).Coherent :=
  List.foldlRecOn steps Typing.after coherent_start fun _ here step _ => here.after step

theorem lastTyped_afterAll (steps : List TypingStep) (key : Nat) (since : Duration) :
    (start.afterAll steps).held.lastTyped key = some since ↔ HeldSince steps key since := by
  induction steps using List.reverseRecOn with
  | nil =>
      have untyped : start.held.lastTyped key = none := HeldKeys.lastTyped_empty key
      rw [afterAll, List.foldl_nil, untyped]
      exact iff_of_false (Option.some_ne_none since).symm (not_heldSince_nil key since)
  | append_singleton steps last ih =>
      rw [afterAll_append_singleton, lastTyped_after, heldSince_append_singleton, ih]

/-- A key is down exactly if the history has left it held. An event that asks for something of the session
changes nothing; any other event asks for nothing and concerns only the key that it types, of which there is
at most one, and which is then held since now. Letting go presses no key. -/
theorem keys_held_since_last_typing :
    (∀ steps key, (start.afterAll steps).keypad.isDown key = true ↔
        ∃ since, HeldSince steps key since) ∧
      (∀ (typing : Typing) (event : HostEvent) (now : Duration),
        let outcome := typing.handle event now
        (outcome.1 ≠ none ∧ outcome.2 = typing ∨
            outcome.1 = none ∧ ∀ key, ¬event.Types key → typing.Alike outcome.2 key) ∧
          ∀ key, event.Types key →
            outcome.2.keypad.isDown key = true ∧ outcome.2.held.lastTyped key = some now ∧
              ∀ other, event.Types other → other = key) ∧
      ∀ (typing : Typing) (now : Duration) (key : Nat),
        (typing.releaseExpired now).keypad.isDown key = true → typing.keypad.isDown key = true := by
  refine ⟨?_, ?_, ?_⟩
  · intro steps key
    rw [coherent_afterAll steps key, Option.isSome_iff_exists]
    exact exists_congr fun since => lastTyped_afterAll steps key since
  · intro typing event now outcome
    constructor
    · by_cases typesOne : ∃ key, event.Types key
      · obtain ⟨key, types⟩ := typesOne
        have silent : outcome.1 = none := congrArg Prod.fst (typing.handle_of_types types now)
        exact Or.inr ⟨silent, fun other apart => typing.alike_handle apart now⟩
      · have kept : outcome = (event.request?, typing) :=
          typing.handle_of_not_types (not_exists.mp typesOne) now
        by_cases asks : event.request? = none
        · exact Or.inr ⟨(congrArg Prod.fst kept).trans asks,
            fun key apart => typing.alike_handle apart now⟩
        · refine Or.inl ⟨?_, congrArg Prod.snd kept⟩
          rw [congrArg Prod.fst kept]
          exact asks
    · intro key types
      have set : outcome.2 = typing.setKey key true (some now) :=
        congrArg Prod.snd (typing.handle_of_types types now)
      rw [set, isDown_setKey typing types.lt, lastTyped_setKey typing types.lt, if_pos rfl,
        if_pos rfl]
      exact ⟨rfl, rfl, fun other typesToo => typesToo.unique types⟩
  · intro typing now key down
    rw [(typing.releaseExpired_view now key).1] at down
    split at down
    · cases down
    · exact down

/-- A key typed twice is held since the second typing, also where time has gone back in between, and up to
the last moment of the hold time. A key typed in upper case is no longer held then. -/
theorem held_up_to_last_moment :
    let steps : List TypingStep :=
      [.event (.character '1') (.ofMilliseconds 0), .expire (.ofMilliseconds 100),
        .event (.character 'Q') (.ofMilliseconds 110), .event (.character '1') (.ofMilliseconds 120),
        .expire (.ofMilliseconds 10), .event .escape (.ofMilliseconds 130), .expire ⟨269999999⟩]
    (start.afterAll steps).keypad.isDown 1 = true ∧ HeldSince steps 1 (.ofMilliseconds 120) ∧
      (¬∃ since, HeldSince steps 4 since) ∧
      ¬∃ since, HeldSince (steps ++ [.expire (.ofMilliseconds 270)]) 1 since := by
  intro steps
  obtain ⟨isDown_iff, _, _⟩ := keys_held_since_last_typing
  refine ⟨by decide +kernel, (lastTyped_afterAll _ _ _).mp (by decide +kernel), ?_, ?_⟩
  · rw [← isDown_iff]
    decide +kernel
  · rw [← isDown_iff]
    decide +kernel

end Typing

end Chip8
