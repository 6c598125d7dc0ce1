import Chip8.Display.Surface
/-!
Bringing a surface up to date. With wide symbols a place may hold something else than was asked for
there, but only as long as a symbol further left reaches over it, and such a place is sent anew as
soon as it is uncovered. So a redraw with narrow symbols puts every place right, whatever has been
drawn before.
-/

namespace Chip8

namespace Symbol

def AllNarrow (symbols : List Symbol) : Prop :=
  ∀ symbol ∈ symbols, symbol.columns ≤ 1

end Symbol

namespace Surface

open Chip8.Symbol (AllNarrow)

/-! ### Rows -/

def settledRow (columns : Nat) (symbols : List Symbol) : List Place :=
  (symbols.take columns).map fun symbol => ⟨symbol, symbol⟩

/-- What was asked for stands, except at places that a symbol further left reaches over. The first
`reach` places are reached by what stands before the row. -/
def StandsUnlessCovered : Nat → List Place → Prop
  | _, [] => True
  | reach, place :: later =>
      (place.standing = place.asked ∨ 0 < reach) ∧
        StandsUnlessCovered (max reach place.asked.columns - 1) later

theorem standsUnlessCovered_replicate (reach count : Nat) (symbol : Symbol) :
    StandsUnlessCovered reach (List.replicate count ⟨symbol, symbol⟩) := by
  induction count generalizing reach with
  | zero => trivial
  | succ count ih =>
      rw [List.replicate_succ]
      exact ⟨Or.inl rfl, ih _⟩

theorem standing_of_uncovered {reach stale : Nat} {place : Place} (symbol : Symbol)
    (here : place.standing = place.asked ∨ 0 < reach) (staleEnough : reach ≤ stale) :
    (if (!false && (decide (symbol ≠ place.asked) || decide (0 < stale))) = true then symbol
      else place.standing) = symbol := by
  split
  · rfl
  · rename_i unsent
    simp only [Bool.not_false, Bool.true_and, Bool.or_eq_true, decide_eq_true_eq, not_or,
      Decidable.not_not] at unsent
    obtain ⟨same, fresh⟩ := unsent
    rw [same]
    exact here.resolve_right (by omega)

/-- Places that were covered are stale, so what is not sent to them is covered again. -/
theorem StandsUnlessCovered.redrawRow {reach stale newReach : Nat} {covered : Bool}
    {symbols : List Symbol} {places : List Place} (stands : StandsUnlessCovered reach places)
    (staleEnough : reach ≤ stale) (reached : covered = true → 0 < newReach)
    (enough : places.length ≤ symbols.length) :
    StandsUnlessCovered newReach (redrawRow stale covered symbols places) := by
  induction symbols generalizing reach stale newReach covered places with
  | nil =>
      have empty : places = [] := List.eq_nil_of_length_eq_zero (Nat.le_zero.mp enough)
      rw [empty]
      trivial
  | cons symbol symbols ih =>
      cases places with
      | nil => trivial
      | cons place places =>
          obtain ⟨here, later⟩ := stands
          refine ⟨?_, ?_⟩
          · dsimp only
            cases covered with
            | true => exact Or.inr (reached rfl)
            | false => exact Or.inl (standing_of_uncovered symbol here staleEnough)
          -- What the old symbol reached is stale, and the place behind is covered only if the new one
          -- reaches it.
          · refine ih later (by omega) ?_ (Nat.le_of_succ_le_succ enough)
            intro wide
            have wider := of_decide_eq_true wide
            dsimp only
            omega

/-- With narrow symbols nothing stays covered, and every place gets what is asked for. -/
theorem StandsUnlessCovered.redrawRow_eq {reach stale : Nat} {symbols : List Symbol}
    {places : List Place} (stands : StandsUnlessCovered reach places) (staleEnough : reach ≤ stale)
    (narrow : AllNarrow symbols) (enough : places.length ≤ symbols.length) :
    Surface.redrawRow stale false symbols places = settledRow places.length symbols := by
  induction symbols generalizing reach stale places with
  | nil =>
      have empty : places = [] := List.eq_nil_of_length_eq_zero (Nat.le_zero.mp enough)
      rw [empty]
      rfl
  | cons symbol symbols ih =>
      cases places with
      | nil => rfl
      | cons place places =>
          obtain ⟨here, later⟩ := stands
          have symbolNarrow := narrow symbol List.mem_cons_self
          have uncovered : decide (1 < symbol.columns) = false := decide_eq_false (by omega)
          have rest : Surface.redrawRow
              (max stale (max symbol.columns place.asked.columns) - 1) false symbols places =
              settledRow places.length symbols :=
            ih later (by omega) (fun other listed => narrow other (List.mem_cons_of_mem symbol listed))
              (Nat.le_of_succ_le_succ enough)
          unfold settledRow at rest ⊢
          rw [Surface.redrawRow, uncovered, rest, standing_of_uncovered symbol here staleEnough,
            List.length_cons, List.take_succ_cons, List.map_cons]

/-! ### Surfaces -/

def RowsFit (columns : Nat) (rows : List (List Symbol)) : Prop :=
  ∀ symbols ∈ rows, columns ≤ symbols.length ∧ AllNarrow symbols

/-- Rows of one length on which only covered places hold anything else than was asked for. -/
def Kept (columns : Nat) (surface : Surface) : Prop :=
  ∀ places ∈ surface, places.length = columns ∧ StandsUnlessCovered 0 places

theorem kept_blank (columns rows : Nat) : Kept columns (blank columns rows) := by
  intro places listed
  rw [List.eq_of_mem_replicate listed]
  exact ⟨List.length_replicate, standsUnlessCovered_replicate 0 columns Symbol.blank⟩

theorem length_redraw {count : Nat} {surface : Surface} {rows : List (List Symbol)}
    (asked : rows.length = count) (places : surface.length = count) :
    (surface.redraw rows).length = count := by
  rw [redraw, List.length_zipWith, asked, places, Nat.min_self]

theorem Kept.redraw {columns : Nat} {surface : Surface} {rows : List (List Symbol)}
    (kept : Kept columns surface) (enough : ∀ symbols ∈ rows, columns ≤ symbols.length) :
    Kept columns (surface.redraw rows) := by
  intro places listed
  obtain ⟨row, inside, rfl⟩ := List.mem_iff_getElem.mp listed
  unfold Surface.redraw at inside ⊢
  rw [List.getElem_zipWith]
  rw [List.length_zipWith] at inside
  obtain ⟨sameLength, stands⟩ := kept _ (List.getElem_mem (show row < surface.length by omega))
  have symbolsEnough := enough _ (List.getElem_mem (show row < rows.length by omega))
  refine ⟨?_, stands.redrawRow (Nat.le_refl 0) nofun (by omega)⟩
  rw [length_redrawRow, sameLength]

theorem Kept.redraw_eq {columns : Nat} {surface : Surface} {rows : List (List Symbol)}
    (kept : Kept columns surface) (fit : RowsFit columns rows)
    (sameLength : rows.length = surface.length) :
    surface.redraw rows = rows.map (settledRow columns) := by
  induction rows generalizing surface with
  | nil => rfl
  | cons symbols rows ih =>
      cases surface with
      | nil => cases sameLength
      | cons places surface =>
          obtain ⟨filled, stands⟩ := kept places List.mem_cons_self
          obtain ⟨enough, narrow⟩ := fit symbols List.mem_cons_self
          have rest := ih (fun other listed => kept other (List.mem_cons_of_mem places listed))
            (fun other listed => fit other (List.mem_cons_of_mem symbols listed))
            (Nat.succ.inj sameLength)
          have here := stands.redrawRow_eq (Nat.le_refl 0) narrow (by omega)
          unfold Surface.redraw at rest ⊢
          rw [List.zipWith_cons_cons, rest, here, filled, List.map_cons]

end Surface

end Chip8
