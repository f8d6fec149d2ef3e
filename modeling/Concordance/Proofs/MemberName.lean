import Concordance.MemberName
import Mathlib
/-!
Names that can be led back. Words run together stay apart where a small letter stands on one side of
the border or behind the next capital; so only the border between two words of one letter each is
lost, and with it the name.
-/
namespace Concordance.MemberName

open Text

section Letters

variable {c : Char}

theorem ascii_of_isAlpha (h : c.isAlpha = true) : c.toNat < 128 := by
  have : c.toNat = c.val.toNat := rfl
  simp [Char.isAlpha, Char.isUpper, Char.isLower, UInt32.le_iff_toNat_le] at h
  omega

variable (small : c.isLower = true)

include small

theorem isAlpha_of_small : c.isAlpha = true := by simp [Char.isAlpha, small]

theorem isAlpha_toUpper : c.toUpper.isAlpha = true := by simp [isAlpha_of_small small]

theorem isLower_small : isLower c = true := by
  rw [isLower_ascii (ascii_of_isAlpha (isAlpha_of_small small)), small]

theorem isUpper_small : isUpper c = false := by
  rw [isUpper_ascii (ascii_of_isAlpha (isAlpha_of_small small))]
  simpa using Char.not_isUpper_of_isLower small

theorem upper_small : upper c = [c.toUpper] :=
  upper_ascii (ascii_of_isAlpha (isAlpha_of_small small))

theorem isUpper_toUpper : isUpper c.toUpper = true := by
  rw [isUpper_ascii (ascii_of_isAlpha (isAlpha_toUpper small)), Char.isUpper_toUpper_eq_isAlpha]
  exact isAlpha_of_small small

theorem isLower_toUpper : isLower c.toUpper = false := by
  rw [isLower_ascii (ascii_of_isAlpha (isAlpha_toUpper small)), Char.isLower_toUpper_eq_false]

theorem lower_toUpper : lower c.toUpper = [c] := by
  rw [lower_ascii (ascii_of_isAlpha (isAlpha_toUpper small)), Char.toLower_toUpper_eq_toLower,
    Char.toLower_eq_of_not_isUpper (Char.not_isUpper_of_isLower small)]

theorem ne_underscore_of_small : c ≠ '_' := by
  rintro rfl
  exact absurd small (by decide)

end Letters

structure Word where
  first : Char
  rest : List Char
  small : ∀ c ∈ first :: rest, c.isLower = true

namespace Word

def letters (w : Word) : List Char := w.first :: w.rest

def capitalised (w : Word) : List Char := w.first.toUpper :: w.rest

def IsLetter (w : Word) : Prop := w.rest = []

instance (w : Word) : Decidable w.IsLetter := inferInstanceAs (Decidable (w.rest = []))

def last (w : Word) : Char := w.rest.getLast?.getD w.first.toUpper

variable (w : Word)

theorem first_small : w.first.isLower = true := w.small _ List.mem_cons_self

theorem rest_small {c : Char} (h : c ∈ w.rest) : c.isLower = true :=
  w.small c (List.mem_cons_of_mem _ h)

end Word

def snake (ws : List Word) : String := "_".intercalate (ws.map fun w => .ofList w.letters)

def pascal (ws : List Word) : String := .join (ws.map fun w => .ofList w.capitalised)

/-- No two words of one letter each stand side by side. -/
def Separable (ws : List Word) : Prop := ws.IsChain fun v w => ¬(v.IsLetter ∧ w.IsLetter)

def snakeNames : Set String := {s | ∃ ws, ws ≠ [] ∧ Separable ws ∧ snake ws = s}

def pascalNames : Set String := {s | ∃ ws, ws ≠ [] ∧ Separable ws ∧ pascal ws = s}

theorem toList_snake_cons (w : Word) (ws : List Word) :
    (snake (w :: ws)).toList = w.letters ++ ws.flatMap fun v => '_' :: v.letters := by
  unfold snake
  rw [String.toList_intercalate, List.map_map]
  induction ws generalizing w with
  | nil => simp
  | cons v ws ih =>
    rw [List.map_cons, List.map_cons, List.intercalate_cons_cons, ← List.map_cons, ih v]
    simp

theorem toList_pascal (ws : List Word) : (pascal ws).toList = ws.flatMap Word.capitalised := by
  simp [pascal, String.toList_join, List.flatMap_map]

section Capitalising

theorem pascalFrom_small {cs : List Char} (small : ∀ c ∈ cs, c.isLower = true)
    (after : List Char) : pascalFrom false (cs ++ after) = cs ++ pascalFrom false after := by
  induction cs with
  | nil => rfl
  | cons c cs ih =>
    obtain ⟨head, tail⟩ := List.forall_mem_cons.mp small
    simp [pascalFrom, ne_underscore_of_small head, ih tail]

theorem pascalFrom_letters (w : Word) (after : List Char) :
    pascalFrom true (w.letters ++ after) = w.capitalised ++ pascalFrom false after := by
  simp [Word.letters, Word.capitalised, pascalFrom, ne_underscore_of_small w.first_small,
    upper_small w.first_small, pascalFrom_small fun _ => w.rest_small]

theorem pascalFrom_underscored (ws : List Word) :
    pascalFrom false (ws.flatMap fun w => '_' :: w.letters) = ws.flatMap Word.capitalised := by
  induction ws with
  | nil => rfl
  | cons w ws ih =>
    rw [List.flatMap_cons, List.flatMap_cons, List.cons_append, ← ih, ← pascalFrom_letters]
    simp [pascalFrom]

theorem toPascal_snake (ws : List Word) : toPascal (snake ws) = pascal ws := by
  rw [← String.toList_inj, toList_pascal, toPascal, String.toList_ofList]
  cases ws with
  | nil => rfl
  | cons w ws =>
    rw [toList_snake_cons, pascalFrom_letters, pascalFrom_underscored, List.flatMap_cons]

end Capitalising

section Separating

theorem snakeAfter_small {cs : List Char} (small : ∀ c ∈ cs, c.isLower = true) (previous : Char)
    (after : List Char) : snakeAfter (some previous) (cs ++ after) =
      cs ++ snakeAfter (some (cs.getLast?.getD previous)) after := by
  induction cs generalizing previous with
  | nil => rfl
  | cons c cs ih =>
    obtain ⟨head, tail⟩ := List.forall_mem_cons.mp small
    simp [snakeAfter, isUpper_small head, ih tail, List.getLast?_cons]

theorem snakeAfter_capitalised (previous : Option Char) (w : Word) (after : List Char) :
    snakeAfter previous (w.capitalised ++ after) =
      (if startsWord previous (w.rest ++ after).head? then ['_'] else []) ++
        (w.letters ++ snakeAfter (some w.last) after) := by
  rw [Word.capitalised, List.cons_append, snakeAfter, isUpper_toUpper w.first_small, if_pos rfl,
    lower_toUpper w.first_small, snakeAfter_small fun _ => w.rest_small, ← Word.last]
  by_cases starts : startsWord previous (w.rest ++ after).head? = true
  · rw [if_pos starts, if_pos starts]
    rfl
  · rw [if_neg starts, if_neg starts]
    rfl

theorem isLower_last (w : Word) : isLower w.last = true ↔ ¬w.IsLetter := by
  unfold Word.last Word.IsLetter
  cases end? : w.rest.getLast? with
  | none => simp [List.getLast?_eq_none_iff.mp end?, isLower_toUpper w.first_small]
  | some c =>
    have inside := List.mem_of_getLast? end?
    simp [isLower_small (w.rest_small inside), List.ne_nil_of_mem inside]

theorem isUpper_last {w : Word} (h : w.IsLetter) : isUpper w.last = true := by
  rw [Word.last, h]
  exact isUpper_toUpper w.first_small

/-- Behind a capital stands a small letter if the word goes on. What follows the word is a capital
again, or nothing. -/
theorem any_isLower_next (w : Word) (ws : List Word) :
    (w.rest ++ ws.flatMap Word.capitalised).head?.any isLower = true ↔ ¬w.IsLetter := by
  unfold Word.IsLetter
  cases inside : w.rest with
  | cons c cs => simp [isLower_small (w.rest_small (inside ▸ List.mem_cons_self))]
  | nil =>
    cases ws with
    | nil => simp
    | cons v ws => simp [Word.capitalised, isLower_toUpper v.first_small]

theorem startsWord_last (v w : Word) (ws : List Word) :
    startsWord (some v.last) (w.rest ++ ws.flatMap Word.capitalised).head? = true ↔
      ¬(v.IsLetter ∧ w.IsLetter) := by
  rw [startsWord, Bool.or_eq_true, Bool.and_eq_true, isLower_last, any_isLower_next]
  by_cases letter : v.IsLetter
  · simp [letter, isUpper_last letter]
  · simp [letter]

def readAfter (v : Word) : List Word → List Char
  | [] => []
  | w :: ws => (if v.IsLetter ∧ w.IsLetter then [] else ['_']) ++ (w.letters ++ readAfter w ws)

theorem snakeAfter_flatMap_capitalised (v : Word) (ws : List Word) :
    snakeAfter (some v.last) (ws.flatMap Word.capitalised) = readAfter v ws := by
  induction ws generalizing v with
  | nil => rfl
  | cons w ws ih =>
    rw [List.flatMap_cons, snakeAfter_capitalised, ih, readAfter]
    simp only [startsWord_last, ite_not]

theorem toList_toSnake_pascal (w : Word) (ws : List Word) :
    (toSnake (pascal (w :: ws))).toList = w.letters ++ readAfter w ws := by
  rw [toSnake, String.toList_ofList, toList_pascal, List.flatMap_cons, snakeAfter_capitalised,
    snakeAfter_flatMap_capitalised]
  simp [startsWord]

/-- Where an underscore is missing, a small letter stands in its place. -/
theorem readAfter_eq_iff (v : Word) (ws : List Word) :
    readAfter v ws = ws.flatMap (fun w => '_' :: w.letters) ↔ Separable (v :: ws) := by
  induction ws generalizing v with
  | nil => simp [readAfter, Separable]
  | cons w ws ih =>
    rw [Separable, List.isChain_cons_cons, ← Separable, ← ih, readAfter, List.flatMap_cons]
    by_cases letters : v.IsLetter ∧ w.IsLetter
    · have differs : w.first ≠ '_' := ne_underscore_of_small w.first_small
      simp [letters, Word.letters, differs]
    · simp [letters]

theorem toSnake_pascal_eq_iff (ws : List Word) : toSnake (pascal ws) = snake ws ↔ Separable ws := by
  cases ws with
  | nil => exact iff_of_true rfl .nil
  | cons w ws =>
    rw [← String.toList_inj, toList_toSnake_pascal, toList_snake_cons, List.append_cancel_left_eq,
      readAfter_eq_iff]

end Separating

/-- The two spellings are led back to each other for the names in which no two words of one letter
stand side by side, and for no other name of small words. -/
theorem spellings_inverse :
    Set.BijOn toPascal snakeNames pascalNames ∧ Set.InvOn toSnake toPascal snakeNames pascalNames ∧
      ∀ ws : List Word, toSnake (toPascal (snake ws)) = snake ws ↔ Separable ws := by
  have back (ws : List Word) : toSnake (toPascal (snake ws)) = snake ws ↔ Separable ws := by
    rw [toPascal_snake, toSnake_pascal_eq_iff]
  have inverse : Set.InvOn toSnake toPascal snakeNames pascalNames := by
    constructor
    · rintro _ ⟨ws, -, separable, rfl⟩
      exact (back ws).mpr separable
    · rintro _ ⟨ws, -, separable, rfl⟩
      rw [(toSnake_pascal_eq_iff ws).mpr separable, toPascal_snake]
  refine ⟨inverse.bijOn ?_ ?_, inverse, back⟩
  · rintro _ ⟨ws, some, separable, rfl⟩
    exact ⟨ws, some, separable, (toPascal_snake ws).symm⟩
  · rintro _ ⟨ws, some, separable, rfl⟩
    exact ⟨ws, some, separable, ((toSnake_pascal_eq_iff ws).mpr separable).symm⟩

-- The border between two letters is lost, one beside a longer word is kept.
example : toPascal "x_y_axis" = "XYAxis" ∧ toSnake "XYAxis" = "xy_axis" := by decide +kernel

end Concordance.MemberName
