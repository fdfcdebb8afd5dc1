import SlackCourier.Text.Units

/-!
# Occurrences of a text in a text

Cutting a text at a separator and replacing every occurrence of a text.  Occurrences are taken from
the left and do not overlap.
-/

namespace SlackCourier.Text

variable {α : Type}

def joinList (sep : List α) : List (List α) → List α
  | [] => []
  | [piece] => piece
  | piece :: pieces => piece ++ sep ++ joinList sep pieces

def join (sep : Text) (texts : List Text) : Text := ⟨joinList sep.units (texts.map Text.units)⟩

variable [DecidableEq α]

/-- The pieces of a list between its separators: always one more than there are separators. -/
def splitList (sep : α) : List α → List (List α)
  | [] => [[]]
  | c :: rest =>
    if c = sep then [] :: splitList sep rest
    else match splitList sep rest with
      | [] => [[c]]
      | piece :: pieces => (c :: piece) :: pieces

def split (sep : Char) (text : Text) : List Text := (splitList (unit sep) text.units).map Text.mk

/-- What stands before and behind the last separator of a list; everything stands behind it if there
is none. -/
def aroundLast (sep : α) (list : List α) : List α × List α :=
  let back := (list.reverse.takeWhile (· != sep)).reverse
  ((list.take (list.length - back.length)).dropLast, back)

/-- Replaces the occurrences of `old` after `skip` further items, which belong to an occurrence
already replaced. -/
def replaceFrom (old new : List α) : Nat → List α → List α
  | _, [] => []
  | skip + 1, _ :: rest => replaceFrom old new skip rest
  | 0, c :: rest =>
    if old.isPrefixOf (c :: rest) then
      new ++ replaceFrom old new (old.length - 1) rest
    else c :: replaceFrom old new 0 rest

/-- Every occurrence of `old` replaced; the empty list occurs nowhere. -/
def replaceList (old new list : List α) : List α :=
  if old = [] then list else replaceFrom old new 0 list

def replaceAll (old new text : Text) : Text := ⟨replaceList old.units new.units text.units⟩

/-- The pieces of a list between the occurrences of `old` after `skip` further items, which belong
to an occurrence already found. -/
def piecesFrom (old : List α) : Nat → List α → List (List α)
  | _, [] => [[]]
  | skip + 1, _ :: rest => piecesFrom old skip rest
  | 0, c :: rest =>
    if old.isPrefixOf (c :: rest) then [] :: piecesFrom old (old.length - 1) rest
    else match piecesFrom old 0 rest with
      | [] => [[c]]
      | piece :: pieces => (c :: piece) :: pieces

/-- The pieces of a text around every occurrence of `old`, which is not empty. -/
def pieces (old text : Text) : List Text := (piecesFrom old.units 0 text.units).map Text.mk

theorem splitList_ne_nil (sep : α) (cs : List α) : splitList sep cs ≠ [] := by
  cases cs with
  | nil => simp [splitList]
  | cons c rest =>
    unfold splitList
    split
    · simp
    · split <;> simp

theorem piecesFrom_ne_nil (old : List α) (skip : Nat) (cs : List α) :
    piecesFrom old skip cs ≠ [] := by
  induction cs generalizing skip with
  | nil => cases skip <;> simp [piecesFrom]
  | cons c rest ih =>
    cases skip with
    | succ skip => exact ih skip
    | zero =>
      unfold piecesFrom
      split
      · simp
      · split <;> simp

theorem joinList_piecesFrom (old new : List α) (skip : Nat) (cs : List α) :
    joinList new (piecesFrom old skip cs) = replaceFrom old new skip cs := by
  induction cs generalizing skip with
  | nil => cases skip <;> rfl
  | cons c rest ih =>
    cases skip with
    | succ skip => exact ih skip
    | zero =>
      unfold piecesFrom replaceFrom
      split
      · cases hr : piecesFrom old (old.length - 1) rest with
        | nil => exact absurd hr (piecesFrom_ne_nil old _ rest)
        | cons piece pieces => rw [← ih, hr]; simp [joinList]
      · rw [← ih]
        cases hr : piecesFrom old 0 rest with
        | nil => exact absurd hr (piecesFrom_ne_nil old 0 rest)
        | cons piece pieces => cases pieces <;> simp [joinList]

theorem join_pieces {old : Text} (h : old.units ≠ []) (new text : Text) :
    join new (pieces old text) = replaceAll old new text := by
  unfold join pieces replaceAll replaceList
  rw [if_neg h, List.map_map, ← joinList_piecesFrom]
  exact congrArg (fun cs => (⟨joinList new.units cs⟩ : Text)) (List.map_id _)

@[simp] theorem replaceList_nil (new list : List α) : replaceList [] new list = list := by
  simp [replaceList]

end SlackCourier.Text
