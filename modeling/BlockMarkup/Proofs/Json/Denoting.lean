import BlockMarkup.Proofs.Json.Reading

/-!
# What a text stands for

A text denotes what is read from it once arrays and objects may be entered without limit. It denotes no
more than one value (`Denotes.unique`), and a printed text what was printed (`Kept.denotes_iff`).
-/

namespace BlockMarkup.Json

/-- Reading gives the value, if arrays and objects may be entered often enough. -/
def Denotes (text : String) (v : Value) : Prop :=
  ∃ room rest, Reader.value (text.toList.length + 1) room text.toList = some (v, rest) ∧
    (Reader.skipBlanks rest).isEmpty = true

namespace Reader

mutual

/-- More room for nesting changes nothing in what has been read. -/
theorem value_deeper {fuel room room' : Nat} {cs : List Char} {r : Value × List Char}
    (deeper : room ≤ room') (read : value fuel room cs = some r) : value fuel room' cs = some r := by
  match fuel with
  | 0 =>
    rw [value] at read
    cases read
  | fuel + 1 =>
    rw [value] at read ⊢
    generalize skipBlanks cs = text at read ⊢
    split at read
    any_goals exact read
    next rest =>
      match room, room' with
      | 0, _ => cases read
      | room + 1, room' + 1 =>
        dsimp only at read ⊢
        generalize skipBlanks rest = text at read ⊢
        split at read
        next => exact read
        next => exact elements_deeper (Nat.le_of_succ_le_succ deeper) read
    next rest =>
      match room, room' with
      | 0, _ => cases read
      | room + 1, room' + 1 =>
        dsimp only at read ⊢
        generalize skipBlanks rest = text at read ⊢
        split at read
        next => exact read
        next => exact members_deeper (Nat.le_of_succ_le_succ deeper) read

theorem elements_deeper {fuel room room' : Nat} {done : List Value} {cs : List Char}
    {r : Value × List Char} (deeper : room ≤ room') (read : elements fuel room done cs = some r) :
    elements fuel room' done cs = some r := by
  match fuel with
  | 0 =>
    rw [elements] at read
    cases read
  | fuel + 1 =>
    rw [elements] at read ⊢
    split at read
    next => cases read
    next v rest first =>
      rw [value_deeper deeper first]
      dsimp only
      generalize skipBlanks rest = text at read ⊢
      split at read
      next => exact elements_deeper deeper read
      next => exact read
      next => cases read

theorem members_deeper {fuel room room' : Nat} {done : List (String × Value)} {cs : List Char}
    {r : Value × List Char} (deeper : room ≤ room') (read : members fuel room done cs = some r) :
    members fuel room' done cs = some r := by
  match fuel with
  | 0 =>
    rw [members] at read
    cases read
  | fuel + 1 =>
    rw [members] at read ⊢
    generalize skipBlanks cs = text at read ⊢
    split at read
    next rest =>
      dsimp only
      split at read
      next => cases read
      next key rest named =>
        generalize skipBlanks rest = text at read ⊢
        split at read
        next rest =>
          split at read
          next => cases read
          next v rest first =>
            rw [value_deeper deeper first]
            dsimp only at read ⊢
            generalize skipBlanks rest = text at read ⊢
            split at read
            next => exact members_deeper deeper read
            next => exact read
            next => cases read
        next => cases read
    next => cases read

end

end Reader

variable {text : String} {v w : Value}

theorem Denotes.unique (left : Denotes text v) (right : Denotes text w) : v = w := by
  obtain ⟨room, rest, read, -⟩ := left
  obtain ⟨room', rest', read', -⟩ := right
  have first := Reader.value_deeper (Nat.le_max_left room room') read
  have second := Reader.value_deeper (Nat.le_max_right room room') read'
  rw [first, Option.some.injEq, Prod.mk.injEq] at second
  exact second.1

namespace Value

variable {room : Nat}

theorem Kept.denotes (kept : Kept room v) (pretty : Bool) : Denotes (v.print pretty) v := by
  refine ⟨room, [], ?_, rfl⟩
  rw [print, String.toList_ofList, Reader.value_text _ kept.whole kept.nested, kept.plain]

/-- A printed text denotes what was printed and nothing else, in either layout. -/
theorem Kept.denotes_iff (kept : Kept room v) (pretty : Bool) : Denotes (v.print pretty) w ↔ w = v := by
  constructor
  · intro denoted
    exact denoted.unique (kept.denotes pretty)
  · rintro rfl
    exact kept.denotes pretty

end Value

end BlockMarkup.Json
