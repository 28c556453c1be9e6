import BlockMarkup.Format.Json
import BlockMarkup.Proofs.Json.Kept
import BlockMarkup.Proofs.Json.Reading

/-!
# Tokens read back

The text of tokens gives the tokens back, less their alternatives (`tokensOfJson?_tokensToJson`).
-/

namespace BlockMarkup

open Json Json.Value

namespace Location

/-- Both offsets fit 64 bits. -/
def Fits (loc : Location) : Prop := loc.start < 2 ^ 64 ∧ loc.stop < 2 ^ 64

theorem offset?_nat {n : Nat} (small : n < 2 ^ 64) : offset? (.nat n) = some n := by
  have read : (Value.nat n).nat? = some n := rfl
  have bound : decide (n < Nat.pow 2 64) = true := decide_eq_true small
  rw [offset?, read, Option.filter_some, if_pos bound]

variable {loc : Location}

theorem ofValue?_toValue (fits : loc.Fits) : ofValue? loc.toValue = some loc := by
  show ofFields? (some (.nat loc.start)) (some (.nat loc.stop)) = some loc
  rw [ofFields?, Option.bind_some, Option.bind_some, offset?_nat fits.1, offset?_nat fits.2]
  rfl

theorem kept_toValue (room : Nat) (fits : loc.Fits) : Kept (room + 1) loc.toValue := by
  refine Kept.object (show ["start", "end"].Nodup by decide) fun m member => ?_
  obtain rfl | rfl : m = ("start", .nat loc.start) ∨ m = ("end", .nat loc.stop) := by
    simpa using member
  · exact Kept.nat fits.1
  · exact Kept.nat fits.2

end Location

namespace Params

theorem items?_map (params : Params) : items? (params.map (Value.option .string)) = some params := by
  induction params with
  | nil => rfl
  | cons group rest ih =>
    cases group with
    | none => rw [List.map_cons, Value.option, items?, ih, Option.map_some]
    | some s => rw [List.map_cons, Value.option, items?, ih, Option.map_some]

theorem kept_toValue (room : Nat) (params : Params) : Kept (room + 1) params.toValue := by
  refine Kept.array fun v member => ?_
  obtain ⟨group, -, rfl⟩ := List.mem_map.mp member
  cases group with
  | none => exact Kept.null
  | some s => exact Kept.string s

end Params

/-- What holds of the values of all params holds of a member with params, whether it is left out or not. -/
theorem forall_mem_paramsMember {P : Value → Prop} {key : String} {params : Option Params}
    (each : ∀ params : Params, P params.toValue) : ∀ m ∈ paramsMember key params, P m.2 := by
  cases params with
  | none => exact List.forall_mem_nil _
  | some params => simpa [paramsMember] using each params

namespace Token

variable (t : Token)

/-- The fields of a token are found by their names in what is written. -/
theorem ofValue?_eq_ofFields? : ofValue? t.toValue =
    ofFields? (some (.string t.type)) (some (.string t.value)) (t.params.map Params.toValue)
      (some t.loc.toValue) := by
  obtain ⟨type, value, params, loc, alternative⟩ := t
  cases params <;> rfl

theorem paramsOf?_map (params : Option Params) : paramsOf? (params.map Params.toValue) = some params := by
  cases params with
  | none => rfl
  | some params => exact congrArg (Option.map some) (Params.items?_map params)

variable {t}

theorem ofValue?_toValue (fits : t.loc.Fits) :
    ofValue? t.toValue = some { t with alternative := none } := by
  rw [ofValue?_eq_ofFields?, ofFields?, paramsOf?_map, Option.bind_some, Option.bind_some,
    Option.bind_some, Location.ofValue?_toValue fits]
  rfl

theorem kept_toValue (room : Nat) (fits : t.loc.Fits) : Kept (room + 2) t.toValue := by
  refine Kept.object (by cases t.params <;> simp [paramsMember, Keyed.keys]) ?_
  simp only [List.forall_mem_append, List.forall_mem_cons]
  exact ⟨⟨⟨Kept.string _, Kept.string _, List.forall_mem_nil _⟩, forall_mem_paramsMember (Params.kept_toValue room)⟩,
    Location.kept_toValue room fits, List.forall_mem_nil _⟩

theorem mapM_ofValue? {tokens : List Token} (fits : ∀ t ∈ tokens, t.loc.Fits) :
    (tokens.map toValue).mapM ofValue? =
      some (tokens.map fun t => { t with alternative := none }) := by
  induction tokens with
  | nil => rfl
  | cons t rest ih =>
    obtain ⟨first, later⟩ := List.forall_mem_cons.mp fits
    rw [List.map_cons, List.mapM_cons, ofValue?_toValue first, ih later]
    rfl

end Token

/-- Tokens are read back from their text, in either layout and with everything but alternatives. -/
theorem tokensOfJson?_tokensToJson {tokens : List Token}
    (fits : ∀ t ∈ tokens, t.loc.start < 2 ^ 64 ∧ t.loc.stop < 2 ^ 64) (pretty : Bool) :
    tokensOfJson? (tokensToJson pretty tokens) =
      some (tokens.map fun t => { t with alternative := none }) := by
  have kept : Kept 3 (.array (tokens.map Token.toValue)) := by
    refine Kept.array fun v member => ?_
    obtain ⟨t, listed, rfl⟩ := List.mem_map.mp member
    exact Token.kept_toValue 0 (fits t listed)
  have nested : nesting (.array (tokens.map Token.toValue)) ≤ nestingLimit :=
    Nat.le_trans kept.nested (by decide)
  rw [tokensOfJson?, tokensToJson, read?_print kept.whole nested, kept.plain]
  exact Token.mapM_ofValue? fits

/-- All kinds of params, characters that are escaped and offsets at both ends of their range. -/
theorem tokensOfJson?_tokensToJson_escaped :
    let tokens : List Token :=
      [{ type := "text", value := "a \"b\" \\\n\u0001é", loc := ⟨2 ^ 64 - 1, 0⟩ },
        { type := "open", value := "<x>", params := some [some "x\t", none], loc := ⟨0, 3⟩,
          alternative := some 1 },
        { type := "", value := "", params := some [], loc := ⟨3, 3⟩ }]
    (∀ t ∈ tokens, t.loc.start < 2 ^ 64 ∧ t.loc.stop < 2 ^ 64) ∧
      tokensOfJson? (tokensToJson true tokens) =
        some (tokens.map fun t => { t with alternative := none }) :=
  ⟨by decide, tokensOfJson?_tokensToJson (by decide) true⟩

end BlockMarkup
