import RemoteDrive.Record

/-!
# Records in a reply

A record in a reply is an object, or a list of its values in the order in which the record names
them. Of a list that breaks off early only the first values are there, one that goes on for too long
is no record, and neither is any other kind of value. So what a record has for a field is a matter
of the field's name and of its place (`Json.entry?`), and a reader that asks for several fields at
once is given just that (`Json.bind_slots?_iff`).
-/

set_option autoImplicit false

namespace RemoteDrive

namespace Slot

variable {δ α : Type}

/-- What the node has for the field. -/
def node? : Slot δ → Option δ
  | .given d => some d
  | .missing => none
  | .cutOff => none

theorem orElse_eq (default : α) (read : δ → Option α) (slot : Slot δ) :
    slot.orElse default read = slot.node?.elim (some default) read := by
  cases slot <;> rfl

theorem ofListed_of_le {items : List δ} {names : List String}
    (h : items.length ≤ names.length) :
    ∃ slots, ofListed items names = some slots ∧
      slots.map node? = names.mapIdx fun place _ => items[place]? := by
  induction names generalizing items with
  | nil =>
    obtain rfl := List.eq_nil_of_length_eq_zero (Nat.le_zero.mp h)
    exact ⟨[], rfl, rfl⟩
  | cons name names ih =>
    cases items with
    | nil =>
      -- a list that has come to its end stays there
      have hleft : ([] : List δ).length ≤ names.length := Nat.zero_le _
      obtain ⟨slots, hslots, hnodes⟩ := ih hleft
      refine ⟨.cutOff :: slots, by rw [ofListed, hslots, Option.map_some], ?_⟩
      simpa [List.mapIdx_cons, node?] using hnodes
    | cons d items =>
      obtain ⟨slots, hslots, hnodes⟩ := ih (Nat.le_of_succ_le_succ h)
      refine ⟨.given d :: slots, by rw [ofListed, hslots, Option.map_some], ?_⟩
      simpa [List.mapIdx_cons, node?] using hnodes

theorem ofListed_of_lt {items : List δ} {names : List String}
    (h : names.length < items.length) : ofListed items names = none := by
  induction names generalizing items with
  | nil =>
    cases items with
    | nil => exact absurd h (Nat.lt_irrefl 0)
    | cons d items => rfl
  | cons name names ih =>
    cases items with
    | nil => exact absurd h (Nat.not_lt_zero _)
    | cons d items => rw [ofListed, ih (Nat.lt_of_succ_lt_succ h), Option.map_none]

end Slot

namespace Json

/-- What a record has for the field of this name, which is the one at this place. -/
def entry? (name : String) (place : Nat) : Json → Option Json
  | .object fields => fields.lookup name
  | .array items => items[place]?
  | _ => none

/-- The value is a record of up to `n` fields. -/
def IsRecord (n : Nat) : Json → Prop
  | .object _ => True
  | .array items => items.length ≤ n
  | _ => False

variable {j : Json} {names : List String}

theorem slots?_eq_some (h : j.IsRecord names.length) :
    ∃ slots, Document.slots? names j = some slots ∧
      slots.map Slot.node? = names.mapIdx fun place name => j.entry? name place := by
  cases j with
  | object fields =>
    refine ⟨_, rfl, List.ext_getElem (by simp) fun place h₁ h₂ => ?_⟩
    simp only [List.getElem_map, List.getElem_mapIdx, entry?]
    split <;> rename_i hfound <;> rw [hfound] <;> rfl
  | array items => exact Slot.ofListed_of_le h
  | null | bool | number | text => exact absurd h id

theorem slots?_eq_none (h : ¬ j.IsRecord names.length) : Document.slots? names j = none := by
  cases j with
  | object fields => exact absurd trivial h
  | array items => exact Slot.ofListed_of_lt (Nat.lt_of_not_le h)
  | null | bool | number | text => rfl

/-- To read some fields is to have a record, and to read what it has for them. -/
theorem bind_slots?_iff {α : Type} {read : List (Slot Json) → Option α} {a : α} {P : Prop}
    (hrecord : P → j.IsRecord names.length)
    (hread : ∀ slots, slots.map Slot.node? = (names.mapIdx fun place name => j.entry? name place) →
      j.IsRecord names.length → (read slots = some a ↔ P)) :
    (Document.slots? names j).bind read = some a ↔ P := by
  by_cases h : j.IsRecord names.length
  · obtain ⟨slots, hslots, hnodes⟩ := slots?_eq_some h
    rw [hslots, Option.bind_some]
    exact hread slots hnodes h
  · rw [slots?_eq_none h, Option.bind_none]
    exact iff_of_false (by simp) (mt hrecord h)

theorem isNull_of_isRecord {n : Nat} (h : j.IsRecord n) : j.isNull = false := by
  cases j with
  | object | array => rfl
  | null | bool | number | text => exact absurd h id

end Json

end RemoteDrive
