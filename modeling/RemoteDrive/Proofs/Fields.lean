import RemoteDrive.Yaml.Record
import RemoteDrive.Proofs.Number.Numeral

/-!
# Records with named fields

Three notations list the fields of a record by name: JSON texts, JSON values and configuration
files. A reader that asks one of them for fields is told about those with the names it asks for
(`NamedDocument`). The order of the fields does not matter to it, and neither do the others.

In a configuration file a count is a plain word. Such a word can have a sign, or be in another
base, and a word that begins with a zero is not a count; the decimal notation of a count is none of
these, so it is read as that count (`Yaml.Node.word?_nat`).
-/

set_option autoImplicit false

namespace RemoteDrive

namespace Slot

variable {δ α : Type} {fields : List (String × δ)} {name : String} {names : List String}
  {slot : Slot δ} {slots : List (Slot δ)}

/-- The slot of one name in a list of named fields. -/
def named? (fields : List (String × δ)) (name : String) : Option (Slot δ) :=
  match fields.filter (·.1 == name) with
  | [] => some .missing
  | [(_, d)] => some (.given d)
  | _ => none

theorem ofNamed_eq : ofNamed fields names = names.mapM (named? fields) := rfl

theorem ofNamed_cons_iff : ofNamed fields (name :: names) = some slots ↔
    ∃ slot others, named? fields name = some slot ∧ ofNamed fields names = some others ∧
      slot :: others = slots := by
  simp [ofNamed_eq, List.mapM_cons, Option.bind_eq_some_iff]

theorem ofNamed_cons (h : named? fields name = some slot) (hs : ofNamed fields names = some slots) :
    ofNamed fields (name :: names) = some (slot :: slots) :=
  ofNamed_cons_iff.mpr ⟨slot, slots, h, hs, rfl⟩

/-- A field that is there is read, and for one that is not there is the default. -/
theorem exists_named (read : δ → Option α) (default : α) {a : α}
    (h : (fields.filter (·.1 == name) = [] ∧ default = a) ∨
      ∃ d, fields.filter (·.1 == name) = [(name, d)] ∧ read d = some a) :
    ∃ slot, named? fields name = some slot ∧ slot.orElse default read = some a := by
  unfold named?
  obtain ⟨hnone, rfl⟩ | ⟨d, hone, hread⟩ := h
  · exact ⟨.missing, by rw [hnone], rfl⟩
  · exact ⟨.given d, by rw [hone], hread⟩

end Slot

/-- A notation in which a record can list its fields by name. -/
class NamedDocument (δ : Type) [Document δ] where
  /-- The fields of such a record. -/
  fields? : δ → Option (List (String × δ))
  /-- Nothing but the fields with the names that are asked for matters. -/
  slots?_of_fields? : ∀ {d fields names slots}, fields? d = some fields →
    Slot.ofNamed fields names = some slots → Document.slots? names d = some slots

namespace Json

variable {fields : List (String × Json)} {name : String} {names : List String}
  {slots : List (Slot Json)}

theorem lookup_eq_head? :
    fields.lookup name = (fields.filter (·.1 == name)).head?.map Prod.snd := by
  rw [List.head?_filter]
  induction fields with
  | nil => rfl
  | cons field fields ih =>
    obtain ⟨key, j⟩ := field
    rw [List.lookup_cons, List.find?_cons, ih, BEq.comm]
    cases key == name <;> rfl

/-- A value answers for a name that its fields have at most once as a text does. -/
theorem slot_of_named? {slot : Slot Json} (h : Slot.named? fields name = some slot) :
    (match fields.lookup name with
      | some j => .given j
      | none => .missing) = slot := by
  rw [lookup_eq_head?]
  unfold Slot.named? at h
  split at h <;> rename_i hfound
  · cases h
    rw [hfound]
    rfl
  · cases h
    rw [hfound]
    rfl
  · cases h

theorem slots?_of_ofNamed (h : Slot.ofNamed fields names = some slots) :
    slots? names (.object fields) = some slots := by
  induction names generalizing slots with
  | nil => exact h
  | cons name names ih =>
    obtain ⟨slot, others, hslot, hothers, rfl⟩ := Slot.ofNamed_cons_iff.mp h
    have hrest := Option.some.inj (ih hothers)
    rw [slots?, List.map_cons, hrest]
    exact congrArg (fun slot => some (slot :: others)) (slot_of_named? hslot)

def fields? : Json → Option (List (String × Json))
  | .object fields => some fields
  | _ => none

instance : NamedDocument Json where
  fields? := fields?
  slots?_of_fields? {j _ _ _} hfields hslots := by
    cases j with
    | object fields =>
      cases hfields
      exact slots?_of_ofNamed hslots
    | null | bool | number | text | array => cases hfields

namespace Tree

def fields? : Tree → Option (List (String × Tree))
  | .object entries => namedFields? entries
  | _ => none

theorem slots?_of_fields? {t : Tree} {fields : List (String × Tree)}
    (h : t.fields? = some fields) : t.slots? names = Slot.ofNamed fields names := by
  cases t with
  | object entries =>
    rw [fields?] at h
    rw [slots?, h, Option.bind_some]
  | null | bool | number | text | array => cases h

instance : NamedDocument Tree where
  fields? := fields?
  slots?_of_fields? hfields hslots := (slots?_of_fields? hfields).trans hslots

end Tree

end Json

namespace Yaml

/-- A mapping with words for keys. -/
def Node.ofFields (fields : List (String × Node)) : Node :=
  .mapping (fields.map fun field => (.scalar .plain none field.1, field.2))

namespace Value

/-- The entries of a mapping whose keys are texts. -/
def fields? (v : Value) : Option (List (String × Value)) := do
  let entries ← (← v.target?).entries?
  entries.mapM fun (key, value) => { v with node := key }.text?.map (·, { v with node := value })

theorem slots?_eq (names : List String) (v : Value) :
    v.slots? names = v.fields?.bind (Slot.ofNamed · names) := by
  simp only [slots?, fields?, Option.bind_eq_bind, Option.bind_assoc]

/-- Nodes as values, all with the same named nodes. -/
def among (named : Array (ℕ × Node)) (fields : List (String × Node)) : List (String × Value) :=
  fields.map fun field => (field.1, ⟨field.2, named⟩)

theorem among_append (named : Array (ℕ × Node)) (fields fields' : List (String × Node)) :
    among named (fields ++ fields') = among named fields ++ among named fields' := List.map_append

/-- A mapping with words for keys has its values under these words. -/
theorem fields?_ofFields (fields : List (String × Node)) (named : Array (ℕ × Node)) :
    fields? ⟨.ofFields fields, named⟩ = some (among named fields) := by
  simp only [fields?, target?, Node.ofFields, Node.entries?, Option.bind_eq_bind, Option.bind_some]
  induction fields with
  | nil => rfl
  | cons field fields ih =>
    rw [List.map_cons, List.mapM_cons, ih]
    rfl

instance : NamedDocument Value where
  fields? := fields?
  slots?_of_fields? {v _ names _} hfields hslots := by
    have hslots' := slots?_eq names v
    rw [hfields] at hslots'
    exact hslots'.trans hslots

end Value

end Yaml

/-! ## Counts in a configuration file -/

open Decimal (Canonical isDigit digitValue value)

namespace Yaml

variable {ds : List Char}

theorem hexValue_of_isDigit {c : Char} (h : isDigit c = true) :
    Hex.value? c = some (digitValue c) := by
  simp only [isDigit, Bool.and_eq_true, decide_eq_true_eq] at h
  rw [Hex.value?, if_pos h, digitValue]

theorem digitValue_lt {c : Char} (h : isDigit c = true) : digitValue c < 10 := by
  have hbounds := Decimal.toNat_of_isDigit h
  simp only [digitValue, Char.reduceToNat]
  omega

theorem digitsIn?_ten (hne : ds ≠ []) (h : ∀ c ∈ ds, isDigit c = true) :
    digitsIn? 10 ds = some (value ds) := by
  rw [digitsIn?, if_neg (by simpa using hne), value]
  clear hne
  generalize 0 = v
  induction ds generalizing v with
  | nil => rfl
  | cons c ds ih =>
    have hc := h c List.mem_cons_self
    rw [List.foldlM_cons, hexValue_of_isDigit hc]
    simp only [Option.bind_eq_bind, Option.bind_some, if_pos (digitValue_lt hc)]
    exact ih (fun c hc => h c (List.mem_cons_of_mem _ hc)) _

theorem unsigned?_of_canonical (h : Canonical ds) : unsigned? ds = some (value ds) := by
  have hplus : ds.head? ≠ some '+' := by
    intro hhead
    have hdigit := h.digits '+' (List.mem_of_head? hhead)
    exact absurd hdigit (by decide)
  have hdecimal := digitsIn?_ten h.ne_nil h.digits
  rw [unsigned?, if_neg hplus]
  split
  · cases h.leading _ rfl
  · cases h.leading _ rfl
  · cases h.leading _ rfl
  · cases h.leading _ rfl
  · exact hdecimal

/-- A count in decimal is read as it is. -/
theorem Node.word?_nat (n : UInt64) :
    word? (.scalar .plain none (Decimal.nat n.toNat)) = some n := by
  rw [word?, if_pos (.inl rfl), Decimal.nat, String.toList_ofList,
    unsigned?_of_canonical (Decimal.canonical_toDigits _), Decimal.value_toDigits]
  simp only [if_pos n.toNat_lt_size, UInt64.ofNat_toNat]

end Yaml

end RemoteDrive
