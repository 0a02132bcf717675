import Mathlib.Logic.Relation
import OnecRuntime.Library.Fallible
import OnecRuntime.Privacy.PublicArtifact

/-!
# When a public value tells nothing

A demand on public values is met by the value of a form, a mapping or a sequence where it is met by
the parts of it. Two demands matter: that there is a value at all, and that the value is built of
scalars, members, lists, mappings and texts that tell nothing.
-/

namespace OnecRuntime.Privacy

open OnecRuntime.Library

/-! ## Demands -/

/-- What is demanded of a value, and of the texts that it is built of. -/
structure Demand where
  result : Value → Prop
  text : String → Prop
  scalar : ∀ scalar, result (.scalar scalar)
  text_iff : ∀ content, result (.text content) ↔ text content
  list_iff : ∀ items, result (.sequence .list items) ↔ ∀ item ∈ items, result item
  dict_iff : ∀ entries, result (.mapping .dict entries) ↔
    ∀ entry ∈ entries, text entry.1 ∧ result entry.2

def Demand.nothing : Demand where
  result _ := True
  text _ := True
  scalar _ := trivial
  text_iff _ := Iff.rfl
  list_iff _ := ⟨fun _ _ _ => trivial, fun _ => trivial⟩
  dict_iff _ := ⟨fun _ _ _ => ⟨trivial, trivial⟩, fun _ => trivial⟩

section Forms

variable (demand : Demand) (digest : String → String)

/-- The object has what the part takes from it, and what is taken as it is meets the demand. -/
def Part.Meets (value : Value) : Part → Prop
  | .here name => ∃ inner, value.attribute? name = some inner ∧ demand.result inner
  | .published name => ∃ inner, value.attribute? name = some inner
  | .through name inner => ∃ outer target, value.attribute? name = some outer ∧
      outer.attribute? inner = some target
  | .digest name => ∃ source, value.attribute? name = some (.text source) ∧
      demand.text (digest source)
  | .count name => ∃ inner length, value.attribute? name = some inner ∧ inner.length? = some length
  | .constant fixed => demand.result fixed

/-- What a part publishes of an object. -/
def Part.targets (value : Value) : Part → List Value
  | .published name => (value.attribute? name).toList
  | .through name inner => ((value.attribute? name).bind fun outer => outer.attribute? inner).toList
  | _ => []

def Reading.Meets (value : Value) : Reading → Prop
  | .part asked => asked.Meets demand digest value
  | .optional name parts => ∃ inner, value.attribute? name = some inner ∧
      (inner ≠ .scalar .none → ∀ part ∈ parts, demand.text part.1 ∧ part.2.Meets demand digest inner)

def Reading.targets (value : Value) : Reading → List Value
  | .part asked => asked.targets value
  | .optional name parts =>
      (value.attribute? name).toList.flatMap fun inner => parts.flatMap fun part => part.2.targets inner

def Form.Meets (value : Value) : Form → Prop
  | .constant text => demand.text text
  | .mapping readings => ∀ reading ∈ readings,
      demand.text reading.1 ∧ reading.2.Meets demand digest value

def Form.targets (value : Value) : Form → List Value
  | .constant _ => []
  | .mapping readings => readings.flatMap fun reading => reading.2.targets value

variable {demand digest} {publish : Value → Except Failure Value} {value : Value}

end Forms

/-! ## Values -/

/-- The text that is published for a value, if it is one. -/
def Value.asText : Value → Option String
  | .text content => some content
  | .object kind _ _ =>
      match formOf kind with
      | some (.constant fixed) => some fixed
      | _ => none
  | _ => none

/-- What a mapping publishes under a key: the value of an item, or a digest that replaces a source. -/
inductive Slot where
  | item (value : Value)
  | digest (content : String)

def Slot.asText : Slot → Option String
  | .item value => value.asText
  | .digest content => some content

/-- The keys that stay in a mapping, and the digests of the sources that leave it. -/
def slots (digest : String → String) (entries : List (String × Value)) : Dictionary String Slot :=
  sourceFields.foldl (retire Slot.asText fun source => .digest (digest source))
    (Dictionary.ofItems (entries.map fun entry => (entry.1, .item entry.2)))

def Slot.Meets (demand : Demand) : Slot → Prop
  | .item _ => True
  | .digest content => demand.text content

def Slot.value? : Slot → Option Value
  | .item value => some value
  | .digest _ => none

/-- The value is of a kind that is published with its parts and has them, or meets the demand as it
is; and so do the names and digests that are published. -/
def Value.Meets (demand : Demand) (digest : String → String) (value : Value) : Prop :=
  match value with
  | .object kind fields _ =>
      match formOf kind with
      | some form => form.Meets demand digest value
      | none =>
          match fields with
          | some names => ∀ name ∈ names,
              demand.text name ∧ ∃ inner, value.attribute? name = some inner
          | none => demand.result value
  | .mapping .dict entries => ∀ slot ∈ (slots digest entries).entries,
      demand.text slot.1 ∧ slot.2.Meets demand
  | .sequence .other _ => demand.result value
  | .sequence _ _ => True
  | _ => demand.result value

/-- The parts whose public values are asked for. -/
def Value.reached (value : Value) : List Value :=
  match value with
  | .object kind fields _ =>
      match formOf kind with
      | some form => form.targets value
      | none =>
          match fields with
          | some names => names.filterMap value.attribute?
          | none => []
  | .mapping .dict entries => entries.map Prod.snd
  | .sequence .other _ => []
  | .sequence _ items => items
  | _ => []

/-- The parts whose public values stay in that of the whole. -/
def Value.kept (digest : String → String) (value : Value) : List Value :=
  match value with
  | .mapping .dict entries => (slots digest entries).entries.filterMap fun slot => slot.2.value?
  | _ => value.reached

/-! ## Mappings -/

section Mappings

variable {demand : Demand} {digest : String → String} {publish : Value → Except Failure Value}

/-- Retiring a source takes up no value. -/
theorem mem_retire {ν : Type} {text? : ν → Option String} {ofDigest : String → ν}
    {result : Dictionary String ν} {name : String} {entry : String × ν}
    (member : entry ∈ (retire text? ofDigest result name).entries) :
    entry ∈ result.entries ∨ ∃ source, entry.2 = ofDigest source := by
  unfold retire at member
  split at member
  · next source _ =>
    rcases Dictionary.mem_set.1 member with rfl | ⟨-, before⟩
    · exact .inr ⟨source, rfl⟩
    · exact .inl (Dictionary.mem_eraseAll.1 before).2
  · exact .inl (Dictionary.mem_eraseAll.1 member).2

variable {entries : List (String × Value)}

/-- An item that stays in a mapping was one of its items. -/
theorem mem_slots {name : String} {value : Value}
    (member : (name, Slot.item value) ∈ (slots digest entries).entries) :
    (name, value) ∈ entries := by
  have retired : ∀ (names : List String) (result : Dictionary String Slot),
      (name, Slot.item value) ∈ (names.foldl (retire Slot.asText fun source =>
        .digest (digest source)) result).entries → (name, Slot.item value) ∈ result.entries := by
    intro names
    induction names with
    | nil => exact fun _ => id
    | cons first rest follows =>
      intro result inside
      rcases mem_retire (follows _ inside) with before | ⟨source, same⟩
      · exact before
      · cases same
  obtain ⟨entry, among, same⟩ :=
    List.mem_map.1 (Dictionary.mem_of_mem_ofItems (retired sourceFields _ member))
  cases same
  exact among

/-- The public value of a value that has one. -/
def outcome (publish : Value → Except Failure Value) (value : Value) : Value :=
  match publish value with
  | .ok result => result
  | .error _ => .scalar .none

def Slot.outcome (publish : Value → Except Failure Value) : Slot → Value
  | .item value => Privacy.outcome publish value
  | .digest content => .text content

end Mappings

end OnecRuntime.Privacy
