import OnecRuntime.Privacy.PublicLaw

/-!
# When evidence tells no source

The body of the redaction meets a demand where the parts do that it publishes, so the public value
of a whole graph does where each part that stays meets the demand by itself, and each part that is
asked for has a public value.
-/

namespace OnecRuntime.Privacy

open OnecRuntime.Library

variable {demand : Demand} {digest : String → String} {publish : Value → Except Failure Value}
  {value : Value}

section Same

variable {first second : Value → Except Failure Value}

end Same

/-- The redaction asks for the public value of the part. -/
def Reaches : Value → Value → Prop := Relation.ReflTransGen fun whole part => part ∈ whole.reached

/-- The public value of the part stays in that of the whole. -/
def Keeps (digest : String → String) : Value → Value → Prop :=
  Relation.ReflTransGen fun whole part => part ∈ whole.kept digest

variable {target : Value}

theorem reached_of_kept (kept : target ∈ value.kept digest) :
    target ∈ value.reached := by
  unfold Value.kept at kept
  split at kept
  · next entries =>
    obtain ⟨⟨name, slot⟩, member, held⟩ := List.mem_filterMap.1 kept
    cases slot with
    | item inner =>
      obtain rfl := Option.some.inj held
      exact List.mem_map.2 ⟨_, mem_slots member, rfl⟩
    | digest content => cases held
  · exact kept

theorem Keeps.reaches {part : Value} (keeps : Keeps digest value part) : Reaches value part :=
  Relation.ReflTransGen.mono (fun _ _ => reached_of_kept) _ _ keeps

/-- A `MappedSource`, which is no dataclass. -/
def mappedSource (content : String) : Value := .object "MappedSource" none [("text", .text content)]

end OnecRuntime.Privacy
