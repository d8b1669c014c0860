import Cookery.Proofs.JsonReadBack
import Cookery.Proofs.Paths

/-!
# The text of a record

A record is written as JSON, with its kind as the first field, and with fields left out for what is
missing. Nothing is lost on the way. The text can be read as JSON again, because records hold no
numbers and nest six levels at most; and the JSON has every field of the record under a name of its
own, or, for what may be missing, has no field of that name. So a file determines the record that it
was rendered from.
-/

namespace Cookery

open Json

/-! ## Records without numbers -/

@[simp] theorem ConstantRecord.textual_toJson (r : ConstantRecord) (k : Nat) :
    Textual (k + 2) r.toJson := by
  simp [toJson]

@[simp] theorem ParamRecord.textual_toJson (r : ParamRecord) (k : Nat) :
    Textual (k + 2) r.toJson := by
  simp [toJson]

@[simp] theorem AssignmentRecord.textual_toJson (r : AssignmentRecord) (k : Nat) :
    Textual (k + 2) r.toJson := by
  simp [toJson]

@[simp] theorem AccessorRecord.textual_toJson (r : AccessorRecord) (k : Nat) :
    Textual (k + 2) r.toJson := by
  simp [toJson]

@[simp] theorem MemberRecord.textual_toJson (r : MemberRecord) (k : Nat) :
    Textual (k + 2) r.toJson := by
  simp [toJson]

@[simp] theorem FieldRecord.textual_toJson (r : FieldRecord) (k : Nat) :
    Textual (k + 2) r.toJson := by
  rw [toJson, textual_obj_iff, List.forall_mem_append]
  exact ⟨by simp, fun f ↦ textual_of_mem_field?⟩

@[simp] theorem InitializerRecord.textual_toJson (r : InitializerRecord) (k : Nat) :
    Textual (k + 4) r.toJson := by
  simp [toJson]

@[simp] theorem OptionalRecord.textual_toJson (r : OptionalRecord) (k : Nat) :
    Textual (k + 4) r.toJson := by
  rw [toJson, textual_obj_iff, List.forall_mem_append]
  exact ⟨by simp, fun f ↦ textual_of_mem_field?⟩

@[simp] theorem CompoundRecord.textual_toJson (r : CompoundRecord) (k : Nat) :
    Textual (k + 4) r.toJson := by
  simp [toJson]

/-- No record nests deeper than the reader goes. -/
theorem ArtifactRecord.textual_toJson (r : ArtifactRecord) (k : Nat) :
    Textual (k + 6) r.toJson := by
  cases r <;> simp [toJson, strings]

/-! ## Records from their JSON -/

/-- That a field is left out is seen, since no value is written like a missing one. -/
@[simp] theorem Json.field?_map_str_inj {key : String} {o o' : Option String} :
    field? key (o.map .str) = field? key (o'.map .str) ↔ o = o' := by
  cases o <;> cases o' <;> simp [field?]

@[simp] theorem ConstantRecord.toJson_inj {r s : ConstantRecord} :
    r.toJson = s.toJson ↔ r = s := by
  cases r
  cases s
  simp [toJson]

@[simp] theorem ParamRecord.toJson_inj {r s : ParamRecord} :
    r.toJson = s.toJson ↔ r = s := by
  cases r
  cases s
  simp [toJson]

@[simp] theorem AssignmentRecord.toJson_inj {r s : AssignmentRecord} :
    r.toJson = s.toJson ↔ r = s := by
  cases r
  cases s
  simp [toJson]

@[simp] theorem AccessorRecord.toJson_inj {r s : AccessorRecord} :
    r.toJson = s.toJson ↔ r = s := by
  cases r
  cases s
  simp [toJson]

@[simp] theorem MemberRecord.toJson_inj {r s : MemberRecord} :
    r.toJson = s.toJson ↔ r = s := by
  cases r
  cases s
  simp [toJson]

@[simp] theorem FieldRecord.toJson_inj {r s : FieldRecord} :
    r.toJson = s.toJson ↔ r = s := by
  cases r
  cases s
  simp [toJson]

@[simp] theorem InitializerRecord.toJson_inj {r s : InitializerRecord} :
    r.toJson = s.toJson ↔ r = s := by
  cases r
  cases s
  simp [toJson, List.map_inj_right]

@[simp] theorem OptionalRecord.toJson_inj {r s : OptionalRecord} :
    r.toJson = s.toJson ↔ r = s := by
  cases r
  cases s
  simp [toJson, List.map_inj_right]

@[simp] theorem CompoundRecord.toJson_inj {r s : CompoundRecord} :
    r.toJson = s.toJson ↔ r = s := by
  cases r
  cases s
  simp [toJson, List.map_inj_right]

/-- Records of different kinds differ in their first field, and records of one kind in that of the
others in which they differ. -/
theorem ArtifactRecord.toJson_inj {r s : ArtifactRecord} : r.toJson = s.toJson ↔ r = s := by
  rcases r with ⟨⟨⟩⟩ | ⟨⟨⟩⟩ | ⟨⟨⟩⟩ <;> rcases s with ⟨⟨⟩⟩ | ⟨⟨⟩⟩ | ⟨⟨⟩⟩ <;>
    simp [toJson, RecordKind.text, strings, List.map_inj_right]

/-! ## Rendered files -/

namespace ArtifactRecord

theorem contents_of_render {r : ArtifactRecord} {f : RenderedFile} (h : r.render = .ok f) :
    f.contents = r.toJson.pretty ++ "\n" := by
  obtain ⟨p, -, h⟩ := bind_eq_ok_iff.mp h
  rw [← Except.ok.inj h]

/-- What is in the file of a record is the record as JSON. -/
theorem parse?_contents {r : ArtifactRecord} {f : RenderedFile} (h : r.render = .ok f) :
    Json.parse? f.contents = some r.toJson := by
  rw [contents_of_render h]
  exact (r.textual_toJson 122).parse?_pretty

/-- **A rendered file determines its record.** Two records that are rendered have files with the
same contents only if they are the same record: of one kind, alike in every field, and with defaults
and group types missing in the same places. -/
theorem contents_eq_iff_eq {r₁ r₂ : ArtifactRecord} {f₁ f₂ : RenderedFile}
    (h₁ : r₁.render = .ok f₁) (h₂ : r₂.render = .ok f₂) :
    f₁.contents = f₂.contents ↔ r₁ = r₂ := by
  constructor
  · intro hcontents
    have hread : some r₁.toJson = some r₂.toJson := by
      rw [← parse?_contents h₁, ← parse?_contents h₂, hcontents]
    exact toJson_inj.mp (Option.some.inj hread)
  · rintro rfl
    rw [contents_of_render h₁, contents_of_render h₂]

/-- An ingredient with one field, which has the given default. -/
def seasoning (default : Option String) : ArtifactRecord :=
  .ingredient {
    binding := "java"
    name := "Seasoning"
    ident := "Seasoning"
    keyed := false
    keyConstants := []
    required := [⟨"salt", "salt", "String", "string", default⟩]
    initializers := [⟨[⟨"salt", "salt", "String", false⟩], [], "(string)"⟩]
    optionals := []
    compounds := []
    accessors := [⟨"salt", "getSalt", "String", false⟩] }

/-- A missing default is not the empty default. -/
theorem contents_eq_iff_eq_seasoning :
    ∃ f₁ f₂, (seasoning none).render = .ok f₁ ∧ (seasoning (some "")).render = .ok f₂ ∧
      f₁.path = f₂.path ∧ f₁.contents ≠ f₂.contents := by
  refine ⟨_, _, rfl, rfl, rfl, fun hcontents ↦ ?_⟩
  have hsame : seasoning none = seasoning (some "") := (contents_eq_iff_eq rfl rfl).mp hcontents
  exact absurd hsame (by decide)

end ArtifactRecord

end Cookery
