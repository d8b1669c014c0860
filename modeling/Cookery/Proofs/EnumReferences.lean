import Cookery.Proofs.Places
import Cookery.Proofs.TypeSpelling
import Cookery.Proofs.TypeText

/-!
# References to enums

The identifier of an enum is spelled in many places: in the record of the enum, in every type over
it, and in every literal of such a type, once for the member and once for the type of the items of a
list. No place is copied from another. This file shows that they agree, so that whatever a record
refers to is generated under the name it is referred to by.

## Literals over an enum

`EnumRecord.Spells` builds the literals of the types over an enum out of the record of the enum
alone: the literal of a member is the one that stands in the record, and around lists of literals
stands what the language writes there. It never spells a name itself. That the binding gives exactly
these texts is `EnumRecord.Represents.mapValue_iff`.
-/

namespace Cookery

/-! ## Literals made of members -/

namespace EnumRecord

/-- The literals of the types over an enum, and their texts. -/
def Spells (e : EnumRecord) (s : SequenceStyle) : BaseType → Literal → String → Prop
  | .enumRef name, v, text => name = e.name ∧
      ∃ m ∈ e.members, v = .string m.value ∧ text = m.literal
  | .array item, v, text => ∃ items texts, v = .list items ∧
      List.Forall₂ (e.Spells s item) items texts ∧ text = s.literal (s.baseOver e.ident item) texts
  | .primitive _, _, _ => False
  | .flag, _, _ => False

/-- The record stands for an enum wherever the binding refers to it: member by member, in literals
of all types over it, and in those types. -/
structure Represents (b : Binding) (cb : Cookbook) (s : SequenceStyle) (d : EnumDef)
    (e : EnumRecord) : Prop where
  name_eq : e.name = d.name
  members : List.Forall₂ (fun v m ↦ m.value = v ∧
      b.mapValue cb (.enumRef d.name) (.string v) = .ok m.literal ∧
        m.literal = e.ident ++ "." ++ m.ident) d.values e.members
  values_nodup : d.values.Nodup
  literals_nodup : (e.members.map (·.literal)).Nodup
  mapValue_iff : ∀ t, t.enumName? = some d.name → ∀ v text,
    b.mapValue cb t v = .ok text ↔ e.Spells s t.erase.base v text
  mapType_eq : ∀ t, t.enumName? = some d.name → ∀ form, b.mapType t form = s.typeOver e.ident t form

end EnumRecord

/-! ## Names of enums in types -/

/-- A vararg is over the same enum as the array it stands for. -/
theorem ParamType.enumName?_erase (t : ParamType) : t.erase.base.enumName? = t.enumName? := by
  obtain ⟨base, vararg⟩ := t
  cases vararg <;> rfl

theorem BaseType.IsItem.exists_enum {cb : Cookbook} {base : BaseType} (h : base.IsItem cb)
    {name : String} (hname : base.enumName? = some name) : ∃ d ∈ cb.enums, d.name = name := by
  induction h with
  | primitive p => exact nomatch hname
  | @enumRef d hd => exact ⟨d, hd, Option.some.inj hname⟩
  | array _ ih => exact ih hname

/-- A type that can be read is over a declared enum, if it is over one. -/
theorem ParamType.exists_enum_of_parse? {cb : Cookbook} {type name : String} {t : ParamType}
    (h : ParamType.parse? cb type = some t) (ht : t.enumName? = some name) :
    ∃ d ∈ cb.enums, d.name = name := by
  rcases declaredIn_of_parse? h with hflag | hitem
  · rw [ParamType.enumName?, hflag] at ht
    exact nomatch ht
  · exact hitem.exists_enum ht

/-! ## What the walk over literals does

The walk is inverted here at the two kinds of types that occur over an enum. -/

namespace Spelling

variable {b : Spelling} {cb : Cookbook} {v : Literal} {text : String}

theorem spellBaseValue_enumRef_eq_ok_iff {name : String} {d : EnumDef}
    (hfound : cb.findEnum? name = some d) :
    b.spellBaseValue cb (.enumRef name) v = .ok text ↔
      ∃ value ∈ d.values, v = .string value ∧
        text = b.spell (.enumMember (b.mapIdentifier name) (b.mapEnumMember value)) := by
  cases v with
  | string value =>
    rw [spellBaseValue, hfound]
    dsimp only
    by_cases hvalue : d.contains value
    · rw [if_pos hvalue]
      constructor
      · intro h
        exact ⟨value, EnumDef.contains_iff.mp hvalue, rfl, (Except.ok.inj h).symm⟩
      · rintro ⟨_, -, heq, rfl⟩
        rw [Literal.string.inj heq]
    · rw [if_neg hvalue]
      constructor
      · intro h
        cases h
      · rintro ⟨_, hlisted, heq, -⟩
        rw [← Literal.string.inj heq] at hlisted
        exact absurd (EnumDef.contains_iff.mpr hlisted) hvalue
  | _ =>
    constructor
    · intro h
      cases h
    · rintro ⟨_, _, h, -⟩
      cases h

theorem spellBaseValue_array_eq_ok_iff {item : BaseType} :
    b.spellBaseValue cb (.array item) v = .ok text ↔
      ∃ items texts, v = .list items ∧
        List.Forall₂ (fun v text ↦ b.spellBaseValue cb item v = .ok text) items texts ∧
          text = b.spell (.array ⟨item, false⟩ texts) := by
  cases v with
  | list items =>
    rw [spellBaseValue, bind_eq_ok_iff]
    constructor
    · rintro ⟨texts, htexts, h⟩
      exact ⟨items, texts, rfl, mapM_eq_ok_iff.mp htexts, (Except.ok.inj h).symm⟩
    · rintro ⟨_, texts, heq, htexts, rfl⟩
      rw [← Literal.list.inj heq] at htexts
      exact ⟨texts, mapM_eq_ok_iff.mpr htexts, rfl⟩
  | _ =>
    constructor
    · intro h
      cases h
    · rintro ⟨_, _, h, -⟩
      cases h

/-- A vararg is spelled like an array. -/
theorem spellValue_eq_ok_iff {t : ParamType} :
    b.spellValue cb t v = .ok text ↔ b.spellBaseValue cb t.erase.base v = .ok text := by
  obtain ⟨base, vararg⟩ := t
  cases vararg with
  | false => exact Iff.rfl
  | true =>
    cases v with
    | list items => exact Iff.rfl
    | _ => constructor <;> intro h <;> cases h

end Spelling

/-! ## The record of an enum -/

section Enum

variable {b : Binding} {cb : Cookbook} {s : SequenceStyle} {d : EnumDef} {e : EnumRecord}

/-- The literal of a member is made of the identifiers in the record. -/
theorem memberRecord_literal (hs : b.Follows s) (hfound : cb.findEnum? d.name = some d)
    {value : String} {m : MemberRecord} (h : memberRecord b cb d.name value = .ok m) :
    m.literal = b.mapIdentifier d.name ++ "." ++ m.ident := by
  obtain ⟨hliteral, -, hident⟩ := memberRecord_eq_ok_iff.mp h
  rw [hs.standard] at hliteral
  obtain ⟨value', -, hvalue, hspell⟩ :=
    (Spelling.spellBaseValue_enumRef_eq_ok_iff hfound).mp hliteral
  rw [hspell, hs.spell_enumMember, hident, Literal.string.inj hvalue]

/-- The walk spells a literal over the enum by taking the literals of members from the record. -/
theorem spellBaseValue_eq_ok_iff_spells (hs : b.Follows s)
    (hfound : cb.findEnum? d.name = some d) (he : enumRecord b cb d = .ok e) {base : BaseType}
    (hbase : base.enumName? = some d.name) {v : Literal} {text : String} :
    b.toSpelling.spellBaseValue cb base v = .ok text ↔ e.Spells s base v text := by
  obtain ⟨hmembers, -, -, hname, hident⟩ := enumRecord_eq_ok_iff.mp he
  -- At the enum itself both sides look up one member. At an array both go through the items, and
  -- the text around them is the same because the type of the items is written the same.
  induction base generalizing v text with
  | primitive p => exact nomatch hbase
  | flag => exact nomatch hbase
  | enumRef other =>
    obtain rfl : other = d.name := Option.some.inj hbase
    constructor
    · intro h
      obtain ⟨value, hvalue, rfl, -⟩ := (Spelling.spellBaseValue_enumRef_eq_ok_iff hfound).mp h
      obtain ⟨m, hm, hrecord⟩ := (exists_mem_of_forall₂ hmembers).1 value hvalue
      obtain ⟨hliteral, rfl, -⟩ := memberRecord_eq_ok_iff.mp hrecord
      rw [hs.standard] at hliteral
      exact ⟨hname.symm, m, hm, rfl, Except.ok.inj (h.symm.trans hliteral)⟩
    · rintro ⟨-, m, hm, rfl, rfl⟩
      obtain ⟨value, -, hrecord⟩ := (exists_mem_of_forall₂ hmembers).2 m hm
      obtain ⟨hliteral, rfl, -⟩ := memberRecord_eq_ok_iff.mp hrecord
      rw [hs.standard] at hliteral
      exact hliteral
  | array item ih =>
    change item.enumName? = some d.name at hbase
    have hitem : b.mapType ⟨item, false⟩ true = s.baseOver e.ident item := by
      rw [hident]
      exact hs.mapType_base_eq hbase true
    rw [Spelling.spellBaseValue_array_eq_ok_iff]
    refine exists_congr fun items ↦ exists_congr fun texts ↦ and_congr_right fun _ ↦ and_congr ?_ ?_
    · exact ⟨.imp fun _ _ ↦ (ih hbase).mp, .imp fun _ _ ↦ (ih hbase).mpr⟩
    · rw [hs.spell_array, hitem]

theorem represents_of_enumRecord (hs : b.Follows s) (hvalid : ∀ rule : Rule, rule.Holds cb)
    (hd : d ∈ cb.enums) (he : enumRecord b cb d = .ok e) : e.Represents b cb s d := by
  have hnames : Rule.uniqueEnumNames.Holds cb := hvalid _
  have hvalues : Rule.enumValues.Holds cb := hvalid _
  have hfound : cb.findEnum? d.name = some d := (find?_name_eq_some_iff hnames).mpr ⟨hd, rfl⟩
  obtain ⟨hmembers, hidents, -, hname, hident⟩ := enumRecord_eq_ok_iff.mp he
  have hliteral {v : String} {m : MemberRecord} (hm : memberRecord b cb d.name v = .ok m) :
      m.literal = e.ident ++ "." ++ m.ident := by
    rw [hident]
    exact memberRecord_literal hs hfound hm
  refine ⟨hname, hmembers.imp fun v m hm ↦ ?_, (hvalues d hd).2, ?_, fun t ht v text ↦ ?_,
    fun t ht form ↦ ?_⟩
  · obtain ⟨hspelled, hvalue, -⟩ := memberRecord_eq_ok_iff.mp hm
    exact ⟨hvalue, hspelled, hliteral hm⟩
  · -- All literals begin with the identifier of the enum, so they differ as the members do.
    have hmap : e.members.map (·.literal)
        = (e.members.map (·.ident)).map (e.ident ++ "." ++ ·) := by
      rw [List.map_map]
      refine List.map_congr_left fun m hm ↦ ?_
      obtain ⟨v, -, hrecord⟩ := (exists_mem_of_forall₂ hmembers).2 m hm
      exact hliteral hrecord
    rw [hmap]
    exact hidents.map fun x y hxy ↦ (String.append_right_inj _).mp hxy
  · rw [hs.standard, Spelling.spellValue_eq_ok_iff]
    exact spellBaseValue_eq_ok_iff_spells hs hfound he (t.enumName?_erase.trans ht)
  · rw [hident]
    exact hs.mapType_eq ht form

end Enum

/-! ## The records of ingredients -/

/-- Whatever the record of an ingredient says about an enum, it says through a record of that enum:
the text of a type over the enum is written around its identifier, and the text of a default is made
of its members. -/
structure IngredientRecord.RefersTo (cb : Cookbook) (s : SequenceStyle) (i : Ingredient)
    (records : List ArtifactRecord) (r : IngredientRecord) : Prop where
  types : ∀ owner name text, r.TypeAt owner name text → ∃ type t,
    i.Declares owner name type ∧ ParamType.parse? cb type = some t ∧
      ∀ enumName, t.enumName? = some enumName → ∃ e form, .enum e ∈ records ∧ e.name = enumName ∧
        text = s.typeOver e.ident t form
  defaults : ∀ name text, r.DefaultAt name text → ∃ q ∈ i.required, ∃ v t,
    q.name = name ∧ q.default = some v ∧ ParamType.parse? cb q.type = some t ∧
      ∀ enumName, t.enumName? = some enumName → ∃ e, .enum e ∈ records ∧ e.name = enumName ∧
        e.Spells s t.erase.base v text

/-- **No reference dangles.** For a valid cookbook and a binding that comes with the tool, every
enum has exactly one record. That record represents the enum: its members carry the literals of the
values, each made of the identifiers of enum and member, different values have different literals,
and all literals and types over the enum are made of the record. And the records of ingredients
refer to enums in no other way. -/
theorem enum_references_resolve (b : Binding) (hb : b ∈ BindingSet.builtin.bindings)
    (cb : Cookbook) (hvalid : cb.validate = .ok ()) (records : List ArtifactRecord)
    (h : generate b cb = .ok records) :
    ∃ s, (b, s) ∈ builtinStyles ∧
      (∀ d ∈ cb.enums, ∃ e, .enum e ∈ records ∧ e.Represents b cb s d ∧
        ∀ e', .enum e' ∈ records → e'.name = d.name → e' = e) ∧
      ∀ r, .ingredient r ∈ records → ∃ i ∈ cb.ingredients, r.name = i.name ∧
        r.RefersTo cb s i records := by
  have hrules := Rule.holds_of_validate hvalid
  obtain ⟨s, hs⟩ := Binding.exists_mem_builtinStyles hb
  have hfollows := Binding.follows_of_mem_builtinStyles hs
  -- Every declared name of an enum has a record that represents it.
  have hrecord (enumName : String) (hdeclared : ∃ d ∈ cb.enums, d.name = enumName) :
      ∃ e d, .enum e ∈ records ∧ d.name = enumName ∧ e.Represents b cb s d := by
    obtain ⟨d, hd, hname⟩ := hdeclared
    obtain ⟨e, he, hde⟩ := (mem_generate_enum h).1 d hd
    exact ⟨e, d, he, hname, represents_of_enumRecord hfollows hrules hd hde⟩
  refine ⟨s, hs, fun d hd ↦ ?_, fun r hr ↦ ?_⟩
  · obtain ⟨e, he, hde⟩ := (mem_generate_enum h).1 d hd
    refine ⟨e, he, represents_of_enumRecord hfollows hrules hd hde, fun e' he' hname ↦ ?_⟩
    obtain ⟨d', hd', hde'⟩ := (mem_generate_enum h).2 e' he'
    obtain ⟨-, -, -, hname', -⟩ := enumRecord_eq_ok_iff.mp hde'
    obtain rfl : d' = d :=
      List.inj_on_of_nodup_map (hrules .uniqueEnumNames) hd' hd (hname'.symm.trans hname)
    exact Except.ok.inj (hde'.symm.trans hde)
  · obtain ⟨i, hi, hir⟩ := (mem_generate_ingredient h).2 r hr
    obtain ⟨fields, parts, hbuilt⟩ := exists_builtFrom_of_ingredientRecord hir
    refine ⟨i, hi, hbuilt.name_eq, fun owner name text hat ↦ ?_, fun name text hat ↦ ?_⟩
    · obtain ⟨type, t, form, hdeclares, ht, rfl⟩ := hbuilt.spellsAt_of_typeAt hat
      refine ⟨type, t, hdeclares, ht, fun enumName hover ↦ ?_⟩
      obtain ⟨e, d, he, rfl, hrepresents⟩ := hrecord _ (ParamType.exists_enum_of_parse? ht hover)
      exact ⟨e, form, he, hrepresents.name_eq, hrepresents.mapType_eq t hover form⟩
    · obtain ⟨q, hq, v, t, hname, hv, ht, hspelled⟩ := hbuilt.spellsDefaultAt_of_defaultAt hat
      refine ⟨q, hq, v, t, hname, hv, ht, fun enumName hover ↦ ?_⟩
      obtain ⟨e, d, he, rfl, hrepresents⟩ := hrecord _ (ParamType.exists_enum_of_parse? ht hover)
      exact ⟨e, he, hrepresents.name_eq, (hrepresents.mapValue_iff t hover v text).mp hspelled⟩

/-- An enum whose name has to be escaped, below two levels of lists, in a default, in a group and in
an optional field. -/
theorem enum_references_resolve_escaped :
    let cake : Ingredient := {
      name := "Cake"
      required := [⟨"layers", "class[]...", some (.list [.list [.string "extra-large"], .list []])⟩]
      initializers := [⟨["layers"]⟩, ⟨[]⟩]
      optionals := [.simple "top" "class" true, .compound "fill" [⟨"cream", "class[]"⟩] false] }
    let cb : Cookbook := { ingredients := [cake], enums := [⟨"class", ["small", "extra-large"]⟩] }
    cb.validate = .ok () ∧ ∃ records s, generate .kotlin cb = .ok records ∧
      (.kotlin, s) ∈ builtinStyles ∧
      (∀ d ∈ cb.enums, ∃ e, .enum e ∈ records ∧ e.Represents .kotlin cb s d ∧
        ∀ e', .enum e' ∈ records → e'.name = d.name → e' = e) ∧
      ∀ r, .ingredient r ∈ records → ∃ i ∈ cb.ingredients, r.name = i.name ∧
        r.RefersTo cb s i records := by
  intro cake cb
  have hb : Binding.kotlin ∈ BindingSet.builtin.bindings :=
    List.mem_cons_of_mem _ List.mem_cons_self
  obtain ⟨s, hs, h⟩ := enum_references_resolve .kotlin hb cb rfl _ rfl
  exact ⟨rfl, _, s, rfl, hs, h⟩

end Cookery
