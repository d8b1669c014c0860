import Cookery.Proofs.Validity

/-!
# Types and their texts

Reading a type and writing it are inverse to each other. One direction needs nothing: whatever can
be read was written in the only way there is, in any cookbook. The other direction needs names of
enums that cannot be mistaken for something else: a name that ends in `[]` or `...` would lose its
end to the marks, and a name that is a keyword would be read as the keyword. The rule on enum names
excludes both, and the texts that can then be read are those of the grammar

    Base ("[]")* "..."?

## Reading from the right

The reader works on the reversed text and takes marks off its front. Two facts about that suffice.
Putting the marks back gives the text, whatever has been read; and if the word below the marks does
not itself end like a mark, the reader takes off exactly the marks that were put on.
-/

namespace Cookery

/-! ## Marks and the grammar -/

/-- `depth` array marks. -/
def arrayMarks : Nat → String
  | 0 => ""
  | depth + 1 => arrayMarks depth ++ "[]"

/-- The vararg mark, if there is one. -/
def varargMark (vararg : Bool) : String :=
  if vararg then "..." else ""

/-- The texts of types: a keyword or the name of a declared enum, then array marks, then possibly
the vararg mark. There is no array of flags. -/
def IsTypeText (cb : Cookbook) (s : String) : Prop :=
  ∃ word depth vararg, (word ∈ builtinKeywords ∨ ∃ d ∈ cb.enums, d.name = word) ∧
    (word = "flag" → depth = 0) ∧ s = word ++ arrayMarks depth ++ varargMark vararg

/-- What may stand under arrays: a primitive, or an enum of the cookbook. -/
inductive BaseType.IsItem (cb : Cookbook) : BaseType → Prop
  | primitive (p : Primitive) : IsItem cb (.primitive p)
  | enumRef {d : EnumDef} (declared : d ∈ cb.enums) : IsItem cb (.enumRef d.name)
  | array {item : BaseType} (h : IsItem cb item) : IsItem cb (.array item)

/-- The types of a cookbook: a flag, or any number of arrays over a primitive or a declared enum,
with or without vararg mark. -/
def ParamType.DeclaredIn (cb : Cookbook) (t : ParamType) : Prop :=
  t.base = .flag ∨ t.base.IsItem cb

/-! ## Writing -/

theorem BaseType.render_nest (base : BaseType) (depth : Nat) :
    (base.nest depth).render = base.render ++ arrayMarks depth := by
  induction depth with
  | zero => rw [nest, arrayMarks, String.append_empty]
  | succ depth ih => rw [nest, render, ih, arrayMarks, String.append_assoc]

theorem ParamType.render_eq (t : ParamType) : t.render = t.base.render ++ varargMark t.vararg := by
  rw [ParamType.render, varargMark]
  cases t.vararg with
  | false => exact String.append_empty.symm
  | true => rfl

/-! ## Marks in reverse -/

theorem reverse_arrayMarks_succ (depth : Nat) :
    (arrayMarks (depth + 1)).toList.reverse
      = ']' :: '[' :: (arrayMarks depth).toList.reverse := by
  rw [arrayMarks, String.toList_append, List.reverse_append]
  rfl

theorem reverse_varargMark_true : (varargMark true).toList.reverse = ['.', '.', '.'] := by
  decide

/-- What the reader took for array marks can be put back. -/
theorem append_peelArrays (cs : List Char) :
    (arrayMarks (peelArrays cs).1).toList.reverse ++ (peelArrays cs).2 = cs := by
  fun_induction peelArrays cs with
  | case1 cs ih =>
    rw [reverse_arrayMarks_succ, List.cons_append, List.cons_append, ih]
  | case2 cs _ => rfl

theorem append_peelVararg (cs : List Char) :
    (varargMark (peelVararg cs).1).toList.reverse ++ (peelVararg cs).2 = cs := by
  fun_cases peelVararg cs with
  | case1 cs =>
    rw [reverse_varargMark_true]
    rfl
  | case2 cs _ => rfl

/-- The reader takes off all array marks, and stops at a word that does not end in one. -/
theorem peelArrays_append (depth : Nat) {word : List Char} (h : word.head? ≠ some ']') :
    peelArrays ((arrayMarks depth).toList.reverse ++ word) = (depth, word) := by
  induction depth with
  | zero =>
    change peelArrays word = (0, word)
    rw [peelArrays]
    rintro cs rfl
    exact h rfl
  | succ depth ih =>
    rw [reverse_arrayMarks_succ, List.cons_append, List.cons_append, peelArrays, ih]

theorem peelVararg_append (vararg : Bool) {cs : List Char} (h : cs.head? ≠ some '.') :
    peelVararg ((varargMark vararg).toList.reverse ++ cs) = (vararg, cs) := by
  cases vararg with
  | true =>
    rw [reverse_varargMark_true]
    rfl
  | false =>
    change peelVararg cs = (false, cs)
    rw [peelVararg]
    rintro cs rfl
    exact h rfl

/-! ## Words -/

namespace Primitive

theorem ofKeyword?_eq_some_iff {word : String} {p : Primitive} :
    ofKeyword? word = some p ↔ word = p.keyword := by
  constructor
  · intro h
    unfold ofKeyword? at h
    split at h
    · rw [← Option.some.inj h, keyword]
    · rw [← Option.some.inj h, keyword]
    · rw [← Option.some.inj h, keyword]
    · rw [← Option.some.inj h, keyword]
    · exact nomatch h
  · rintro rfl
    cases p <;> rfl

theorem mem_builtinKeywords_iff {word : String} :
    word ∈ builtinKeywords ↔ (∃ p : Primitive, word = p.keyword) ∨ word = "flag" := by
  constructor
  · intro h
    simp only [builtinKeywords, List.mem_cons, List.not_mem_nil, or_false] at h
    rcases h with rfl | rfl | rfl | rfl | rfl
    · exact .inl ⟨boolean, rfl⟩
    · exact .inl ⟨int, rfl⟩
    · exact .inl ⟨float, rfl⟩
    · exact .inl ⟨string, rfl⟩
    · exact .inr rfl
  · rintro (⟨p, rfl⟩ | rfl)
    · cases p <;> decide
    · decide

theorem keyword_ne_flag (p : Primitive) : p.keyword ≠ "flag" := by
  cases p <;> decide

end Primitive

theorem Cookbook.findEnum?_isSome_iff {cb : Cookbook} {name : String} :
    (cb.findEnum? name).isSome = true ↔ ∃ d ∈ cb.enums, d.name = name := by
  rw [Cookbook.findEnum?, List.find?_isSome]
  exact exists_congr fun d ↦ and_congr_right fun _ ↦ beq_iff_eq

/-! ### What a word names -/

theorem BaseType.ofWord?_keyword (cb : Cookbook) (p : Primitive) (depth : Nat) :
    ofWord? cb p.keyword depth = some (.primitive p) := by
  rw [ofWord?, Primitive.ofKeyword?_eq_some_iff.mpr rfl]

theorem BaseType.ofWord?_flag (cb : Cookbook) (depth : Nat) :
    ofWord? cb "flag" depth = if depth = 0 then some .flag else none :=
  rfl

theorem BaseType.ofWord?_of_not_mem {cb : Cookbook} {word : String}
    (h : word ∉ builtinKeywords) (depth : Nat) :
    ofWord? cb word depth
      = if (cb.findEnum? word).isSome then some (.enumRef word) else none := by
  rw [Primitive.mem_builtinKeywords_iff, not_or] at h
  have hkey : Primitive.ofKeyword? word = none := by
    refine Option.eq_none_iff_forall_ne_some.mpr fun p hp ↦ h.1 ⟨p, ?_⟩
    exact Primitive.ofKeyword?_eq_some_iff.mp hp
  rw [ofWord?, hkey]
  exact if_neg h.2

/-- A word names a primitive, or outside arrays a flag, or else an enum. -/
theorem BaseType.ofWord?_eq_some_iff {cb : Cookbook} {word : String} {depth : Nat}
    {base : BaseType} :
    BaseType.ofWord? cb word depth = some base ↔
      (∃ p, word = Primitive.keyword p ∧ base = .primitive p) ∨
        (word = "flag" ∧ depth = 0 ∧ base = .flag) ∨
          (word ∉ builtinKeywords ∧ (∃ d ∈ cb.enums, d.name = word) ∧ base = .enumRef word) := by
  constructor
  · intro h
    by_cases hkey : word ∈ builtinKeywords
    · rcases Primitive.mem_builtinKeywords_iff.mp hkey with ⟨p, rfl⟩ | rfl
      · rw [ofWord?_keyword] at h
        exact .inl ⟨p, rfl, (Option.some.inj h).symm⟩
      · rw [ofWord?_flag] at h
        by_cases hdepth : depth = 0
        · rw [if_pos hdepth] at h
          exact .inr (.inl ⟨rfl, hdepth, (Option.some.inj h).symm⟩)
        · rw [if_neg hdepth] at h
          exact nomatch h
    · rw [ofWord?_of_not_mem hkey] at h
      by_cases hfound : (cb.findEnum? word).isSome
      · rw [if_pos hfound] at h
        have hdeclared := Cookbook.findEnum?_isSome_iff.mp hfound
        exact .inr (.inr ⟨hkey, hdeclared, (Option.some.inj h).symm⟩)
      · rw [if_neg hfound] at h
        exact nomatch h
  · rintro (⟨p, rfl, rfl⟩ | ⟨rfl, rfl, rfl⟩ | ⟨hnot, hdeclared, rfl⟩)
    · exact ofWord?_keyword cb p depth
    · exact ofWord?_flag cb 0
    · rw [ofWord?_of_not_mem hnot, if_pos (Cookbook.findEnum?_isSome_iff.mpr hdeclared)]

/-- The words that name something at a depth. -/
theorem BaseType.exists_ofWord?_iff {cb : Cookbook} {word : String} {depth : Nat} :
    (∃ base, BaseType.ofWord? cb word depth = some base) ↔
      (word ∈ builtinKeywords ∨ ∃ d ∈ cb.enums, d.name = word) ∧ (word = "flag" → depth = 0) := by
  constructor
  · rintro ⟨base, h⟩
    rcases ofWord?_eq_some_iff.mp h with ⟨p, hp, -⟩ | ⟨hflag, hdepth, -⟩ | ⟨hnot, hfound, -⟩
    · refine ⟨.inl (Primitive.mem_builtinKeywords_iff.mpr (.inl ⟨p, hp⟩)), fun hflag ↦ ?_⟩
      exact absurd (hp.symm.trans hflag) p.keyword_ne_flag
    · exact ⟨.inl (Primitive.mem_builtinKeywords_iff.mpr (.inr hflag)), fun _ ↦ hdepth⟩
    · refine ⟨.inr hfound, fun hflag ↦ ?_⟩
      exact absurd (Primitive.mem_builtinKeywords_iff.mpr (.inr hflag)) hnot
  · rintro ⟨hword, hdepth⟩
    by_cases hkey : word ∈ builtinKeywords
    · rcases Primitive.mem_builtinKeywords_iff.mp hkey with ⟨p, hp⟩ | hflag
      · exact ⟨_, ofWord?_eq_some_iff.mpr (.inl ⟨p, hp, rfl⟩)⟩
      · exact ⟨_, ofWord?_eq_some_iff.mpr (.inr (.inl ⟨hflag, hdepth hflag, rfl⟩))⟩
    · exact ⟨_, ofWord?_eq_some_iff.mpr (.inr (.inr ⟨hkey, hword.resolve_left hkey, rfl⟩))⟩

/-- A word names what it is written as. -/
theorem BaseType.render_of_ofWord? {cb : Cookbook} {word : String} {depth : Nat} {base : BaseType}
    (h : BaseType.ofWord? cb word depth = some base) : base.render = word := by
  rcases ofWord?_eq_some_iff.mp h with ⟨p, rfl, rfl⟩ | ⟨rfl, -, rfl⟩ | ⟨-, -, rfl⟩
  · rfl
  · rfl
  · rfl

/-! ### Words that do not end like a mark -/

/-- The word below the marks of a type can be told from the marks. -/
def EndsPlain (word : String) : Prop :=
  word.toList.getLast? ≠ some ']' ∧ word.toList.getLast? ≠ some '.'

theorem Primitive.endsPlain_keyword (p : Primitive) : EndsPlain p.keyword := by
  cases p <;> exact ⟨by decide, by decide⟩

theorem endsPlain_flag : EndsPlain "flag" :=
  ⟨by decide, by decide⟩

theorem IsIdentifier.isAlphanum_or_eq {name : String} (h : IsIdentifier name) :
    ∀ c ∈ name.toList, c.isAlphanum = true ∨ c = '_' := by
  obtain ⟨c, cs, hname, hc, hcs⟩ := h
  rw [hname]
  refine List.forall_mem_cons.mpr ⟨hc.imp_left fun hc ↦ ?_, hcs⟩
  rw [Char.isAlphanum, hc, Bool.true_or]

/-- Identifiers consist of letters, digits and underscores, and marks of none of these. -/
theorem IsIdentifier.endsPlain {name : String} (h : IsIdentifier name) : EndsPlain name := by
  constructor
  · intro hlast
    have hword := h.isAlphanum_or_eq _ (List.mem_of_getLast? hlast)
    exact absurd hword (by decide)
  · intro hlast
    have hword := h.isAlphanum_or_eq _ (List.mem_of_getLast? hlast)
    exact absurd hword (by decide)

/-- Under the rule on enum names, no word of a type ends like a mark. -/
theorem endsPlain_of_word {cb : Cookbook} (hnames : Rule.enumNameSyntax.Holds cb) {word : String}
    (h : word ∈ builtinKeywords ∨ ∃ d ∈ cb.enums, d.name = word) : EndsPlain word := by
  rcases h with hkey | ⟨d, hd, rfl⟩
  · rcases Primitive.mem_builtinKeywords_iff.mp hkey with ⟨p, rfl⟩ | rfl
    · exact p.endsPlain_keyword
    · exact endsPlain_flag
  · exact (hnames d hd).1.endsPlain

theorem BaseType.IsItem.nest {cb : Cookbook} {base : BaseType} (h : base.IsItem cb) (depth : Nat) :
    (base.nest depth).IsItem cb := by
  induction depth with
  | zero => exact h
  | succ depth ih => exact .array ih

/-- Below its arrays an item is a primitive or an enum, and the rule on enum names makes that core
the one thing its text names. -/
theorem BaseType.IsItem.exists_core {cb : Cookbook} (hnames : Rule.enumNameSyntax.Holds cb)
    {base : BaseType} (h : base.IsItem cb) :
    ∃ core depth, base = core.nest depth ∧
      ∀ depth, BaseType.ofWord? cb core.render depth = some core := by
  induction h with
  | primitive p =>
    exact ⟨.primitive p, 0, rfl, fun _ ↦ ofWord?_eq_some_iff.mpr (.inl ⟨p, rfl, rfl⟩)⟩
  | @enumRef d hd =>
    refine ⟨.enumRef d.name, 0, rfl, fun _ ↦ ofWord?_eq_some_iff.mpr (.inr (.inr ?_))⟩
    exact ⟨(hnames d hd).2, ⟨d, hd, rfl⟩, rfl⟩
  | array _ ih =>
    obtain ⟨core, depth, rfl, hcore⟩ := ih
    exact ⟨core, depth + 1, rfl, hcore⟩

/-! ## Reading -/

namespace ParamType

variable {cb : Cookbook}

/-- Whatever is read was a word with marks. -/
theorem exists_word_of_parse? {s : String} {t : ParamType} (h : parse? cb s = some t) :
    ∃ word depth base, s = word ++ arrayMarks depth ++ varargMark t.vararg ∧
      BaseType.ofWord? cb word depth = some base ∧ t.base = base.nest depth := by
  have hvararg := append_peelVararg s.toList.reverse
  rw [parse?] at h
  generalize peelVararg s.toList.reverse = peeled at h hvararg
  obtain ⟨vararg, cs⟩ := peeled
  dsimp only at h
  have harrays := append_peelArrays cs
  generalize peelArrays cs = peeled at h harrays
  obtain ⟨depth, word⟩ := peeled
  obtain ⟨base, hbase, rfl⟩ := Option.map_eq_some_iff.mp h
  refine ⟨_, depth, base, String.toList_inj.mp (List.reverse_injective ?_), hbase, rfl⟩
  rw [String.toList_append, String.toList_append, List.reverse_append, List.reverse_append,
    String.toList_ofList, List.reverse_reverse, harrays, hvararg]

/-- Whatever is read is a type of the cookbook. -/
theorem declaredIn_of_parse? {s : String} {t : ParamType} (h : parse? cb s = some t) :
    t.DeclaredIn cb := by
  obtain ⟨word, depth, base, -, hword, hnest⟩ := exists_word_of_parse? h
  rw [DeclaredIn, hnest]
  rcases BaseType.ofWord?_eq_some_iff.mp hword with ⟨p, -, rfl⟩ | ⟨-, rfl, rfl⟩ |
    ⟨-, ⟨d, hd, rfl⟩, rfl⟩
  · exact .inr ((BaseType.IsItem.primitive p).nest depth)
  · exact .inl rfl
  · exact .inr ((BaseType.IsItem.enumRef hd).nest depth)

/-- A word that does not end like a mark is what is left when the marks are taken off. -/
theorem parse?_marked {word : String} (hword : EndsPlain word) (depth : Nat) (vararg : Bool) :
    parse? cb (word ++ arrayMarks depth ++ varargMark vararg)
      = (BaseType.ofWord? cb word depth).map fun base ↦ ⟨base.nest depth, vararg⟩ := by
  have hhead : word.toList.reverse.head? ≠ some ']' := by
    rw [List.head?_reverse]
    exact hword.1
  -- The vararg mark goes first, and then the text ends in a bracket, or like the word.
  have hdot : ((arrayMarks depth).toList.reverse ++ word.toList.reverse).head? ≠ some '.' := by
    cases depth with
    | zero =>
      change word.toList.reverse.head? ≠ some '.'
      rw [List.head?_reverse]
      exact hword.2
    | succ depth =>
      rw [reverse_arrayMarks_succ, List.cons_append, List.head?_cons]
      decide
  rw [parse?, String.toList_append, String.toList_append, List.reverse_append,
    List.reverse_append, peelVararg_append vararg hdot]
  dsimp only
  rw [peelArrays_append depth hhead]
  dsimp only
  rw [List.reverse_reverse, String.ofList_toList]

/-- Writing undoes reading, in any cookbook. -/
theorem render_of_parse? {s : String} {t : ParamType} (h : parse? cb s = some t) :
    t.render = s := by
  obtain ⟨word, depth, base, rfl, hbase, ht⟩ := exists_word_of_parse? h
  rw [render_eq, ht, BaseType.render_nest, BaseType.render_of_ofWord? hbase]

/-- Reading undoes writing, on the types of a cookbook whose enum names are plain. -/
theorem parse?_render (hnames : Rule.enumNameSyntax.Holds cb) {t : ParamType}
    (h : t.DeclaredIn cb) : parse? cb t.render = some t := by
  have hcore : ∃ core depth, t.base = core.nest depth ∧
      BaseType.ofWord? cb core.render depth = some core := by
    rcases h with hflag | hitem
    · exact ⟨.flag, 0, hflag, BaseType.ofWord?_eq_some_iff.mpr (.inr (.inl ⟨rfl, rfl, rfl⟩))⟩
    · obtain ⟨core, depth, hbase, hcore⟩ := hitem.exists_core hnames
      exact ⟨core, depth, hbase, hcore depth⟩
  obtain ⟨core, depth, hbase, hcore⟩ := hcore
  have hplain := endsPlain_of_word hnames (BaseType.exists_ofWord?_iff.mp ⟨core, hcore⟩).1
  rw [render_eq, hbase, BaseType.render_nest, parse?_marked hplain, hcore, Option.map_some,
    ← hbase]

/-- What can be read is the grammar. -/
theorem exists_parse?_iff (hnames : Rule.enumNameSyntax.Holds cb) {s : String} :
    (∃ t, parse? cb s = some t) ↔ IsTypeText cb s := by
  constructor
  · rintro ⟨t, h⟩
    obtain ⟨word, depth, base, hs, hbase, -⟩ := exists_word_of_parse? h
    obtain ⟨hword, hdepth⟩ := BaseType.exists_ofWord?_iff.mp ⟨base, hbase⟩
    exact ⟨word, depth, t.vararg, hword, hdepth, hs⟩
  · rintro ⟨word, depth, vararg, hword, hdepth, rfl⟩
    obtain ⟨base, hbase⟩ := BaseType.exists_ofWord?_iff.mpr ⟨hword, hdepth⟩
    rw [parse?_marked (endsPlain_of_word hnames hword), hbase]
    exact ⟨_, rfl⟩

/-- **Types and their texts are inverse.** Whatever is read in a cookbook, valid or not, is written
as it was read. If moreover the cookbook passes the rule on enum names, then every type of the
cookbook is read back from its text, the texts that can be read are exactly those of the grammar,
and different types have different texts. -/
theorem parse_render_inverse (cb : Cookbook) :
    (∀ s t, parse? cb s = some t → t.render = s) ∧
      (Rule.enumNameSyntax.check cb = .ok () →
        (∀ t : ParamType, t.DeclaredIn cb → parse? cb t.render = some t) ∧
          (∀ s, (∃ t, parse? cb s = some t) ↔ IsTypeText cb s) ∧
          ∀ t u : ParamType, t.DeclaredIn cb → u.DeclaredIn cb → t.render = u.render → t = u) := by
  refine ⟨fun s t ↦ render_of_parse?, fun h ↦ ?_⟩
  have hnames : Rule.enumNameSyntax.Holds cb :=
    forM_eq_ok_iff.trans (forall₂_congr fun d _ ↦ EnumDef.checkName_eq_ok_iff) |>.mp h
  refine ⟨fun t ↦ parse?_render hnames, fun s ↦ exists_parse?_iff hnames, ?_⟩
  intro t u ht hu htext
  have hread : some t = some u := by
    rw [← parse?_render hnames ht, htext, parse?_render hnames hu]
  exact Option.some.inj hread

/-- A vararg of arrays of arrays of an enum, read back. -/
theorem parse_render_inverse_nested :
    Rule.enumNameSyntax.check { enums := [⟨"Size", ["small"]⟩] } = .ok () ∧
      parse? { enums := [⟨"Size", ["small"]⟩] } "Size[][]..."
        = some ⟨.array (.array (.enumRef "Size")), true⟩ :=
  ⟨rfl, ((parse_render_inverse { enums := [⟨"Size", ["small"]⟩] }).2 rfl).1
    ⟨.array (.array (.enumRef "Size")), true⟩
    (.inr (.array (.array (.enumRef (d := ⟨"Size", ["small"]⟩) (List.mem_singleton.mpr rfl)))))⟩

end ParamType

end Cookery
