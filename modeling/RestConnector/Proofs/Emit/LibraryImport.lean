import RestConnector.Proofs.Emit.Annotations
import RestConnector.Proofs.Json.Strings
import RestConnector.Proofs.Text.Infix

/-!
# The import from the model library

A record module has one import from the model library.  What types need of the library is known to the imports
that are computed from them (`importsFor`), which read them name by name; but a record module leaves these out
for the library, and looks for `AnyUrl` in the text of all types, put end to end.

So it finds the name wherever it is needed, and in two more places (`anyUrl_mem_libraryNames_iff`): inside the
name of a record type, such as `AnyUrls`, and where a type that ends in `Any` meets one that begins with `Url`
(`HasSeam`).  There is no other way in which types could make up the name between them, for they begin with a
capital or with one of a few small letters (`IsTypeText`).  `Field`, by contrast, is imported just where it is used
(`field_mem_libraryNames_iff`), whatever the keys are: no name and no type has a bracket in it that could be
read as a call.
-/

namespace RestConnector.Emit

open RestConnector.Json RestConnector.Name RestConnector.Schema RestConnector.Text

variable {model : Model} {property : Property} {optionalTypes : Bool}

/-! ## The text of types -/

/-- Whether a type can begin with a character. -/
def opensType (c : Char) : Bool :=
  c.isUpper || ['b', 'd', 'i', 's'].contains c

/-- Whether a character can stand in a type. -/
def isTypeChar (c : Char) : Bool :=
  isIdentifierChar c || ['[', ']', ',', ' '].contains c

/-- What the characters of a type are. -/
structure IsTypeText (type : String) : Prop where
  opens : type.toList.head?.any opensType
  chars : ∀ c ∈ type.toList, isTypeChar c

instance (type : String) : Decidable (IsTypeText type) :=
  decidable_of_iff (type.toList.head?.any opensType ∧ ∀ c ∈ type.toList, isTypeChar c)
    ⟨fun h => ⟨h.1, h.2⟩, fun h => ⟨h.opens, h.chars⟩⟩

lemma IsTypeText.beginsWith {type : String} (h : IsTypeText type) : BeginsWith (opensType ·) type.toList := by
  obtain ⟨c, hhead, hc⟩ := (Option.any_eq_true _ _).1 h.opens
  obtain ⟨rest, htext⟩ := List.head?_eq_some_iff.1 hhead
  exact ⟨c, rest, htext, hc⟩

/-- The name of a record type begins with a capital. -/
lemma isTypeText_recordName {nested : Model} (h : IsInferred model) (hn : nested ∈ model.nestedModels) :
    IsTypeText nested.recordName := by
  have initial : "Item".toList.head? = some 'I' := rfl
  obtain ⟨name, members, rfl⟩ := h.exists_modelOf_of_nested hn
  obtain ⟨c, hhead, hc⟩ := exists_capital_typeName initial (by decide) name
  rw [recordName_modelOf]
  refine ⟨by simp [hhead, opensType, hc], fun d hd => ?_⟩
  rw [isTypeChar, isIdentifierChar_iff.2 ((isLegal_typeName_item name).isIdentifier.chars d hd), Bool.true_or]

lemma isTypeText_listOf {type : String} (h : IsTypeText type) : IsTypeText (listOf type) := by
  have htext : (listOf type).toList = "List[".toList ++ (type.toList ++ [']']) := by
    simp [listOf]
  constructor
  · rw [htext]
    rfl
  · rw [htext]
    exact List.forall_mem_append.2 ⟨by decide, List.forall_mem_append.2 ⟨h.chars, by decide⟩⟩

lemma isTypeText_of_isPlainType {type : String} (h : IsPlainType type) : IsTypeText type := by
  have hscalar : ∀ type ∈ scalarTypes, IsTypeText type := by decide +kernel
  induction h with
  | scalar hm => exact hscalar _ hm
  | untyped => decide
  | list _ ih => exact isTypeText_listOf ih

lemma isTypeText_of_mem_fields (h : IsInferred model) (hp : property ∈ model.fields) :
    IsTypeText property.typeText := by
  cases h.isTyped property hp with
  | plain _ type _ => exact isTypeText_of_isPlainType type
  | @record nested hn type _ =>
    have hname : IsTypeText nested.recordName :=
      isTypeText_recordName h (List.mem_filterMap.2 ⟨property, hp, hn⟩)
    rcases type with htype | htype
    · rwa [htype]
    · rw [htype]
      exact isTypeText_listOf hname

/-! ## `AnyUrl` in a type -/

/-- Whether a text occurs in another. -/
def Occurs (part text : String) : Prop :=
  part.toList <:+: text.toList

instance (part text : String) : Decidable (Occurs part text) :=
  inferInstanceAs (Decidable (part.toList <:+: text.toList))

lemma infix_of_occursIn {part : String} {cs : List Char} (h : occursIn part cs) : part.toList <:+: cs := by
  induction cs with
  | nil =>
    have hempty : part = "" := by simpa [occursIn] using h
    rw [hempty]
    exact List.infix_rfl
  | cons c cs ih =>
    rw [occursIn, Bool.or_eq_true, List.isPrefixOf_iff_prefix] at h
    exact List.infix_cons_iff.2 (h.imp_right ih)

lemma occursIn_iff {part text : String} : occursIn part text.toList ↔ Occurs part text :=
  ⟨infix_of_occursIn, occursIn_of_infix⟩

lemma occurs_anyUrl_listOf_iff (type : String) : Occurs "AnyUrl" (listOf type) ↔ Occurs "AnyUrl" type := by
  have htext : (listOf type).toList = "List".toList ++ '[' :: (type.toList ++ [']']) := by
    simp [listOf]
  have hlist : ¬ "AnyUrl".toList <:+: "List".toList := by decide
  have hclosed : ¬ "AnyUrl".toList <:+: [] := by decide
  rw [Occurs, htext, infix_append_cons_iff (by decide) (by decide),
    infix_append_cons_iff (by decide) (by decide), or_iff_right hlist, or_iff_left hclosed, Occurs]

/-- In a type that mentions no record, `AnyUrl` occurs as a name. -/
lemma anyUrl_mem_identifiers_of_isPlainType {type : String} (h : IsPlainType type)
    (ho : Occurs "AnyUrl" type) : "AnyUrl" ∈ identifiers type := by
  have hscalar : ∀ type ∈ scalarTypes, Occurs "AnyUrl" type → "AnyUrl" ∈ identifiers type := by
    decide +kernel
  induction h with
  | scalar hm => exact hscalar _ hm ho
  | untyped => exact absurd ho (by decide)
  | list _ ih =>
    rw [listOf_eq_bracketed, identifiers_bracketed]
    exact List.mem_append_right _ (ih ((occurs_anyUrl_listOf_iff _).1 ho))

lemma occurs_of_mem_identifiers {name type : String} (h : name ∈ identifiers type) : Occurs name type := by
  obtain ⟨chars, hchars, rfl⟩ := List.mem_map.1 h
  rw [Occurs, String.toList_ofList]
  exact infix_of_mem_identifiersFrom hchars

/-- `AnyUrl` occurs in the type of a property as a name, or inside the name of its record type. -/
lemma occurs_anyUrl_typeText_iff (h : property.IsTyped) :
    Occurs "AnyUrl" property.typeText ↔ "AnyUrl" ∈ identifiers property.typeText ∨
      ∃ nested, property.nested = some nested ∧ Occurs "AnyUrl" nested.recordName := by
  cases h with
  | plain nested type _ =>
    have hnone : ¬ ∃ inner, property.nested = some inner ∧ Occurs "AnyUrl" inner.recordName := by
      simp [nested]
    rw [or_iff_left hnone]
    exact ⟨anyUrl_mem_identifiers_of_isPlainType type, occurs_of_mem_identifiers⟩
  | @record inner nested type _ =>
    have hrecord : Occurs "AnyUrl" property.typeText ↔ Occurs "AnyUrl" inner.recordName := by
      rcases type with h | h
      · rw [h]
      · rw [h, occurs_anyUrl_listOf_iff]
    constructor
    · exact fun ho => .inr ⟨inner, nested, hrecord.1 ho⟩
    · rintro (hm | ⟨other, hother, ho⟩)
      · exact occurs_of_mem_identifiers hm
      · obtain rfl := Option.some.inj (nested.symm.trans hother)
        exact hrecord.2 ho

/-! ## `AnyUrl` in all types -/

/-- Besides the types of fields, there are only those that the library has nothing to do with. -/
lemma mem_recordTypes_cases {type : String} (h : type ∈ recordTypes optionalTypes model) :
    (∃ property ∈ model.fields, property.typeText = type) ∨ type ∈ ["Optional", "List"] := by
  have hextra (b : Bool) {other : String} (h : type ∈ if b then [other] else []) : type = other := by
    cases b with
    | false => exact absurd h List.not_mem_nil
    | true => exact List.mem_singleton.1 h
  rcases List.mem_append.1 h with h | h
  · rcases List.mem_append.1 h with h | h
    · exact .inl (List.mem_map.1 h)
    · rw [hextra _ h]
      exact .inr (by decide)
  · rw [hextra _ h]
    exact .inr (by decide)

lemma isTypeText_of_mem_recordTypes (h : IsInferred model) {type : String}
    (htype : type ∈ recordTypes optionalTypes model) : IsTypeText type := by
  have hextra : ∀ type ∈ ["Optional", "List"], IsTypeText type := by decide
  rcases mem_recordTypes_cases htype with ⟨property, hp, rfl⟩ | htype
  · exact isTypeText_of_mem_fields h hp
  · exact hextra type htype

/-- `AnyUrl` occurs in one of the types where one of them mentions it, or inside the name of a nested record
type. -/
lemma exists_occurs_anyUrl_iff (optionalTypes : Bool) (h : IsInferred model) :
    (∃ type ∈ recordTypes optionalTypes model, Occurs "AnyUrl" type) ↔
      (∃ type ∈ recordTypes optionalTypes model, "AnyUrl" ∈ identifiers type) ∨
        ∃ nested ∈ model.nestedModels, Occurs "AnyUrl" nested.recordName := by
  have hextra : ∀ type ∈ ["Optional", "List"], ¬ Occurs "AnyUrl" type := by decide
  constructor
  · rintro ⟨type, htype, ho⟩
    rcases mem_recordTypes_cases htype with ⟨property, hp, rfl⟩ | hm
    · rcases (occurs_anyUrl_typeText_iff (h.isTyped property hp)).1 ho with hm | ⟨nested, hn, ho⟩
      · exact .inl ⟨_, htype, hm⟩
      · exact .inr ⟨nested, List.mem_filterMap.2 ⟨property, hp, hn⟩, ho⟩
    · exact absurd ho (hextra type hm)
  · rintro (⟨type, htype, hm⟩ | ⟨nested, hn, ho⟩)
    · exact ⟨type, htype, occurs_of_mem_identifiers hm⟩
    · obtain ⟨property, hp, hproperty⟩ := List.mem_filterMap.1 hn
      exact ⟨property.typeText, typeText_mem_recordTypes hp,
        (occurs_anyUrl_typeText_iff (h.isTyped property hp)).2 (.inr ⟨nested, hproperty, ho⟩)⟩

/-- Whether `AnyUrl` comes about where two types meet. -/
def HasSeam (types : List String) : Prop :=
  ∃ first second, [first, second] <:+: types ∧ "Any".toList <:+ first.toList ∧
    "Url".toList <+: second.toList

lemma occurs_anyUrl_join_iff {types : List String} (htypes : ∀ type ∈ types, IsTypeText type) :
    Occurs "AnyUrl" (String.join types) ↔ (∃ type ∈ types, Occurs "AnyUrl" type) ∨ HasSeam types := by
  have hbegins : ∀ text ∈ types.map String.toList, BeginsWith (opensType ·) text :=
    List.forall_mem_map.2 fun type htype => (htypes type htype).beginsWith
  have hjoin : "Any".toList ++ "Url".toList <:+: (types.map String.toList).flatten ↔ _ :=
    infix_flatten_iff hbegins (by decide) (by decide) (by decide)
  rw [Occurs, String.toList_join, List.flatMap_def]
  refine hjoin.trans (or_congr ?_ ?_)
  · simp [Occurs]
  · constructor
    · rintro ⟨first, second, hpair, hfirst, hsecond⟩
      exact ⟨String.ofList first, String.ofList second, by simpa using hpair.map String.ofList,
        by simpa using hfirst, by simpa using hsecond⟩
    · rintro ⟨first, second, hpair, h⟩
      exact ⟨_, _, hpair.map String.toList, h⟩

/-! ## What types need -/

/-- Whether the imports that are computed from types have one from the model library. -/
def NeedsLibrary (types : List String) : Prop :=
  ∃ names, (modelLibrary, names) ∈ importsFor types []

lemma needsLibrary_iff {types : List String} :
    NeedsLibrary types ↔ ∃ type ∈ types, "AnyUrl" ∈ identifiers type := by
  have hlibrary : ∀ entry ∈ importable, entry.1 = modelLibrary → entry.2 = ["AnyUrl"] := by decide
  have hreferenced : (∃ type ∈ types, "AnyUrl" ∈ identifiers type) ↔
      "AnyUrl" ∈ referencedNames types ++ [] := by
    rw [List.append_nil, referencedNames, List.mem_flatMap]
  rw [hreferenced]
  constructor
  · rintro ⟨names, h⟩
    obtain ⟨hentry, hne⟩ := List.mem_filter.1 h
    obtain ⟨entry, hmem, heq⟩ := List.mem_map.1 hentry
    obtain ⟨hsource, rfl⟩ := Prod.mk.inj heq
    rw [Bool.not_eq_true', List.isEmpty_eq_false_iff] at hne
    obtain ⟨name, hname⟩ := List.exists_mem_of_ne_nil _ hne
    obtain ⟨hprovided, hreferenced⟩ := List.mem_filter.1 hname
    rw [hlibrary entry hmem hsource, List.mem_singleton] at hprovided
    rw [← hprovided]
    exact of_decide_eq_true hreferenced
  · intro h
    have hkept : ["AnyUrl"].filter (· ∈ referencedNames types ++ []) = ["AnyUrl"] :=
      List.filter_eq_self.2 (List.forall_mem_singleton.2 (decide_eq_true h))
    have hentry : (modelLibrary, ["AnyUrl"]) ∈ importable := by decide
    exact ⟨["AnyUrl"], List.mem_filter.2 ⟨List.mem_map.2 ⟨_, hentry, Prod.ext rfl hkept⟩, rfl⟩⟩

/-! ## What a record module imports -/

lemma mem_ite_singleton (b : Bool) (name : String) : name ∈ (if b then [name] else []) ↔ b := by
  cases b <;> simp

lemma anyUrl_mem_libraryNames {types fieldLines : List String} :
    "AnyUrl" ∈ libraryNames types fieldLines ↔ Occurs "AnyUrl" (String.join types) := by
  have hothers (b : Bool) :
      "AnyUrl" ∉ ["BaseModel", "ConfigDict"] ++ (if b then ["Field"] else []) := by
    cases b <;> decide
  rw [libraryNames, List.append_assoc, List.mem_append, or_iff_left (hothers _), mem_ite_singleton,
    occursIn_iff]

lemma field_mem_libraryNames {types fieldLines : List String} :
    "Field" ∈ libraryNames types fieldLines ↔ ∃ line ∈ fieldLines, Occurs "Field(" line := by
  have hothers (b : Bool) :
      "Field" ∉ (if b then ["AnyUrl"] else []) ++ ["BaseModel", "ConfigDict"] := by
    cases b <;> decide
  rw [libraryNames, List.mem_append, or_iff_right (hothers _), mem_ite_singleton, List.any_eq_true]
  simp only [occursIn_iff]

/-- A record module imports `AnyUrl` where types need it, and also where it occurs in the name of a nested record
type or comes about between two types. -/
lemma anyUrl_mem_libraryNames_iff (optionalTypes : Bool) (h : IsInferred model) (fieldLines : List String) :
    "AnyUrl" ∈ libraryNames (recordTypes optionalTypes model) fieldLines ↔
      NeedsLibrary (recordTypes optionalTypes model) ∨
        (∃ nested ∈ model.nestedModels, Occurs "AnyUrl" nested.recordName) ∨
        HasSeam (recordTypes optionalTypes model) := by
  have htypes : ∀ type ∈ recordTypes optionalTypes model, IsTypeText type := fun _ =>
    isTypeText_of_mem_recordTypes h
  rw [anyUrl_mem_libraryNames, occurs_anyUrl_join_iff htypes, exists_occurs_anyUrl_iff optionalTypes h,
    ← needsLibrary_iff, or_assoc]

/-! ## Calls of `Field` -/

/-- No escape has a bracket in it. -/
lemma bracket_notMem_quoteChar {c : Char} (h : c ≠ '(') : '(' ∉ quoteChar c := by
  have hunit (unit : Nat) : '(' ∉ unitEscape unit := by
    have hdigits : '(' ∉ hexOfWidth 4 unit := fun h =>
      forall_mem_hexOfWidth (p := (· ≠ '(')) (by decide) 4 unit _ h rfl
    simp [unitEscape, hdigits]
  unfold quoteChar
  split_ifs
  iterate 7
    · decide
  · simpa using h.symm
  · unfold charEscape
    split
    · exact hunit _
    · rw [List.mem_append, not_or]
      exact ⟨hunit _, hunit _⟩

lemma bracket_notMem_stringLiteral {text : String} (h : '(' ∉ text.toList) :
    '(' ∉ (stringLiteral text).toList := by
  have hchars : '(' ∉ text.toList.flatMap quoteChar := by
    rw [List.mem_flatMap]
    rintro ⟨c, hc, hm⟩
    exact bracket_notMem_quoteChar (by rintro rfl; exact h hc) hm
  rw [stringLiteral, quote, String.toList_ofList, quoteChars]
  simp [hchars]

lemma IsTypeText.bracket_notMem {type : String} (h : IsTypeText type) : '(' ∉ type.toList :=
  fun hm => absurd (h.chars _ hm) (by decide)

lemma bracket_notMem_writtenType (optionalTypes : Bool) (forward : List String)
    (h : IsTypeText property.typeText) :
    '(' ∉ (writtenType optionalTypes forward property).toList := by
  have hfield : '(' ∉ (fieldType optionalTypes property).toList := by
    rw [fieldType]
    split
    · simp [h.bracket_notMem]
    · exact h.bracket_notMem
  rw [writtenType]
  split
  · exact bracket_notMem_stringLiteral hfield
  · exact hfield

/-- Whether the default of a field is a call of `Field`. -/
def CallsField (optionalTypes : Bool) (property : Property) : Prop :=
  ∃ arguments, fieldDefault optionalTypes property = " = Field(" ++ arguments

/-- A default with a bracket in it is a call of `Field`. -/
lemma callsField_of_mem (h : '(' ∈ (fieldDefault optionalTypes property).toList) :
    CallsField optionalTypes property := by
  unfold CallsField
  rw [fieldDefault] at h ⊢
  split at h
  · next hkey =>
    rw [if_pos hkey]
    split
    · have hsplit : " = Field(default=None, alias=" = " = Field(" ++ "default=None, alias=" := by decide
      rw [hsplit, String.append_assoc, String.append_assoc]
      exact ⟨_, rfl⟩
    · have hsplit : " = Field(alias=" = " = Field(" ++ "alias=" := by decide
      rw [hsplit, String.append_assoc, String.append_assoc]
      exact ⟨_, rfl⟩
  · have hnone : '(' ∉ " = None".toList ∧ '(' ∉ "".toList := by decide
    split at h
    · exact absurd h hnone.1
    · exact absurd h hnone.2

/-- A field has `Field(` in its line only where it calls it. -/
lemma occurs_field_fieldLine_iff (forward : List String) (hname : IsIdentifier property.name)
    (htype : IsTypeText property.typeText) :
    Occurs "Field(" (fieldLine optionalTypes forward property) ↔ CallsField optionalTypes property := by
  rw [Occurs, fieldLine]
  constructor
  · intro ho
    have hname : '(' ∉ property.name.toList := fun hm =>
      (hname.chars _ hm).elim (by decide) (by decide)
    have hwritten := bracket_notMem_writtenType optionalTypes forward htype
    have hline := ho.subset (by decide : '(' ∈ "Field(".toList)
    simp only [String.toList_append, List.mem_append, hname, hwritten, false_or, or_false] at hline
    exact callsField_of_mem (hline.resolve_left (by decide))
  · rintro ⟨arguments, h⟩
    have hcall : " = Field(" = " = " ++ "Field(" := by decide
    rw [h, hcall]
    simp only [String.toList_append]
    rw [← List.append_assoc, ← List.append_assoc]
    exact List.infix_append _ _ _

lemma field_mem_libraryNames_iff (hname : ∀ property ∈ model.fields, IsIdentifier property.name)
    (htype : ∀ property ∈ model.fields, IsTypeText property.typeText) (types forward : List String) :
    "Field" ∈ libraryNames types (model.fields.map (fieldLine optionalTypes forward)) ↔
      ∃ property ∈ model.fields, CallsField optionalTypes property := by
  rw [field_mem_libraryNames]
  simp only [List.mem_map, exists_exists_and_eq_and]
  exact exists_congr fun property => and_congr_right fun hp =>
    occurs_field_fieldLine_iff forward (hname property hp) (htype property hp)

/-! ## The statement -/

/-- The statements of a module that import from another one, in order. -/
def Module.importsFrom (source : String) (module : Module) : Module :=
  List.filter (fun statement => statement.source? = some source) module

lemma importsFrom_eq_nil {source : String} {module : Module}
    (h : ∀ statement ∈ module, statement.source? ≠ some source) : module.importsFrom source = [] := by
  rw [Module.importsFrom, List.filter_eq_nil_iff]
  intro statement hs hsource
  exact h statement hs (of_decide_eq_true hsource)

/-- A record module imports from the model library once. -/
lemma importsFrom_modelLibrary (frozen : Bool) :
    (recordModule frozen optionalTypes model).importsFrom modelLibrary =
      [.importNames modelLibrary (libraryNames (recordTypes optionalTypes model)
        (model.fields.map (fieldLine optionalTypes (forwardNames model)))) ""] := by
  have hstandard (imports : List (String × List String)) (h : ∀ entry ∈ imports, entry.1 ≠ modelLibrary) :
      Module.importsFrom modelLibrary
        (if imports.isEmpty then [] else importStatements imports ++ [.blank]) = [] := by
    apply importsFrom_eq_nil
    intro statement hs
    split at hs
    · cases hs
    · rcases List.mem_append.1 hs with hs | hs
      · obtain ⟨entry, hentry, rfl⟩ := List.mem_map.1 hs
        exact fun hsource => h entry hentry (Option.some.inj hsource)
      · rw [List.mem_singleton.1 hs]
        exact nofun
  have hforward (imports : List (String × String)) :
      Module.importsFrom modelLibrary (if imports.isEmpty then [] else .blank :: imports.map fun entry =>
        Statement.importNames ("." ++ entry.1) [entry.2] "  # noqa: E402") = [] := by
    apply importsFrom_eq_nil
    intro statement hs
    split at hs
    · cases hs
    · rcases List.mem_cons.1 hs with rfl | hs
      · exact nofun
      · obtain ⟨entry, -, rfl⟩ := List.mem_map.1 hs
        intro hsource
        have hdot := congrArg (·.toList.head?) (Option.some.inj hsource)
        simp [modelLibrary] at hdot
  have halias : Module.importsFrom modelLibrary
      (if hasAlias model then gap ++ [.assign model.name (listOf model.recordName)] else []) = [] := by
    split <;> rfl
  have happend (first second : List Statement) : Module.importsFrom modelLibrary (first ++ second) =
      Module.importsFrom modelLibrary first ++ Module.importsFrom modelLibrary second :=
    List.filter_append first second
  simp only [recordModule, happend, hforward, halias]
  rw [hstandard _ fun entry hentry => bne_iff_ne.1 (List.mem_filter.1 hentry).2]
  rfl

/-! ## Inferred models -/

/-- A record module of an inferred model, or of one that is nested in it, has one import from the model library.
It has `AnyUrl` in it just if types need it, or if it occurs in the name of a nested record type or comes about
between two types; so it agrees with the imports that are computed from types if and only if there is no such
occurrence without need.  It has `Field` in it just if a field calls it. -/
theorem libraryImport_agrees_iff {content path : String} {outer : Model}
    (h : infer? content path = some outer) (hw : IsWithin outer model) (frozen optionalTypes : Bool) :
    let types := recordTypes optionalTypes model
    let misread := (∃ nested ∈ model.nestedModels, Occurs "AnyUrl" nested.recordName) ∨ HasSeam types
    ∃ names, (recordModule frozen optionalTypes model).importsFrom modelLibrary =
        [.importNames modelLibrary names ""] ∧
      (NeedsLibrary types ↔ ∃ type ∈ types, "AnyUrl" ∈ identifiers type) ∧
      ("AnyUrl" ∈ names ↔ NeedsLibrary types ∨ misread) ∧
      (("AnyUrl" ∈ names ↔ NeedsLibrary types) ↔ (misread → NeedsLibrary types)) ∧
      ("Field" ∈ names ↔ ∃ property ∈ model.fields, CallsField optionalTypes property) := by
  intro types misread
  have hinferred : IsInferred model := isInferred_of_isWithin h hw
  have hname : ∀ property ∈ model.fields, IsIdentifier property.name := fun property hp =>
    ((isDeclarable_of_infer? h hw).fields property hp).isIdentifier
  have htype : ∀ property ∈ model.fields, IsTypeText property.typeText := fun _ =>
    isTypeText_of_mem_fields hinferred
  have hurl := anyUrl_mem_libraryNames_iff optionalTypes hinferred
    (model.fields.map (fieldLine optionalTypes (forwardNames model)))
  refine ⟨_, importsFrom_modelLibrary frozen, needsLibrary_iff, hurl, ?_,
    field_mem_libraryNames_iff hname htype _ _⟩
  rw [hurl]
  exact or_iff_left_iff_imp

/-- The home page of a shop is a URL, and has a key that is not the name of its field. -/
theorem libraryImport_agrees_homePage :
    ∃ model, infer? "\x7b\"homePage\": \"https://shop.example\", \"any\": null\x7d" "/shops" =
        some model ∧ IsWithin model model ∧
      (recordModule true true model).importsFrom modelLibrary =
        [.importNames modelLibrary ["AnyUrl", "BaseModel", "ConfigDict", "Field"] ""] ∧
      NeedsLibrary (recordTypes true model) ∧
      ∃ property ∈ model.fields, CallsField true property := by
  have hview : (infer? "\x7b\"homePage\": \"https://shop.example\", \"any\": null\x7d" "/shops").map
      (fun model => ((recordModule true true model).importsFrom modelLibrary, recordTypes true model)) =
      some ([.importNames modelLibrary ["AnyUrl", "BaseModel", "ConfigDict", "Field"] ""],
        ["AnyUrl", "Any", "Optional"]) := by decide +kernel
  obtain ⟨model, h, hmodel⟩ := Option.map_eq_some_iff.1 hview
  obtain ⟨himports, htypes⟩ := Prod.mk.inj hmodel
  obtain ⟨names, hnames, hneeds, -, -, hfield⟩ := libraryImport_agrees_iff h .self true true
  rw [himports] at hnames
  obtain ⟨-, rfl, -⟩ := Statement.importNames.inj (List.cons.inj hnames).1
  refine ⟨model, h, .self, himports, hneeds.2 ⟨"AnyUrl", ?_, by decide⟩, hfield.1 (by decide)⟩
  rw [htypes]
  decide

/-- Whether a response gives a record module that imports `AnyUrl` though no type needs it. -/
def ImportsNeedlessly (content : String) : Prop :=
  ∃ model, infer? content "/data" = some model ∧
    (recordModule true true model).importsFrom modelLibrary =
      [.importNames modelLibrary ["AnyUrl", "BaseModel", "ConfigDict"] ""] ∧
    ¬ NeedsLibrary (recordTypes true model)

lemma importsNeedlessly_of_view {content : String} (imports : List (String × List String))
    (hview : (infer? content "/data").map
      (fun model => ((recordModule true true model).importsFrom modelLibrary,
        importsFor (recordTypes true model) [])) =
      some ([.importNames modelLibrary ["AnyUrl", "BaseModel", "ConfigDict"] ""], imports))
    (himports : ∀ entry ∈ imports, entry.1 ≠ modelLibrary) : ImportsNeedlessly content := by
  obtain ⟨model, h, hmodel⟩ := Option.map_eq_some_iff.1 hview
  obtain ⟨himport, hneeds⟩ := Prod.mk.inj hmodel
  refine ⟨model, h, himport, ?_⟩
  rintro ⟨names, hnames⟩
  rw [hneeds] at hnames
  exact himports _ hnames rfl

/-- `Any` in front of `Url` is misread, and so is `AnyUrls`. -/
theorem seam_and_plural_are_misread :
    ImportsNeedlessly "\x7b\"a\": null, \"url\": \x7b\"x\": 1\x7d\x7d" ∧
      ImportsNeedlessly "\x7b\"any_urls\": \x7b\"x\": 1\x7d\x7d" :=
  ⟨importsNeedlessly_of_view [("typing", ["Any", "Optional"])] (by decide +kernel) (by decide),
    importsNeedlessly_of_view [] (by decide +kernel) (by decide)⟩

end RestConnector.Emit
