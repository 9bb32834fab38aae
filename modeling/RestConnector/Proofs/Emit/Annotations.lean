import RestConnector.Proofs.Emit.Identifiers

/-!
# Quoted types of fields

The class of a record is defined before the record types that it refers to are imported, and its own type is
not bound while the class is being defined.  A field that mentions one of these (`unboundTypes`) has its type in
quotes.  Whether it does is decided by `identifiers`, on the type as it is written, an `Optional` around it
included.

For inferred models this goes wrong in two ways (`isQuoted_iff_mentions`).  The name of a record type may have
digits beyond ASCII, at which `identifiers` takes it apart; the type is then left as it is, unless one of the
parts happens to be a record type too (`RecordsAreRead`).  And a record type may be called `Optional`; then
every optional field is quoted for what stands around its type.

In a type without quotes, all names that are not built in are imported above the class, as long as the record
types are read whole (`namesAreBound_iff`).
-/

namespace RestConnector.Emit

open RestConnector.Json RestConnector.Name RestConnector.Schema RestConnector.Text

variable {model : Model} {property : Property} {optionalTypes : Bool}

/-! ## Quotation -/

/-- The record types that are not bound when the class of a model is defined: its own, and those of the models
nested in it. -/
def unboundTypes (model : Model) : List String :=
  model.recordName :: model.nestedModels.map Model.recordName

/-- Whether a type mentions a record type that is not bound when the class of a model is defined. -/
def MentionsUnbound (model : Model) (type : String) : Prop :=
  ∃ name ∈ wholeNames type, name ∈ unboundTypes model

/-- Whether a type is written as a string literal. -/
def IsQuoted (written : String) : Prop :=
  ∃ type, written = stringLiteral type

lemma mem_forwardNames {name : String} : name ∈ forwardNames model ↔ name ∈ unboundTypes model := by
  rw [forwardNames, List.mem_cons, mem_forwardImports, unboundTypes, List.mem_cons, List.mem_map]
  tauto

lemma quote_mem_of_isQuoted {written : String} (h : IsQuoted written) : '"' ∈ written.toList := by
  obtain ⟨type, rfl⟩ := h
  rw [stringLiteral, quote, String.toList_ofList, quoteChars]
  exact List.mem_cons_self

lemma isQuoted_writtenType_iff (forward : List String) (h : '"' ∉ (fieldType optionalTypes property).toList) :
    IsQuoted (writtenType optionalTypes forward property) ↔
      ∃ name ∈ identifiers (fieldType optionalTypes property), name ∈ forward := by
  have hany : (identifiers (fieldType optionalTypes property)).any (· ∈ forward) ↔
      ∃ name ∈ identifiers (fieldType optionalTypes property), name ∈ forward := by simp
  rw [← hany, writtenType]
  split
  · next hforward => exact iff_of_true ⟨_, rfl⟩ hforward
  · next hforward => exact iff_of_false (fun hq => h (quote_mem_of_isQuoted hq)) hforward

lemma writtenType_of_not_isQuoted {forward : List String}
    (h : ¬ IsQuoted (writtenType optionalTypes forward property)) :
    writtenType optionalTypes forward property = fieldType optionalTypes property := by
  rw [writtenType] at h ⊢
  split
  · next hforward =>
    rw [if_pos hforward] at h
    exact absurd ⟨_, rfl⟩ h
  · rfl

/-! ## Types of fields -/

lemma fieldType_of_optional (h : isOptional optionalTypes property) :
    fieldType optionalTypes property = bracketed "Optional" property.typeText := by
  have hoptional : "Optional[" = "Optional" ++ "[" := by decide
  rw [fieldType, if_pos h, bracketed, hoptional]

lemma fieldType_of_not_optional (h : ¬ isOptional optionalTypes property) :
    fieldType optionalTypes property = property.typeText := by
  rw [fieldType, if_neg h]

lemma quote_notMem_bracketed {outer inner : String} (houter : '"' ∉ outer.toList)
    (hinner : '"' ∉ inner.toList) : '"' ∉ (bracketed outer inner).toList := by
  simp [bracketed, houter, hinner]

lemma quote_notMem_of_isPlainType {type : String} (h : IsPlainType type) : '"' ∉ type.toList := by
  have hscalar : ∀ type ∈ scalarTypes, '"' ∉ type.toList := by decide
  induction h with
  | scalar hm => exact hscalar _ hm
  | untyped => decide
  | list _ ih =>
    rw [listOf_eq_bracketed]
    exact quote_notMem_bracketed (by decide) ih

lemma quote_notMem_of_isIdentifier {name : String} (h : IsIdentifier name) : '"' ∉ name.toList := by
  intro hm
  rcases h.chars _ hm with hc | hc
  · exact absurd hc (by decide)
  · exact absurd hc (by decide)

/-! ## Fields of plain types -/

/-- Whether an optional field is read as mentioning an unbound type only if its own type does.  This is a matter
of the wrapper, for what an optional field wraps is `Any`. -/
def WrapperIsBound (optionalTypes : Bool) (model : Model) (property : Property) : Prop :=
  isOptional optionalTypes property → "Optional" ∈ unboundTypes model → "Any" ∈ unboundTypes model

lemma identifiers_optional : identifiers "Optional" = ["Optional"] := by decide

lemma wholeNames_optional : wholeNames "Optional" = ["Optional"] := by decide

/-- Reading an optional field finds the wrapper and what it wraps. -/
lemma exists_identifiers_optional (h : isOptional optionalTypes property) (names : List String) :
    (∃ name ∈ identifiers (fieldType optionalTypes property), name ∈ names) ↔
      "Optional" ∈ names ∨ ∃ name ∈ identifiers property.typeText, name ∈ names := by
  rw [fieldType_of_optional h, identifiers_bracketed, identifiers_optional]
  simp

lemma isQuoted_iff_mentions_of_plain (type : IsPlainType property.typeText)
    (null : property.isNullable → property.typeText = "Any") :
    (IsQuoted (writtenType optionalTypes (forwardNames model) property) ↔
      MentionsUnbound model property.typeText) ↔ WrapperIsBound optionalTypes model property := by
  have hquote := quote_notMem_of_isPlainType type
  by_cases h : isOptional optionalTypes property
  · have hany : property.typeText = "Any" := null (Bool.and_eq_true_iff.1 h).1
    have hfield : '"' ∉ (fieldType optionalTypes property).toList := by
      rw [fieldType_of_optional h]
      exact quote_notMem_bracketed (by decide) hquote
    have hmentions : MentionsUnbound model property.typeText ↔ "Any" ∈ unboundTypes model := by
      have hnames : wholeNames "Any" = ["Any"] := by decide
      simp [MentionsUnbound, hany, hnames]
    rw [isQuoted_writtenType_iff _ hfield, exists_identifiers_optional h,
      identifiers_of_isPlainType type]
    simp only [mem_forwardNames]
    rw [← MentionsUnbound, hmentions, WrapperIsBound]
    tauto
  · have hfield := fieldType_of_not_optional h
    rw [isQuoted_writtenType_iff _ (by rwa [hfield]), hfield, identifiers_of_isPlainType type]
    simp only [mem_forwardNames]
    exact iff_of_true Iff.rfl fun ho => absurd ho h

/-! ## Fields with records -/

/-- Whether the type of a field is read as mentioning an unbound type although the record type that it mentions
has characters beyond ASCII. -/
def RecordIsRead (model : Model) (property : Property) : Prop :=
  ∀ nested, property.nested = some nested → (∃ c ∈ nested.recordName.toList, 128 ≤ c.toNat) →
    ∃ name ∈ identifiers property.typeText, name ∈ unboundTypes model

section Record

variable {nested : Model}

lemma recordName_mem_unboundTypes (hp : property ∈ model.fields) (hn : property.nested = some nested) :
    nested.recordName ∈ unboundTypes model :=
  List.mem_cons_of_mem _ (List.mem_map_of_mem (List.mem_filterMap.2 ⟨property, hp, hn⟩))

lemma recordName_mem_wholeNames (hid : IsIdentifier nested.recordName)
    (type : property.typeText = nested.recordName ∨ property.typeText = listOf nested.recordName) :
    nested.recordName ∈ wholeNames property.typeText := by
  have hself : nested.recordName ∈ wholeNames nested.recordName := by
    rw [wholeNames_of_isIdentifier hid]
    exact List.mem_singleton_self _
  rcases type with h | h
  · rwa [h]
  · rw [h, listOf_eq_bracketed, wholeNames_bracketed]
    exact List.mem_append_right _ hself

lemma recordName_mem_identifiers (hid : IsIdentifier nested.recordName)
    (hascii : ∀ c ∈ nested.recordName.toList, c.toNat < 128)
    (type : property.typeText = nested.recordName ∨ property.typeText = listOf nested.recordName) :
    nested.recordName ∈ identifiers property.typeText := by
  have hself : nested.recordName ∈ identifiers nested.recordName := by
    rw [identifiers_of_ascii hid hascii]
    exact List.mem_singleton_self _
  rcases type with h | h
  · rwa [h]
  · rw [h, listOf_eq_bracketed, identifiers_bracketed]
    exact List.mem_append_right _ hself

/-- A field with a record is quoted as long as the record type is read. -/
lemma isQuoted_iff_recordIsRead (hp : property ∈ model.fields) (hn : property.nested = some nested)
    (hid : IsIdentifier nested.recordName)
    (type : property.typeText = nested.recordName ∨ property.typeText = listOf nested.recordName)
    (null : property.isNullable = false) :
    IsQuoted (writtenType optionalTypes (forwardNames model) property) ↔ RecordIsRead model property := by
  have hquote : '"' ∉ property.typeText.toList := by
    have hself := quote_notMem_of_isIdentifier hid
    rcases type with h | h
    · rwa [h]
    · rw [h, listOf_eq_bracketed]
      exact quote_notMem_bracketed (by decide) hself
  have hfield : fieldType optionalTypes property = property.typeText :=
    fieldType_of_not_optional (by simp [isOptional, null])
  rw [isQuoted_writtenType_iff _ (by rwa [hfield]), hfield]
  simp only [mem_forwardNames]
  refine ⟨fun hread _ _ _ => hread, fun hread => ?_⟩
  by_cases hbeyond : ∃ c ∈ nested.recordName.toList, 128 ≤ c.toNat
  · exact hread nested hn hbeyond
  · have hascii : ∀ c ∈ nested.recordName.toList, c.toNat < 128 := by simpa using hbeyond
    exact ⟨_, recordName_mem_identifiers hid hascii type, recordName_mem_unboundTypes hp hn⟩

end Record

/-! ## Names above the class -/

/-- The types that need no import. -/
def builtinTypes : List String := ["bool", "int", "str"]

/-- Whether a statement defines a class or a function. -/
def Statement.isDefinition : Statement → Bool
  | .define _ _ => true
  | _ => false

/-- The names that a module binds in front of its first definition. -/
def Module.bindsAbove (module : Module) : List String :=
  List.flatMap Statement.binds (module.takeWhile fun statement => !statement.isDefinition)

/-- A record module imports from libraries above its class, and nothing else. -/
lemma bindsAbove_recordModule (frozen optionalTypes : Bool) (model : Model) :
    (recordModule frozen optionalTypes model).bindsAbove = importedNames optionalTypes model := by
  set standard := (importsFor (recordTypes optionalTypes model) []).filter
    fun entry => entry.1 != modelLibrary with hstandard
  set names := libraryNames (recordTypes optionalTypes model)
    (model.fields.map (fieldLine optionalTypes (forwardNames model))) with hnames
  set above : List Statement := [.doc "Generated model. Do not edit by hand.", .blank] ++
    (if standard.isEmpty then [] else importStatements standard ++ [.blank]) ++
    [.importNames modelLibrary names ""] ++ gap with habove
  obtain ⟨lines, rest, hmodule⟩ : ∃ lines rest, recordModule frozen optionalTypes model =
      above ++ .define model.recordName lines :: rest :=
    ⟨_, _, by simp only [recordModule, habove, hnames, hstandard, List.append_assoc]; rfl⟩
  have himports : ∀ statement ∈ importStatements standard, (!statement.isDefinition) = true := by
    intro statement hs
    obtain ⟨entry, -, rfl⟩ := List.mem_map.1 hs
    rfl
  have hnone : ∀ statement ∈ above, (!statement.isDefinition) = true := by
    simp only [habove, List.forall_mem_append]
    refine ⟨⟨⟨by decide, ?_⟩, by simp [Statement.isDefinition]⟩, by decide⟩
    split
    · exact List.forall_mem_nil _
    · exact List.forall_mem_append.2 ⟨himports, by decide⟩
  rw [Module.bindsAbove, hmodule, List.takeWhile_append_of_pos hnone,
    List.takeWhile_cons_of_neg (by simp [Statement.isDefinition]), List.append_nil, importedNames,
    ← hstandard, ← hnames, habove]
  simp only [List.flatMap_append, binds_standardImports, binds_gap]
  simp [Statement.binds]

/-- What a type can mention besides records and built-in types, but for the one type of the model library. -/
def standardTypes : List String :=
  ["Any", "Decimal", "Dict", "List", "Optional", "UUID", "date", "datetime"]

lemma mem_importedNames {name type : String} (hname : name ∈ standardTypes)
    (htype : type ∈ recordTypes optionalTypes model) (hm : name ∈ identifiers type) :
    name ∈ importedNames optionalTypes model := by
  have hprovided : ∀ name ∈ standardTypes,
      ∃ entry ∈ importable, entry.1 ≠ modelLibrary ∧ name ∈ entry.2 := by decide
  obtain ⟨entry, hentry, hlibrary, hprovides⟩ := hprovided name hname
  set types := recordTypes optionalTypes model
  have hreferenced : name ∈ referencedNames types ++ [] :=
    List.mem_append_left _ (List.mem_flatMap.2 ⟨type, htype, hm⟩)
  have hkept : name ∈ entry.2.filter (· ∈ referencedNames types ++ []) :=
    List.mem_filter.2 ⟨hprovides, decide_eq_true hreferenced⟩
  have hentry : (entry.1, entry.2.filter (· ∈ referencedNames types ++ [])) ∈ importsFor types [] := by
    refine List.mem_filter.2 ⟨List.mem_map.2 ⟨entry, hentry, rfl⟩, ?_⟩
    rw [List.isEmpty_eq_false_iff.2 (List.ne_nil_of_mem hkept), Bool.not_false]
  refine List.mem_append_left _ (List.mem_flatMap.2 ⟨_, List.mem_filter.2 ⟨hentry, ?_⟩, hkept⟩)
  exact bne_iff_ne.2 hlibrary

lemma infix_of_mem_identifiersFrom {skip : Nat} {cs name : List Char}
    (h : name ∈ identifiersFrom skip cs) : name <:+: cs := by
  induction cs generalizing skip with
  | nil => simp [identifiersFrom] at h
  | cons c cs ih =>
    have hcons {skip : Nat} (h : name ∈ identifiersFrom skip cs) : name <:+: c :: cs :=
      (ih h).trans (List.suffix_cons c cs).isInfix
    cases skip with
    | succ skip => exact hcons h
    | zero =>
      rw [identifiersFrom] at h
      split at h
      · rcases List.mem_cons.1 h with rfl | h
        · exact (List.prefix_cons_inj c).2 (List.takeWhile_prefix _) |>.isInfix
        · exact hcons h
      · exact hcons h

lemma occursIn_of_infix {part : String} {cs : List Char} (h : part.toList <:+: cs) : occursIn part cs := by
  induction cs with
  | nil =>
    have hempty : part = "" := String.toList_inj.1 (List.infix_nil.1 h)
    simp [occursIn, hempty]
  | cons c cs ih =>
    rw [occursIn, Bool.or_eq_true, List.isPrefixOf_iff_prefix]
    exact (List.infix_cons_iff.1 h).imp_right ih

lemma infix_join {type : String} {types : List String} (h : type ∈ types) :
    type.toList <:+: (String.join types).toList := by
  obtain ⟨front, rest, rfl⟩ := List.append_of_mem h
  rw [String.toList_join, List.flatMap_append, List.flatMap_cons, ← List.append_assoc]
  exact List.infix_append _ _ _

lemma anyUrl_mem_importedNames {type : String} (htype : type ∈ recordTypes optionalTypes model)
    (hm : "AnyUrl" ∈ identifiers type) : "AnyUrl" ∈ importedNames optionalTypes model := by
  obtain ⟨name, hname, heq⟩ := List.mem_map.1 hm
  have hlist : "AnyUrl".toList = name := by rw [← heq, String.toList_ofList]
  have hoccurs : occursIn "AnyUrl" (String.join (recordTypes optionalTypes model)).toList := by
    refine occursIn_of_infix (List.IsInfix.trans ?_ (infix_join htype))
    rw [hlist]
    exact infix_of_mem_identifiersFrom hname
  refine List.mem_append_right _ ?_
  rw [libraryNames, if_pos hoccurs]
  simp

lemma typeText_mem_recordTypes (hp : property ∈ model.fields) :
    property.typeText ∈ recordTypes optionalTypes model :=
  List.mem_append_left _ (List.mem_append_left _ (List.mem_map_of_mem hp))

lemma optional_mem_recordTypes (hp : property ∈ model.fields) (h : isOptional optionalTypes property) :
    "Optional" ∈ recordTypes optionalTypes model := by
  obtain ⟨hnull, hoptional⟩ := Bool.and_eq_true_iff.1 h
  have hany : (optionalTypes && model.fields.any (·.isNullable)) = true := by
    rw [hoptional, Bool.true_and, List.any_eq_true]
    exact ⟨property, hp, hnull⟩
  refine List.mem_append_left _ (List.mem_append_right _ ?_)
  rw [if_pos hany]
  exact List.mem_singleton_self _

/-- The names in a type that mentions no record are built in or imported. -/
lemma isBound_of_plain (hp : property ∈ model.fields) (type : IsPlainType property.typeText)
    {name : String} (hname : name ∈ wholeNames (fieldType optionalTypes property)) :
    name ∈ builtinTypes ∨ name ∈ importedNames optionalTypes model := by
  have hkinds : ∀ name ∈ plainNames, name ∈ builtinTypes ∨ name ∈ standardTypes ∨ name = "AnyUrl" := by
    decide
  have hinner : name ∈ wholeNames property.typeText →
      name ∈ builtinTypes ∨ name ∈ importedNames optionalTypes model := fun hm => by
    have hread := hm
    rw [← identifiers_of_isPlainType type] at hread
    rcases hkinds name (wholeNames_subset_of_isPlainType type hm) with hbuiltin | hstandard | rfl
    · exact .inl hbuiltin
    · exact .inr (mem_importedNames hstandard (typeText_mem_recordTypes hp) hread)
    · exact .inr (anyUrl_mem_importedNames (typeText_mem_recordTypes hp) hread)
  by_cases h : isOptional optionalTypes property
  · rw [fieldType_of_optional h, wholeNames_bracketed, wholeNames_optional] at hname
    rcases List.mem_append.1 hname with hwrapper | hm
    · obtain rfl := List.mem_singleton.1 hwrapper
      exact .inr (mem_importedNames (by decide) (optional_mem_recordTypes hp h) (by decide))
    · exact hinner hm
  · rw [fieldType_of_not_optional h] at hname
    exact hinner hname

/-- What is built in or can be imported has characters of ASCII only. -/
lemma ascii_of_isBound {name : String}
    (h : name ∈ builtinTypes ∨ name ∈ importedNames optionalTypes model) :
    ∀ c ∈ name.toList, c.toNat < 128 := by
  have hascii : ∀ name ∈ builtinTypes ++ recordLibraryNames, ∀ c ∈ name.toList, c.toNat < 128 := by
    decide
  refine hascii name (List.mem_append.2 (h.imp_right fun hm => ?_))
  exact (importedNames_sublist optionalTypes model).subset hm

/-! ## All fields -/

/-- Whether all names in the type of a field, unless it is quoted, are built in or bound above the class. -/
def NamesAreBound (frozen optionalTypes : Bool) (model : Model) (property : Property) : Prop :=
  ¬ IsQuoted (writtenType optionalTypes (forwardNames model) property) →
    ∀ name ∈ wholeNames (writtenType optionalTypes (forwardNames model) property),
      name ∈ builtinTypes ∨ name ∈ (recordModule frozen optionalTypes model).bindsAbove

/-- Whether the type of a field is quoted just if it mentions a record type that is not bound yet. -/
def IsQuotedForMention (optionalTypes : Bool) (model : Model) (property : Property) : Prop :=
  IsQuoted (writtenType optionalTypes (forwardNames model) property) ↔
    MentionsUnbound model property.typeText

lemma isQuotedForMention_iff (hp : property ∈ model.fields) (type : property.IsTyped)
    (hid : ∀ nested ∈ model.nestedModels, IsIdentifier nested.recordName) :
    IsQuotedForMention optionalTypes model property ↔
      RecordIsRead model property ∧ WrapperIsBound optionalTypes model property := by
  cases type with
  | plain nested type null =>
    have hread : RecordIsRead model property := fun _ hn => by simp [nested] at hn
    rw [IsQuotedForMention, isQuoted_iff_mentions_of_plain type null, and_iff_right hread]
  | @record inner nested type null =>
    have hinner := hid inner (List.mem_filterMap.2 ⟨property, hp, nested⟩)
    have hwrapper : WrapperIsBound optionalTypes model property := fun h => by
      simp [isOptional, null] at h
    have hmentions : MentionsUnbound model property.typeText :=
      ⟨_, recordName_mem_wholeNames hinner type, recordName_mem_unboundTypes hp nested⟩
    rw [IsQuotedForMention, isQuoted_iff_recordIsRead hp nested hinner type null,
      and_iff_left hwrapper, iff_true_right hmentions]

lemma namesAreBound_iff (frozen : Bool) (hp : property ∈ model.fields) (type : property.IsTyped)
    (hid : ∀ nested ∈ model.nestedModels, IsIdentifier nested.recordName) :
    NamesAreBound frozen optionalTypes model property ↔ RecordIsRead model property := by
  rw [NamesAreBound, bindsAbove_recordModule]
  cases type with
  | plain nested type null =>
    refine iff_of_true (fun hq name hname => ?_) fun _ hn => by simp [nested] at hn
    rw [writtenType_of_not_isQuoted hq] at hname
    exact isBound_of_plain hp type hname
  | @record inner nested type null =>
    have hinner := hid inner (List.mem_filterMap.2 ⟨property, hp, nested⟩)
    have hquoted : IsQuoted (writtenType optionalTypes (forwardNames model) property) ↔
        RecordIsRead model property := isQuoted_iff_recordIsRead hp nested hinner type null
    refine ⟨fun hbound => ?_, fun hread hq => absurd (hquoted.2 hread) hq⟩
    by_contra hread
    have hq := hquoted.not.2 hread
    -- The record type stands in the type as it is, so it has to be a name of ASCII to be bound.
    have hmem : inner.recordName ∈
        wholeNames (writtenType optionalTypes (forwardNames model) property) := by
      rw [writtenType_of_not_isQuoted hq, fieldType_of_not_optional (by simp [isOptional, null])]
      exact recordName_mem_wholeNames hinner type
    have hascii := ascii_of_isBound (hbound hq _ hmem)
    refine hread fun other hother hbeyond => ?_
    obtain rfl := Option.some.inj (nested.symm.trans hother)
    obtain ⟨c, hc, hlarge⟩ := hbeyond
    exact absurd (hascii c hc) (Nat.not_lt.2 hlarge)

/-- In an inferred model, or one that is nested in it, types are quoted just for mentioning a record type that
is not bound yet if and only if record types with characters beyond ASCII are read by some part, and none is
called `Optional` beside an optional field that does not mention it.  All names in the other types are built in
or bound above the class if and only if record types are read. -/
theorem quotation_iff {content path : String} {outer : Model} (h : infer? content path = some outer)
    (hw : IsWithin outer model) (frozen optionalTypes : Bool) :
    ((∀ property ∈ model.fields, IsQuotedForMention optionalTypes model property) ↔
      (∀ property ∈ model.fields, RecordIsRead model property) ∧
        ∀ property ∈ model.fields, WrapperIsBound optionalTypes model property) ∧
    ((∀ property ∈ model.fields, NamesAreBound frozen optionalTypes model property) ↔
      ∀ property ∈ model.fields, RecordIsRead model property) := by
  have hinferred : IsInferred model := isInferred_of_isWithin h hw
  have hid : ∀ nested ∈ model.nestedModels, IsIdentifier nested.recordName := fun nested hn =>
    (isDeclarable_of_infer? h (hw.nested hn)).recordName.isIdentifier
  constructor
  · rw [← forall₂_and]
    exact forall₂_congr fun property hp => isQuotedForMention_iff hp (hinferred.isTyped property hp) hid
  · exact forall₂_congr fun property hp => namesAreBound_iff frozen hp (hinferred.isTyped property hp) hid

/-- Two records whose names differ in an Arabic digit.  The digit is not read, but what is left of the second
name is the first one, so both fields are quoted. -/
theorem quotation_user_records :
    ∃ model, infer? "\x7b\"user\": \x7b\"id\": 1\x7d, \"user\u0661\": \x7b\"id\": 2\x7d\x7d" "/data" =
        some model ∧ IsWithin model model ∧
      (∀ property ∈ model.fields, IsQuotedForMention true model property) ∧
        ∀ property ∈ model.fields, NamesAreBound true true model property := by
  have hview : (infer? "\x7b\"user\": \x7b\"id\": 1\x7d, \"user\u0661\": \x7b\"id\": 2\x7d\x7d" "/data").map
      (fun model => model.fields.map fun property => (identifiers property.typeText, unboundTypes model)) =
      some (List.replicate 2 (["User"], ["Data", "User", "User\u0661"])) := by decide +kernel
  obtain ⟨model, h, hfields⟩ := Option.map_eq_some_iff.1 hview
  have hfield : ∀ property ∈ model.fields,
      identifiers property.typeText = ["User"] ∧ unboundTypes model = ["Data", "User", "User\u0661"] :=
    fun property hp => by
      have hentry := List.mem_map_of_mem (f := fun property =>
        (identifiers property.typeText, unboundTypes model)) hp
      rw [hfields] at hentry
      exact Prod.mk.inj (List.eq_of_mem_replicate hentry)
  have hread : ∀ property ∈ model.fields, RecordIsRead model property := fun property hp _ _ _ => by
    obtain ⟨hnames, hunbound⟩ := hfield property hp
    rw [hnames, hunbound]
    decide
  have hwrapper : ∀ property ∈ model.fields, WrapperIsBound true model property := fun property hp _ ho => by
    rw [(hfield property hp).2] at ho
    exact absurd ho (by decide)
  have hiff := quotation_iff h .self true true
  exact ⟨model, h, .self, hiff.1.2 ⟨hread, hwrapper⟩, hiff.2.2 hread⟩

/-- The type `User١` mentions the record type of that name, but only `User` is read of it.  So it is written
without quotes. -/
theorem digit_beyond_ascii_is_not_read :
    ∃ model, infer? "\x7b\"user\u0661\": \x7b\"id\": 1\x7d\x7d" "/data" = some model ∧
      ∃ property ∈ model.fields, MentionsUnbound model property.typeText ∧
        ¬ IsQuoted (writtenType true (forwardNames model) property) := by
  have hview : (infer? "\x7b\"user\u0661\": \x7b\"id\": 1\x7d\x7d" "/data").map
      (fun model => model.fields.map fun property => (wholeNames property.typeText, unboundTypes model,
        writtenType true (forwardNames model) property)) =
      some [(["User\u0661"], ["Data", "User\u0661"], "User\u0661")] := by decide +kernel
  obtain ⟨model, h, hfields⟩ := Option.map_eq_some_iff.1 hview
  obtain ⟨property, hp, hentry⟩ := List.mem_map.1 (hfields ▸ List.mem_singleton_self _)
  obtain ⟨hnames, hunbound, hwritten⟩ := Prod.mk.inj hentry |>.imp_right Prod.mk.inj
  refine ⟨model, h, property, hp, ⟨"User\u0661", ?_, ?_⟩, fun hq => ?_⟩
  · rw [hnames]
    exact List.mem_singleton_self _
  · rw [hunbound]
    decide
  · have hquote := quote_mem_of_isQuoted hq
    rw [hwritten] at hquote
    exact absurd hquote (by decide)

end RestConnector.Emit
