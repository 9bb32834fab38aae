import RestConnector.Emit.Client
import RestConnector.Proofs.Json.Strings
import RestConnector.Proofs.Operation.Writing
import RestConnector.Proofs.Text.Collapse
import RestConnector.Proofs.Text.Sorted

/-!
# Lines of generated modules

Text that comes from outside is written as a literal or as a docstring, and in neither form it leaves its
line (`isInline_stringLiteral`, `isInline_docLine`).  All else on the lines of the contract, of its
implementation and of the client is fixed, or made of names; so the lines that these modules are put
together from are the lines that they are read as (`isInline_contractModule`, `isInline_clientModule`).

In front of the classes stand statements that are not indented (`Statement.IsFlush`), however they come out;
and what is said about the operations takes a line each, so it does not show in the number of lines
(`length_contractModule`, `length_clientModule`).
-/

namespace RestConnector.Emit

open RestConnector.Json RestConnector.Name RestConnector.Operation RestConnector.Text

/-! ## Literals and docstrings -/

theorem isInline_stringLiteral (text : String) : IsInline (stringLiteral text) := by
  apply IsPrintable.isInline
  rw [stringLiteral, quote, String.toList_ofList]
  exact isPrintable_quoteChars text.toList

lemma mem_docChar {c d : Char} (h : d ∈ docChar c) : d = '\\' ∨ d = c := by
  unfold docChar at h
  split_ifs at h with hbackslash hquote
  · exact .inl (by simpa using h)
  · simpa [hquote] using h
  · exact .inr (by simpa using h)

theorem isInline_docLine {indent : String} (h : IsInline indent) (text : String) :
    IsInline (docLine indent text) := by
  have htext : IsInline (onChars (fun cs => (collapse cs).flatMap docChar) text) := by
    intro d hd hblank
    rw [toList_onChars] at hd
    obtain ⟨c, hc, hdoc⟩ := List.mem_flatMap.1 hd
    rcases mem_docChar hdoc with rfl | rfl
    · exact absurd hblank (by decide)
    · exact eq_space_of_mem_collapse hc hblank
  have hquotes : IsInline docQuotes := by decide
  simp only [docLine, isInline_append]
  exact ⟨⟨⟨h, hquotes⟩, htext⟩, hquotes⟩

/-! ## Statements -/

/-- Whether the lines of a statement are lines indeed, and none of them is indented as in a class. -/
structure Statement.IsFlush (statement : Statement) : Prop where
  isInline : ∀ line ∈ statement.lines, IsInline line
  flush : ∀ line ∈ statement.lines, startsWith "    " line = false

lemma isFlush_blank : Statement.blank.IsFlush := by
  constructor <;> decide

lemma isFlush_doc (text : String) : (Statement.doc text).IsFlush := by
  constructor
  · exact List.forall_mem_singleton.2 (isInline_docLine (by decide) text)
  · refine List.forall_mem_singleton.2 ?_
    rw [docLine, String.append_assoc]
    exact startsWith_append_of_ne (by decide) _

lemma isFlush_importModule {name : String} (h : IsInline name) :
    (Statement.importModule name).IsFlush := by
  constructor
  · exact List.forall_mem_singleton.2 (isInline_append.2 ⟨by decide, h⟩)
  · exact List.forall_mem_singleton.2 (startsWith_append_of_ne (by decide) name)

lemma isFlush_importNames {source : String} {names : List String} (hsource : IsInline source)
    (hnames : ∀ name ∈ names, IsInline name) : (Statement.importNames source names "").IsFlush := by
  constructor
  · refine List.forall_mem_singleton.2 ?_
    simp +decide [hsource, isInline_commaList hnames]
  · refine List.forall_mem_singleton.2 ?_
    simp only [String.append_assoc]
    exact startsWith_append_of_ne (by decide) _

lemma isFlush_gap : ∀ statement ∈ gap, statement.IsFlush :=
  List.forall_mem_cons.2 ⟨isFlush_blank, List.forall_mem_singleton.2 isFlush_blank⟩

lemma isFlush_importStatements (types extra : List String) :
    ∀ statement ∈ importStatements (importsFor types extra), statement.IsFlush := by
  have htable : ∀ entry ∈ importable, IsInline entry.1 ∧ ∀ name ∈ entry.2, IsInline name := by
    decide
  refine List.forall_mem_map.2 fun imported himported => ?_
  obtain ⟨entry, hentry, rfl⟩ := List.mem_map.1 (List.mem_filter.1 himported).1
  obtain ⟨hsource, hnames⟩ := htable entry hentry
  exact isFlush_importNames hsource fun name hname => hnames name (List.mem_filter.1 hname).1

variable {operations : List Operation}

lemma isFlush_modelImports (h : ∀ operation ∈ operations, IsWritable operation) :
    ∀ statement ∈ modelImports operations, statement.IsFlush := by
  have hnames : ∀ name ∈ modelNames operations, IsInline name := by
    intro name hname
    have hmem := Sorted.mem_distinct.1 ((Sorted.sort_perm Sorted.precedes _).mem_iff.1 hname)
    obtain ⟨operation, ho, hmodel⟩ := List.mem_filterMap.1 hmem
    obtain ⟨model, hm, rfl⟩ := Option.map_eq_some_iff.1 hmodel
    exact ((h operation ho).model model hm).isInline
  unfold modelImports
  split
  · exact fun statement hs => absurd hs List.not_mem_nil
  · exact List.forall_mem_singleton.2 (isFlush_importNames (by decide) hnames)

/-! ## Methods -/

variable {operation : Operation}

lemma isInline_signature (h : IsWritable operation) : IsInline operation.signature := by
  refine isInline_commaList (List.forall_mem_cons.2 ⟨by decide, ?_⟩)
  refine List.forall_mem_map.2 fun parameter hp => ?_
  obtain ⟨hname, htype⟩ := h.parameters parameter hp
  exact isInline_append.2 ⟨isInline_append.2 ⟨hname.isInline, by decide⟩, htype.isInline⟩

lemma isInline_methodHeader (h : IsWritable operation) : IsInline (methodHeader operation) := by
  have hname := h.name.isInline
  have hsignature := isInline_signature h
  have hresult := h.returnType
  unfold methodHeader
  simp +decide [hname, hsignature, hresult]

lemma isInline_contractMethod (h : IsWritable operation) :
    ∀ line ∈ contractMethod operation, IsInline line := by
  have hheader := isInline_methodHeader h
  have hindent : IsInline "        " := by decide
  have hdoc := isInline_docLine hindent
    (operation.description ++ " (" ++ operation.method ++ " " ++ operation.path ++ ")")
  unfold contractMethod
  simp only [List.forall_mem_cons]
  exact ⟨by decide, hheader, hdoc, by decide⟩

lemma isInline_clientMethod (h : IsWritable operation) :
    ∀ line ∈ clientMethod operation, IsInline line := by
  have hheader := isInline_methodHeader h
  have hindent : IsInline "        " := by decide
  have hdoc := isInline_docLine hindent operation.description
  have hname := h.name.isInline
  have harguments : IsInline operation.callArguments :=
    isInline_commaList (List.forall_mem_map.2 fun parameter hp => (h.parameters parameter hp).1.isInline)
  have hcall : IsInline ("        return await self._api." ++ operation.name ++ "(" ++
      operation.callArguments ++ ")") := by
    simp +decide [hname, harguments]
  unfold clientMethod
  simp only [List.forall_mem_cons]
  exact ⟨by decide, hheader, hdoc, hcall, List.forall_mem_nil _⟩

lemma isInline_sendLine (h : IsWritable operation) : IsInline (sendLine operation) := by
  have hmethods : ∀ method ∈ Endpoint.supportedMethods, IsInline (lower method) := by decide
  have hmethod := hmethods operation.method h.method
  have hurl : IsInline (urlExpression operation) := by
    unfold urlExpression
    split
    · exact isInline_stringLiteral _
    · exact isInline_append.2 ⟨by decide, isInline_stringLiteral _⟩
  have hbody : ∀ argument ∈ bodyArgument operation, IsInline argument := by
    unfold bodyArgument
    split
    · decide
    · decide
    · decide
  have hpassed := isInline_commaList (List.forall_mem_cons.2 ⟨hurl, hbody⟩)
  unfold sendLine
  simp +decide [hmethod, hpassed]

lemma isInline_returnLine (h : IsWritable operation) : IsInline (returnLine operation) := by
  unfold returnLine
  split
  · decide
  · next model hmodel =>
    have hname := (h.model model hmodel).isInline
    split
    · simp +decide [hname]
    · simp +decide [hname]

lemma isInline_implementationMethod (h : IsWritable operation) :
    ∀ line ∈ implementationMethod operation, IsInline line := by
  have hheader := isInline_methodHeader h
  have hsend := isInline_sendLine h
  have hreturn := isInline_returnLine h
  unfold implementationMethod
  refine List.forall_mem_append.2 ⟨?_, ?_⟩
  · simp only [List.forall_mem_cons]
    exact ⟨by decide, hheader, hsend, List.forall_mem_nil _⟩
  · split
    · decide
    · simp only [List.forall_mem_cons]
      exact ⟨by decide, hreturn, List.forall_mem_nil _⟩

/-! ## Modules -/

variable {apiName stem baseUrl : String}

lemma isInline_contractClass (hname : IsInline apiName)
    (h : ∀ operation ∈ operations, IsWritable operation) :
    ∀ line ∈ contractClass apiName operations, IsInline line := by
  have hindent : IsInline "    " := by decide
  have hdoc := isInline_docLine hindent ("Operations exposed by the " ++ apiName ++ " API.")
  unfold contractClass
  refine List.forall_mem_append.2 ⟨?_, ?_⟩
  · simp +decide [contractName, hname, hdoc]
  · exact List.forall_mem_flatMap.2 fun operation ho => isInline_contractMethod (h operation ho)

lemma isInline_implementationClass (hname : IsInline apiName)
    (h : ∀ operation ∈ operations, IsWritable operation) :
    ∀ line ∈ implementationClass apiName operations, IsInline line := by
  have hindent : IsInline "    " := by decide
  have hdoc := isInline_docLine hindent
    (contractName apiName ++ " implementation backed by httpx.AsyncClient.")
  have himplementation : IsInline (implementationName apiName) := by
    simp +decide [implementationName, contractName, hname]
  unfold implementationClass
  refine List.forall_mem_append.2 ⟨?_, ?_⟩
  · simp +decide [himplementation, hdoc]
  · exact List.forall_mem_flatMap.2 fun operation ho => isInline_implementationMethod (h operation ho)

lemma isInline_clientClass (hname : IsInline apiName)
    (h : ∀ operation ∈ operations, IsWritable operation) :
    ∀ line ∈ clientClass apiName operations, IsInline line := by
  have hindent : IsInline "    " := by decide
  have hdoc := isInline_docLine hindent ("High-level client for the " ++ apiName ++ " API.")
  unfold clientClass
  refine List.forall_mem_append.2 ⟨?_, ?_⟩
  · simp +decide [clientName, contractName, hname, hdoc]
  · exact List.forall_mem_flatMap.2 fun operation ho => isInline_clientMethod (h operation ho)

lemma flush_or_eq_of_mem_contractModule (h : ∀ operation ∈ operations, IsWritable operation)
    {statement : Statement} (hs : statement ∈ contractModule apiName baseUrl operations) :
    statement.IsFlush ∨
      statement = .define (contractName apiName) (contractClass apiName operations) ∨
      statement = .define (implementationName apiName) (implementationClass apiName operations) := by
  have hmodels := isFlush_modelImports h
  simp only [contractModule, List.mem_append, List.mem_cons, List.not_mem_nil, or_false] at hs
  rcases hs with ((((((((rfl | rfl) | himport) | rfl | rfl) | hmodel) | hgap) | rfl) | hgap) | rfl)
  · exact .inl (isFlush_doc _)
  · exact .inl isFlush_blank
  · exact .inl (isFlush_importStatements _ _ _ himport)
  · exact .inl isFlush_blank
  · exact .inl (isFlush_importModule (by decide))
  · split at hmodel
    · exact absurd hmodel List.not_mem_nil
    · rcases List.mem_cons.1 hmodel with rfl | hmodel
      · exact .inl isFlush_blank
      · exact .inl (hmodels _ hmodel)
  · exact .inl (isFlush_gap _ hgap)
  · exact .inr (.inl rfl)
  · exact .inl (isFlush_gap _ hgap)
  · exact .inr (.inr rfl)

lemma flush_or_eq_of_mem_clientModule (hname : IsInline apiName) (hstem : IsInline stem)
    (h : ∀ operation ∈ operations, IsWritable operation) {statement : Statement}
    (hs : statement ∈ clientModule apiName stem operations) :
    statement.IsFlush ∨
      statement = .define (clientName apiName) (clientClass apiName operations) := by
  have hmodels := isFlush_modelImports h
  have hcontract : (Statement.importNames (contractSource stem) [contractName apiName] "").IsFlush := by
    refine isFlush_importNames ?_ (List.forall_mem_singleton.2 ?_)
    · exact isInline_append.2 ⟨isInline_append.2 ⟨by decide, hstem⟩, by decide⟩
    · exact isInline_append.2 ⟨hname, by decide⟩
  simp only [clientModule, List.mem_append, List.mem_cons, List.not_mem_nil, or_false] at hs
  rcases hs with ((((((rfl | rfl) | himport) | rfl | rfl | rfl | rfl) | hmodel) | hgap) | rfl)
  · exact .inl (isFlush_doc _)
  · exact .inl isFlush_blank
  · exact .inl (isFlush_importStatements _ _ _ himport)
  · exact .inl isFlush_blank
  · exact .inl (isFlush_importModule (by decide))
  · exact .inl isFlush_blank
  · exact .inl hcontract
  · exact .inl (hmodels _ hmodel)
  · exact .inl (isFlush_gap _ hgap)
  · exact .inr rfl

/-- Whatever is said about an API, the lines of its contract are lines. -/
theorem isInline_contractModule (hname : IsInline apiName)
    (h : ∀ operation ∈ operations, IsWritable operation) :
    ∀ line ∈ (contractModule apiName baseUrl operations).flatMap Statement.lines, IsInline line := by
  refine List.forall_mem_flatMap.2 fun statement hs => ?_
  rcases flush_or_eq_of_mem_contractModule h hs with hflush | rfl | rfl
  · exact hflush.isInline
  · exact isInline_contractClass hname h
  · exact isInline_implementationClass hname h

/-- Whatever is said about an API, the lines of its client are lines. -/
theorem isInline_clientModule (hname : IsInline apiName) (hstem : IsInline stem)
    (h : ∀ operation ∈ operations, IsWritable operation) :
    ∀ line ∈ (clientModule apiName stem operations).flatMap Statement.lines, IsInline line := by
  refine List.forall_mem_flatMap.2 fun statement hs => ?_
  rcases flush_or_eq_of_mem_clientModule hname hstem h hs with hflush | rfl
  · exact hflush.isInline
  · exact isInline_clientClass hname h

/-! ## How many lines -/

lemma typeTexts_undescribed (operations : List Operation) :
    (operations.map undescribed).flatMap typeTexts = operations.flatMap typeTexts :=
  List.flatMap_map undescribed typeTexts operations

lemma modelImports_undescribed (operations : List Operation) :
    modelImports (operations.map undescribed) = modelImports operations := by
  have hnames : modelNames (operations.map undescribed) = modelNames operations := by
    rw [modelNames, List.filterMap_map]
    rfl
  rw [modelImports, hnames, modelImports]

lemma length_flatMap_undescribed (lines : Operation → List String)
    (h : ∀ operation, (lines (undescribed operation)).length = (lines operation).length)
    (operations : List Operation) :
    ((operations.map undescribed).flatMap lines).length = (operations.flatMap lines).length := by
  simp only [List.length_flatMap, List.map_map, Function.comp_def, h]

lemma length_contractMethod (operation : Operation) : (contractMethod operation).length = 4 := rfl

lemma length_clientMethod (operation : Operation) : (clientMethod operation).length = 4 := rfl

lemma length_implementationMethod (operation : Operation) :
    (implementationMethod operation).length = if operation.method = "DELETE" then 4 else 5 := by
  unfold implementationMethod
  split <;> rfl

lemma length_contractClass (apiName : String) (operations : List Operation) :
    (contractClass apiName (operations.map undescribed)).length =
      (contractClass apiName operations).length := by
  have hmethods := length_flatMap_undescribed contractMethod
    (fun operation => by rw [length_contractMethod, length_contractMethod]) operations
  rw [contractClass, contractClass, List.length_append, List.length_append, hmethods]

lemma length_implementationClass (apiName : String) (operations : List Operation) :
    (implementationClass apiName (operations.map undescribed)).length =
      (implementationClass apiName operations).length := by
  have hmethods := length_flatMap_undescribed implementationMethod
    (fun operation => by
      rw [length_implementationMethod, length_implementationMethod]
      rfl) operations
  rw [implementationClass, implementationClass, List.length_append, List.length_append, hmethods]

lemma length_clientClass (apiName : String) (operations : List Operation) :
    (clientClass apiName (operations.map undescribed)).length =
      (clientClass apiName operations).length := by
  have hmethods := length_flatMap_undescribed clientMethod
    (fun operation => by rw [length_clientMethod, length_clientMethod]) operations
  rw [clientClass, clientClass, List.length_append, List.length_append, hmethods]

lemma lines_define (name : String) (lines : List String) :
    (Statement.define name lines).lines = lines := rfl

lemma length_lines_doc (text : String) : (Statement.doc text).lines.length = 1 := rfl

/-- The lines of a contract depend neither in number on what is said about its operations nor on the URL. -/
theorem length_contractModule (apiName baseUrl : String) (operations : List Operation) :
    ((contractModule apiName "" (operations.map undescribed)).flatMap Statement.lines).length =
      ((contractModule apiName baseUrl operations).flatMap Statement.lines).length := by
  unfold contractModule
  rw [typeTexts_undescribed, modelImports_undescribed]
  simp only [List.flatMap_append, List.length_append, List.flatMap_cons, List.flatMap_nil,
    length_lines_doc, lines_define, length_contractClass, length_implementationClass]

theorem length_clientModule (apiName stem : String) (operations : List Operation) :
    ((clientModule apiName stem (operations.map undescribed)).flatMap Statement.lines).length =
      ((clientModule apiName stem operations).flatMap Statement.lines).length := by
  unfold clientModule
  rw [typeTexts_undescribed, modelImports_undescribed]
  simp only [List.flatMap_append, List.length_append, List.flatMap_cons, List.flatMap_nil,
    lines_define, length_clientClass]

end RestConnector.Emit
