import RestConnector.Proofs.Emit.Lines

/-!
# Methods in generated text

In the text of a module a method is found by the line that it begins with (`isHeader`), and the calls of the
contract by the line that makes them (`isContractCall`).  `methodsOf` reads the methods off the lines of a
module, each with the calls of the contract in it.

The contract and its implementation have one method for each operation (`headers_contractModule`).  So has the
client, behind three methods of its own, and each of these has one call of the contract in it
(`methodsOf_clientModule`).
-/

namespace RestConnector.Emit

open RestConnector.Operation RestConnector.Text

/-! ## Reading methods -/

/-- What a line begins with that begins an asynchronous method. -/
def headerStart : String := "    async def "

/-- What a line begins with that calls the contract and returns its result. -/
def contractCallStart : String := "        return await self._api."

/-- Whether a line begins an asynchronous method. -/
def isHeader (line : String) : Bool :=
  startsWith headerStart line

/-- Whether a line calls the contract. -/
def isContractCall (line : String) : Bool :=
  startsWith contractCallStart line

/-- The methods among some lines: the line that each begins with, and the calls of the contract on the
lines up to the next one. -/
def methodsOf : List String → List (String × List String)
  | [] => []
  | line :: rest =>
    if isHeader line then
      (line, (rest.takeWhile (!isHeader ·)).filter isContractCall) :: methodsOf rest
    else methodsOf rest

/-- Every header is that of a method, in order. -/
theorem map_fst_methodsOf (lines : List String) :
    (methodsOf lines).map Prod.fst = lines.filter isHeader := by
  induction lines with
  | nil => rfl
  | cons line rest ih => by_cases h : isHeader line <;> simp [methodsOf, h, ih]

/-- Whether a line has a part in what methods call the contract. -/
def isMethodLine (line : String) : Bool :=
  isHeader line || isContractCall line

lemma calls_filter_isMethodLine (lines : List String) :
    ((lines.filter isMethodLine).takeWhile (!isHeader ·)).filter isContractCall =
      (lines.takeWhile (!isHeader ·)).filter isContractCall := by
  induction lines with
  | nil => rfl
  | cons line rest ih =>
    by_cases hheader : isHeader line
    · simp [isMethodLine, hheader]
    · by_cases hcall : isContractCall line <;> simp [isMethodLine, hheader, hcall, ih]

/-- No other lines count. -/
theorem methodsOf_filter (lines : List String) :
    methodsOf (lines.filter isMethodLine) = methodsOf lines := by
  induction lines with
  | nil => rfl
  | cons line rest ih =>
    by_cases hheader : isHeader line
    · simp [isMethodLine, methodsOf, hheader, ih, calls_filter_isMethodLine]
    · by_cases hcall : isContractCall line <;> simp [isMethodLine, methodsOf, hheader, hcall, ih]

/-! ## Lines of classes -/

/-- The lines of the definitions among statements. -/
def Statement.defined : Statement → List String
  | .define _ lines => lines
  | .blank | .doc _ | .importModule _ | .importNames .. | .importBlock .. | .importAll _
  | .assign .. | .exports _ | .evaluate _ => []

/-- What is looked for with an indentation is found in classes only. -/
lemma filter_lines_eq {kept : String → Bool} (hkept : ∀ line, kept line → startsWith "    " line)
    {statements : List Statement}
    (h : ∀ statement ∈ statements,
      statement.IsFlush ∨ ∃ name lines, statement = .define name lines) :
    (statements.flatMap Statement.lines).filter kept =
      (statements.flatMap Statement.defined).filter kept := by
  rw [List.filter_flatMap, List.filter_flatMap]
  refine List.flatMap_congr fun statement hs => ?_
  rcases h statement hs with hflush | ⟨name, lines, rfl⟩
  · have hlines : statement.lines.filter kept = [] := by
      refine List.filter_eq_nil_iff.2 fun line hline hkeeps => ?_
      exact absurd (hkept line hkeeps) (by simp [hflush.flush line hline])
    have hdefined : statement.defined.Sublist statement.lines := by
      cases statement with
      | define name lines => exact List.Sublist.refl _
      | _ => exact List.nil_sublist _
    have hfilter := hdefined.filter kept
    rw [hlines] at hfilter
    rw [hlines, List.sublist_nil.1 hfilter]
  · rfl

lemma startsWith_indent {line : String} (h : isMethodLine line) : startsWith "    " line := by
  have hheader : startsWith "    " headerStart := by decide
  have hcall : startsWith "    " contractCallStart := by decide
  rcases Bool.or_eq_true_iff.1 h with hline | hline
  · exact startsWith_trans hheader hline
  · exact startsWith_trans hcall hline

@[simp] lemma defined_importStatements (imports : List (String × List String)) :
    (importStatements imports).flatMap Statement.defined = [] :=
  List.flatMap_eq_nil_iff.2 (List.forall_mem_map.2 fun _ _ => rfl)

@[simp] lemma defined_modelImports (operations : List Operation) :
    (modelImports operations).flatMap Statement.defined = [] := by
  unfold modelImports
  split <;> rfl

@[simp] lemma defined_gap : gap.flatMap Statement.defined = [] := rfl

lemma defined_contractModule (apiName baseUrl : String) (operations : List Operation) :
    (contractModule apiName baseUrl operations).flatMap Statement.defined =
      contractClass apiName operations ++ implementationClass apiName operations := by
  have hmodels : (if (modelImports operations).isEmpty then []
      else .blank :: modelImports operations).flatMap Statement.defined = [] := by
    split
    · rfl
    · rw [List.flatMap_cons, defined_modelImports]
      rfl
  simp only [contractModule, List.flatMap_append, hmodels, defined_importStatements, defined_gap]
  simp [Statement.defined]

lemma defined_clientModule (apiName stem : String) (operations : List Operation) :
    (clientModule apiName stem operations).flatMap Statement.defined =
      clientClass apiName operations := by
  simp only [clientModule, List.flatMap_append, defined_importStatements, defined_modelImports,
    defined_gap]
  simp [Statement.defined]

/-! ## Lines of methods -/

lemma isHeader_methodHeader (operation : Operation) : isHeader (methodHeader operation) := by
  have hstart : startsWith headerStart "    async def " := startsWith_self _
  unfold isHeader methodHeader
  rw [String.append_assoc, String.append_assoc, String.append_assoc, String.append_assoc,
    String.append_assoc]
  exact startsWith_append hstart _

/-- A line that begins otherwise than a header and than a call. -/
lemma isMethodLine_append {start : String}
    (hheader : startsWith headerStart start = false ∧ startsWith start headerStart = false)
    (hcall : startsWith contractCallStart start = false ∧ startsWith start contractCallStart = false)
    (more : String) : isMethodLine (start ++ more) = false := by
  rw [isMethodLine, isHeader, isContractCall, startsWith_append_of_ne hheader,
    startsWith_append_of_ne hcall]
  rfl

lemma isMethodLine_docLine {indent : String} (h : indent = "    " ∨ indent = "        ")
    (text : String) : isMethodLine (docLine indent text) = false := by
  rw [docLine, String.append_assoc]
  rcases h with rfl | rfl
  · exact isMethodLine_append (by decide) (by decide) _
  · exact isMethodLine_append (by decide) (by decide) _

lemma isHeader_eq_false {line : String} (h : isMethodLine line = false) : isHeader line = false :=
  (Bool.or_eq_false_iff.1 h).1

lemma headers_contractMethod (operation : Operation) :
    (contractMethod operation).filter isHeader = [methodHeader operation] := by
  have hblank : isHeader "" = false := by decide
  have hdoc := isHeader_eq_false (isMethodLine_docLine (.inr rfl)
    (operation.description ++ " (" ++ operation.method ++ " " ++ operation.path ++ ")"))
  have hbody : isHeader "        ..." = false := by decide
  simp [contractMethod, hblank, hdoc, hbody, isHeader_methodHeader]

lemma isHeader_append {start : String}
    (h : startsWith headerStart start = false ∧ startsWith start headerStart = false)
    (more : String) : isHeader (start ++ more) = false :=
  startsWith_append_of_ne h more

lemma isHeader_sendLine (operation : Operation) : isHeader (sendLine operation) = false := by
  unfold sendLine
  rw [String.append_assoc, String.append_assoc, String.append_assoc]
  exact isHeader_append (by decide) _

lemma isHeader_returnLine (operation : Operation) : isHeader (returnLine operation) = false := by
  unfold returnLine
  split
  · decide
  · split
    · rw [String.append_assoc]
      exact isHeader_append (by decide) _
    · rw [String.append_assoc]
      exact isHeader_append (by decide) _

lemma headers_implementationMethod (operation : Operation) :
    (implementationMethod operation).filter isHeader = [methodHeader operation] := by
  have hblank : isHeader "" = false := by decide
  have hsend := isHeader_sendLine operation
  have hreturn := isHeader_returnLine operation
  have hsuccess : isHeader "        return response.is_success" = false := by decide
  have hraise : isHeader "        response.raise_for_status()" = false := by decide
  unfold implementationMethod
  split <;> simp [hblank, hsend, hreturn, hsuccess, hraise, isHeader_methodHeader]

/-! ## Methods of the modules -/

lemma headers_contractClass (apiName : String) (operations : List Operation) :
    (contractClass apiName operations).filter isHeader = operations.map methodHeader := by
  have hclass : isHeader ("class " ++ contractName apiName ++ "(Protocol):") = false := by
    rw [String.append_assoc]
    exact isHeader_append (by decide) _
  have hdoc := isHeader_eq_false (isMethodLine_docLine (.inl rfl)
    ("Operations exposed by the " ++ apiName ++ " API."))
  rw [contractClass, List.filter_append, List.filter_flatMap]
  simp [hclass, hdoc, headers_contractMethod, List.map_eq_flatMap]

lemma headers_implementationClass (apiName : String) (operations : List Operation) :
    (implementationClass apiName operations).filter isHeader = operations.map methodHeader := by
  have hclass : isHeader ("class " ++ implementationName apiName ++ ":") = false := by
    rw [String.append_assoc]
    exact isHeader_append (by decide) _
  have hdoc := isHeader_eq_false (isMethodLine_docLine (.inl rfl)
    (contractName apiName ++ " implementation backed by httpx.AsyncClient."))
  have hblank : isHeader "" = false := by decide
  have hinit : isHeader "    def __init__(self, http: httpx.AsyncClient):" = false := by decide
  have hhttp : isHeader "        self._http = http" = false := by decide
  rw [implementationClass, List.filter_append, List.filter_flatMap]
  simp [hclass, hdoc, hblank, hinit, hhttp, headers_implementationMethod, List.map_eq_flatMap]

/-- The methods of the contract are those of the operations, and the implementation has them again. -/
theorem headers_contractModule (apiName baseUrl : String) {operations : List Operation}
    (h : ∀ operation ∈ operations, IsWritable operation) :
    ((contractModule apiName baseUrl operations).flatMap Statement.lines).filter isHeader =
      operations.map methodHeader ++ operations.map methodHeader := by
  have hkept : ∀ line, isHeader line → startsWith "    " line := by
    intro line hline
    exact startsWith_indent (by rw [isMethodLine, hline, Bool.true_or])
  have hstatements : ∀ statement ∈ contractModule apiName baseUrl operations,
      statement.IsFlush ∨ ∃ name lines, statement = .define name lines := by
    intro statement hs
    rcases flush_or_eq_of_mem_contractModule h hs with hflush | he | he
    · exact .inl hflush
    · exact .inr ⟨_, _, he⟩
    · exact .inr ⟨_, _, he⟩
  rw [filter_lines_eq hkept hstatements, defined_contractModule, List.filter_append,
    headers_contractClass, headers_implementationClass]

/-! ## The client -/

/-- The line on which the client calls the contract for an operation. -/
def contractCall (operation : Operation) : String :=
  contractCallStart ++ operation.name ++ "(" ++ operation.callArguments ++ ")"

/-- The headers of the methods by which a client is entered and left. -/
def lifecycleHeaders (apiName : String) : List String :=
  [ "    async def __aenter__(self) -> \"" ++ clientName apiName ++ "\":",
    "    async def __aexit__(self, exc_type, exc, tb) -> None:",
    "    async def aclose(self) -> None:" ]

lemma isHeader_lifecycleHeaders (apiName : String) :
    ∀ header ∈ lifecycleHeaders apiName, isHeader header := by
  refine List.forall_mem_cons.2 ⟨?_, by decide⟩
  have hstart : startsWith headerStart "    async def __aenter__(self) -> \"" := by decide
  rw [isHeader, String.append_assoc]
  exact startsWith_append hstart _

lemma isContractCall_contractCall (operation : Operation) :
    isContractCall (contractCall operation) := by
  unfold isContractCall contractCall
  rw [String.append_assoc, String.append_assoc, String.append_assoc]
  exact startsWith_append (startsWith_self _) _

lemma isHeader_contractCall (operation : Operation) : isHeader (contractCall operation) = false := by
  unfold contractCall
  rw [String.append_assoc, String.append_assoc, String.append_assoc]
  exact isHeader_append (by decide) _

lemma methodLines_clientMethod (operation : Operation) :
    (clientMethod operation).filter isMethodLine =
      [methodHeader operation, contractCall operation] := by
  have hblank : isMethodLine "" = false := by decide
  have hheader : isMethodLine (methodHeader operation) := by
    rw [isMethodLine, isHeader_methodHeader, Bool.true_or]
  have hdoc := isMethodLine_docLine (.inr rfl) operation.description
  have hcall : isMethodLine (contractCall operation) := by
    rw [isMethodLine, isContractCall_contractCall, Bool.or_true]
  have hlines : clientMethod operation =
      ["", methodHeader operation, docLine "        " operation.description,
        contractCall operation] := rfl
  rw [hlines]
  simp [hblank, hheader, hdoc, hcall]

lemma methodLines_clientClass (apiName : String) (operations : List Operation) :
    (clientClass apiName operations).filter isMethodLine = lifecycleHeaders apiName ++
      operations.flatMap fun operation => [methodHeader operation, contractCall operation] := by
  have henter : isMethodLine
      ("    async def __aenter__(self) -> \"" ++ clientName apiName ++ "\":") := by
    rw [isMethodLine, isHeader_lifecycleHeaders apiName _ List.mem_cons_self, Bool.true_or]
  have hclass : isMethodLine ("class " ++ clientName apiName ++ ":") = false := by
    rw [String.append_assoc]
    exact isMethodLine_append (by decide) (by decide) _
  have hdoc := isMethodLine_docLine (.inl rfl) ("High-level client for the " ++ apiName ++ " API.")
  have hinit : isMethodLine ("    def __init__(self, api: " ++ contractName apiName ++
      ", http: Optional[httpx.AsyncClient] = None):") = false := by
    rw [String.append_assoc]
    exact isMethodLine_append (by decide) (by decide) _
  have hclose := isMethodLine_docLine (.inr rfl)
    "Close the underlying transport, if the client owns one."
  have hmethods : ["    async def __aexit__(self, exc_type, exc, tb) -> None:",
      "    async def aclose(self) -> None:"].map isMethodLine = [true, true] := by decide
  have hothers : ["", "        self._api = api", "        self._http = http", "        return self",
      "        await self.aclose()", "        if self._http is not None:",
      "            await self._http.aclose()"].map isMethodLine = List.replicate 7 false := by
    decide
  simp only [List.map_cons, List.map_nil, List.replicate, List.cons.injEq, and_true] at hmethods hothers
  rw [clientClass, List.filter_append, List.filter_flatMap]
  simp [henter, hclass, hdoc, hinit, hclose, hmethods, hothers, lifecycleHeaders,
    methodLines_clientMethod]

lemma methodsOf_headers_append {headers rest : List String} (h : ∀ line ∈ headers, isHeader line)
    (hrest : rest.takeWhile (!isHeader ·) = []) :
    methodsOf (headers ++ rest) = headers.map (·, []) ++ methodsOf rest := by
  induction headers with
  | nil => rfl
  | cons header headers ih =>
    obtain ⟨hheader, hheaders⟩ := List.forall_mem_cons.1 h
    have hnext : (headers ++ rest).takeWhile (!isHeader ·) = [] := by
      cases headers with
      | nil => exact hrest
      | cons next headers => simp [hheaders next List.mem_cons_self]
    rw [List.cons_append, methodsOf, if_pos hheader, hnext, ih hheaders]
    rfl

/-- The methods of the client begin with their headers. -/
lemma takeWhile_operations (operations : List Operation) :
    (operations.flatMap fun operation =>
      [methodHeader operation, contractCall operation]).takeWhile (!isHeader ·) = [] := by
  cases operations with
  | nil => rfl
  | cons operation rest => simp [isHeader_methodHeader]

/-- Operation by operation, a method passes its arguments on. -/
lemma methodsOf_operations (operations : List Operation) :
    methodsOf (operations.flatMap fun operation =>
        [methodHeader operation, contractCall operation]) =
      operations.map fun operation => (methodHeader operation, [contractCall operation]) := by
  induction operations with
  | nil => rfl
  | cons operation rest ih =>
    simp [methodsOf, isHeader_methodHeader, isHeader_contractCall, takeWhile_operations,
      isContractCall_contractCall, ih]

/-- The client has three methods of its own, and then those of the contract. -/
theorem methodsOf_clientModule {apiName stem : String} (hname : IsInline apiName)
    (hstem : IsInline stem) {operations : List Operation}
    (h : ∀ operation ∈ operations, IsWritable operation) :
    methodsOf ((clientModule apiName stem operations).flatMap Statement.lines) =
      (lifecycleHeaders apiName).map (·, []) ++
        operations.map fun operation => (methodHeader operation, [contractCall operation]) := by
  have hstatements : ∀ statement ∈ clientModule apiName stem operations,
      statement.IsFlush ∨ ∃ name lines, statement = .define name lines := by
    intro statement hs
    rcases flush_or_eq_of_mem_clientModule hname hstem h hs with hflush | he
    · exact .inl hflush
    · exact .inr ⟨_, _, he⟩
  rw [← methodsOf_filter, filter_lines_eq (fun _ => startsWith_indent) hstatements,
    defined_clientModule, methodLines_clientClass,
    methodsOf_headers_append (isHeader_lifecycleHeaders apiName) (takeWhile_operations operations),
    methodsOf_operations]

end RestConnector.Emit
