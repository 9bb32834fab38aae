import RestConnector.Proofs.Emit.Bindings

/-!
# Modules that import from one another

A generated module imports from libraries by their full names, and from the other modules of the connector
by a dot and a name.  The names behind the dots are its `siblings`.

The modules of the operations and the root module have siblings from a fixed list, which depends on the
name of the API only (`fixedSiblings`).
-/

namespace RestConnector.Emit

open RestConnector.Schema RestConnector.Text

/-! ## Siblings of a module -/

/-- The module that a statement imports names from. -/
def Statement.source? : Statement → Option String
  | .importNames source _ _ | .importBlock source _ | .importAll source => some source
  | .blank | .doc _ | .importModule _ | .assign _ _ | .exports _ | .evaluate _ | .define _ _ => none

/-- The name behind the dot of a relative import. -/
def sibling? (source : String) : Option String :=
  match source.toList with
  | '.' :: name => some (String.ofList name)
  | _ => none

/-- The modules that a module imports from relatively, in order. -/
def Module.siblings (module : Module) : List String :=
  (List.filterMap Statement.source? module).filterMap sibling?

@[simp] lemma sibling?_dot (name : String) : sibling? ("." ++ name) = some name := by
  simp [sibling?]

@[simp] lemma siblings_append (first second : List Statement) :
    Module.siblings (first ++ second) = Module.siblings first ++ Module.siblings second := by
  simp [Module.siblings]

@[simp] lemma siblings_cons (statement : Statement) (rest : List Statement) :
    Module.siblings (statement :: rest) =
      (statement.source?.bind sibling?).toList ++ Module.siblings rest := by
  cases h : statement.source? with
  | none => simp [Module.siblings, h]
  | some source => cases hs : sibling? source <;> simp [Module.siblings, h, hs]

@[simp] lemma siblings_nil : Module.siblings [] = [] := rfl

lemma siblings_eq_nil {module : Module}
    (h : ∀ statement ∈ module, statement.source?.bind sibling? = none) : module.siblings = [] := by
  induction module with
  | nil => rfl
  | cons statement rest ih =>
    obtain ⟨hfirst, hrest⟩ := List.forall_mem_cons.1 h
    rw [siblings_cons, hfirst, ih hrest]
    rfl

/-- Imports from libraries are absolute. -/
lemma sibling?_of_mem_importsFor {types extra : List String} {entry : String × List String}
    (h : entry ∈ importsFor types extra) : sibling? entry.1 = none := by
  have habsolute : ∀ entry ∈ importable, sibling? entry.1 = none := by decide
  simp only [importsFor, List.mem_filter, List.mem_map] at h
  obtain ⟨⟨source, hsource, rfl⟩, -⟩ := h
  exact habsolute source hsource

lemma siblings_importStatements {imports : List (String × List String)}
    (h : ∀ entry ∈ imports, sibling? entry.1 = none) :
    Module.siblings (importStatements imports) = [] := by
  apply siblings_eq_nil
  intro statement hs
  obtain ⟨entry, he, rfl⟩ := List.mem_map.1 hs
  exact h entry he

@[simp] lemma siblings_importsFor (types extra : List String) :
    Module.siblings (importStatements (importsFor types extra)) = [] :=
  siblings_importStatements fun _ he => sibling?_of_mem_importsFor he

@[simp] lemma siblings_gap : Module.siblings gap = [] := rfl

/-! ## Operations and the root -/

/-- The siblings that are not named for record types. -/
def fixedSiblings (stem : String) : List String :=
  ["models", stem ++ "_api", stem ++ "_client", stem ++ "_registration"]

lemma siblings_modelImports (operations : List Operation) (stem : String) :
    Module.siblings (modelImports operations) ⊆ fixedSiblings stem := by
  unfold modelImports
  split
  · exact List.nil_subset _
  · simp [Statement.source?, sibling?, fixedSiblings]

lemma siblings_contractModule (apiName baseUrl stem : String) (operations : List Operation) :
    Module.siblings (contractModule apiName baseUrl operations) ⊆ fixedSiblings stem := by
  have hmodels (models : List Statement) :
      Module.siblings (if models.isEmpty then [] else .blank :: models) = Module.siblings models := by
    cases models <;> rfl
  simp only [contractModule, siblings_append, hmodels, siblings_importsFor, siblings_gap]
  simpa [Statement.source?] using siblings_modelImports operations stem

lemma sibling?_contractSource (stem : String) :
    sibling? (contractSource stem) = some (stem ++ "_api") := by
  rw [contractSource, String.append_assoc, sibling?_dot]

lemma sibling?_clientSource (stem : String) :
    sibling? (clientSource stem) = some (stem ++ "_client") := by
  rw [clientSource, String.append_assoc, sibling?_dot]

lemma sibling?_registrationSource (stem : String) :
    sibling? (registrationSource stem) = some (stem ++ "_registration") := by
  rw [registrationSource, String.append_assoc, sibling?_dot]

lemma siblings_clientModule (apiName stem : String) (operations : List Operation) :
    Module.siblings (clientModule apiName stem operations) ⊆ fixedSiblings stem := by
  have hmodels := siblings_modelImports operations stem
  simp only [clientModule, siblings_append, siblings_importsFor, siblings_gap, siblings_cons,
    siblings_nil, Statement.source?, Option.bind_some, Option.bind_none, sibling?_contractSource]
  intro name hname
  simp only [Option.toList_some, Option.toList_none, List.nil_append, List.append_nil,
    List.mem_append, List.mem_singleton] at hname
  rcases hname with rfl | hname
  · simp [fixedSiblings]
  · exact hmodels hname

lemma siblings_registrationModule (apiName stem baseUrl : String) :
    Module.siblings (registrationModule apiName stem baseUrl) =
      [stem ++ "_api", stem ++ "_client"] := by
  have hlibraries : sibling? "dataclasses" = none ∧ sibling? "typing" = none := by decide
  simp [registrationModule, Statement.source?, hlibraries, sibling?_contractSource,
    sibling?_clientSource]

lemma siblings_packageImports (apiName stem : String) (artifact : Artifact) :
    Module.siblings (packageImports apiName stem artifact) ⊆ fixedSiblings stem := by
  cases artifact with
  | model => simp [packageImports, Statement.source?, sibling?, fixedSiblings]
  | contract =>
    simp [packageImports, Statement.source?, sibling?_contractSource, fixedSiblings]
  | client => simp [packageImports, Statement.source?, sibling?_clientSource, fixedSiblings]
  | registration =>
    simp [packageImports, Statement.source?, sibling?_registrationSource, fixedSiblings]
  | package => simp [packageImports]

lemma siblings_packageModule (apiName stem : String) (artifacts : List Artifact) :
    Module.siblings (packageModule apiName stem artifacts) ⊆ fixedSiblings stem := by
  have hflat (present : List Artifact) :
      Module.siblings (present.flatMap (packageImports apiName stem)) ⊆ fixedSiblings stem := by
    induction present with
    | nil => exact List.nil_subset _
    | cons artifact rest ih =>
      rw [List.flatMap_cons, siblings_append]
      exact List.append_subset.2 ⟨siblings_packageImports apiName stem artifact, ih⟩
  have hexports (names : List String) :
      Module.siblings (if names.isEmpty then [] else [.blank, .exports names]) = [] := by
    split <;> rfl
  simp only [packageModule, siblings_append, hexports]
  simpa [Statement.source?] using hflat (packaged.filter (· ∈ artifacts))

end RestConnector.Emit
