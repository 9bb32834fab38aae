import RestConnector.Proofs.Generation.Names
import RestConnector.Proofs.Run.Course
import RestConnector.Proofs.Url.ApiName

/-!
# Preparing a configuration

A run begins by filling in the names that its configuration leaves open.  What is given stays as it is, apart
from blanks around the base URL, and afterwards no name is open, so that preparing once more changes nothing
(`IsPreparation`).

The package is named after the API, and its directory can be imported if this name is an identifier.  The
modules in the package are named after the API too, but by way of the name of a type, which never begins with
a digit; the package takes the API's own name.  So the module of the client can always be imported, and the
package exactly if the first word of the API's name does not begin with a digit (`prepare_fills_in`).  An API
that is named for its host has such a name; one that is called `3scale` has not (`package_of_numbered_api`).
-/

namespace RestConnector.Run

open RestConnector.Disk RestConnector.Emit RestConnector.Generation RestConnector.Name
  RestConnector.Text

/-! ## Names of packages -/

/-- Whether the first word of a name begins with a digit. -/
def HasInitialDigit (name : String) : Prop :=
  ∃ c, initial? name = some c ∧ isDecimal c

lemma not_hasInitialDigit {name : String} (h : HasInitialLetter name) : ¬ HasInitialDigit name := by
  rintro ⟨c, hc, hdecimal⟩
  obtain ⟨d, hd, hletter⟩ := h
  rw [hd, Option.some.injEq] at hc
  rw [← hc, hletter.not_isDecimal] at hdecimal
  cases hdecimal

/-- A package begins like the first word of the API's name, or with the underscore behind no word. -/
lemma head?_packageName (apiName : String) :
    (packageName apiName).toList.head? = some (((initial? apiName).map Char.toLower).getD '_') := by
  have hending : "_client".toList.head? = some '_' := rfl
  rw [packageName, String.toList_append, List.head?_append, Name.head?_snakeCase, hending]
  cases initial? apiName <;> rfl

lemma startsWithDigit_packageName_iff (apiName : String) :
    startsWithDigit (packageName apiName) ↔ HasInitialDigit apiName := by
  rw [startsWithDigit, head?_packageName, Option.any_some, HasInitialDigit]
  cases hinitial : initial? apiName with
  | none =>
    refine iff_of_false (by decide) ?_
    rintro ⟨c, hc, -⟩
    cases hc
  | some c =>
    rw [Option.map_some, Option.getD_some]
    have hword : isWordChar c := List.find?_some hinitial
    rcases isWordChar_iff.1 hword with hletter | hdecimal
    · simp [hletter.toLower.not_isDigit, hletter.not_isDecimal]
    · have hsame : c.toLower = c := by
        refine toLower_of_not_isUpper fun hupper => ?_
        rw [IsLetter.not_isDecimal (.inl hupper)] at hdecimal
        cases hdecimal
      simp [hsame, isDigit, hdecimal]

lemma isLegal_packageName_iff (apiName : String) :
    IsLegal (packageName apiName) ↔ ¬ HasInitialDigit apiName := by
  rw [← startsWithDigit_packageName_iff, Bool.not_eq_true]
  constructor
  · exact fun h => h.isIdentifier.no_digit
  · intro hdigit
    have hchars : IsWordy (packageName apiName) :=
      isWordy_append.2 ⟨isWordy_snakeCase apiName, by decide⟩
    exact ⟨⟨by simp [packageName], hchars, hdigit⟩,
      notMem_of_ending (by decide) (ending_append _ "_client")⟩

/-! ## Filling in -/

lemma orElse_of_ne_empty {text : String} (h : text ≠ "") (other : String) :
    orElse text other = text := by
  simp [orElse, h]

@[simp] lemma orElse_empty (other : String) : orElse "" other = other := by
  simp [orElse]

lemma orElse_ne_empty (text : String) {other : String} (h : other ≠ "") : orElse text other ≠ "" := by
  unfold orElse
  split
  · exact h
  · next hne => simpa using hne

/-- A place is always written with some text. -/
lemma toString_ne_empty (location : Location) : location.toString ≠ "" := by
  unfold Location.toString
  dsimp only
  split
  · decide
  · next hne => simpa using hne

lemma ne_empty_of_hasInitialLetter {name : String} (h : HasInitialLetter name) : name ≠ "" := by
  rintro rfl
  obtain ⟨c, hc, -⟩ := h
  cases hc

/-- The name that an API has for its host begins with a letter. -/
lemma hasInitialLetter_hostName (url : String) : HasInitialLetter (Url.apiName url "MyApi") :=
  Url.hasInitialLetter_apiName ⟨'M', by decide, by decide⟩ url

/-- What preparation makes of a configuration: what is given is kept, nothing but the names and the base URL
is touched, no name is left open, and there is nothing to prepare any more. -/
structure IsPreparation (settings : Settings) (config prepared : Configuration) : Prop where
  frame : prepared =
    { config with
      baseUrl := onChars trim config.baseUrl
      apiName := prepared.apiName
      packageName := prepared.packageName
      outputPath := prepared.outputPath }
  apiName_kept : config.apiName ≠ "" → prepared.apiName = config.apiName
  packageName_kept : config.packageName ≠ "" → prepared.packageName = config.packageName
  outputPath_kept : config.outputPath ≠ "" → prepared.outputPath = config.outputPath
  apiName_named : prepared.apiName ≠ ""
  packageName_named : prepared.packageName ≠ ""
  outputPath_named : prepared.outputPath ≠ ""
  again : prepare settings prepared = .ok prepared

variable {settings : Settings} {config prepared : Configuration}

lemma isPreparation_of_prepare (h : prepare settings config = .ok prepared) :
    IsPreparation settings config prepared := by
  have hagain := prepare_prepare h
  obtain rfl := eq_of_prepare h
  constructor
  case frame => rfl
  case apiName_kept => exact fun hne => orElse_of_ne_empty hne _
  case packageName_kept => exact fun hne => orElse_of_ne_empty hne _
  case outputPath_kept => exact fun hne => orElse_of_ne_empty hne _
  case apiName_named =>
    exact orElse_ne_empty _ (ne_empty_of_hasInitialLetter (hasInitialLetter_hostName _))
  case packageName_named => exact orElse_ne_empty _ (by simp [packageName])
  case outputPath_named => exact orElse_ne_empty _ (toString_ne_empty _)
  case again => exact hagain

lemma packageName_of_prepare (h : prepare settings config = .ok prepared)
    (hopen : config.packageName = "") : prepared.packageName = packageName prepared.apiName := by
  obtain rfl := eq_of_prepare h
  simp [hopen]

lemma apiName_of_prepare (h : prepare settings config = .ok prepared)
    (hopen : config.apiName = "") : HasInitialLetter prepared.apiName := by
  obtain rfl := eq_of_prepare h
  simp [hopen, hasInitialLetter_hostName]

/-- With a base URL, a configuration is prepared.  A package that is named in this way can be imported
exactly if the first word of the API's name does not begin with a digit, which it never does if the API is
named in this way as well.  The module of the client can be imported in any case. -/
theorem prepare_fills_in (settings : Settings) (hurl : ¬ isAllBlank config.baseUrl) :
    ∃ prepared, prepare settings config = .ok prepared ∧
      IsPreparation settings config prepared ∧
      (config.packageName = "" →
        (IsLegal prepared.packageName ↔ ¬ HasInitialDigit prepared.apiName) ∧
        (config.apiName = "" → IsLegal prepared.packageName)) ∧
      IsLegal (stemOf prepared ++ "_client") := by
  obtain ⟨prepared, hprepared⟩ := exists_prepare settings hurl
  refine ⟨prepared, hprepared, isPreparation_of_prepare hprepared, fun hopen => ?_,
    isLegal_stemOf_append prepared "_client" (by decide)⟩
  rw [packageName_of_prepare hprepared hopen, isLegal_packageName_iff]
  exact ⟨Iff.rfl, fun hnone => not_hasInitialDigit (apiName_of_prepare hprepared hnone)⟩

/-- What is known of an API before anything is found out, with blanks around its base URL. -/
def githubConfig : Configuration where
  baseUrl := " https://api.github.com "
  outputPath := "out"

theorem prepare_fills_in_github :
    ¬ isAllBlank githubConfig.baseUrl ∧
      ∃ prepared, prepare {} githubConfig = .ok prepared ∧
        prepared.baseUrl = "https://api.github.com" ∧ prepared.apiName = "Github" ∧
        prepared.packageName = "github_client" ∧ prepared.outputPath = "out" ∧
        IsLegal prepared.packageName ∧ prepare {} prepared = .ok prepared := by
  have hurl : ¬ isAllBlank githubConfig.baseUrl := by decide
  obtain ⟨prepared, hprepared, hfilled, hpackage, -⟩ := prepare_fills_in {} hurl
  have hnames : (prepare {} githubConfig).map (fun filled =>
      (filled.baseUrl, filled.apiName, filled.packageName, filled.outputPath)) =
      .ok ("https://api.github.com", "Github", "github_client", "out") := by
    decide
  rw [hprepared, Except.map, Except.ok.injEq, Prod.mk.injEq, Prod.mk.injEq, Prod.mk.injEq] at hnames
  obtain ⟨hbase, hapi, hname, hout⟩ := hnames
  exact ⟨hurl, prepared, hprepared, hbase, hapi, hname, hout, (hpackage rfl).2 rfl, hfilled.again⟩

/-- The package of an API whose name begins with a number cannot be imported. -/
theorem package_of_numbered_api :
    let config : Configuration := { baseUrl := "https://api.3scale.net", apiName := "3scale" }
    ¬ isAllBlank config.baseUrl ∧
      ∃ prepared, prepare {} config = .ok prepared ∧ prepared.packageName = "3_scale_client" ∧
        ¬ IsLegal prepared.packageName := by
  intro config
  have hurl : ¬ isAllBlank config.baseUrl := by decide
  obtain ⟨prepared, hprepared⟩ := exists_prepare {} hurl
  have hname : prepared.packageName = "3_scale_client" := by
    have hnames : (prepare {} config).map Configuration.packageName = .ok "3_scale_client" := by
      decide
    rwa [hprepared, Except.map, Except.ok.injEq] at hnames
  have hdigit : startsWithDigit "3_scale_client" := by decide
  refine ⟨hurl, prepared, hprepared, hname, fun hlegal => ?_⟩
  rw [hname] at hlegal
  rw [hlegal.isIdentifier.no_digit] at hdigit
  cases hdigit

end RestConnector.Run
