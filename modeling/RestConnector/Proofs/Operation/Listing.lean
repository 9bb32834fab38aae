import RestConnector.Proofs.Operation.Shape
import RestConnector.Proofs.Path.Placeholders

/-!
# Which paths are lists

Two stages ask whether reading a path lists what is there.  Discovery adds siblings to the endpoints that do,
and sampling asks for them; both go by the characters by which placeholders begin.  Planning goes by the
placeholders themselves, and makes an operation that returns a list.

Whatever is treated as a list before is planned as one.  The converse fails for a path with stray marks
only: it is planned as a list, but it gets no siblings and is never asked for, so that nothing is known about
its items (`isListing_iff_listsItems_iff`).  A time of day in a path is enough (`time_of_day_is_not_listed`).
-/

namespace RestConnector.Operation

open RestConnector.Path RestConnector.Schema RestConnector.Text

/-- What an operation deals with: the records of its schema, or anything. -/
def itemType (operation : Operation) : String :=
  (operation.model.map Model.recordName).getD "Any"

/-- Whether an operation returns a list of what it deals with. -/
def ListsItems (operation : Operation) : Prop :=
  operation.returnType = listOf operation.itemType

/-- No type is the type of its own lists. -/
lemma ne_listOf (typeText : String) : typeText ≠ listOf typeText := by
  intro h
  have hlength := congrArg String.length h
  simp only [listOf, String.length_append] at hlength
  have hbracket : "]".length = 1 := by decide
  omega

/-- An operation that reads returns a list exactly if its path has no placeholder. -/
lemma listsItems_plan_iff {endpoint : Endpoint} (hget : upper endpoint.method = "GET")
    (schemas : List (String × Model)) :
    (plan schemas endpoint).ListsItems ↔ placeholders endpoint.path = [] := by
  constructor
  · intro h
    by_contra hpath
    have hitem : (plan schemas endpoint).returnType = (plan schemas endpoint).itemType := by
      have hupper : upper "GET" = "GET" := by decide
      have hfull : (!(placeholders endpoint.path).isEmpty) = true := by simpa using hpath
      rw [resultType_plan, hget, hfull]
      simp [resultType, hupper, itemType]
    exact ne_listOf _ (hitem.symm.trans h)
  · exact fun hpath => returnType_plan hget hpath schemas

/-- Whether a path has placeholders is asked in two ways.  They disagree exactly about the paths with stray
marks only, where the one that goes by the marks sees placeholders that are not there.  So an endpoint that
reads a path is treated as a list by discovery and sampling only if it is planned as one, and not by all
three exactly if its path has stray marks only. -/
theorem isListing_iff_listsItems_iff (path : String) :
    (placeholders path ≠ [] ↔ HasPlaceholder path.toList) ∧
    (placeholders path ≠ [] → hasParameters path) ∧
    ((hasParameters path ↔ placeholders path ≠ []) ↔ ¬ HasStrayMark path.toList) ∧
    ∀ endpoint : Endpoint, endpoint.path = path → upper endpoint.method = "GET" → ∀ schemas,
      (endpoint.isListing → (plan schemas endpoint).ListsItems) ∧
      ((endpoint.isListing ↔ (plan schemas endpoint).ListsItems) ↔ ¬ HasStrayMark path.toList) := by
  refine ⟨placeholders_ne_nil_iff, hasParameters_of_placeholders,
    hasParameters_iff_placeholders_iff, ?_⟩
  rintro endpoint rfl hget schemas
  have hlisting : endpoint.isListing ↔ ¬ hasParameters endpoint.path := by
    simp [Endpoint.isListing, hget]
  rw [listsItems_plan_iff hget, hlisting, ← hasParameters_iff_placeholders_iff]
  refine ⟨fun hnone => ?_, not_iff_comm.trans Iff.comm⟩
  by_contra hsome
  exact hnone (hasParameters_of_placeholders hsome)

/-- In the path of the logs of a minute there is a colon, but no placeholder. -/
theorem time_of_day_is_not_listed :
    hasParameters "/logs/12:30" ∧ placeholders "/logs/12:30" = [] ∧
      ¬ ({ method := "GET", path := "/logs/12:30" } : Endpoint).isListing ∧
      (planAll [{ method := "GET", path := "/logs/12:30" }] []).map (·.returnType) = ["List[Any]"] := by
  decide

end RestConnector.Operation
