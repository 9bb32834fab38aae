import Mathlib.Data.List.Forall2
import RestConnector.Operation

/-!
# Plans of many endpoints

Numbering looks at the names of operations and changes nothing else: the operations of a list of
endpoints are, in order, the plans of the endpoints by themselves, each under a name of its own
(`forall₂_planAll`).  What a plan settles for one endpoint therefore holds in every list.
-/

namespace RestConnector.Operation

lemma resultType_plan (schemas : List (String × Schema.Model)) (endpoint : Endpoint) :
    (plan schemas endpoint).returnType = resultType (Text.upper endpoint.method)
      (!(Path.placeholders endpoint.path).isEmpty) (plan schemas endpoint).model := by
  rw [plan]

/-- Numbering renames operations, one by one and in order. -/
lemma forall₂_numberFrom (taken : List String) (operations : List Operation) :
    List.Forall₂ (fun planned operation => ∃ name, operation = { planned with name := name })
      operations (numberFrom taken operations) := by
  induction operations generalizing taken with
  | nil => exact .nil
  | cons operation rest ih => exact .cons ⟨_, rfl⟩ (ih _)

/-- The operations of a list of endpoints are their plans, under other names. -/
theorem forall₂_planAll (endpoints : List Endpoint) (schemas : List (String × Schema.Model)) :
    List.Forall₂
      (fun endpoint operation => ∃ name, operation = { plan schemas endpoint with name := name })
      endpoints (planAll endpoints schemas) :=
  List.forall₂_map_left_iff.1 (forall₂_numberFrom [] (endpoints.map (plan schemas)))

/-- An operation is the plan of one of the endpoints, under another name. -/
lemma exists_plan_of_mem_planAll {endpoints : List Endpoint} {schemas : List (String × Schema.Model)}
    {operation : Operation} (h : operation ∈ planAll endpoints schemas) :
    ∃ endpoint ∈ endpoints, ∃ name, operation = { plan schemas endpoint with name := name } := by
  obtain ⟨hlength, hget⟩ := List.forall₂_iff_get.1 (forall₂_planAll endpoints schemas)
  obtain ⟨i, hi, rfl⟩ := List.getElem_of_mem h
  exact ⟨_, List.getElem_mem (hlength ▸ hi), hget i (hlength ▸ hi) hi⟩

/-- What a name that is free does not change holds of all operations after numbering. -/
lemma forall_numberFrom {P : Operation → Prop}
    (hrename : ∀ operation taken, P operation →
      P { operation with name := Name.freshName taken operation.name })
    {operations : List Operation} (h : ∀ operation ∈ operations, P operation) (taken : List String) :
    ∀ operation ∈ numberFrom taken operations, P operation := by
  induction operations generalizing taken with
  | nil => exact fun _ hm => absurd hm List.not_mem_nil
  | cons first rest ih =>
    obtain ⟨hfirst, hrest⟩ := List.forall_mem_cons.1 h
    exact List.forall_mem_cons.2 ⟨hrename first taken hfirst, ih hrest _⟩

end RestConnector.Operation
