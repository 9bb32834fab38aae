import RestConnector.Proofs.Operation.Plan
import RestConnector.Proofs.Path.Parameter

/-!
# Signatures of operations

The parameters of a method must have different names: the receiver `self`, one parameter for each
placeholder of the path, and `body` for the methods that send one.  Nothing numbers the parameters, so
this is a matter of the path alone.  The signature of an operation is legal exactly when no two
placeholders have the same words, none has the word `self`, and none has the word `body` where a body is
sent (`signature_nodup_iff`).

A path that repeats a placeholder is enough to break the rule (`repeated_placeholder_not_nodup`).
-/

namespace RestConnector.Operation

open RestConnector.Path

/-- The names that the signature of an operation binds, the receiver first. -/
def signatureNames (operation : Operation) : List String :=
  "self" :: operation.parameters.map (·.1)

/-- What the placeholders of an endpoint's path must satisfy to be the parameters of one method. -/
structure HasDistinctPlaceholders (endpoint : Endpoint) : Prop where
  nodup : ((placeholders endpoint.path).map placeholderWords).Nodup
  ne_self : ∀ p ∈ placeholders endpoint.path, placeholderWords p ≠ ["self".toList]
  ne_body : Text.upper endpoint.method ∈ bodyMethods →
    ∀ p ∈ placeholders endpoint.path, placeholderWords p ≠ ["body".toList]

/-! ## The names as images of placeholders -/

/-- The receiver and the body are named as placeholders of these words would be. -/
lemma parameterName_self : parameterName "self" = "self" := by decide

lemma parameterName_body : parameterName bodyName = bodyName := by decide

lemma placeholderWords_self : placeholderWords "self" = ["self".toList] := by decide

lemma placeholderWords_body : placeholderWords bodyName = ["body".toList] := by decide

/-- The texts whose parameters a signature binds: the placeholders between the two fixed names. -/
def signatureTexts (endpoint : Endpoint) : List String :=
  "self" :: placeholders endpoint.path ++
    if Text.upper endpoint.method ∈ bodyMethods then [bodyName] else []

lemma signatureNames_plan (schemas : List (String × Schema.Model)) (endpoint : Endpoint)
    (name : String) :
    signatureNames { plan schemas endpoint with name := name } =
      (signatureTexts endpoint).map parameterName := by
  by_cases h : Text.upper endpoint.method ∈ bodyMethods <;>
    simp [signatureNames, signatureTexts, parameters, plan, parametersOf, h,
      parameterName_self, parameterName_body, Function.comp_def]

/-- Different words give different parameters, so names differ where words do. -/
lemma nodup_map_parameterName_iff (texts : List String) :
    (texts.map parameterName).Nodup ↔ (texts.map placeholderWords).Nodup := by
  induction texts with
  | nil => simp
  | cons text rest ih =>
    simp only [List.map_cons, List.nodup_cons, List.mem_map, ih, parameterName_eq_iff]

/-- A list between two different elements, the second of which may be left out. -/
lemma nodup_between_iff {α : Type} {a b : α} (hab : a ≠ b) (l : List α) (p : Prop) [Decidable p] :
    (a :: l ++ if p then [b] else []).Nodup ↔ l.Nodup ∧ a ∉ l ∧ (p → b ∉ l) := by
  by_cases hp : p
  · have hb : (l ++ [b]).Nodup ↔ l.Nodup ∧ b ∉ l := by
      rw [List.nodup_append_comm]
      simp [and_comm]
    simp only [hp, if_true, List.cons_append, List.nodup_cons, List.mem_append,
      List.mem_singleton, hb, forall_const]
    tauto
  · simp [hp, and_comm]

lemma nodup_signatureTexts_iff (endpoint : Endpoint) :
    ((signatureTexts endpoint).map placeholderWords).Nodup ↔ HasDistinctPlaceholders endpoint := by
  have hne : ["self".toList] ≠ ["body".toList] := by decide
  have hmap : (signatureTexts endpoint).map placeholderWords =
      ["self".toList] :: (placeholders endpoint.path).map placeholderWords ++
        if Text.upper endpoint.method ∈ bodyMethods then [["body".toList]] else [] := by
    rw [← placeholderWords_self, ← placeholderWords_body]
    by_cases h : Text.upper endpoint.method ∈ bodyMethods <;> simp [signatureTexts, h]
  rw [hmap, nodup_between_iff hne]
  constructor
  · rintro ⟨hnodup, hself, hbody⟩
    exact ⟨hnodup, fun p hp he => hself (he ▸ List.mem_map_of_mem hp),
      fun hb p hp he => hbody hb (he ▸ List.mem_map_of_mem hp)⟩
  · rintro ⟨hnodup, hself, hbody⟩
    refine ⟨hnodup, fun hm => ?_, fun hb hm => ?_⟩
    · obtain ⟨p, hp, he⟩ := List.mem_map.1 hm
      exact hself p hp he
    · obtain ⟨p, hp, he⟩ := List.mem_map.1 hm
      exact hbody hb p hp he

/-! ## Legal signatures -/

/-- The signature of every planned operation binds its names once exactly when the placeholders of the
endpoint have different words, none of them those of `self` or of a body that is sent. -/
theorem signature_nodup_iff (endpoints : List Endpoint) (schemas : List (String × Schema.Model)) :
    List.Forall₂
      (fun endpoint operation =>
        (signatureNames operation).Nodup ↔ HasDistinctPlaceholders endpoint)
      endpoints (planAll endpoints schemas) := by
  refine (forall₂_planAll endpoints schemas).imp ?_
  rintro endpoint _ ⟨name, rfl⟩
  rw [signatureNames_plan, nodup_map_parameterName_iff, nodup_signatureTexts_iff]

/-- A path that repeats a placeholder gives its method two parameters of one name. -/
theorem repeated_placeholder_not_nodup :
    (planAll [{ method := "GET", path := "/users/\x7bid\x7d/posts/\x7bid\x7d" }] []).map
      signatureNames = [["self", "id", "id"]] ∧ ¬ ["self", "id", "id"].Nodup := by
  decide +kernel

end RestConnector.Operation
