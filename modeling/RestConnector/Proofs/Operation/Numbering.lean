import Mathlib.Data.List.Infix
import RestConnector.Proofs.Name.Fresh
import RestConnector.Proofs.Operation.Plan

/-!
# Numbers behind the names of operations

An operation keeps the name that its endpoint gives it if no operation in front of it has this name, and gets
the least number that makes it free otherwise (`IsNumbered`).  A number may make a name that another endpoint
would have by itself, in front or behind; what counts is which names are in use when its turn comes.

Only what is in front is looked at, so numbering a list and more behind it begins with numbering the list
(`numberFrom_append`).  Everything else follows from this: every operation is numbered against all in front of
it, no name comes twice, and endpoints that are added at the end rename nothing (`planAll_isNumbered`).
-/

namespace RestConnector.Operation

open RestConnector.Name

/-- Whether an operation gets a name behind operations with other names: that of its endpoint if it is free,
or else this name with the least number that makes it free. -/
inductive IsNumbered (earlier : List String) (base : String) : String → Prop where
  | plain : base ∉ earlier → IsNumbered earlier base base
  | numbered {k : Nat} :
    base ∈ earlier → IsLeastFree earlier base k → IsNumbered earlier base (numbered base k)

lemma isNumbered_freshName (earlier : List String) (base : String) :
    IsNumbered earlier base (freshName earlier base) := by
  by_cases h : base ∈ earlier
  · obtain ⟨k, hk, hname⟩ := exists_isLeastFree_of_mem h
    rw [hname]
    exact .numbered h hk
  · rw [freshName_of_notMem h]
    exact .plain h

/-- In which order the names are in use makes no difference. -/
lemma IsNumbered.congr {earlier others : List String} {base name : String}
    (h : IsNumbered earlier base name) (hsame : ∀ other, other ∈ earlier ↔ other ∈ others) :
    IsNumbered others base name := by
  cases h with
  | plain hfree => exact .plain (mt (hsame base).2 hfree)
  | numbered htaken hk => exact .numbered ((hsame base).1 htaken) (hk.congr hsame)

/-! ## Lists of operations -/

/-- The operations behind others are numbered against those. -/
lemma numberFrom_append (taken : List String) (operations more : List Operation) :
    numberFrom taken (operations ++ more) = numberFrom taken operations ++
      numberFrom (((numberFrom taken operations).map (·.name)).reverse ++ taken) more := by
  induction operations generalizing taken with
  | nil => rfl
  | cons operation rest ih =>
    rw [List.cons_append, numberFrom, numberFrom, ih]
    simp

lemma notMem_of_mem_numberFrom {taken : List String} {operations : List Operation} :
    ∀ operation ∈ numberFrom taken operations, operation.name ∉ taken := by
  induction operations generalizing taken with
  | nil => exact List.forall_mem_nil _
  | cons first rest ih =>
    refine List.forall_mem_cons.2 ⟨freshName_notMem taken first.name, fun operation hm htaken => ?_⟩
    exact ih operation hm (List.mem_cons_of_mem _ htaken)

/-- No name is given twice. -/
lemma nodup_names_numberFrom (taken : List String) (operations : List Operation) :
    ((numberFrom taken operations).map (·.name)).Nodup := by
  induction operations generalizing taken with
  | nil => exact List.nodup_nil
  | cons first rest ih =>
    refine List.nodup_cons.2 ⟨fun hm => ?_, ih _⟩
    obtain ⟨operation, ho, hname⟩ := List.mem_map.1 hm
    exact notMem_of_mem_numberFrom operation ho (hname ▸ List.mem_cons_self)

/-! ## Plans -/

section Plans

variable (endpoints more : List Endpoint) (schemas : List (String × Schema.Model))

lemma length_planAll : (planAll endpoints schemas).length = endpoints.length :=
  (forall₂_planAll endpoints schemas).length_eq.symm

lemma planAll_append :
    planAll (endpoints ++ more) schemas = planAll endpoints schemas ++
      numberFrom ((planAll endpoints schemas).map (·.name)).reverse (more.map (plan schemas)) := by
  rw [planAll, List.map_append, numberFrom_append, List.append_nil, ← planAll]

/-- The operation of an endpoint stands behind those of the endpoints in front, and is numbered against
them. -/
lemma exists_planAll_append_cons (endpoint : Endpoint) :
    ∃ name rest, planAll (endpoints ++ endpoint :: more) schemas =
        planAll endpoints schemas ++ { plan schemas endpoint with name := name } :: rest ∧
      IsNumbered ((planAll endpoints schemas).map (·.name)) (plan schemas endpoint).name name := by
  rw [planAll_append, List.map_cons, numberFrom]
  refine ⟨_, _, rfl, ?_⟩
  exact (isNumbered_freshName _ _).congr fun _ => List.mem_reverse

end Plans

/-- There is one operation for every endpoint, in order, and it is numbered against all operations in front
of it.  No two have one name, and more endpoints at the end leave all operations as they are. -/
theorem planAll_isNumbered (endpoints more : List Endpoint) (schemas : List (String × Schema.Model)) :
    (planAll endpoints schemas).length = endpoints.length ∧
      (∀ i : Fin endpoints.length, ∃ operation, (planAll endpoints schemas)[i.val]? = some operation ∧
        operation = { plan schemas endpoints[i] with name := operation.name } ∧
        IsNumbered (((planAll endpoints schemas).map (·.name)).take i) (plan schemas endpoints[i]).name
          operation.name) ∧
      ((planAll endpoints schemas).map (·.name)).Nodup ∧
      planAll endpoints schemas <+: planAll (endpoints ++ more) schemas := by
  refine ⟨length_planAll endpoints schemas, fun i => ?_, nodup_names_numberFrom [] _, ?_⟩
  · have hsplit : endpoints = endpoints.take i ++ endpoints[i] :: endpoints.drop (i + 1) := by
      rw [Fin.getElem_fin, ← List.drop_eq_getElem_cons i.isLt, List.take_append_drop]
    have hlength : (planAll (endpoints.take i) schemas).length = i := by
      rw [length_planAll, List.length_take]
      omega
    obtain ⟨name, rest, hplan, hnumbered⟩ :=
      exists_planAll_append_cons (endpoints.take i) (endpoints.drop (i + 1)) schemas endpoints[i]
    rw [← hsplit] at hplan
    refine ⟨{ plan schemas endpoints[i] with name := name }, ?_, rfl, ?_⟩
    · rw [hplan, List.getElem?_append_right hlength.le, hlength, Nat.sub_self, List.getElem?_cons_zero]
    · rwa [hplan, List.map_append, List.take_append_of_le_length (by simp [hlength]),
        List.take_of_length_le (by simp [hlength])]
  · rw [planAll_append]
    exact List.prefix_append _ _

-- The number of the second name makes the third endpoint's own.
example : (planAll (["/users", "/users", "/users2"].map fun path => { method := "GET", path }) []).map
    (·.name) = ["get_all_users", "get_all_users_2", "get_all_users_2_2"] := by
  decide +kernel

end RestConnector.Operation
