import RestConnector.Proofs.Json.Brackets
import RestConnector.Schema.Inference

/-!
# The look at a response before it is read

A response is read as JSON only if it is wrapped in brackets (`looksLikeJson`).  That look costs no model: what
is read to an array or to an object is wrapped in brackets, whatever blanks are around it, and nothing else
gives a model (`infer?_eq_bind`).  So a response gives a model exactly if it can be read, and what is read is an
object or an array that begins with one (`isSome_infer?_iff`).

The look takes more for a blank than the reader does.  This does no harm either, for a response with other
blanks than those of JSON around it passes and is then refused.
-/

namespace RestConnector.Schema

open RestConnector.Json

/-- A document that is an array or an object looks like one. -/
lemma looksLikeJson_of_read? {content : String} {value : Value} {opening closing : Char}
    (h : read? content = some value) (hb : brackets? value = some (opening, closing)) :
    looksLikeJson content := by
  obtain ⟨body, hbody⟩ := trim_of_readChars? h hb
  have hlast : (opening :: (body ++ [closing])).getLast? = some closing := by
    rw [← List.cons_append, List.getLast?_concat]
  simp only [looksLikeJson, hbody, hlast, List.head?_cons]
  cases value <;> cases hb <;> rfl

/-- What gives a model has brackets around it. -/
lemma exists_brackets_of_ofDocument? {name : String} {value : Value} {model : Model}
    (h : ofDocument? name value = some model) :
    ∃ opening closing, brackets? value = some (opening, closing) := by
  unfold ofDocument? at h
  split at h
  · exact ⟨_, _, rfl⟩
  · exact ⟨_, _, rfl⟩
  · cases h

/-- No model is lost by the look at a response. -/
lemma infer?_eq_bind (content path : String) :
    infer? content path = (read? content).bind (ofDocument? (Path.modelName path)) := by
  unfold infer?
  split
  · rfl
  · next hlook =>
    symm
    rw [Option.bind_eq_none_iff]
    intro value hread
    rw [Option.eq_none_iff_forall_ne_some]
    intro model hmodel
    obtain ⟨opening, closing, hb⟩ := exists_brackets_of_ofDocument? hmodel
    exact hlook (looksLikeJson_of_read? hread hb)

lemma isSome_ofDocument?_iff (name : String) (value : Value) :
    (ofDocument? name value).isSome ↔
      (∃ members, value = .object members) ∨ ∃ members rest, value = .array (.object members :: rest) := by
  unfold ofDocument?
  split
  · simp
  · simp
  · next hobject harray =>
    refine iff_of_false nofun ?_
    rintro (⟨members, rfl⟩ | ⟨members, rest, rfl⟩)
    · exact hobject members rfl
    · exact harray members rest rfl

/-- A response gives the model of what is read in it, as if it had not been looked at before; so it gives one
exactly if it is read to an object, or to an array that begins with an object. -/
theorem isSome_infer?_iff (content path : String) :
    infer? content path = (read? content).bind (ofDocument? (Path.modelName path)) ∧
      ((infer? content path).isSome ↔
        (∃ members, read? content = some (.object members)) ∨
          ∃ members rest, read? content = some (.array (.object members :: rest))) := by
  refine ⟨infer?_eq_bind content path, ?_⟩
  rw [infer?_eq_bind]
  cases read? content with
  | none => simp
  | some value => simpa using isSome_ofDocument?_iff (Path.modelName path) value

end RestConnector.Schema
