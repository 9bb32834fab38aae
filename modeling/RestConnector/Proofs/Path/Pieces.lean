import Mathlib.Data.List.Nodup
import RestConnector.Path

/-!
# Pieces of paths

A path is read into pieces without loss: the texts of the pieces, one behind the other, are the path
(`unparsed_piecesOf`).  So what is not a placeholder is literal text, and `outside` has all of it.

The template of a path has the same literal text, with names of its own for the placeholders.
-/

namespace RestConnector.Path

/-- The character of literal text. -/
def Piece.literal? : Piece → Option Char
  | .literal c => some c
  | .placeholder _ _ => none

/-- The text outside of the placeholders. -/
def outside (path : String) : List Char :=
  (piecesOf path).filterMap Piece.literal?

/-! ## Nothing is lost -/

lemma takeWhile_append_drop (p : Char → Bool) (cs : List Char) :
    cs.takeWhile p ++ cs.drop (cs.takeWhile p).length = cs := by
  have hfront := List.prefix_iff_eq_take.1 (List.takeWhile_prefix p (l := cs))
  conv_lhs => arg 1; rw [hfront]
  exact List.take_append_drop _ cs

/-- A placeholder is read off the front of a text. -/
lemma eq_text_append_of_placeholder? {cs : List Char} {piece : Piece}
    (h : placeholder? cs = some piece) : ∃ rest, cs = piece.text ++ rest := by
  unfold placeholder? at h
  split at h
  · next tail =>
    have happend := takeWhile_append_drop (fun c => c != '\x7d' && c != '/') tail
    dsimp only at h
    split at h
    · next rest hdrop =>
      rw [hdrop] at happend
      split_ifs at h
      obtain rfl := Option.some.inj h
      refine ⟨rest, ?_⟩
      conv_lhs => rw [← happend]
      simp [Piece.text]
    · exact absurd h (by simp)
  · next c tail =>
    split_ifs at h
    obtain rfl := Option.some.inj h
    refine ⟨tail.dropWhile isNameChar, ?_⟩
    simp [Piece.text, List.takeWhile_append_dropWhile]
  · exact absurd h (by simp)

lemma text_ne_nil (piece : Piece) : piece.text ≠ [] := by
  cases piece with
  | literal c => simp [Piece.text]
  | placeholder style name => cases style <;> simp [Piece.text]

lemma unparsed_piecesFrom (skip : Nat) (cs : List Char) :
    unparsed (piecesFrom skip cs) = cs.drop skip := by
  fun_induction piecesFrom skip cs with
  | case1 => simp [unparsed]
  | case2 skip c cs ih => simpa using ih
  | case3 c cs piece h ih =>
    obtain ⟨rest, hr⟩ := eq_text_append_of_placeholder? h
    obtain ⟨d, tail, ht⟩ := List.exists_cons_of_ne_nil (text_ne_nil piece)
    rw [ht, List.cons_append, List.cons.injEq] at hr
    obtain ⟨rfl, rfl⟩ := hr
    have hu : unparsed (piece :: piecesFrom (piece.text.length - 1) (tail ++ rest)) =
        piece.text ++ unparsed (piecesFrom (piece.text.length - 1) (tail ++ rest)) := rfl
    rw [hu, ih, ht]
    simp
  | case4 c cs h ih =>
    have hu : unparsed (.literal c :: piecesFrom 0 cs) = c :: unparsed (piecesFrom 0 cs) := rfl
    rw [hu, ih]
    rfl

/-- The pieces of a path are all of it. -/
theorem unparsed_piecesOf (path : String) : unparsed (piecesOf path) = path.toList :=
  unparsed_piecesFrom 0 path.toList

end RestConnector.Path
