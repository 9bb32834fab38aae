import RestConnector.Text.Sorted

/-!
# Similar texts

Two texts are compared by the characters they share in order: the longest block that both contain
counts, and so do the blocks that are found in the same way in what lies before it on both sides and in
what lies behind it. Of several longest blocks, the one that begins earliest in the first text is
taken, and then the one that begins earliest in the second.

The `Likeness` of two texts is the number of shared characters, each of them in both texts, among all
characters. Texts are similar from three fifths on, and `closest` picks the most similar ones.
-/

namespace RestConnector.Text

/-- How many characters two texts have in common at their front. -/
def commonFront : List Char → List Char → Nat
  | a :: as, b :: bs => if a = b then commonFront as bs + 1 else 0
  | _, _ => 0

/-- A block of characters that two texts have in common. -/
structure SharedBlock where
  /-- Where it begins in the first text. -/
  first : Nat
  /-- Where it begins in the second text. -/
  second : Nat
  length : Nat
deriving DecidableEq, Repr

/-- The longer of two blocks; of two that are equally long, the one that was found first. -/
def SharedBlock.orLonger (block next : SharedBlock) : SharedBlock :=
  if block.length < next.length then next else block

/-- The longest block of two texts. -/
def longestBlock (a b : List Char) : SharedBlock :=
  (List.range a.length).foldl (fun best i =>
    (List.range b.length).foldl (fun best j =>
      best.orLonger ⟨i, j, commonFront (a.drop i) (b.drop j)⟩) best) ⟨0, 0, 0⟩

/-- How many characters two texts share, if the first of them has at most `bound` characters. -/
def sharedWithin : (bound : Nat) → List Char → List Char → Nat
  | 0, _, _ => 0
  | bound + 1, a, b =>
    let block := longestBlock a b
    if block.length = 0 then 0
    else
      sharedWithin bound (a.take block.first) (b.take block.second) + block.length +
      sharedWithin bound (a.drop (block.first + block.length))
        (b.drop (block.second + block.length))

/-- A text with its likeness to another. -/
structure Likeness where
  text : String
  /-- The number of shared characters. -/
  shared : Nat
  /-- The number of characters of both texts. -/
  total : Nat
deriving DecidableEq, Repr

/-- Compares a text with a word. -/
def likeness (word text : String) : Likeness :=
  { text
    shared := sharedWithin text.length text.toList word.toList
    total := text.length + word.length }

/-- Whether the shared characters are three fifths of all. -/
def Likeness.isClose (likeness : Likeness) : Bool :=
  3 * likeness.total ≤ 10 * likeness.shared

/-- Whether one text is more like the word than another; of two that are equally like it, the later
one in the order of code points goes first. -/
def Likeness.exceeds (x y : Likeness) : Bool :=
  y.shared * x.total < x.shared * y.total ||
    (x.shared * y.total == y.shared * x.total && Sorted.precedes y.text x.text)

/-- The texts, at most three, that are most similar to a word. -/
def closest (word : String) (texts : List String) : List String :=
  ((Sorted.sort Likeness.exceeds ((texts.map (likeness word)).filter Likeness.isClose)).take 3).map
    Likeness.text

end RestConnector.Text
