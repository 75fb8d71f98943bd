import RemoteDrive.Text.Decomposition
import RemoteDrive.Text.Mark

/-!
# The composed form of a text

Two texts that mean the same, character by character and mark by mark, have the same composed form:
every character is taken apart, the marks behind each are brought into the order of their classes,
and then each character takes up again what it can of the marks behind it. A mark is out of reach
behind another one of the same class, because the two could not have changed places.

No character below U+0300 has a part in this, so a text of those is left as it is.
-/

set_option autoImplicit false

namespace RemoteDrive.Text

/-- A character with its combining class. -/
structure Classed where
  char : Char
  rank : Nat

/-- Puts a character before others whose marks are in order, behind the marks that belong before
it. -/
def placeMark (x : Classed) : List Classed → List Classed
  | [] => [x]
  | y :: rest =>
    if 0 < y.rank && y.rank < x.rank then y :: placeMark x rest else x :: y :: rest

/-- The parts of all characters, with the marks in order. -/
def decomposed (s : List Char) : List Classed :=
  ((s.flatMap decompose).map fun c => ⟨c, combiningClass c⟩).foldr placeMark []

/-- The text of a character and the marks behind it, which are in reverse. -/
def clusterText (base : Char) (marks : List Classed) : List Char :=
  base :: marks.reverse.map Classed.char

/-- The composed text from the character `base` on, which has taken up what it can of the marks
before `s`; those it could not take up are `marks`, in reverse. -/
def composeFrom : Char → List Classed → List Classed → List Char
  | base, marks, [] => clusterText base marks
  | base, marks, x :: rest =>
    let isOutOfReach := marks.head?.any fun m => x.rank ≤ m.rank
    match if isOutOfReach then none else whole? base x.char with
    | some c => composeFrom c marks rest
    | none =>
      if x.rank = 0 then clusterText base marks ++ composeFrom x.char [] rest
      else composeFrom base (x :: marks) rest

/-- The composed form of a text. -/
def composed (s : List Char) : List Char :=
  if s.all (·.toNat < 0x300) then s
  else
    let parts := decomposed s
    let leading := parts.takeWhile fun x => x.rank ≠ 0
    leading.map Classed.char ++
      match parts.dropWhile fun x => x.rank ≠ 0 with
      | [] => []
      | x :: rest => composeFrom x.char [] rest

end RemoteDrive.Text
