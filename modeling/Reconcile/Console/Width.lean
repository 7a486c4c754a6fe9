import Reconcile.Console.WidthTable
import Reconcile.Text.Ranges

/-!
# Columns of a console

How many columns a text takes. Two characters bear on their neighbours: a joiner
puts the character after it into the place of the one before, and a picture
selector may give the character before it a second column. Characters that stand
in one place make a cluster, and a text is only ever cut between clusters. Main
statement: the clusters of a text are the text.
-/

namespace Reconcile.Console

/-- The number of columns that a character takes by itself. -/
def charWidth (c : Char) : Nat :=
  if Text.inRanges zeroWidthRanges c then 0
  else if Text.inRanges doubleWidthRanges c then 2
  else 1

/-- The character that puts the next one into the place of the one before. -/
def joiner : Char := '\u200D'

/-- The character after which a character is shown as a picture. -/
def pictureSelector : Char := '\uFE0F'

/-- How many columns `c`, the last character with columns of its own, gains by
being shown as a picture. -/
def pictureGain (c : Option Char) : Nat := if c.any (Text.inRanges pictureRanges) then 1 else 0

/-- The number of columns of a text, where `last` is the last character before it
that has columns of its own and is not shown as a picture. -/
def widthAfter (last : Option Char) : List Char → Nat
  | [] => 0
  | c :: rest =>
    if c = joiner then
      match rest with
      | [] => 0
      | _ :: rest => widthAfter last rest
    else if c = pictureSelector then pictureGain last + widthAfter none rest
    else if charWidth c = 0 then widthAfter last rest
    else charWidth c + widthAfter (some c) rest

/-- The number of columns that a text takes. -/
def width (s : List Char) : Nat := widthAfter none s

/-! ## Clusters -/

/-- Characters that stand in one place, and the columns of that place. -/
structure Cluster where
  chars : List Char
  width : Nat
deriving DecidableEq, Inhabited

/-- The clusters of a text, where `current` is the cluster before it, still open,
and `last` the last character with columns of its own. -/
def clustersAfter (current : Option Cluster) (last : Option Char) : List Char → List Cluster
  | [] => current.toList
  | c :: rest =>
    match current with
    | none =>
      clustersAfter (some ⟨[c], charWidth c⟩) (if charWidth c = 0 then last else some c) rest
    | some place =>
      if c = joiner then
        match rest with
        | [] => [{ place with chars := place.chars ++ [c] }]
        | joined :: rest =>
          clustersAfter (some { place with chars := place.chars ++ [c, joined] }) last rest
      else if c = pictureSelector then
        let gain := pictureGain last
        clustersAfter (some ⟨place.chars ++ [c], place.width + gain⟩)
          (if gain = 0 then last else none) rest
      else if charWidth c = 0 then
        clustersAfter (some { place with chars := place.chars ++ [c] }) last rest
      else place :: clustersAfter (some ⟨[c], charWidth c⟩) (some c) rest

/-- The clusters of a text. -/
def clusters (s : List Char) : List Cluster := clustersAfter none none s

theorem flatMap_clustersAfter (current : Option Cluster) (last : Option Char) (s : List Char) :
    (clustersAfter current last s).flatMap Cluster.chars =
      (current.map Cluster.chars).getD [] ++ s := by
  fun_induction clustersAfter current last s with
  | case1 current => cases current <;> simp
  | _ => simp_all

/-- The clusters of a text are the text. -/
theorem flatMap_clusters (s : List Char) : (clusters s).flatMap Cluster.chars = s := by
  simp [clusters, flatMap_clustersAfter]

/-- The clusters at the front that fit in a number of columns. A cluster that
would reach beyond them gives its place to a blank. -/
def takeColumns (columns : Nat) : List Cluster → List Char
  | [] => []
  | cluster :: rest =>
    if columns = 0 then []
    else if cluster.width ≤ columns then
      cluster.chars ++ takeColumns (columns - cluster.width) rest
    else [' ']

/-- A text cut off after a number of columns. -/
def cut (columns : Nat) (s : List Char) : List Char := takeColumns columns (clusters s)

/-- Rows of clusters that each fit in a number of columns, where `row` is begun
and takes `used` of them. -/
def rowsAfter (columns : Nat) (row : List Char) (used : Nat) : List Cluster → List (List Char)
  | [] => if used = 0 then [] else [row]
  | cluster :: rest =>
    if columns < used + cluster.width then
      row :: rowsAfter columns cluster.chars cluster.width rest
    else rowsAfter columns (row ++ cluster.chars) (used + cluster.width) rest

/-- A text in rows that each fit in a number of columns. -/
def chopped (columns : Nat) (s : List Char) : List (List Char) :=
  rowsAfter columns [] 0 (clusters s)

end Reconcile.Console
