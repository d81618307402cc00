import MarkedVerse.Text.Blank
import MarkedVerse.Text.Width

/-!
# Wrapping

A text that is too wide for its column is broken into rows, between words where that is possible
and between grapheme clusters inside a word that is wider than the column.
-/

namespace MarkedVerse.Text

namespace Wrap

/-- Rows that are being filled: the full ones, the last first, and the open one with the cells
that it takes. -/
structure Rows where
  full : List Text
  row : Text
  used : Nat
  deriving DecidableEq, Repr

namespace Rows

/-- No rows yet. -/
def empty : Rows :=
  ⟨[], [], 0⟩

/-- Ends the open row, unless nothing is in it. -/
def close (r : Rows) : Rows :=
  if r.row.isEmpty then r else ⟨r.row :: r.full, [], 0⟩

/-- Adds a cluster of a word that is wider than the column. -/
def addCluster (column : Nat) (r : Rows) (cluster : Text) : Rows :=
  let w := clusterWidth cluster
  let r := if column < r.used + w then r.close else r
  ⟨r.full, r.row ++ cluster, r.used + w⟩

/-- Adds a word. -/
def addWord (column : Nat) (r : Rows) (word : Text) : Rows :=
  let w := width word
  if r.row.isEmpty && w ≤ column then ⟨r.full, word, w⟩
  else if !r.row.isEmpty && r.used + 1 + w ≤ column then
    ⟨r.full, r.row ++ ' ' :: word, r.used + 1 + w⟩
  else
    let r := r.close
    if w ≤ column then ⟨r.full, word, w⟩ else (clusters word).foldl (addCluster column) r

/-- All rows, in order. -/
def toList (r : Rows) : List Text :=
  r.close.full.reverse

end Rows

end Wrap

/-- The rows of a text in a column. A text that fits, and any text in a column without cells, is
one row and stays as it is. -/
def wrap (t : Text) (column : Nat) : List Text :=
  if column = 0 ∨ width t ≤ column then [t]
  else ((words t).foldl (Wrap.Rows.addWord column) .empty).toList

end MarkedVerse.Text
