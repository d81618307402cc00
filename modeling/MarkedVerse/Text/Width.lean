import MarkedVerse.Text.Cluster
import MarkedVerse.Text.Width.Table

/-!
# Display width

The width of a text is the number of terminal cells that it takes. It is measured by grapheme
clusters, and no cluster takes more than two cells, however many characters it is made of.
-/

namespace MarkedVerse.Text

/-- A control character of ASCII or of its extension up to U+009F. -/
def isControl (c : Char) : Bool :=
  c.toNat < 0x20 || (0x7F ≤ c.toNat && c.toNat ≤ 0x9F)

/-- The cells that a character takes on its own. -/
def charWidth (c : Char) : Nat :=
  if isControl c then 0
  else if inRanges c.toNat Width.zeroRanges then 0
  else if inRanges c.toNat Width.wideRanges then 2
  else 1

/-- The cells that a cluster takes: those of its characters together, but at most two. -/
def clusterWidth (cluster : Text) : Nat :=
  if cluster.all isControl then 0 else min (total charWidth cluster) 2

/-- The cells that a text takes. -/
def width (t : Text) : Nat :=
  total clusterWidth (clusters t)

end MarkedVerse.Text
