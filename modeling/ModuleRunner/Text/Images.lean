/-!
# Tables of images

A table that gives some code points a short text each.  Code points with an image mostly have
neighbours with one, so a table is a list of stretches: where each starts, and the images from there
on.

* `Stretch` — neighbours with their images.
* `imageIn?` — the image of a code point.
* `imageIn?_append` — a table in two parts is asked part by part.
-/

namespace ModuleRunner.Text

/-- Neighbours with their images. -/
structure Stretch where
  /-- The first code point. -/
  first : Nat
  /-- The images of the first code point and of those behind it. -/
  images : List (List Nat)

/-- The image of a code point of a stretch. -/
def Stretch.image? (s : Stretch) (n : Nat) : Option (List Nat) :=
  if s.first ≤ n then s.images[n - s.first]? else none

/-- The image that a table gives a code point. -/
def imageIn? (table : List Stretch) (n : Nat) : Option (List Nat) :=
  table.findSome? (·.image? n)

/-- A table in two parts is asked part by part. -/
theorem imageIn?_append (some other : List Stretch) (n : Nat) :
    imageIn? (some ++ other) n = (imageIn? some n).or (imageIn? other n) := by
  simp [imageIn?, List.findSome?_append]

/-- Every code point of a table with its image. -/
def entries (table : List Stretch) : List (Nat × List Nat) :=
  table.flatMap fun s => s.images.zipIdx.map fun (image, i) => (s.first + i, image)

/-- Code points as characters. -/
def ofPoints (points : List Nat) : List Char := points.map Char.ofNat

end ModuleRunner.Text
