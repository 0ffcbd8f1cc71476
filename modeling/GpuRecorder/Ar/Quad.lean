import GpuRecorder.Ar.Matrix
import GpuRecorder.Binary.Bytes

/-!
# The full-screen quad

What the background draws: four corners with texture coordinates, two triangles over them, and a
uniform block that pushes the quad to the far plane.
-/

namespace GpuRecorder.Ar

open Binary

/-- Two triangles over the four corners. -/
def quadIndices : List Nat := [0, 2, 1, 1, 2, 3]

def minusOne : Single := .ofInt (-1)

/-- Bottom left, top left, bottom right, top right. -/
def corners : List (Single × Single) :=
  [(minusOne, minusOne), (minusOne, .one), (.one, minusOne), (.one, .one)]

/-- Position and texture coordinates of each corner. -/
def quadVerticesFrom : List (Single × Single) → List Single → List Single
  | (x, y) :: rest, u :: v :: coordinates => x :: y :: u :: v :: quadVerticesFrom rest coordinates
  | _, _ => []

/-- The vertices of the quad with the given texture coordinates, two for each corner. -/
def quadVertices (textureCoordinates : List Single) : List Single :=
  quadVerticesFrom corners textureCoordinates

/-- The contents of the uniform block. -/
structure QuadUniforms where
  transform : Matrix
  coordinates : Matrix
  deriving DecidableEq, Repr

/-- The quad turned towards the far plane and moved there; texture coordinates as they are. -/
def quadUniforms : QuadUniforms where
  transform := .ofDiagonal .one .one minusOne [.zero, .zero, minusOne]
  coordinates := .ofDiagonal .one .one .one [.zero, .zero, .zero]

/-! ## As bytes -/

def singleBytes (l : List Single) : List UInt8 := l.flatMap fun a => littleEndian 4 a.bits.toNat

def indexBytes : List UInt8 := quadIndices.flatMap (littleEndian 2)

def QuadUniforms.bytes (u : QuadUniforms) : List UInt8 :=
  singleBytes (u.transform.toList ++ u.coordinates.toList)

def vertexBytes (textureCoordinates : List Single) : List UInt8 :=
  singleBytes (quadVertices textureCoordinates)

@[simp] theorem length_singleBytes (l : List Single) : (singleBytes l).length = 4 * l.length := by
  induction l with
  | nil => rfl
  | cons a l ih =>
    simp only [singleBytes, List.flatMap_cons, List.length_append, length_littleEndian,
      List.length_cons] at ih ⊢
    omega

example : indexBytes = [0, 0, 2, 0, 1, 0, 1, 0, 2, 0, 3, 0] := by decide
example : quadUniforms.bytes.length = 128 := by decide +kernel

end GpuRecorder.Ar
