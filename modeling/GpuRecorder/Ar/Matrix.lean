import GpuRecorder.Binary.Single

/-!
# Matrices

Four by four matrices, kept by columns as platforms and shaders have them.
-/

namespace GpuRecorder.Ar

open Binary

/-- A matrix by its columns. -/
structure Matrix where
  columns : List (List Single)
  deriving DecidableEq, Repr

namespace Matrix

/-- All entries, column after column. -/
def toList (m : Matrix) : List Single := m.columns.flatten

/-- The matrix with the given entries, column after column; what is missing is zero. -/
def ofList (l : List Single) : Matrix :=
  ⟨(List.range 4).map fun column => (List.range 4).map fun row =>
    l[4 * column + row]?.getD .zero⟩

def rows (m : Matrix) : List (List Single) :=
  (List.range 4).map fun row => m.columns.map fun column => column[row]?.getD .zero

/-- A diagonal matrix whose last column moves by three coordinates. -/
def ofDiagonal (x y z : Single) (move : List Single) : Matrix :=
  ⟨[[x, .zero, .zero, .zero], [.zero, y, .zero, .zero], [.zero, .zero, z, .zero],
    move ++ [.one]]⟩

example : (ofDiagonal .one .one .one [.zero, .zero, .nan]).rows =
    [[.one, .zero, .zero, .zero], [.zero, .one, .zero, .zero], [.zero, .zero, .one, .nan],
      [.zero, .zero, .zero, .one]] := by decide

end Matrix

end GpuRecorder.Ar
