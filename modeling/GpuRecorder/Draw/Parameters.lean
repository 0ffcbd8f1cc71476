/-!
# Parameters of draws and copies
-/

namespace GpuRecorder.Draw

/-- A direct draw.  A count of zero vertices or indices stands for "all there are", and zero
instances for one. -/
structure Parameters where
  vertexCount : Nat := 0
  firstVertex : Nat := 0
  indexCount : Nat := 0
  firstIndex : Nat := 0
  vertexOffset : Int := 0
  instanceCount : Nat := 0
  firstInstance : Nat := 0
  deriving DecidableEq, Repr, Inhabited

/-- A point of an image. -/
structure Offset3 where
  x : Int := 0
  y : Int := 0
  z : Int := 0
  deriving DecidableEq, Repr, Inhabited

/-- A size in texels. -/
structure Extent3 where
  width : Nat := 0
  height : Nat := 0
  depth : Nat := 0
  deriving DecidableEq, Repr, Inhabited

/-- One region of a copy from a buffer to a texture.  A row length or image height of zero means
tightly packed; zero layers count as one. -/
structure CopyRegion where
  bufferOffset : Nat := 0
  rowLength : Nat := 0
  imageHeight : Nat := 0
  offset : Offset3 := {}
  extent : Extent3 := {}
  mipLevel : Nat := 0
  baseLayer : Nat := 0
  layerCount : Nat := 0
  deriving DecidableEq, Repr, Inhabited

/-- The layers a region covers. -/
def CopyRegion.layers (r : CopyRegion) : Nat := max 1 r.layerCount

/-- Which side of a polygon a stencil setting is for. -/
inductive Face where
  | front
  | back
  deriving DecidableEq, Repr, Inhabited

/-- The driver's bit for a face. -/
def Face.bit : Face → Nat
  | .front => 1
  | .back => 2

/-- One setting for each face. -/
structure PerFace (α : Type) where
  front : α
  back : α
  deriving DecidableEq, Repr, Inhabited

namespace PerFace

variable {α : Type}

def get (p : PerFace α) : Face → α
  | .front => p.front
  | .back => p.back

def set (p : PerFace α) : Face → α → PerFace α
  | .front, a => { p with front := a }
  | .back, a => { p with back := a }

@[simp] theorem get_set_self (p : PerFace α) (f : Face) (a : α) : (p.set f a).get f = a := by
  cases f <;> rfl

theorem get_set_of_ne (p : PerFace α) {f g : Face} (h : f ≠ g) (a : α) :
    (p.set f a).get g = p.get g := by
  cases f <;> cases g <;> first | rfl | exact absurd rfl h

end PerFace

end GpuRecorder.Draw
