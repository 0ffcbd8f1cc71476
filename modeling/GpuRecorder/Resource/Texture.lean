import GpuRecorder.Native.Descriptor
import GpuRecorder.Resource.Table

/-!
# Textures and samplers
-/

namespace GpuRecorder.Resource

open Native

/-- The native image behind a texture, its view, and the layout it is sampled in. -/
structure TextureBacking where
  image : Handle .image := .null
  view : Handle .imageView := .null
  layout : ImageLayout := .shaderReadOnly
  deriving DecidableEq, Repr, Inhabited

/-- The colour aspect of an image. -/
def colorAspect : Nat := 1

structure Texture where
  format : Int := 0
  aspect : Nat := colorAspect
  backing : TextureBacking := {}
  width : Nat := 0
  height : Nat := 0
  /-- The number an external producer knows the image by, if it has one. -/
  externalId : Option Nat := none
  deriving DecidableEq, Repr, Inhabited

namespace Texture

/-- Point the texture at another image of another size; the layout stays. -/
def rebuild (t : Texture) (image : Handle .image) (view : Handle .imageView)
    (width height : Nat) : Texture :=
  { t with backing := { t.backing with image, view }, width, height }

def setLayout (t : Texture) (layout : ImageLayout) : Texture :=
  { t with backing := { t.backing with layout } }

end Texture

structure Sampler where
  id : ResourceId
  handle : Handle .sampler
  deriving DecidableEq, Repr, Inhabited

end GpuRecorder.Resource
