import GpuRecorder.Binary.Single

/-!
# Areas of the target

Rectangles and viewports in pixels.  A viewport's corner and size are integers until they reach
the driver, which takes floating numbers.
-/

namespace GpuRecorder.Draw

open Binary

/-- An area in pixels. -/
structure Rect where
  x : Int := 0
  y : Int := 0
  width : Nat := 0
  height : Nat := 0
  deriving DecidableEq, Repr, Inhabited

/-- An area in pixels with a depth range. -/
structure Viewport where
  left : Int
  top : Int
  width : Nat
  height : Nat
  minDepth : Single
  maxDepth : Single
  deriving DecidableEq, Repr, Inhabited

/-- A viewport as the driver takes it. -/
structure NativeViewport where
  x : Single
  y : Single
  width : Single
  height : Single
  minDepth : Single
  maxDepth : Single
  deriving DecidableEq, Repr, Inhabited

namespace Viewport

/-- The whole of a rectangle with the full depth range. -/
def ofRect (r : Rect) : Viewport := ⟨r.x, r.y, r.width, r.height, .zero, .one⟩

def toNative (v : Viewport) : NativeViewport where
  x := .ofInt v.left
  y := .ofInt v.top
  width := .ofInt v.width
  height := .ofInt v.height
  minDepth := v.minDepth
  maxDepth := v.maxDepth

/-- Another corner or size, or a depth more than rounding noise away. -/
def differs (a b : Viewport) : Bool :=
  a.left != b.left || a.top != b.top || a.width != b.width || a.height != b.height ||
    a.minDepth.differs b.minDepth || a.maxDepth.differs b.maxDepth

theorem differs_ofRect_self (r : Rect) : (ofRect r).differs (ofRect r) = false := by
  have h0 : Single.zero.differs .zero = false := Single.differs_self (by decide +kernel)
  have h1 : Single.one.differs .one = false := Single.differs_self (by decide +kernel)
  simp [differs, ofRect, h0, h1]

end Viewport

end GpuRecorder.Draw
