import GpuRecorder.Resource.Store

/-!
# Changes

What the owner of the shared objects can do to them, as data.  A change that makes an object gives
it the next identity.
-/

namespace GpuRecorder.Resource

open Native

/-- A change to the shared objects. -/
inductive Change where
  /-- Take an identity for an object that never changes. -/
  | takeIdentity
  | addBuffer (b : Buffer)
  | addTexture (t : Texture)
  | addSwapchain (images : Nat)
  | addAssembler (a : Assembler)
  | addLayout (s : Shader)
  | rebuildBuffer (id : ResourceId) (handle : Handle .buffer) (offset size : Nat)
  | setTexelView (id : ResourceId) (view : Handle .bufferView)
  | rebuildTexture (id : ResourceId) (image : Handle .image) (view : Handle .imageView)
      (width height : Nat)
  | setTextureLayout (id : ResourceId) (layout : ImageLayout)
  | showImage (swapchain : ResourceId) (index : Nat)
  | addStream (assembler buffer : ResourceId)
  | setParameters (assembler : ResourceId) (p : Draw.Parameters)
  | setVertexCount (assembler : ResourceId) (count : Nat)
  | setIndexCount (assembler : ResourceId) (count : Nat)
  | setInstanceCount (assembler : ResourceId) (count : Nat)
  | bind (layout : ResourceId) (r : Bindable) (set binding element : Nat)
  deriving Repr

namespace Store

/-- Make a change.  Only binding into a layout can be refused, and then nothing changes. -/
def apply (s : Store) : Change → Except DeviceError Unit × Store
  | .takeIdentity => (.ok (), s.fresh.2)
  | .addBuffer b => (.ok (), (s.addBuffer b).2)
  | .addTexture t => (.ok (), (s.addTexture t).2)
  | .addSwapchain images => (.ok (), (s.addSwapchain { images }).2)
  | .addAssembler a => (.ok (), (s.addAssembler a).2)
  | .addLayout shader => (.ok (), (s.addLayout (.ofShader shader)).2)
  | .rebuildBuffer id handle offset size =>
    (.ok (), s.modifyBuffer id (·.rebuild handle offset size))
  | .setTexelView id view => (.ok (), s.modifyBuffer id (·.setTexelView view))
  | .rebuildTexture id image view width height =>
    (.ok (), s.modifyTexture id (·.rebuild image view width height))
  | .setTextureLayout id layout => (.ok (), s.modifyTexture id (·.setLayout layout))
  | .showImage id index => (.ok (), s.modifySwapchain id fun c => { c with current := index })
  | .addStream id buffer => (.ok (), s.modifyAssembler id (·.addStream buffer))
  | .setParameters id p => (.ok (), s.modifyAssembler id (·.setParameters p))
  | .setVertexCount id count => (.ok (), s.modifyAssembler id (·.setVertexCount count))
  | .setIndexCount id count => (.ok (), s.modifyAssembler id (·.setIndexCount count))
  | .setInstanceCount id count => (.ok (), s.modifyAssembler id (·.setInstanceCount count))
  | .bind layout r set binding element => s.bindSlot layout r set binding element

/-- Identities are only ever taken, never given back. -/
theorem next_le_next_apply (s : Store) (c : Change) : s.next ≤ (s.apply c).2.next := by
  have bind_next : ∀ layout r set binding element,
      (s.bindSlot layout r set binding element).2.next = s.next := by
    intro layout r set binding element
    unfold bindSlot
    split <;> rfl
  cases c with
  | bind layout r set binding element =>
    exact Nat.le_of_eq (bind_next layout r set binding element).symm
  | _ => first | exact Nat.le_refl _ | exact Nat.le_succ _

end Store

end GpuRecorder.Resource
