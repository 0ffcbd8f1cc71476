import GpuRecorder.Recording.Buffer

/-!
# Binding layouts into a recording

Binding a layout delivers the data of its descriptors, taken from the current backings, in the
best way the device has: pushed through templates, or written into freshly allocated sets, through
templates where there are some and one by one elsewhere.  A layout whose slots are not the
shader's is refused, and so is one without a pipeline to bind it for.
-/

namespace GpuRecorder.Recording

open Native Resource

/-! ## 1. Deliveries -/

/-- The sets that a layout and a shader both have. -/
def sharedSets (l : Layout) (s : Shader) : Nat := min l.setCount s.sets.length

/-- The first shared set whose slots are not the shader's. -/
def mismatch? (l : Layout) (s : Shader) : Option Nat :=
  (List.range (sharedSets l s)).find? fun set => l.slots set != s.slots set

/-- Push a set through its template; without a template that is reported. -/
def pushSet (handle : Handle .commandBuffer) (s : Shader) (l : Layout) (set : Nat) : Effect :=
  match s.template? set with
  | some template =>
    .request (.record handle (.pushDescriptors template s.layout set (l.infos set)))
  | none => .report (.error s!"Shader '{s.name}' has no push descriptor template for set {set}")

/-- Write a set into a native one: through its template if that can be used, else one by one. -/
def writeSet (useTemplates : Bool) (s : Shader) (l : Layout) (native : Handle .descriptorSet)
    (set : Nat) : Script :=
  match (s.template? set).filter fun _ => useTemplates with
  | some template => [.request (.updateSet native template (l.infos set))]
  | none =>
    let writes := DescriptorWrite.ofSlots native (s.slots set) (l.infos set)
    if writes.isEmpty then [] else [.request (.writeDescriptors writes)]

/-- Write the first sets of a layout into native ones, in set order. -/
def writeSets (useTemplates : Bool) (s : Shader) (l : Layout)
    (natives : List (Handle .descriptorSet)) : Script :=
  (natives.zipIdx.map fun (native, set) => writeSet useTemplates s l native set).flatten

/-! ## 2. Resolving -/

section

variable {σ : Type} [Driver σ]

/-- A layout after it was resolved, and the outcome. -/
structure Resolution (σ : Type) where
  layout : Layout
  outcome : Device.Outcome σ (Except Failure Unit)

/-- Deliver the descriptors of a layout.  When no sets can be had, nothing was recorded. -/
def resolveLayout (d : Device σ) (handle : Handle .commandBuffer) (p : Pipeline) (l : Layout) :
    Resolution σ :=
  let s := p.shader
  let declared := s.sets.length
  let uneven : List Message :=
    if l.setCount = declared then []
    else
      [.warn s!"Binding layout has {l.setCount} sets, shader '{s.name}' declares {declared}"]
  let count := sharedSets l s
  if count = 0 then ⟨l, { answer := .ok (), device := d, messages := uneven }⟩
  else if d.capabilities.pushDescriptor then
    let played := d.play ((List.range count).map (pushSet handle s l))
    ⟨l, { answer := .ok (), device := played.device, messages := uneven ++ played.messages }⟩
  else
    let allocated := d.allocateSets (s.nativeLayouts count)
    let messages := uneven ++ allocated.messages
    match allocated.answer with
    | .error e => ⟨l, { answer := .error e, device := allocated.device, messages }⟩
    | .ok sets =>
      let l := l.storeSets (sets.take count)
      let natives := l.nativeSets.take count
      let script :=
        writeSets d.capabilities.descriptorUpdateTemplate s l natives ++
          .record handle [.bindDescriptorSets p.point s.layout 0 natives []]
      let played := allocated.device.play script
      ⟨l, { answer := .ok (), device := played.device, messages := messages ++ played.messages }⟩

/-! ## 3. Binding -/

/-- A command buffer and the store after a layout was bound, and the outcome. -/
structure LayoutBinding (σ : Type) where
  buffer : CommandBuffer
  store : Store
  outcome : Device.Outcome σ (Except Failure Unit)

namespace CommandBuffer

def layoutMismatch (l : Layout) (s : Shader) (set : Nat) : Message :=
  .error (s!"Command 'bind_binding_layout' got a layout whose set {set} does not match shader " ++
    s!"'{s.name}' ({(l.slots set).length} slots, expected {(s.slots set).length})")

/-- Bind a layout for the bound pipeline, unless it is the one that is bound.  Its data is
refreshed also when the delivery fails; it is bound only when the delivery succeeds. -/
def bindLayout (c : CommandBuffer) (d : Device σ) (store : Store) (id : ResourceId) :
    LayoutBinding σ :=
  let unchanged (messages : List Message) : LayoutBinding σ :=
    ⟨c, store, { answer := .ok (), device := d, messages }⟩
  match c.handle?, c.bindings.pipeline with
  | none, _ => unchanged [notReady "bind_binding_layout"]
  | some _, none =>
    unchanged [.error "Command 'bind_binding_layout' requires a bound pipeline state"]
  | some handle, some p =>
    if c.bindings.layout = some id then unchanged []
    else
      let l := store.layouts.get id
      match mismatch? l p.shader with
      | some set => unchanged [layoutMismatch l p.shader set]
      | none =>
        let r := resolveLayout d handle p (store.refreshed l)
        let store := store.setLayout id r.layout
        match r.outcome.answer with
        | .error _ => ⟨c, store, r.outcome⟩
        | .ok () => ⟨{ c with bindings := { c.bindings with layout := some id } }, store, r.outcome⟩

end CommandBuffer

end

/-- No shared set differs exactly when the slots agree on each of them. -/
theorem mismatch?_eq_none_iff {l : Layout} {s : Shader} :
    mismatch? l s = none ↔ ∀ set < sharedSets l s, l.slots set = s.slots set := by
  simp [mismatch?, List.find?_eq_none]

end GpuRecorder.Recording
