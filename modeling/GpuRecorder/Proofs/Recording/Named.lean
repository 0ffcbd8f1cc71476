import GpuRecorder.Proofs.Native.Names
import GpuRecorder.Proofs.Recording.Moved

/-!
# Recording under other names

An operation that sends a script looks at no handle that the driver handed out: a command buffer
whose native buffer goes by another name sends the same script under other names.  The store keeps
no such handle either, but for the native sets of layouts, which nothing reads.
-/

namespace GpuRecorder.Resource.Store

open Native Resource

/-- The second store differs in the native sets of its layouts only. -/
structure SameButSets (s s' : Store) : Prop where
  same : ∃ layouts, s' = { s with layouts }
  sets : ∀ id, (s'.layouts.get id).sets = (s.layouts.get id).sets
  sound : ∀ id, (s.layouts.get id).Sound
  sound' : ∀ id, (s'.layouts.get id).Sound

namespace SameButSets

variable {s s' : Store}

theorem refl (sound : ∀ id, (s.layouts.get id).Sound) : s.SameButSets s :=
  ⟨⟨_, rfl⟩, fun _ => rfl, sound, sound⟩

theorem alike (h : s.SameButSets s') : s.Alike s' := by
  obtain ⟨layouts, rfl⟩ := h.same
  refine ⟨fun _ => rfl, fun _ => rfl, fun _ => rfl, fun _ => rfl, fun id => ?_⟩
  rw [Layout.contents, h.sets, Layout.contents]

theorem refreshed (h : s.SameButSets s') (id : ResourceId) :
    (s'.refreshed (s'.layouts.get id)).sets = (s.refreshed (s.layouts.get id)).sets := by
  have hsets := h.sets id
  obtain ⟨layouts, rfl⟩ := h.same
  exact congrArg (List.map _) hsets

theorem refreshArrays (h : s.SameButSets s') (id : ResourceId) :
    (s.refreshArrays id).2.SameButSets (s'.refreshArrays id).2 := by
  obtain ⟨layouts, rfl⟩ := h.same
  exact ⟨⟨_, rfl⟩, h.sets, h.sound, h.sound'⟩

/-- Layouts that differ in their native sets only are put in the same place. -/
theorem setLayout (h : s.SameButSets s') (id : ResourceId) {l l' : Layout} (hsets : l'.sets = l.sets)
    (hsound : l.Sound) (hsound' : l'.Sound) :
    (s.setLayout id l).SameButSets (s'.setLayout id l') := by
  have lookup (other : ResourceId) :
      (other = id ∧ (s.setLayout id l).layouts.get other = l ∧
          (s'.setLayout id l').layouts.get other = l') ∨
        ((s.setLayout id l).layouts.get other = s.layouts.get other ∧
          (s'.setLayout id l').layouts.get other = s'.layouts.get other) := by
    by_cases heq : other = id
    · rw [heq]
      exact Or.inl ⟨rfl, Table.get_set_self _ _ _, Table.get_set_self _ _ _⟩
    · exact Or.inr ⟨Table.get_set_of_ne _ heq _, Table.get_set_of_ne _ heq _⟩
  obtain ⟨same, sets, sound, sound'⟩ := h
  refine ⟨?_, fun other => ?_, fun other => ?_, fun other => ?_⟩
  · obtain ⟨layouts, rfl⟩ := same
    exact ⟨_, rfl⟩
  · rcases lookup other with ⟨_, h, h'⟩ | ⟨h, h'⟩
    · rw [h, h', hsets]
    · rw [h, h', sets]
  · rcases lookup other with ⟨_, h, _⟩ | ⟨h, _⟩
    · rwa [h]
    · rw [h]
      exact sound other
  · rcases lookup other with ⟨_, _, h'⟩ | ⟨_, h'⟩
    · rwa [h']
    · rw [h']
      exact sound' other

theorem addLayout (h : s.SameButSets s') (shader : Shader) :
    (s.addLayout (.ofShader shader)).2.SameButSets (s'.addLayout (.ofShader shader)).2 := by
  have hset := h.setLayout ⟨s.next⟩ (l := .ofShader shader) rfl (Layout.sound_ofShader shader)
    (Layout.sound_ofShader shader)
  obtain ⟨layouts, rfl⟩ := h.same
  exact ⟨⟨_, rfl⟩, hset.sets, hset.sound, hset.sound'⟩

theorem bind_of_sets_eq {l l' : Layout} (h : l'.sets = l.sets) (r : Bindable)
    (set binding element : Nat) :
    l'.bind r set binding element =
      (l.bind r set binding element).map fun m => { l' with sets := m.sets } := by
  unfold Layout.bind
  rw [h]
  split
  · rfl
  · split <;> rfl

theorem bindSlot (h : s.SameButSets s') (layout : ResourceId) (r : Bindable)
    (set binding element : Nat) :
    (s'.bindSlot layout r set binding element).1 = (s.bindSlot layout r set binding element).1 ∧
      (s.bindSlot layout r set binding element).2.SameButSets
        (s'.bindSlot layout r set binding element).2 := by
  have hbind := bind_of_sets_eq (h.sets layout) r set binding element
  unfold Store.bindSlot
  rw [hbind]
  cases hl : (s.layouts.get layout).bind r set binding element with
  | error e => exact ⟨rfl, h⟩
  | ok l =>
    rw [hl] at hbind
    exact ⟨rfl, h.setLayout layout rfl ((Layout.bind_spec hl).2 (h.sound layout))
      ((Layout.bind_spec hbind).2 (h.sound' layout))⟩

/-- A change is answered the same and makes no other difference. -/
theorem apply (h : s.SameButSets s') (c : Change) :
    (s'.apply c).1 = (s.apply c).1 ∧ (s.apply c).2.SameButSets (s'.apply c).2 := by
  cases c with
  | addLayout shader => exact ⟨rfl, h.addLayout shader⟩
  | bind layout r set binding element => exact h.bindSlot layout r set binding element
  | _ =>
    obtain ⟨layouts, rfl⟩ := h.same
    exact ⟨rfl, ⟨_, rfl⟩, h.sets, h.sound, h.sound'⟩

end SameButSets

end GpuRecorder.Resource.Store

namespace GpuRecorder.Recording

open Draw Native Resource

def NativeBuffer.named (f : Names) (n : NativeBuffer) : NativeBuffer :=
  { n with handle := f.commandBuffer n.handle }

namespace CommandBuffer

def named (f : Names) (c : CommandBuffer) : CommandBuffer :=
  { c with native := c.native.map (NativeBuffer.named f) }

variable {f : Names}

@[simp] theorem handle?_named (c : CommandBuffer) :
    (c.named f).handle? = c.handle?.map f.commandBuffer := by
  rw [handle?, named, Option.map_map, handle?, Option.map_map]
  rfl

@[simp] theorem isReady_named (c : CommandBuffer) : (c.named f).isReady = c.isReady :=
  Option.isSome_map

/-- What is sent, under other names. -/
def sentAs (f : Names) (r : CommandBuffer × Script) : CommandBuffer × Script :=
  (r.1.named f, r.2.named f)

theorem withNative_named (c : CommandBuffer) {command : String}
    {g g' : Handle .commandBuffer → CommandBuffer × Script}
    (h : ∀ b, g' (f.commandBuffer b) = sentAs f (g b)) :
    (c.named f).withNative command g' = sentAs f (c.withNative command g) := by
  unfold withNative
  rw [handle?_named]
  cases c.handle? with
  | none => rfl
  | some b => exact h b

/-! ## Executing other buffers -/

theorem readyHandles_named (children : List CommandBuffer) :
    readyHandles (children.map (named f)) = (readyHandles children).map f.commandBuffer := by
  unfold readyHandles
  rw [List.filterMap_map, List.map_filterMap]
  exact List.filterMap_congr fun c _ => handle?_named c

theorem execute_named (c : CommandBuffer) (children : List CommandBuffer) :
    (c.named f).execute (children.map (named f)) = sentAs f (c.execute children) := by
  have hfilter (p : CommandBuffer → Bool) (hp : ∀ c : CommandBuffer, p (c.named f) = p c) :
      (children.map (named f)).filter p = (children.filter p).map (named f) := by
    rw [List.filter_map]
    exact congrArg _ (List.filter_congr fun c _ => hp c)
  have hskipped : skipped (children.map (named f)) = skipped children := by
    unfold skipped
    rw [hfilter _ fun c => congrArg not (isReady_named c), List.map_map]
    rfl
  unfold execute
  simp only [List.isEmpty_map, hfilter _ isReady_named, List.foldl_map, hskipped,
    readyHandles_named]
  split
  · rfl
  · refine withNative_named c fun b => ?_
    refine Prod.ext rfl ?_
    show skipped children ++ _ = Script.named f (skipped children ++ _)
    rw [Script.named_append, Script.named_of_quiet (requests_skipped children), Script.named_record]
    split <;> rfl

/-! ## Operations with an answer or an effect on the store -/

theorem answer_updateBuffer_named {s s' : Store} (h : s.SameButSets s') (c : CommandBuffer)
    (buffer : ResourceId) (offset : Nat) (data : List UInt8) :
    ((c.named f).updateBuffer s' buffer offset data).1 = (c.updateBuffer s buffer offset data).1 := by
  have hopen : (c.named f).passIsOpen = c.passIsOpen := rfl
  unfold updateBuffer
  rw [handle?_named]
  cases c.handle? with
  | none => rfl
  | some b =>
    simp only [Option.map_some, hopen, h.alike.backing]
    split
    · rfl
    · split
      · rfl
      · split <;> rfl

theorem answer_copyToTexture_named {s s' : Store} (h : s.SameButSets s') (c : CommandBuffer)
    (sources : List ResourceId) (texture : ResourceId) (regions : List CopyRegion) :
    ((c.named f).copyToTexture s' sources texture regions).1 =
      (c.copyToTexture s sources texture regions).1 := by
  have hopen : (c.named f).passIsOpen = c.passIsOpen := rfl
  have hstop : copyStop? s' sources regions = copyStop? s sources regions := by
    simp only [copyStop?, startOverflows, h.alike.start]
  unfold copyToTexture
  rw [handle?_named]
  cases c.handle? with
  | none => rfl
  | some b =>
    simp only [Option.map_some, hopen, hstop]
    split
    · rfl
    · split
      · rfl
      · split <;> rfl

theorem store_bindAssembler_named {s s' : Store} (h : s.SameButSets s') (c : CommandBuffer)
    (id : ResourceId) :
    (c.bindAssembler s id).1.SameButSets ((c.named f).bindAssembler s' id).1 := by
  have hbindings : (c.named f).bindings = c.bindings := rfl
  unfold bindAssembler
  rw [handle?_named]
  cases c.handle? with
  | none => exact h
  | some b =>
    simp only [Option.map_some, hbindings]
    split
    · exact h
    · exact h.refreshArrays id

/-! ## Operations that send a script -/

/-- A script that records into one buffer and executes no others is the same on another buffer and
under other names. -/
theorem moved_eq_named {b : Handle .commandBuffer} {s : Script}
    (h : ∀ r ∈ s.requests, ∃ x, r = .record b x ∧ x.sort ≠ .execution) :
    s.moved (f.commandBuffer b) f.descriptorSet = s.named f := by
  refine List.map_congr_left fun e he => ?_
  cases e with
  | report m => rfl
  | request r =>
    obtain ⟨x, rfl, hx⟩ := h r (List.mem_filterMap.2 ⟨_, he, rfl⟩)
    cases x with
    | executeCommands buffers => exact absurd rfl hx
    | _ => rfl

section

variable {σ τ : Type} {c : CommandBuffer} {d : Device σ} {d' : Device τ} {s s' : Store}
  {op : Operation}

theorem scripted_of_capabilities (capable : d'.capabilities = d.capabilities) :
    c.scripted? d' s op = c.scripted? d s op := by
  cases op with
  | draw id => rw [scripted?, scripted?, capable]
  | _ => rfl

/-- Without a native buffer there is nothing to rename. -/
theorem scripted_of_not_ready (h : c.native = none) (hop : ∀ children, op ≠ .execute children) :
    c.scripted? d s' op = (c.scripted? d s op).map (sentAs f) := by
  have hnamed : c.named f = c := by rw [named, h, Option.map_none, ← h]
  have hwith (command : String) (g g' : Handle .commandBuffer → CommandBuffer × Script) :
      some (c.withNative command g') = (some (c.withNative command g)).map (sentAs f) := by
    rw [withNative_of_not_ready h, withNative_of_not_ready h, Option.map_some, sentAs, hnamed]
    rfl
  cases op with
  | execute children => exact absurd rfl (hop children)
  | bindAssembler id =>
    simp only [scripted?, bindAssembler, handle?, h, Option.map_none, Option.map_some, sentAs,
      hnamed]
    rfl
  | updateBuffer buffer offset data =>
    simp only [scripted?, updateBuffer, handle?, h, Option.map_none, Option.map_some, sentAs,
      hnamed]
    rfl
  | beginPass p => exact hwith _ _ _
  | endPass => exact hwith _ _ _
  | bindPipeline p => exact hwith _ _ _
  | set x => exact hwith _ _ _
  | copyToTexture sources texture regions =>
    simp only [scripted?, copyToTexture, handle?, h, Option.map_none, Option.map_some, sentAs,
      hnamed]
    rfl
  | draw id => exact hwith _ _ _
  | _ => rfl

/-- An operation that sends a script sends the same one under other names. -/
theorem scripted_named [Driver σ] (same : s.SameButSets s') (capable : d'.capabilities = d.capabilities)
    (hop : ∀ children, op ≠ .execute children) :
    (c.named f).scripted? d' s' op = (c.scripted? d s op).map (sentAs f) := by
  rw [scripted_of_capabilities capable]
  cases hn : c.native with
  | none =>
    rw [show c.named f = c by rw [named, hn, Option.map_none, ← hn]]
    exact scripted_of_not_ready hn hop
  | some n =>
    rw [show c.named f = c.on (n.named f) c.queue by rw [named, hn]; rfl,
      scripted_on (f := f.descriptorSet) hn same.alike rfl]
    cases hr : c.scripted? d s op with
    | none => rfl
    | some r =>
      refine congrArg some (Prod.ext ?_ ?_)
      · have hleaves := leaves_scripted hr
        show r.1.on (n.named f) c.queue = r.1.named f
        rw [on, named, hleaves.native, hn, hleaves.queue]
        rfl
      · show r.2.moved (f.commandBuffer n.handle) f.descriptorSet = r.2.named f
        apply moved_eq_named
        intro r' hr'
        rcases records_scripted hr with hnone | ⟨b, commands, hb, hrequests, hsorts⟩
        · rw [hnone] at hr'
          cases hr'
        · rw [handle?_of_native hn] at hb
          cases hb
          rw [hrequests] at hr'
          obtain ⟨x, hx, rfl⟩ := List.mem_map.1 hr'
          refine ⟨x, rfl, fun hsort => ?_⟩
          have hmem := (hsorts x hx).1
          rw [hsort] at hmem
          cases op <;> simp [Operation.sorts] at hmem
          exact hop _ rfl

end

end CommandBuffer

/-- An operation under other names: only buffers that are to be executed have any. -/
def Operation.named (f : Names) : Operation → Operation
  | .execute children => .execute (children.map (CommandBuffer.named f))
  | op => op

end GpuRecorder.Recording
