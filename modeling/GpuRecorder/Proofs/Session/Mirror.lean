import GpuRecorder.Proofs.Device.Asking
import GpuRecorder.Proofs.Device.Mirror
import GpuRecorder.Proofs.Recording.Named
import GpuRecorder.Proofs.Session.Driving

/-!
# The recorder over two drivers

Over a driver that gives the same answers under other names the recorder does the same under other
names: it answers and reports the same, remembers the same, and asks the driver for the same in the
same order.
-/

namespace GpuRecorder

open Native Resource Recording Device

namespace Native

/-- A push, which some drivers do not know. -/
def Request.pushes : Request → Bool
  | .record _ (.pushDescriptors _ _ _ _) => true
  | _ => false

end Native

section

variable {σ τ : Type}

/-! ## 1. Two drivers -/

/-- Two drivers with the same answers under other names, whatever the recorder asks them; pushes
only if they know them. -/
structure DriverMirror [Driver σ] [Driver τ] (f : Names) (push : Bool) (related : σ → τ → Prop)
    (reached : σ → Prop) (reached' : τ → Prop) : Prop
    extends PoolMirror f related reached reached' where
  calls : ClosingCalls fun d after : σ => reached after → reached d
  calls' : ClosingCalls fun d after : τ => reached' after → reached' d
  submit : ∀ {d d'}, related d d' → ∀ queue buffers fence,
    let r := Driver.submit d queue buffers fence
    let r' := Driver.submit d' queue (buffers.map f.commandBuffer) fence
    Agrees related reached reached' r.2 r'.2 (r'.1 = r.1)
  beginRecording : ∀ {d d'}, related d d' → ∀ buffer args,
    let r := Driver.beginRecording d buffer args
    let r' := Driver.beginRecording d' (f.commandBuffer buffer) args
    Agrees related reached reached' r.2 r'.2 (r'.1 = r.1)
  endRecording : ∀ {d d'}, related d d' → ∀ buffer,
    let r := Driver.endRecording d buffer
    let r' := Driver.endRecording d' (f.commandBuffer buffer)
    Agrees related reached reached' r.2 r'.2 (r'.1 = r.1)
  request : ∀ {d d'}, related d d' → ∀ request : Request,
    (request.pushes = true → push = true) →
    let r := Driver.request d request
    let r' := Driver.request d' (request.named f)
    Agrees related reached reached' r.2 r'.2 (r'.1 = r.1)
  destroyCommandPool : ∀ {d d'}, related d d' → ∀ pool,
    related (Driver.destroyCommandPool d pool) (Driver.destroyCommandPool d' (f.commandPool pool))
  destroyDescriptorPool : ∀ {d d'}, related d d' → ∀ pool,
    related (Driver.destroyDescriptorPool d pool)
      (Driver.destroyDescriptorPool d' (f.descriptorPool pool))
  /-- Sets are granted one for each layout. -/
  grants : ∀ {d d' : σ} {pool layouts sets},
    Driver.allocateDescriptorSets d pool layouts = (.ok sets, d') → sets.length = layouts.length

/-- The same device over another driver. -/
structure Device.Mirrors (f : Names) (related : σ → τ → Prop) (d : Device σ) (d' : Device τ) :
    Prop where
  driver : related d.driver d'.driver
  capabilities : d'.capabilities = d.capabilities
  commandPools : d'.commandPools = d.commandPools.named f
  descriptorPools : d'.descriptorPools = d.descriptorPools.named f
  held : d'.held = d.held

/-- The same outcome over another driver, the answer in its other form. -/
structure Device.Outcome.Mirrors {α β : Type} (f : Names) (related : σ → τ → Prop) (name : α → β)
    (o : Outcome σ α) (o' : Outcome τ β) : Prop where
  answer : o'.answer = name o.answer
  messages : o'.messages = o.messages
  device : o.device.Mirrors f related o'.device

/-- The same command buffer afterwards, and the same outcome. -/
structure Recording.CommandBuffer.Result.Mirrors {α : Type} (f : Names) (related : σ → τ → Prop)
    (r : Result σ α) (r' : Result τ α) : Prop where
  buffer : r'.buffer = r.buffer.named f
  outcome : r.outcome.Mirrors f related id r'.outcome

/-- The same operation performed over another driver. -/
structure Recording.Performed.Mirrors (f : Names) (related : σ → τ → Prop) (p : Performed σ)
    (p' : Performed τ) : Prop where
  buffer : p'.buffer = p.buffer.named f
  store : p.store.SameButSets p'.store
  outcome : p.outcome.Mirrors f related id p'.outcome

namespace Device.Mirrors

variable {f : Names} {related : σ → τ → Prop} {d : Device σ} {d' : Device τ}

theorem giveBackBuffer (hd : d.Mirrors f related d') (level : Level) (family : Nat)
    (buffer : Handle .commandBuffer) :
    (d.giveBackBuffer level family buffer).Mirrors f related id
      (d'.giveBackBuffer level family (f.commandBuffer buffer)) := by
  obtain ⟨hdriver, hcapabilities, hpools, hsets, hheld⟩ := hd
  obtain ⟨driver', capabilities', pools', sets', held'⟩ := d'
  obtain rfl : pools' = d.commandPools.named f := hpools
  have hgiven := CommandPools.giveBack_named (f := f) d.commandPools level family buffer
  have hpools := congrArg Prod.fst hgiven
  have hmessages := congrArg Prod.snd hgiven
  exact ⟨rfl, hmessages, hdriver, hcapabilities, hpools, hsets, hheld⟩

/-- A call whose only failure is a result code. -/
theorem call (hd : d.Mirrors f related d') {g : σ → Except ResultCode Unit × σ}
    {k : τ → Except ResultCode Unit × τ} (hanswer : (k d'.driver).1 = (g d.driver).1)
    (hdriver : related (g d.driver).2 (k d'.driver).2) :
    (d.call g).Mirrors f related id (d'.call k) := by
  have hmapped : (d'.call k).answer = (d.call g).answer :=
    congrArg (Except.mapError DeviceError.api) hanswer
  exact ⟨hmapped, rfl, hdriver, hd.capabilities, hd.commandPools, hd.descriptorPools, hd.held⟩

theorem release (hd : d.Mirrors f related d') (c : CommandBuffer) :
    (c.release d).Mirrors f related ((c.named f).release d') := by
  cases hn : c.native with
  | none =>
    rw [CommandBuffer.named, hn, CommandBuffer.release, CommandBuffer.release, hn]
    exact ⟨rfl, rfl, rfl, hd⟩
  | some n =>
    rw [CommandBuffer.named, hn, CommandBuffer.release, CommandBuffer.release, hn]
    exact ⟨rfl, hd.giveBackBuffer n.level n.family n.handle⟩

end Device.Mirrors

namespace DriverMirror

variable [Driver σ] [Driver τ] {f : Names} {push : Bool} {related : σ → τ → Prop}
  {reached : σ → Prop} {reached' : τ → Prop} {d : Device σ} {d' : Device τ}

/-! ## 2. Devices -/

/-- The requests of a script go through on both sides, and what is reported is the same. -/
theorem playScript (h : DriverMirror f push related reached reached') {d : σ} {d' : τ}
    (hd : related d d') {s : Script} (hpush : ∀ r ∈ s.requests, r.pushes = true → push = true) :
    Agrees related reached reached' (s.play d).2 ((s.named f).play d').2
      (((s.named f).play d').1 = (s.play d).1) := by
  -- Whatever the whole script reaches was reached before the rest of it too.
  induction s generalizing d d' with
  | nil => exact fun _ _ => ⟨rfl, hd⟩
  | cons e s ih =>
    intro hreached hreached'
    cases e with
    | report m =>
      obtain ⟨hmessages, hd⟩ := ih hd hpush hreached hreached'
      exact ⟨congrArg (m :: ·) hmessages, hd⟩
    | request r =>
      obtain ⟨hfirst, hd⟩ := h.request hd r (hpush r List.mem_cons_self)
        (h.calls.toDriverCalls.play _ s hreached)
        (h.calls'.toDriverCalls.play _ (Script.named f s) hreached')
      obtain ⟨hrest, hd⟩ :=
        ih hd (fun r hr => hpush r (List.mem_cons_of_mem _ hr)) hreached hreached'
      exact ⟨congrArg₂ (· ++ ·) hfirst hrest, hd⟩

theorem play (h : DriverMirror f push related reached reached') (hd : d.Mirrors f related d')
    {s : Script} (hpush : ∀ r ∈ s.requests, r.pushes = true → push = true)
    (hreached : reached (d.play s).device.driver)
    (hreached' : reached' (d'.play (s.named f)).device.driver) :
    (d.play s).Mirrors f related id (d'.play (s.named f)) := by
  obtain ⟨hmessages, hdriver⟩ := h.playScript hd.driver hpush hreached hreached'
  exact ⟨rfl, hmessages, hdriver, hd.capabilities, hd.commandPools, hd.descriptorPools, hd.held⟩

theorem requestBuffer (h : DriverMirror f push related reached reached')
    (hd : d.Mirrors f related d') (level : Level) (family : Nat)
    (hreached : reached (d.requestBuffer level family).device.driver)
    (hreached' : reached' (d'.requestBuffer level family).device.driver) :
    (d.requestBuffer level family).Mirrors f related (Except.map f.commandBuffer)
      (d'.requestBuffer level family) := by
  obtain ⟨hdriver, hcapabilities, hpools, hsets, hheld⟩ := hd
  obtain ⟨driver', capabilities', pools', sets', held'⟩ := d'
  obtain rfl : pools' = d.commandPools.named f := hpools
  obtain ⟨⟨hanswer, hpools, hmessages⟩, hdriver⟩ :=
    h.toPoolMirror.request hdriver d.commandPools level family hreached hreached'
  exact ⟨hanswer, hmessages, hdriver, hcapabilities, hpools, hsets, hheld⟩

theorem allocateSets (h : DriverMirror f push related reached reached')
    (hd : d.Mirrors f related d') (layouts : List (Handle .setLayout))
    (hreached : reached (d.allocateSets layouts).device.driver)
    (hreached' : reached' (d'.allocateSets layouts).device.driver) :
    (d.allocateSets layouts).Mirrors f related (Except.map (List.map f.descriptorSet))
      (d'.allocateSets layouts) := by
  obtain ⟨hdriver, hcapabilities, hpools, hsets, hheld⟩ := hd
  obtain ⟨driver', capabilities', pools', sets', held'⟩ := d'
  obtain rfl : sets' = d.descriptorPools.named f := hsets
  obtain ⟨⟨hanswer, hsets, hmessages⟩, hdriver⟩ :=
    h.toPoolMirror.allocate hdriver d.descriptorPools layouts hreached hreached'
  exact ⟨hanswer, hmessages, hdriver, hcapabilities, hpools, hsets, hheld⟩

theorem resetSets (h : DriverMirror f push related reached reached')
    (hd : d.Mirrors f related d') (hreached : reached d.resetSets.device.driver)
    (hreached' : reached' d'.resetSets.device.driver) :
    d.resetSets.Mirrors f related id d'.resetSets := by
  obtain ⟨hdriver, hcapabilities, hpools, hsets, hheld⟩ := hd
  obtain ⟨driver', capabilities', pools', sets', held'⟩ := d'
  obtain rfl : sets' = d.descriptorPools.named f := hsets
  obtain ⟨⟨hanswer, hsets⟩, hdriver⟩ :=
    h.toPoolMirror.reset hdriver d.descriptorPools hreached hreached'
  exact ⟨hanswer, rfl, hdriver, hcapabilities, hpools, hsets, hheld⟩

theorem submitBuffers (h : DriverMirror f push related reached reached')
    (hd : d.Mirrors f related d') (queue : Handle .queue)
    (buffers : List (Option (Handle .commandBuffer))) (fence : Handle .fence)
    (hreached : reached (d.submit queue buffers fence).device.driver)
    (hreached' : reached'
      (d'.submit queue (buffers.map (Option.map f.commandBuffer)) fence).device.driver) :
    (d.submit queue buffers fence).Mirrors f related id
      (d'.submit queue (buffers.map (Option.map f.commandBuffer)) fence) := by
  have hready : (buffers.map (Option.map f.commandBuffer)).filterMap id =
      (buffers.filterMap id).map f.commandBuffer := by
    rw [List.filterMap_map, List.map_filterMap]
    rfl
  have hmissing : ((buffers.map (Option.map f.commandBuffer)).filter Option.isNone).length =
      (buffers.filter Option.isNone).length := by
    rw [List.filter_map, List.length_map]
    exact congrArg List.length (List.filter_congr fun b _ => by cases b <;> rfl)
  have hmessages (m : Message) : ((buffers.map (Option.map f.commandBuffer)).filter
      Option.isNone).map (fun _ => m) = (buffers.filter Option.isNone).map fun _ => m := by
    rw [List.map_const', List.map_const', hmissing]
  unfold Device.submit at *
  simp only [hready, hmessages] at *
  cases hbuffers : buffers.filterMap id with
  | nil =>
    rw [List.map_nil]
    exact ⟨rfl, rfl, hd⟩
  | cons buffer rest =>
    rw [hbuffers] at hreached hreached'
    obtain ⟨hanswer, hdriver⟩ :=
      h.submit hd.driver queue (buffer :: rest) fence hreached hreached'
    have hcalled := hd.call (g := fun driver => Driver.submit driver queue (buffer :: rest) fence)
      (k := fun driver => Driver.submit driver queue ((buffer :: rest).map f.commandBuffer) fence)
      hanswer hdriver
    exact ⟨hcalled.answer, rfl, hcalled.device⟩

/-- Pools are destroyed in the same order on both sides. -/
theorem close (h : DriverMirror f push related reached reached') (hd : d.Mirrors f related d') :
    d.close.Mirrors f related d'.close := by
  obtain ⟨hdriver, hcapabilities, hpools, hsets, hheld⟩ := hd
  obtain ⟨driver', capabilities', pools', sets', held'⟩ := d'
  obtain rfl : pools' = d.commandPools.named f := hpools
  obtain rfl : sets' = d.descriptorPools.named f := hsets
  refine ⟨?_, hcapabilities, rfl, rfl, hheld⟩
  show related (List.foldl _ (d.descriptorPools.pools.foldl _ _) _)
    ((d.commandPools.families.map (FamilyPool.named f)).foldl _
      ((d.descriptorPools.pools.map f.descriptorPool).foldl _ driver'))
  rw [List.foldl_map, List.foldl_map]
  exact List.foldl_rel
    (List.foldl_rel hdriver fun pool _ _ _ hd => h.destroyDescriptorPool hd pool)
    fun family _ _ _ hd => h.destroyCommandPool hd family.pool

/-! ## 3. Layouts -/

theorem length_granted (h : DriverMirror f push related reached reached')
    {layouts : List (Handle .setLayout)} {sets : List (Handle .descriptorSet)}
    (hsets : (d.allocateSets layouts).answer = .ok sets) : sets.length = layouts.length := by
  have trivially : Attempts fun _ _ : σ => True :=
    ⟨fun _ => trivial, fun _ _ => trivial, fun _ _ _ => trivial, fun _ => trivial⟩
  have hasked := asked_allocate trivially d.descriptorPools d.driver layouts
  have hanswer : (d.descriptorPools.allocate d.driver layouts).answer = .ok sets := hsets
  generalize d.descriptorPools.allocate d.driver layouts = a at hasked hanswer
  cases hasked with
  | nothing hnone =>
    cases hanswer
    rw [hnone]
    rfl
  | refused tried => cases hanswer
  | granted tried answered =>
    cases hanswer
    exact h.grants answered

/-- Native sets have no part in what is pushed. -/
theorem pushes_named (b : Handle .commandBuffer) (s : Shader) {l l' : Layout}
    (hsets : l'.sets = l.sets) (sets : List Nat) :
    sets.map (pushSet (f.commandBuffer b) s l') =
      Script.named f (sets.map (pushSet b s l)) := by
  rw [Script.named, List.map_map]
  refine List.map_congr_left fun set _ => ?_
  have hinfos : l'.infos set = l.infos set := by rw [Layout.infos, hsets, Layout.infos]
  simp only [pushSet, Function.comp_apply, hinfos]
  cases s.template? set <;> rfl

theorem writeSets_named (useTemplates : Bool) (s : Shader) {l l' : Layout}
    (hsets : l'.sets = l.sets) (natives : List (Handle .descriptorSet)) :
    writeSets useTemplates s l' (natives.map f.descriptorSet) =
      Script.named f (writeSets useTemplates s l natives) := by
  have one (native : Handle .descriptorSet) (set : Nat) :
      writeSet useTemplates s l' (f.descriptorSet native) set =
        Script.named f (writeSet useTemplates s l native set) := by
    have hinfos : l'.infos set = l.infos set := by rw [Layout.infos, hsets, Layout.infos]
    unfold writeSet
    rw [hinfos, ofSlots_named]
    split
    · rfl
    · simp only [List.isEmpty_map]
      split <;> rfl
  unfold writeSets
  rw [Script.named, List.map_flatten, List.zipIdx_map, List.map_map, List.map_map]
  exact congrArg List.flatten (List.map_congr_left fun x _ => one x.1 x.2)

theorem written_named (useTemplates : Bool) (b : Handle .commandBuffer) (p : Pipeline)
    {l l' : Layout} (hsets : l'.sets = l.sets) (sets : List (Handle .descriptorSet)) :
    writeSets useTemplates p.shader l' (sets.map f.descriptorSet) ++
        .record (f.commandBuffer b)
          [.bindDescriptorSets p.point p.shader.layout 0 (sets.map f.descriptorSet) []] =
      Script.named f (writeSets useTemplates p.shader l sets ++
        .record b [.bindDescriptorSets p.point p.shader.layout 0 sets []]) := by
  rw [Script.named_append, Script.named_record, writeSets_named useTemplates p.shader hsets]
  rfl

/-- Writing and binding sets pushes nothing. -/
theorem pushes_of_written {useTemplates : Bool} {s : Shader} {l : Layout} {p : Pipeline}
    {natives : List (Handle .descriptorSet)} {b : Handle .commandBuffer} {r : Request}
    (hr : r ∈ Script.requests (writeSets useTemplates s l natives ++
      .record b [.bindDescriptorSets p.point s.layout 0 natives []])) : r.pushes = false := by
  rw [Script.requests_append] at hr
  rcases List.mem_append.1 hr with hr | hr
  · -- Sets are written on the device.
    cases r with
    | record b' c =>
      cases c with
      | pushDescriptors template layout set infos =>
        have hcall : Call.request (.record b' (.pushDescriptors template layout set infos)) ∈
            (writeSets useTemplates s l natives).calls :=
          List.mem_map_of_mem (List.mem_flatMap.2 ⟨_, hr, List.mem_singleton_self _⟩)
        rcases confined_writeSets _ _ _ _ _ hcall with htarget | htarget <;> cases htarget
      | _ => rfl
    | _ => rfl
  · rw [List.mem_singleton.1 hr]
    rfl

theorem resolveLayout (h : DriverMirror f push related reached reached')
    (hd : d.Mirrors f related d') (hpush : d.capabilities.pushDescriptor = true → push = true)
    (b : Handle .commandBuffer) (p : Pipeline) {l l' : Layout} (hsets : l'.sets = l.sets)
    (hsound : l.Sound) (hsound' : l'.Sound)
    (hreached : reached (resolveLayout d b p l).outcome.device.driver)
    (hreached' : reached'
      (Recording.resolveLayout d' (f.commandBuffer b) p l').outcome.device.driver) :
    let r := Recording.resolveLayout d b p l
    let r' := Recording.resolveLayout d' (f.commandBuffer b) p l'
    r'.layout.sets = r.layout.sets ∧ r.outcome.Mirrors f related id r'.outcome := by
  have hcount : l'.setCount = l.setCount := congrArg List.length hsets
  have hshared : sharedSets l' p.shader = sharedSets l p.shader := by
    rw [sharedSets, hcount, sharedSets]
  unfold Recording.resolveLayout at hreached hreached' ⊢
  simp only [hcount, hshared, hd.capabilities] at hreached hreached' ⊢
  by_cases hnone : sharedSets l p.shader = 0
  · simp only [hnone, if_true]
    exact ⟨hsets, rfl, rfl, hd⟩
  simp only [hnone, if_false] at hreached hreached' ⊢
  cases hcan : d.capabilities.pushDescriptor with
  | true =>
    simp only [hcan, if_true] at hreached hreached' ⊢
    rw [pushes_named b p.shader hsets] at hreached' ⊢
    have hplayed := h.play hd (fun _ _ _ => hpush hcan) hreached hreached'
    exact ⟨hsets, rfl, congrArg (_ ++ ·) hplayed.messages, hplayed.device⟩
  | false =>
    simp only [hcan, Bool.false_eq_true, if_false] at hreached hreached' ⊢
    -- The allocation is on the way to either end.
    have hmid : reached
        (d.allocateSets (p.shader.nativeLayouts (sharedSets l p.shader))).device.driver := by
      revert hreached
      split
      · exact id
      · exact h.calls.toDriverCalls.play _ _
    have hmid' : reached'
        (d'.allocateSets (p.shader.nativeLayouts (sharedSets l p.shader))).device.driver := by
      revert hreached'
      split
      · exact id
      · exact h.calls'.toDriverCalls.play _ _
    have hgranted : ∀ sets, (d.allocateSets (p.shader.nativeLayouts
        (sharedSets l p.shader))).answer = .ok sets → sets.length = sharedSets l p.shader :=
      fun sets hok => (h.length_granted hok).trans (length_nativeLayouts (Nat.min_le_right _ _))
    obtain ⟨hanswer, hmessages, hdevice⟩ := h.allocateSets hd _ hmid hmid'
    generalize d.allocateSets (p.shader.nativeLayouts (sharedSets l p.shader)) = a,
      d'.allocateSets (p.shader.nativeLayouts (sharedSets l p.shader)) = a'
      at hreached hreached' hgranted hanswer hmessages hdevice
    obtain ⟨answer, device, messages⟩ := a
    obtain ⟨answer', device', messages'⟩ := a'
    obtain rfl : answer' = _ := hanswer
    obtain rfl : messages' = messages := hmessages
    cases answer with
    | error e => exact ⟨hsets, rfl, rfl, hdevice⟩
    | ok sets =>
      simp only [Except.map] at hreached hreached' ⊢
      have hlength : sets.length = sharedSets l p.shader := hgranted sets rfl
      have hlength' : (sets.map f.descriptorSet).length = sharedSets l' p.shader := by
        rw [List.length_map, hlength, hshared]
      -- The sets that are written and bound are the ones that were granted.
      have hnatives' := natives_eq hsound' hlength' rfl
      rw [hshared] at hnatives'
      rw [natives_eq hsound hlength rfl] at hreached ⊢
      rw [hnatives', written_named _ b p (l := l.storeSets (sets.take (sharedSets l p.shader)))
        (by exact hsets)] at hreached' ⊢
      have hplayed := h.play hdevice (fun r hr hp => by
        rw [pushes_of_written hr] at hp
        cases hp) hreached hreached'
      exact ⟨hsets, rfl, congrArg (_ ++ ·) hplayed.messages, hplayed.device⟩

/-! ## 4. Command buffers -/

/-- What setting up answers and reports, in terms of giving back and requesting. -/
theorem setUp_outcome (c : CommandBuffer) (d : Device σ) (kind : BufferKind) (queue : Queue) :
    let given := (c.release d).outcome
    let lent := given.device.requestBuffer kind.level queue.family
    (c.setUp d kind queue).outcome.answer = lent.answer.map (fun _ => ()) ∧
      (c.setUp d kind queue).outcome.messages =
        (if c.isReady then [CommandBuffer.reused] else []) ++ given.messages ++ lent.messages ++
          match lent.answer with
          | .ok _ => []
          | .error e => [.error s!"Failed to acquire a command buffer: {e.message}"] := by
  by_cases hready : c.isReady
  · simp only [CommandBuffer.setUp, hready, if_true]
    generalize (c.release d).outcome.device.requestBuffer kind.level queue.family = lent
    cases lent.answer with
    | error e => exact ⟨rfl, rfl⟩
    | ok handle => exact ⟨rfl, (List.append_nil _).symm⟩
  · have hnative : c.native = none := by simpa [CommandBuffer.isReady] using hready
    simp only [CommandBuffer.setUp, hready, Bool.false_eq_true, if_false,
      CommandBuffer.release_of_not_ready hnative]
    generalize d.requestBuffer kind.level queue.family = lent
    cases lent.answer with
    | error e => exact ⟨rfl, rfl⟩
    | ok handle => exact ⟨rfl, (List.append_nil _).symm⟩

theorem setUp (h : DriverMirror f push related reached reached') (hd : d.Mirrors f related d')
    (c : CommandBuffer) (kind : BufferKind) (queue : Queue)
    (hreached : reached (c.setUp d kind queue).outcome.device.driver)
    (hreached' : reached' ((c.named f).setUp d' kind queue).outcome.device.driver) :
    (c.setUp d kind queue).Mirrors f related ((c.named f).setUp d' kind queue) := by
  obtain ⟨hdevice, hbuffer⟩ := CommandBuffer.setUp_spec c d kind queue
  obtain ⟨hdevice', hbuffer'⟩ := CommandBuffer.setUp_spec (c.named f) d' kind queue
  obtain ⟨hanswer, hmessages⟩ := setUp_outcome c d kind queue
  obtain ⟨hanswer', hmessages'⟩ := setUp_outcome (c.named f) d' kind queue
  have hgiven := (hd.release c).outcome
  rw [hdevice] at hreached
  rw [hdevice'] at hreached'
  have hlent := h.requestBuffer hgiven.device kind.level queue.family hreached hreached'
  refine ⟨?_, ?_, ?_, ?_⟩
  · rw [hbuffer', hbuffer, hlent.answer, CommandBuffer.isReady_named]
    cases (((c.release d).outcome.device.requestBuffer kind.level queue.family)).answer <;> rfl
  · rw [hanswer', hanswer, hlent.answer]
    cases (((c.release d).outcome.device.requestBuffer kind.level queue.family)).answer <;> rfl
  · rw [hmessages', hmessages, hlent.messages, hgiven.messages, hlent.answer,
      CommandBuffer.isReady_named]
    cases (((c.release d).outcome.device.requestBuffer kind.level queue.family)).answer <;> rfl
  · rw [hdevice, hdevice']
    exact hlent.device

theorem openRecording (h : DriverMirror f push related reached reached')
    (hd : d.Mirrors f related d') {s s' : Store} (hs : s.SameButSets s') (c : CommandBuffer)
    (pass : Option RenderPass) (subpass : Nat) (framebuffer : Option Framebuffer)
    (hreached : reached (c.begin d s pass subpass framebuffer).outcome.device.driver)
    (hreached' : reached' ((c.named f).begin d' s' pass subpass framebuffer).outcome.device.driver) :
    (c.begin d s pass subpass framebuffer).Mirrors f related
      ((c.named f).begin d' s' pass subpass framebuffer) := by
  have hopening : CommandBuffer.openingOf (c.named f).kind s' pass subpass framebuffer =
      CommandBuffer.openingOf c.kind s pass subpass framebuffer := by
    have hresolve : s'.resolve = s.resolve := funext hs.alike.resolve
    simp only [CommandBuffer.openingOf, hresolve]
    rfl
  unfold CommandBuffer.begin at hreached hreached' ⊢
  rw [CommandBuffer.handle?_named] at hreached' ⊢
  cases hb : c.handle? with
  | none => exact ⟨rfl, rfl, rfl, hd⟩
  | some b =>
    simp only [hb, Option.map_some, hopening] at hreached hreached' ⊢
    cases ho : CommandBuffer.openingOf c.kind s pass subpass framebuffer with
    | none => exact ⟨rfl, rfl, rfl, hd⟩
    | some opening =>
      rw [ho] at hreached hreached'
      obtain ⟨hanswer, hdriver⟩ := h.beginRecording hd.driver b opening hreached hreached'
      exact ⟨rfl, hd.call (g := fun driver => Driver.beginRecording driver b opening)
        (k := fun driver => Driver.beginRecording driver (f.commandBuffer b) opening)
        hanswer hdriver⟩

theorem finish (h : DriverMirror f push related reached reached') (hd : d.Mirrors f related d')
    (c : CommandBuffer) (hreached : reached (c.finish d).outcome.device.driver)
    (hreached' : reached' ((c.named f).finish d').outcome.device.driver) :
    (c.finish d).Mirrors f related ((c.named f).finish d') := by
  unfold CommandBuffer.finish at hreached hreached' ⊢
  rw [CommandBuffer.handle?_named] at hreached' ⊢
  cases hb : c.handle? with
  | none => exact ⟨rfl, rfl, rfl, hd⟩
  | some b =>
    rw [hb] at hreached hreached'
    obtain ⟨hanswer, hdriver⟩ := h.endRecording hd.driver b hreached hreached'
    exact ⟨rfl, hd.call (g := fun driver => Driver.endRecording driver b)
      (k := fun driver => Driver.endRecording driver (f.commandBuffer b)) hanswer hdriver⟩

theorem mismatch_of_sets_eq {l l' : Layout} (hsets : l'.sets = l.sets) (s : Shader) :
    mismatch? l' s = mismatch? l s ∧
      ∀ set, CommandBuffer.layoutMismatch l' s set = CommandBuffer.layoutMismatch l s set := by
  have hcount : l'.setCount = l.setCount := congrArg List.length hsets
  have hslots : l'.slots = l.slots := by
    funext set
    rw [Layout.slots, hsets, Layout.slots]
  refine ⟨?_, fun set => ?_⟩
  · rw [mismatch?, mismatch?, sharedSets, sharedSets, hcount, hslots]
  · rw [CommandBuffer.layoutMismatch, CommandBuffer.layoutMismatch, hslots]

theorem bindLayout (h : DriverMirror f push related reached reached') (hd : d.Mirrors f related d')
    (hpush : d.capabilities.pushDescriptor = true → push = true) {s s' : Store}
    (hs : s.SameButSets s') (c : CommandBuffer) (id : ResourceId)
    (hreached : reached (c.bindLayout d s id).outcome.device.driver)
    (hreached' : reached' ((c.named f).bindLayout d' s' id).outcome.device.driver) :
    let r := c.bindLayout d s id
    let r' := (c.named f).bindLayout d' s' id
    r'.buffer = r.buffer.named f ∧ r.store.SameButSets r'.store ∧
      r.outcome.Mirrors f related (fun x => x) r'.outcome := by
  have hbindings : (c.named f).bindings = c.bindings := rfl
  unfold CommandBuffer.bindLayout at hreached hreached' ⊢
  simp only [CommandBuffer.handle?_named, hbindings] at hreached hreached' ⊢
  cases hb : c.handle? with
  | none => exact ⟨rfl, hs, rfl, rfl, hd⟩
  | some b =>
    cases hp : c.bindings.pipeline with
    | none => exact ⟨rfl, hs, rfl, rfl, hd⟩
    | some p =>
      simp only [hb, hp, Option.map_some] at hreached hreached' ⊢
      by_cases hbound : c.bindings.layout = some id
      · rw [if_pos hbound, if_pos hbound]
        exact ⟨rfl, hs, rfl, rfl, hd⟩
      obtain ⟨hmismatch, hreport⟩ := mismatch_of_sets_eq (hs.sets id) p.shader
      simp only [hbound, if_false, hmismatch] at hreached hreached' ⊢
      cases hfault : mismatch? (s.layouts.get id) p.shader with
      | some set => exact ⟨rfl, hs, rfl, congrArg (fun m => [m]) (hreport set), hd⟩
      | none =>
        simp only [hfault] at hreached hreached' ⊢
        -- The stores differ in native sets only, and resolving writes these anew.
        have hsound : (s.refreshed (s.layouts.get id)).Sound := (hs.sound id).refresh _ _
        have hsound' : (s'.refreshed (s'.layouts.get id)).Sound := (hs.sound' id).refresh _ _
        have hmid : reached (Recording.resolveLayout d b p
            (s.refreshed (s.layouts.get id))).outcome.device.driver := by
          revert hreached
          split <;> exact fun h => h
        have hmid' : reached' (Recording.resolveLayout d' (f.commandBuffer b) p
            (s'.refreshed (s'.layouts.get id))).outcome.device.driver := by
          revert hreached'
          split <;> exact fun h => h
        obtain ⟨hsets, hanswer, hmessages, hdevice⟩ :=
          h.resolveLayout hd hpush b p (hs.refreshed id) hsound hsound' hmid hmid'
        have hstore := hs.setLayout id hsets ((layout_resolveLayout d b p _).2 hsound)
          ((layout_resolveLayout d' (f.commandBuffer b) p _).2 hsound')
        generalize Recording.resolveLayout d b p (s.refreshed (s.layouts.get id)) = r,
          Recording.resolveLayout d' (f.commandBuffer b) p (s'.refreshed (s'.layouts.get id)) = r'
          at hanswer hmessages hdevice hstore
        rw [hanswer]
        cases hr : r.outcome.answer with
        | error e => exact ⟨rfl, hstore, hanswer, hmessages, hdevice⟩
        | ok _ => exact ⟨rfl, hstore, hanswer, hmessages, hdevice⟩

/-! ## 5. Operations -/

theorem pushes_of_scripted {c : CommandBuffer} {s : Store} {op : Operation}
    {sent : CommandBuffer × Script} (h : c.scripted? d s op = some sent) {r : Request}
    (hr : r ∈ sent.2.requests) : r.pushes = false := by
  rcases CommandBuffer.records_scripted h with hnone | ⟨b, commands, _, hrequests, hsorts⟩
  · rw [hnone] at hr
    cases hr
  · rw [hrequests] at hr
    obtain ⟨x, hx, rfl⟩ := List.mem_map.1 hr
    cases x with
    | pushDescriptors template layout set infos =>
      exact absurd (hsorts _ hx).1 (CommandBuffer.descriptors_not_mem_sorts h)
    | _ => rfl

theorem send (h : DriverMirror f push related reached reached') (hd : d.Mirrors f related d')
    {s s' : Store} (hs : s.SameButSets s') {answer answer' : Answer} (hanswer : answer' = answer)
    {sent sent' : CommandBuffer × Script} (hsent : sent' = CommandBuffer.sentAs f sent)
    (hquiet : ∀ r ∈ sent.2.requests, r.pushes = false)
    (hreached : reached (CommandBuffer.send d s answer sent).outcome.device.driver)
    (hreached' : reached' (CommandBuffer.send d' s' answer' sent').outcome.device.driver) :
    (CommandBuffer.send d s answer sent).Mirrors f related
      (CommandBuffer.send d' s' answer' sent') := by
  obtain rfl := hanswer
  obtain rfl := hsent
  obtain ⟨-, hmessages, hdevice⟩ := h.play hd (fun r hr hp => by
    rw [hquiet r hr] at hp
    cases hp) hreached hreached'
  exact ⟨rfl, hs, rfl, hmessages, hdevice⟩

theorem perform (h : DriverMirror f push related reached reached') (hd : d.Mirrors f related d')
    (hpush : d.capabilities.pushDescriptor = true → push = true) {s s' : Store}
    (hs : s.SameButSets s') (c : CommandBuffer) (op : Operation)
    (hreached : reached (c.perform d s op).outcome.device.driver)
    (hreached' : reached' ((c.named f).perform d' s' (op.named f)).outcome.device.driver) :
    (c.perform d s op).Mirrors f related ((c.named f).perform d' s' (op.named f)) := by
  have hsame (hop : ∀ children, op ≠ .execute children) :=
    CommandBuffer.scripted_named (f := f) (c := c) hs hd.capabilities hop
  have hquiet {sent : CommandBuffer × Script} (h : c.scripted? d s op = some sent) :=
    fun r => pushes_of_scripted (r := r) h
  cases op with
  | setUp kind queue =>
    obtain ⟨hbuffer, hanswer, hmessages, hdevice⟩ := h.setUp hd c kind queue hreached hreached'
    exact ⟨hbuffer, hs, congrArg Answer.ofExcept hanswer, hmessages, hdevice⟩
  | release =>
    obtain ⟨hbuffer, -, hmessages, hdevice⟩ := hd.release c
    exact ⟨hbuffer, hs, rfl, hmessages, hdevice⟩
  | begin pass subpass framebuffer =>
    obtain ⟨hbuffer, hanswer, hmessages, hdevice⟩ :=
      h.openRecording hd hs c pass subpass framebuffer hreached hreached'
    exact ⟨hbuffer, hs, congrArg Answer.ofExcept hanswer, hmessages, hdevice⟩
  | finish =>
    obtain ⟨hbuffer, hanswer, hmessages, hdevice⟩ := h.finish hd c hreached hreached'
    exact ⟨hbuffer, hs, congrArg Answer.ofExcept hanswer, hmessages, hdevice⟩
  | bindLayout id =>
    obtain ⟨hbuffer, hstore, hanswer, hmessages, hdevice⟩ :=
      h.bindLayout hd hpush hs c id hreached hreached'
    exact ⟨hbuffer, hstore, congrArg Answer.ofAttempt hanswer, hmessages, hdevice⟩
  | execute children =>
    exact h.send hd hs rfl (c.execute_named children) (hquiet rfl) hreached hreached'
  | bindAssembler id =>
    exact h.send hd (c.store_bindAssembler_named hs id) rfl (Option.some.inj (hsame nofun))
      (hquiet rfl) hreached hreached'
  | updateBuffer buffer offset data =>
    exact h.send hd hs (congrArg _ (c.answer_updateBuffer_named hs buffer offset data))
      (Option.some.inj (hsame nofun)) (hquiet rfl) hreached hreached'
  | beginPass p =>
    exact h.send hd hs rfl (Option.some.inj (hsame nofun)) (hquiet rfl) hreached hreached'
  | endPass =>
    exact h.send hd hs rfl (Option.some.inj (hsame nofun)) (hquiet rfl) hreached hreached'
  | bindPipeline p =>
    exact h.send hd hs rfl (Option.some.inj (hsame nofun)) (hquiet rfl) hreached hreached'
  | set x =>
    exact h.send hd hs rfl (Option.some.inj (hsame nofun)) (hquiet rfl) hreached hreached'
  | draw id =>
    exact h.send hd hs rfl (Option.some.inj (hsame nofun)) (hquiet rfl) hreached hreached'
  | copyToTexture sources texture regions =>
    exact h.send hd hs (congrArg _ (c.answer_copyToTexture_named hs sources texture regions))
      (Option.some.inj (hsame nofun)) (hquiet rfl) hreached hreached'

end DriverMirror

end

end GpuRecorder
