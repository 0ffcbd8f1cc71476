import GpuRecorder.Proofs.Vulkan.Tapped

/-!
# The trace and the production driver

The same tasks on a trace and, through the production driver, on any device: as long as every call
that can fail is answered the same, with handles that the device hands out once, the replies are
the same and the native calls are those that the trace notes, one for each, under other names for
the handles.  What templates read is what was noted.
-/

namespace GpuRecorder

open Native Resource Recording Device Vulkan

/-! ## 1. Shaders with templates -/

/-- Every descriptor is of a type with a class, and the templates that are attached were made for
the slots of their own sets. -/
structure Resource.Shader.Prepared
    (templates : List (Handle .updateTemplate × List TemplateEntry)) (s : Shader) : Prop where
  classes : ∀ declared ∈ s.sets, ∀ slot ∈ declared.slots, slot.type.class?.isSome
  made : ∀ {set declared template}, s.sets[set]? = some declared → s.template? set = some template →
    template.entryTypes = declared.slots.map (·.type) ∧
      templates.lookup template.handle = some (TemplateEntry.ofSlots declared.slots)

/-- Templates that were made for the sets one by one may be attached. -/
theorem Resource.Shader.prepared_attachTemplates
    {templates : List (Handle .updateTemplate × List TemplateEntry)} {s : Shader}
    {handles : List (Handle .updateTemplate)}
    (classes : ∀ declared ∈ s.sets, ∀ slot ∈ declared.slots, slot.type.class?.isSome)
    (kept : ∀ x ∈ handles.zip s.sets,
      templates.lookup x.1 = some (TemplateEntry.ofSlots x.2.slots)) :
    (s.attachTemplates handles).2.Prepared templates where
  classes := classes
  made {set declared template} hdeclared htemplate := by
    obtain ⟨⟨handle, declared'⟩, hpair, rfl⟩ := Option.map_eq_some_iff.1
      ((List.getElem?_map).symm.trans htemplate)
    obtain ⟨hhandle, hset⟩ := List.getElem?_zip_eq_some.1 hpair
    obtain rfl : declared' = declared := Option.some.inj (hset.symm.trans hdeclared)
    exact ⟨rfl, kept _ (List.mem_of_getElem? hpair)⟩

theorem Native.Request.templated?_named (f : Names) (r : Request) :
    (r.named f).templated? = r.templated? := by
  cases r with
  | record buffer c => cases c <;> rfl
  | _ => rfl

theorem ready_of_inOrder {templates : List (Handle .updateTemplate × List TemplateEntry)}
    {push : Bool} {r : Request} (h : r.InOrder (fun p => p.shader.Prepared templates) push)
    (f : Names) : Ready push templates (r.named f) where
  pushed hpushes := h.pushed (by rwa [Request.pushes_named] at hpushes)
  made htemplated := by
    rw [Request.templated?_named] at htemplated
    obtain ⟨p, hprepared, set, declared, hdeclared, htemplate, hlength⟩ := h.serves htemplated
    obtain ⟨htypes, hlookup⟩ := hprepared.made hdeclared htemplate
    exact ⟨declared.slots, hlookup, htypes, hlength,
      hprepared.classes declared (List.mem_of_getElem? hdeclared)⟩

/-- Attempts with their requests in order leave one native call for each entry of the log. -/
theorem carried_of_leaves {templates : List (Handle .updateTemplate × List TemplateEntry)}
    {push : Bool} {f : Names} {attempts : List Attempt} {left : List (List Entry)}
    (order : ∀ r, .through (.request r) ∈ attempts →
      r.InOrder (fun p => p.shader.Prepared templates) push)
    (leaves : List.Forall₂ (Production.Leaves push templates) (attempts.map (Attempt.named f)) left) :
    List.Forall₂ (fun c e => Carries (c.named f) e) (attempts.flatMap Attempt.noted)
      left.flatten := by
  induction attempts generalizing left with
  | nil =>
    cases leaves
    exact .nil
  | cons a attempts ih =>
    cases leaves with
    | @cons _ entries _ left hentries hrest =>
      rw [List.flatMap_cons, List.flatten_cons]
      refine List.rel_append ?_ (ih (fun r hr => order r (List.mem_cons_of_mem _ hr)) hrest)
      cases a with
      | refused q code =>
        obtain rfl : entries = [] := hentries
        exact .nil
      | through c =>
        cases c with
        | request r =>
          have hr := order r List.mem_cons_self
          obtain ⟨e, rfl, hcarries⟩ : ∃ e, entries = [e] ∧ _ := hentries (ready_of_inOrder hr f)
          rw [Attempt.noted, hr.whole]
          exact .cons hcarries .nil
        | _ =>
          obtain ⟨e, rfl, hcarries⟩ : ∃ e, entries = [e] ∧ _ := hentries
          exact .cons hcarries .nil

/-! ## 2. The two benches -/

namespace Bench

variable {σ : Type}

/-- Nothing has happened yet. -/
def start (driver : σ) (available : Capabilities) (settings : Settings) : Bench σ where
  session := { device := (Device.start driver available settings).device }

def onTrace (available : Capabilities) (settings : Settings) : Bench (Journal Trace) :=
  start { driver := {} } available settings

/-- Pushes are known exactly if the device reports them. -/
def onDevice (t : Tapped σ) (available : Capabilities) (settings : Settings) :
    Bench (Journal (Production (Tapped σ))) :=
  start { driver := ⟨t, available.pushDescriptor⟩ } available settings

/-- A switch is flipped on the trace alone. -/
def flipTrace (x : Switch) (j : Journal Trace) : Journal Trace := j.adjust (x.flip ·)

def flipNothing (_ : Switch) (j : Journal (Production (Tapped σ))) :
    Journal (Production (Tapped σ)) := j

/-- A template that was made for some slots is kept with entries for them. -/
theorem templates_createTemplate [Api σ] {p p' : Production (Tapped σ)} {slots : List Slot}
    {setLayout : Handle .setLayout} {layout : Handle .pipelineLayout} {pushSet : Option Nat}
    {template : Handle .updateTemplate}
    (h : p.createTemplate slots setLayout layout pushSet = (.ok template, p')) :
    p'.api.templates = (template, TemplateEntry.ofSlots slots) :: p.api.templates := by
  have hanswer := congrArg Prod.fst h
  obtain rfl : (p.createTemplate slots setLayout layout pushSet).2 = p' := congrArg Prod.snd h
  replace hanswer : (Api.createDescriptorUpdateTemplate p.api.api
    (Production.templateCreation slots setLayout layout pushSet)).1.toExcept = .ok template := hanswer
  show (Except.toOption (Returned.toExcept (Api.createDescriptorUpdateTemplate p.api.api
    (Production.templateCreation slots setLayout layout pushSet)).1)).toList.map _ ++ _ = _
  rw [hanswer]
  rfl

/-- Nothing is remembered yet, so one is the other under any names. -/
theorem mirrors_start {τ : Type} {f : Names} {related : σ → τ → Prop} {d : σ} {d' : τ}
    (hd : related d d') (available : Capabilities) (settings : Settings) :
    (start d available settings).Mirrors f related (start d' available settings) :=
  ⟨⟨⟨hd, rfl, rfl, rfl, rfl⟩, .refl fun _ => Layout.sound_default, rfl⟩, rfl⟩

theorem pushes_known {available : Capabilities} {settings : Settings}
    (h : (onTrace available settings).session.device.capabilities.pushDescriptor = true) :
    available.pushDescriptor = true :=
  ((Bool.and_eq_true _ _).mp h).1

/-! ## 3. The same tasks on both -/

/-- If the device answers every call that can fail as the trace does, and hands every handle out
once, then under some names for the handles every task gets the same reply and the same messages on
both, both end in the same state, and the calls that succeeded on the device carry, in order and one
for each, the calls that the trace noted.  A call that is refused is refused on both. -/
theorem device_sees_what_the_trace_notes [Api σ] (t : Tapped σ) (available : Capabilities)
    (settings : Settings) (tasks : List Task) (plain : ∀ x ∈ tasks, x.IsPlain)
    (prepared : ∀ x ∈ tasks, x.BindsOnly fun p => p.shader.Prepared t.templates)
    (alike : AnswerAlike ((onTrace available settings).run flipTrace tasks).driver.attempts
      ((onDevice t available settings).run flipNothing tasks).driver.attempts)
    (fresh : HandsOutFresh
      ((onDevice t available settings).run flipNothing tasks).driver.attempts) :
    let noted := (onTrace available settings).run flipTrace tasks
    let made := (onDevice t available settings).run flipNothing tasks
    ∃ f : Names,
      (onDevice t available settings).replies flipNothing tasks =
          ((onTrace available settings).replies flipTrace tasks).map
            (fun (reply, messages) => (reply.named f, messages)) ∧
        noted.Mirrors f (Journal.Alongside f fun p => p.pushLoaded = available.pushDescriptor) made ∧
        ∃ calls, made.driver.driver.api.log = t.log ++ calls ∧
          List.Forall₂ (fun c e => Carries (c.named f) e) noted.driver.driver.log.toList calls := by
  intro noted made
  -- What the trace hands out is new, so there are names.
  obtain ⟨-, more, hattempts, hlog, hnew⟩ : Journal.Traced _ noted.driver :=
    Journal.closingCalls_traced.tasks (fun _ => Journal.traced_flip) (onTrace available settings) plain
  obtain rfl : more = noted.driver.attempts := hattempts.symm
  obtain ⟨f, answers⟩ := exists_names hnew.handsOutFresh fresh alike
  have hmirror : DriverMirror f available.pushDescriptor
      (Journal.Alongside f fun p : Production (Tapped σ) => p.pushLoaded = available.pushDescriptor)
      _ _ :=
    Journal.mirror answers (Journal.silent_trace _) (Production.silent _)
      (Production.closingCalls_loaded _) Journal.grants_trace
  have hflips : FlipMirror
      (Journal.Alongside f fun p : Production (Tapped σ) => p.pushLoaded = available.pushDescriptor)
      (Journal.EndsIn noted.driver.attempts) (Journal.EndsIn made.driver.attempts) flipTrace
      flipNothing :=
    ⟨fun _ _ _ h => ⟨h.attempts, h.fit⟩, fun _ _ _ h => h, fun _ _ _ h => h⟩
  obtain ⟨hreplies, hend⟩ := hmirror.runs hflips (mirrors_start ⟨rfl, rfl⟩ available settings)
    pushes_known plain (List.prefix_refl _) (List.prefix_refl _)
  refine ⟨f, hreplies, hend, ?_⟩
  -- The requests of the trace are in order, so each of them is one native call.
  have hunasked : ∀ x j, Journal.Orderly (fun p => p.shader.Prepared t.templates)
      available.pushDescriptor j (flipTrace x j) :=
    fun _ _ => ⟨[], (List.append_nil _).symm, nofun⟩
  obtain ⟨requests, hrequests, horder⟩ : Journal.Orderly _ _ (onTrace available settings).driver
      noted.driver :=
    Bench.orderly_run hunasked (fun c hc => absurd hc List.not_mem_nil) pushes_known prepared
  obtain rfl : requests = noted.driver.attempts := hrequests.symm
  obtain ⟨-, -, sent, left, hsent, hcalls, hleaves⟩ : Production.Sends _ made.driver :=
    Production.closingCalls_sends.tasks (fun _ _ => Production.Sends.refl)
      (onDevice t available settings) plain
  obtain rfl : sent = made.driver.attempts := hsent.symm
  have hnamed : made.driver.attempts = noted.driver.attempts.map (Attempt.named f) :=
    hend.session.device.driver.attempts
  rw [hnamed] at hleaves
  refine ⟨left.flatten, hcalls, ?_⟩
  rw [hlog]
  exact carried_of_leaves horder hleaves

def templatedPipeline : Pipeline where
  id := ⟨21⟩
  handle := ⟨620⟩
  primitive := .triangleList
  shader :=
    (Shader.attachTemplates
      ⟨⟨20⟩, "templated", ⟨500⟩,
        [⟨⟨510⟩, [⟨0, .uniformBuffer, 1, 1⟩, ⟨2, .combinedImageSampler, 2, 16⟩]⟩], []⟩ [⟨4096⟩]).2

/-- A simulated device that the template of the pipeline was made on. -/
def templatedDevice : Tapped Simulator :=
  (Production.createTemplate (⟨{ api := {} }, false⟩ : Production (Tapped Simulator))
    (templatedPipeline.shader.slots 0) ⟨510⟩ ⟨500⟩ none).2.api

/-- The first pool of sets has no room left when the layout is bound. -/
def templatedTasks : List Task := [
  .act (.change (.addLayout templatedPipeline.shader)),
  .act (.change (.addBuffer (Buffer.ofRange ⟨700⟩ 16 0 64 0))),
  .act (.change (.bind ⟨1⟩ (.buffer ⟨2⟩) 0 0 0)),
  .act .create,
  .act (.perform 0 (.setUp .primary ⟨⟨800⟩, 0⟩)),
  .act (.perform 0 (.begin none 0 none)),
  .act (.perform 0 (.bindPipeline templatedPipeline)),
  .allocateSets [⟨510⟩],
  .act (.perform 0 (.bindLayout ⟨1⟩)),
  .borrow .primary 0,
  .giveBack .primary 0 0,
  .act (.perform 0 .finish),
  .act (.submit ⟨800⟩ [0] .null),
  .close]

def oneSetPerPool : Settings := { descriptorPool := { maxSetsPerPool := 1 } }

theorem prepared_templatedPipeline :
    templatedPipeline.shader.Prepared templatedDevice.templates := by
  have hmade : templatedDevice.templates =
      [(⟨4096⟩, TemplateEntry.ofSlots (templatedPipeline.shader.slots 0))] :=
    templates_createTemplate (Prod.ext rfl rfl)
  rw [hmade]
  exact Shader.prepared_attachTemplates (by decide) (by decide +kernel)

theorem templatedTasks_seen_by_a_simulator :
    let available : Capabilities := { descriptorUpdateTemplate := true }
    let noted := (onTrace available oneSetPerPool).run flipTrace templatedTasks
    let made := (onDevice templatedDevice available oneSetPerPool).run flipNothing templatedTasks
    (∀ x ∈ templatedTasks, x.IsPlain) ∧
      (∀ x ∈ templatedTasks, x.BindsOnly fun p => p.shader.Prepared templatedDevice.templates) ∧
      AnswerAlike noted.driver.attempts made.driver.attempts ∧
      HandsOutFresh made.driver.attempts ∧
      ∃ f : Names,
        (onDevice templatedDevice available oneSetPerPool).replies flipNothing templatedTasks =
            ((onTrace available oneSetPerPool).replies flipTrace templatedTasks).map
              (fun (reply, messages) => (reply.named f, messages)) ∧
          noted.Mirrors f (Journal.Alongside f fun p => p.pushLoaded = available.pushDescriptor)
            made ∧
          ∃ calls, made.driver.driver.api.log = templatedDevice.log ++ calls ∧
            List.Forall₂ (fun c e => Carries (c.named f) e) noted.driver.driver.log.toList
              calls := by
  have plain : ∀ x ∈ templatedTasks, x.IsPlain := by simp [templatedTasks, Task.IsPlain]
  have prepared : ∀ x ∈ templatedTasks,
      x.BindsOnly fun p => p.shader.Prepared templatedDevice.templates := by
    simp [templatedTasks, Task.BindsOnly, prepared_templatedPipeline]
  have alike : AnswerAlike
      ((onTrace { descriptorUpdateTemplate := true } oneSetPerPool).run flipTrace
        templatedTasks).driver.attempts
      ((onDevice templatedDevice { descriptorUpdateTemplate := true } oneSetPerPool).run flipNothing
        templatedTasks).driver.attempts := by decide +kernel
  have fresh : HandsOutFresh
      ((onDevice templatedDevice { descriptorUpdateTemplate := true } oneSetPerPool).run flipNothing
        templatedTasks).driver.attempts := by decide +kernel
  exact ⟨plain, prepared, alike, fresh,
    device_sees_what_the_trace_notes templatedDevice { descriptorUpdateTemplate := true }
      oneSetPerPool templatedTasks plain prepared alike fresh⟩

/-! ## 4. What a trace does not refuse -/

def openingTasks : List Task := [
  .act .create,
  .act (.perform 0 (.setUp .primary ⟨⟨800⟩, 0⟩)),
  .act (.perform 0 (.begin none 0 none))]

/-- A device that opens no recording. -/
def closedDevice : Tapped Simulator := { api := Simulator.fail {} .beginCommandBuffer ⟨-4⟩ }

/-- A device that creates and allocates as the trace does may still refuse to open a recording,
which a trace never does.  And an allocation that is refused on both is a call on the device, but
not noted. -/
theorem refused_calls_are_not_noted :
    let noted := (onTrace {} {}).run flipTrace openingTasks
    let made := (onDevice closedDevice {} {}).run flipNothing openingTasks
    (∀ p ∈ noted.driver.attempts.zip made.driver.attempts, p.2.question? = p.1.question? →
        p.1.question? ∈ [some .commandPool, some .commandBuffers, some .descriptorPool,
          some .descriptorSets] → p.1.AnsweredAlike p.2) ∧
      HandsOutFresh made.driver.attempts ∧
      (∀ f : Names, (onDevice closedDevice {} {}).replies flipNothing openingTasks ≠
        ((onTrace {} {}).replies flipTrace openingTasks).map
          (fun (reply, messages) => (reply.named f, messages))) ∧
      let available : Capabilities := { descriptorUpdateTemplate := true }
      ((onDevice templatedDevice available oneSetPerPool).run flipNothing
          templatedTasks).driver.attempts.length ≠
        ((onTrace available oneSetPerPool).run flipTrace templatedTasks).driver.driver.log.size := by
  refine ⟨by decide +kernel, by decide +kernel, fun f hsame => ?_, by decide +kernel⟩
  have hmade : ((onDevice closedDevice {} {}).replies flipNothing openingTasks)[2]? =
      some (.answered (.failed (.error (.api ⟨-4⟩))), []) := by decide +kernel
  have hnoted : ((onTrace {} {}).replies flipTrace openingTasks)[2]? =
      some (.answered .done, []) := by decide +kernel
  rw [hsame, List.getElem?_map, hnoted] at hmade
  cases hmade

end Bench

end GpuRecorder
