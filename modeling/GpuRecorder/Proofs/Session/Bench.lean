import GpuRecorder.Proofs.Session.Event
import GpuRecorder.Proofs.Session.Mirror

/-!
# Runs over two drivers

A `Task` is anything that is asked of a device, of its command buffers or of a queue, or a switch
that somebody flips on the driver.  Over two drivers that give the same answers under other names
the same tasks get the same replies, and what they lead to is the same under other names.
-/

namespace GpuRecorder

open Native Resource Recording Device

/-! ## 1. Tasks -/

inductive Task where
  | act (a : Action)
  /-- Ask the device itself for a command buffer. -/
  | borrow (level : Level) (family : Nat)
  /-- Give a buffer back that was borrowed so, by its number among them. -/
  | giveBack (level : Level) (family : Nat) (n : Nat)
  | allocateSets (layouts : List (Handle .setLayout))
  | hold
  | letGo
  /-- Drop the command buffers and the device, whose command pools go in the order they were
  made. -/
  | close
  | switch (x : Switch)

inductive Reply where
  | answered (a : Answer)
  | buffer (a : Except DeviceError (Handle .commandBuffer))
  | sets (a : Except Failure (List (Handle .descriptorSet)))
  /-- Whether exclusive access was taken. -/
  | held (taken : Bool)
  deriving DecidableEq

def Reply.named (f : Names) : Reply → Reply
  | .buffer a => .buffer (a.map f.commandBuffer)
  | .sets a => .sets (a.map (List.map f.descriptorSet))
  | r => r

/-- Command buffers are executed by their number, and the log is not cleared. -/
def Task.IsPlain : Task → Prop
  | .act (.perform _ (.execute _)) => False
  | .switch .clearLog => False
  | _ => True

/-- A session and the command buffers that its device lent directly, the first one first. -/
structure Bench (σ : Type) where
  session : Session σ
  lent : List (Handle .commandBuffer) := []

namespace Bench

variable {σ : Type}

structure Step (σ : Type) where
  bench : Bench σ
  reply : Reply
  messages : List Message := []

/-- The bench with another device in its place. -/
def withDevice (b : Bench σ) (device : Device σ) : Bench σ :=
  { b with session := { b.session with device } }

def giveBack (b : Bench σ) (level : Level) (family : Nat) (n : Nat) : Step σ :=
  match b.lent[n]? with
  | none => { bench := b, reply := .answered .done }
  | some buffer =>
    let o := b.session.device.giveBackBuffer level family buffer
    { bench := b.withDevice o.device, reply := .answered .done, messages := o.messages }

def hold (b : Bench σ) : Step σ :=
  match b.session.device.tryHold with
  | none => { bench := b, reply := .held false }
  | some device => { bench := b.withDevice device, reply := .held true }

section

variable [Driver σ] (flip : Switch → σ → σ)

/-- What one task leaves behind, where `flip` is what a switch does to the driver. -/
def step (b : Bench σ) : Task → Step σ
  | .act a =>
    let s := b.session.step a
    { bench := { b with session := s.session }
      reply := .answered s.answer
      messages := s.messages }
  | .borrow level family =>
    let o := b.session.device.requestBuffer level family
    { bench := { b.withDevice o.device with lent := b.lent ++ o.answer.toOption.toList }
      reply := .buffer o.answer
      messages := o.messages }
  | .giveBack level family n => b.giveBack level family n
  | .allocateSets layouts =>
    let o := b.session.device.allocateSets layouts
    { bench := b.withDevice o.device, reply := .sets o.answer, messages := o.messages }
  | .hold => b.hold
  | .letGo => { bench := b.withDevice b.session.device.letGo, reply := .answered .done }
  | .close => { bench := { b with session := b.session.close }, reply := .answered .done }
  | .switch x =>
    let device := b.session.device
    { bench := b.withDevice { device with driver := flip x device.driver }
      reply := .answered .done }

def run (b : Bench σ) (tasks : List Task) : Bench σ :=
  tasks.foldl (fun b t => (b.step flip t).bench) b

/-- What every task of a run is answered, with what is reported meanwhile. -/
def replies (b : Bench σ) : List Task → List (Reply × List Message)
  | [] => []
  | t :: rest =>
    ((b.step flip t).reply, (b.step flip t).messages) :: replies (b.step flip t).bench rest

end

def driver (b : Bench σ) : σ := b.session.device.driver

/-- Giving back and taking exclusive access do not reach the driver. -/
theorem device_giveBack (b : Bench σ) (level : Level) (family : Nat) (n : Nat) :
    let d := (b.giveBack level family n).bench.session.device
    d.driver = b.driver ∧ d.capabilities = b.session.device.capabilities := by
  unfold giveBack
  split <;> exact ⟨rfl, rfl⟩

theorem device_hold (b : Bench σ) :
    let d := b.hold.bench.session.device
    d.driver = b.driver ∧ d.capabilities = b.session.device.capabilities := by
  unfold hold tryHold
  cases b.session.device.held <;> exact ⟨rfl, rfl⟩

theorem capabilities_step [Driver σ] (flip : Switch → σ → σ) (b : Bench σ) (t : Task) :
    (b.step flip t).bench.session.device.capabilities = b.session.device.capabilities := by
  cases t with
  | act a => exact b.session.capabilities_step a
  | giveBack level family n => exact (b.device_giveBack level family n).2
  | hold => exact b.device_hold.2
  | close => exact b.session.capabilities_close
  | _ => rfl

end Bench

namespace ClosingCalls

variable {σ : Type} [Driver σ] {R : σ → σ → Prop} {flip : Switch → σ → σ}

theorem task (h : ClosingCalls R) (flips : ∀ x, (Task.switch x).IsPlain → ∀ d, R d (flip x d))
    (b : Bench σ) {t : Task} (hplain : t.IsPlain) : R b.driver (b.step flip t).bench.driver := by
  cases t with
  | act a => exact h.step b.session a
  | borrow level family => exact h.toPoolCalls.request _ _ level family
  | giveBack level family n =>
    show R _ (b.giveBack level family n).bench.session.device.driver
    rw [(b.device_giveBack level family n).1]
    exact h.refl _
  | allocateSets layouts => exact h.allocate _ _ layouts
  | hold =>
    show R _ b.hold.bench.session.device.driver
    rw [b.device_hold.1]
    exact h.refl _
  | letGo => exact h.refl _
  | close => exact h.close b.session
  | switch x => exact flips x hplain _

theorem tasks (h : ClosingCalls R) (flips : ∀ x, (Task.switch x).IsPlain → ∀ d, R d (flip x d))
    (b : Bench σ) {tasks : List Task} (hplain : ∀ t ∈ tasks, t.IsPlain) :
    R b.driver (b.run flip tasks).driver := by
  induction tasks generalizing b with
  | nil => exact h.refl _
  | cons t tasks ih =>
    exact h.trans (h.task flips b (hplain t List.mem_cons_self))
      (ih _ fun t ht => hplain t (List.mem_cons_of_mem _ ht))

end ClosingCalls

/-! ## 2. Sessions over two drivers -/

section

variable {σ τ : Type}

/-- The same session over another driver. -/
structure Session.Mirrors (f : Names) (related : σ → τ → Prop) (s : Session σ) (s' : Session τ) :
    Prop where
  device : s.device.Mirrors f related s'.device
  store : s.store.SameButSets s'.store
  buffers : s'.buffers = s.buffers.map (CommandBuffer.named f)

structure Session.Step.Mirrors (f : Names) (related : σ → τ → Prop) (done : Session.Step σ)
    (done' : Session.Step τ) : Prop where
  session : done.session.Mirrors f related done'.session
  answer : done'.answer = done.answer
  messages : done'.messages = done.messages

/-- The same bench over another driver. -/
structure Bench.Mirrors (f : Names) (related : σ → τ → Prop) (b : Bench σ) (b' : Bench τ) :
    Prop where
  session : b.session.Mirrors f related b'.session
  lent : b'.lent = b.lent.map f.commandBuffer

structure Bench.Step.Mirrors (f : Names) (related : σ → τ → Prop) (done : Bench.Step σ)
    (done' : Bench.Step τ) : Prop where
  bench : done.bench.Mirrors f related done'.bench
  reply : done'.reply = done.reply.named f
  messages : done'.messages = done.messages

variable {f : Names} {related : σ → τ → Prop}

theorem Session.Mirrors.select {s : Session σ} {s' : Session τ} (h : s.Mirrors f related s')
    (numbers : List Nat) :
    s'.select numbers = (s.select numbers).map (CommandBuffer.named f) := by
  rw [Session.select, Session.select, h.buffers, List.map_filterMap]
  exact List.filterMap_congr fun n _ => List.getElem?_map

theorem Bench.Mirrors.withDevice {b : Bench σ} {b' : Bench τ} (h : b.Mirrors f related b')
    {d : Device σ} {d' : Device τ} (hd : d.Mirrors f related d') :
    (b.withDevice d).Mirrors f related (b'.withDevice d') :=
  ⟨⟨hd, h.session.store, h.session.buffers⟩, h.lent⟩

variable [Driver σ] [Driver τ] {push : Bool} {reached : σ → Prop} {reached' : τ → Prop}

namespace DriverMirror

theorem performs (h : DriverMirror f push related reached reached') {s : Session σ}
    {s' : Session τ} (hs : s.Mirrors f related s')
    (hpush : s.device.capabilities.pushDescriptor = true → push = true) (n : Nat) (op : Operation)
    (hreached : reached (s.perform n op).session.device.driver)
    (hreached' : reached' (s'.perform n (op.named f)).session.device.driver) :
    (s.perform n op).Mirrors f related (s'.perform n (op.named f)) := by
  have hfound : s'.buffers[n]? = (s.buffers[n]?).map (CommandBuffer.named f) := by
    rw [hs.buffers]
    exact List.getElem?_map
  unfold Session.perform at hreached hreached' ⊢
  rw [hfound] at hreached' ⊢
  cases hc : s.buffers[n]? with
  | none => exact ⟨hs, rfl, rfl⟩
  | some c =>
    rw [hc] at hreached hreached'
    obtain ⟨hbuffer, hstore, hanswer, hmessages, hdevice⟩ :=
      h.perform hs.device hpush hs.store c op hreached hreached'
    refine ⟨⟨hdevice, hstore, ?_⟩, hanswer, hmessages⟩
    simp only [Option.map_some, hs.buffers, hbuffer, List.map_set]

theorem step (h : DriverMirror f push related reached reached') {s : Session σ} {s' : Session τ}
    (hs : s.Mirrors f related s')
    (hpush : s.device.capabilities.pushDescriptor = true → push = true) {a : Action}
    (hplain : (Task.act a).IsPlain) (hreached : reached (s.step a).session.device.driver)
    (hreached' : reached' (s'.step a).session.device.driver) :
    (s.step a).Mirrors f related (s'.step a) := by
  cases a with
  | change c =>
    obtain ⟨hanswer, hstore⟩ := hs.store.apply c
    exact ⟨⟨hs.device, hstore, hs.buffers⟩, congrArg Answer.ofExcept hanswer, rfl⟩
  | create =>
    refine ⟨⟨hs.device, hs.store, ?_⟩, rfl, rfl⟩
    show s'.buffers ++ [({} : CommandBuffer)] = (s.buffers ++ [({} : CommandBuffer)]).map _
    rw [List.map_append, hs.buffers]
    rfl
  | perform n op =>
    have hsame : op.named f = op := by
      cases op with
      | execute children => exact hplain.elim
      | _ => rfl
    have hperform := h.performs hs hpush n op hreached
    rw [hsame] at hperform
    exact hperform hreached'
  | execute n children =>
    have hselect := hs.select (children.filter (· ≠ n))
    have hperform := h.performs hs hpush n
      (.execute (s.select (children.filter (· ≠ n)))) hreached
    rw [Operation.named, ← hselect] at hperform
    exact hperform hreached'
  | submit queue buffers fence =>
    have hhandles : (s'.select buffers).map (·.handle?) =
        ((s.select buffers).map (·.handle?)).map (Option.map f.commandBuffer) := by
      rw [hs.select, List.map_map, List.map_map]
      exact List.map_congr_left fun c _ => CommandBuffer.handle?_named c
    unfold Session.step Session.ofDevice at hreached hreached' ⊢
    simp only [hhandles] at hreached hreached' ⊢
    obtain ⟨hanswer, hmessages, hdevice⟩ :=
      h.submitBuffers hs.device queue _ fence hreached hreached'
    exact ⟨⟨hdevice, hs.store, hs.buffers⟩, congrArg Answer.ofExcept hanswer, hmessages⟩
  | resetSets =>
    obtain ⟨hanswer, hmessages, hdevice⟩ := h.resetSets hs.device hreached hreached'
    exact ⟨⟨hdevice, hs.store, hs.buffers⟩, congrArg Answer.ofExcept hanswer, hmessages⟩

theorem run (h : DriverMirror f push related reached reached') {s : Session σ} {s' : Session τ}
    (hs : s.Mirrors f related s')
    (hpush : s.device.capabilities.pushDescriptor = true → push = true) {actions : List Action}
    (hplain : ∀ a ∈ actions, (Task.act a).IsPlain) (hreached : reached (s.run actions).device.driver)
    (hreached' : reached' (s'.run actions).device.driver) :
    (s.run actions).Mirrors f related (s'.run actions) := by
  induction actions generalizing s s' with
  | nil => exact hs
  | cons a actions ih =>
    have hstep := h.step hs hpush (hplain a List.mem_cons_self) (h.calls.run _ actions hreached)
      (h.calls'.run _ actions hreached')
    exact ih hstep.session (by rwa [Session.capabilities_step])
      (fun a ha => hplain a (List.mem_cons_of_mem _ ha)) hreached hreached'

theorem closes (h : DriverMirror f push related reached reached') {s : Session σ} {s' : Session τ}
    (hs : s.Mirrors f related s')
    (hpush : s.device.capabilities.pushDescriptor = true → push = true)
    (hreached : reached s.close.device.driver) (hreached' : reached' s'.close.device.driver) :
    s.close.Mirrors f related s'.close := by
  have hreleased : s.releaseAll.Mirrors f related s'.releaseAll := by
    have hcount : s'.buffers.length = s.buffers.length := by rw [hs.buffers, List.length_map]
    replace hreached := h.calls.toDestroyingCalls.destroys s.releaseAll.device hreached
    replace hreached' := h.calls'.toDestroyingCalls.destroys s'.releaseAll.device hreached'
    rw [s.releaseAll_eq_run] at hreached ⊢
    rw [s'.releaseAll_eq_run, hcount] at hreached' ⊢
    refine h.run hs hpush (fun a ha => ?_) hreached hreached'
    obtain ⟨n, -, rfl⟩ := List.mem_map.1 ha
    trivial
  exact ⟨h.close hreleased.device, hreleased.store, hreleased.buffers⟩

end DriverMirror

/-! ## 3. Runs over two drivers -/

/-- What a switch does makes no difference between the drivers; the log is not cleared. -/
structure FlipMirror (related : σ → τ → Prop) (reached : σ → Prop) (reached' : τ → Prop)
    (flip : Switch → σ → σ) (flip' : Switch → τ → τ) : Prop where
  related : ∀ {x}, (Task.switch x).IsPlain → ∀ {d d'}, related d d' →
    related (flip x d) (flip' x d')
  back : ∀ x, (Task.switch x).IsPlain → ∀ d, reached (flip x d) → reached d
  back' : ∀ x, (Task.switch x).IsPlain → ∀ d, reached' (flip' x d) → reached' d

namespace DriverMirror

variable {flip : Switch → σ → σ} {flip' : Switch → τ → τ} {b : Bench σ} {b' : Bench τ}

theorem task (h : DriverMirror f push related reached reached')
    (flips : FlipMirror related reached reached' flip flip') (hb : b.Mirrors f related b')
    (hpush : b.session.device.capabilities.pushDescriptor = true → push = true) {t : Task}
    (hplain : t.IsPlain) (hreached : reached (b.step flip t).bench.driver)
    (hreached' : reached' (b'.step flip' t).bench.driver) :
    (b.step flip t).Mirrors f related (b'.step flip' t) := by
  have hd := hb.session.device
  cases t with
  | act a =>
    obtain ⟨hsession, hanswer, hmessages⟩ := h.step hb.session hpush hplain hreached hreached'
    exact ⟨⟨hsession, hb.lent⟩, congrArg Reply.answered hanswer, hmessages⟩
  | borrow level family =>
    obtain ⟨hanswer, hmessages, hdevice⟩ := h.requestBuffer hd level family hreached hreached'
    refine ⟨⟨⟨hdevice, hb.session.store, hb.session.buffers⟩, ?_⟩, congrArg Reply.buffer hanswer,
      hmessages⟩
    show b'.lent ++ _ = (b.lent ++ _).map _
    rw [hanswer, hb.lent, List.map_append]
    cases (b.session.device.requestBuffer level family).answer <;> rfl
  | giveBack level family n =>
    show (b.giveBack level family n).Mirrors f related (b'.giveBack level family n)
    unfold Bench.giveBack
    rw [hb.lent, List.getElem?_map]
    cases b.lent[n]? with
    | none => exact ⟨hb, rfl, rfl⟩
    | some buffer =>
      obtain ⟨-, hmessages, hdevice⟩ := hd.giveBackBuffer level family buffer
      exact ⟨hb.withDevice hdevice, rfl, hmessages⟩
  | allocateSets layouts =>
    obtain ⟨hanswer, hmessages, hdevice⟩ := h.allocateSets hd layouts hreached hreached'
    exact ⟨hb.withDevice hdevice, congrArg Reply.sets hanswer, hmessages⟩
  | hold =>
    show b.hold.Mirrors f related b'.hold
    unfold Bench.hold tryHold
    rw [hd.held]
    cases b.session.device.held with
    | true => exact ⟨hb, rfl, rfl⟩
    | false =>
      exact ⟨hb.withDevice ⟨hd.driver, hd.capabilities, hd.commandPools, hd.descriptorPools, rfl⟩,
          rfl, rfl⟩
  | letGo =>
    exact ⟨hb.withDevice ⟨hd.driver, hd.capabilities, hd.commandPools, hd.descriptorPools, rfl⟩,
      rfl, rfl⟩
  | close => exact ⟨⟨h.closes hb.session hpush hreached hreached', hb.lent⟩, rfl, rfl⟩
  | switch x =>
    exact ⟨hb.withDevice ⟨flips.related hplain hd.driver, hd.capabilities, hd.commandPools,
      hd.descriptorPools, hd.held⟩, rfl, rfl⟩

/-- What both runs come through on the way to their ends is known of both drivers, so task by task
the replies are the same under other names. -/
theorem runs (h : DriverMirror f push related reached reached')
    (flips : FlipMirror related reached reached' flip flip') (hb : b.Mirrors f related b')
    (hpush : b.session.device.capabilities.pushDescriptor = true → push = true) {tasks : List Task}
    (hplain : ∀ t ∈ tasks, t.IsPlain) (hreached : reached (b.run flip tasks).driver)
    (hreached' : reached' (b'.run flip' tasks).driver) :
    b'.replies flip' tasks =
        (b.replies flip tasks).map (fun (reply, messages) => (reply.named f, messages)) ∧
      (b.run flip tasks).Mirrors f related (b'.run flip' tasks) := by
  induction tasks generalizing b b' with
  | nil => exact ⟨rfl, hb⟩
  | cons t tasks ih =>
    have hrest : ∀ t ∈ tasks, t.IsPlain := fun t ht => hplain t (List.mem_cons_of_mem _ ht)
    obtain ⟨hbench, hreply, hmessages⟩ := h.task flips hb hpush (hplain t List.mem_cons_self)
      (h.calls.tasks flips.back _ hrest hreached) (h.calls'.tasks flips.back' _ hrest hreached')
    obtain ⟨hreplies, hend⟩ :=
      ih hbench (by rwa [Bench.capabilities_step]) hrest hreached hreached'
    exact ⟨congrArg₂ List.cons (Prod.ext hreply hmessages) hreplies, hend⟩

end DriverMirror

end

end GpuRecorder
