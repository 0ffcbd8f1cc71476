import GpuRecorder.Proofs.Recording.BindLayout
import GpuRecorder.Proofs.Recording.Reaching
import Mathlib.Algebra.Order.Ring.Nat

/-!
# What is counted

The exact account of a recording lists the direct draws as they stand in the stream and the
statistics of the secondary buffers it executed.  The counters of a command buffer clamp at every
draw, at every accumulation and in every child.  They show what one clamp of the exact sums shows.
-/

namespace GpuRecorder.Draw

open scoped List

/-! ## 1. Accounts -/

/-- A direct draw, with the topology of the pipeline that was bound for it. -/
structure DirectDraw where
  primitive : Option Primitive
  count : Nat
  instances : Nat
  deriving DecidableEq, Repr

def DirectDraw.triangles (x : DirectDraw) : Nat :=
  (x.primitive.map fun p => p.triangles x.count * x.instances).getD 0

@[ext]
structure Account where
  draws : List DirectDraw := []
  children : List Stats := []
  deriving DecidableEq, Repr

namespace Account

def append (a b : Account) : Account := ⟨a.draws ++ b.draws, a.children ++ b.children⟩

/-- The exact sums, each clamped once. -/
def totals (a : Account) : Stats where
  drawCalls := saturate (a.draws.length + (a.children.map (·.drawCalls)).sum)
  instances := saturate ((a.draws.map (·.instances)).sum + (a.children.map (·.instances)).sum)
  triangles := saturate ((a.draws.map (·.triangles)).sum + (a.children.map (·.triangles)).sum)

@[simp] theorem append_empty (a : Account) : a.append {} = a := by
  simp [append]

theorem append_assoc (a b c : Account) : (a.append b).append c = a.append (b.append c) := by
  simp [append]

theorem totals_append_child (a : Account) (x : Stats) :
    (a.append ⟨[], [x]⟩).totals = a.totals.accumulate x := by
  simp only [totals, append, Stats.accumulate, saturate_saturate_add, List.append_nil,
    List.map_append, List.map_cons, List.map_nil, List.sum_append, List.sum_cons, List.sum_nil,
    Nat.add_zero, Nat.add_assoc]

/-- What one draw adds is clamped by itself and again when it is added. -/
theorem totals_append_draw (a : Account) (x : DirectDraw) :
    (a.append ⟨[x], []⟩).totals =
      a.totals.accumulate (.ofDraw x.primitive x.count x.instances) := by
  have htriangles (n : Nat) :
      saturate (n + (x.primitive.map (·.triangleCount x.count x.instances)).getD 0) =
        saturate (n + x.triangles) := by
    unfold DirectDraw.triangles
    cases x.primitive with
    | none => rfl
    | some p => exact saturate_add_saturate n _
  simp only [totals, append, Stats.accumulate, Stats.ofDraw, saturate_saturate_add, htriangles,
    List.append_nil, List.length_append, List.length_singleton, List.map_append, List.map_cons,
    List.map_nil, List.sum_append, List.sum_cons, List.sum_nil, Nat.add_zero]
  simp only [Nat.add_right_comm]

/-- Only which draws and children there are matters, not their order. -/
theorem totals_of_perm {a b : Account} (hdraws : a.draws ~ b.draws)
    (hchildren : a.children ~ b.children) : a.totals = b.totals := by
  simp only [totals, hdraws.length_eq, (hdraws.map _).sum_nat, (hchildren.map _).sum_nat]

end Account

/-- The counters after an account, accumulated one after the other. -/
def Stats.count (t : Stats) (a : Account) : Stats :=
  a.children.foldl accumulate
    (a.draws.foldl (fun t x => t.accumulate (.ofDraw x.primitive x.count x.instances)) t)

@[simp] theorem Stats.count_empty (t : Stats) : t.count {} = t := rfl

/-- Clamped step by step or once at the end, the counters show the same. -/
theorem Account.count_totals (a b : Account) : a.totals.count b = (a.append b).totals := by
  have hdraws : ∀ (draws : List DirectDraw) (a : Account),
      draws.foldl (fun t x => t.accumulate (.ofDraw x.primitive x.count x.instances)) a.totals =
        (a.append ⟨draws, []⟩).totals := by
    intro draws
    induction draws with
    | nil => exact fun a => (congrArg totals a.append_empty).symm
    | cons x draws ih =>
      intro a
      rw [List.foldl_cons, ← totals_append_draw, ih, append_assoc]
      rfl
  have hchildren : ∀ (children : List Stats) (a : Account),
      children.foldl Stats.accumulate a.totals = (a.append ⟨[], children⟩).totals := by
    intro children
    induction children with
    | nil => exact fun a => (congrArg totals a.append_empty).symm
    | cons x children ih =>
      intro a
      rw [List.foldl_cons, ← totals_append_child, ih, append_assoc]
      rfl
  rw [Stats.count, hdraws, hchildren, append_assoc]
  simp [append]

end GpuRecorder.Draw

namespace GpuRecorder.Native

open Draw

/-- The direct draw that a call records for a pipeline of some topology. -/
def Call.directDraw? (primitive : Option Primitive) : Call → Option DirectDraw
  | .request (.record _ (.draw count instances _ _))
  | .request (.record _ (.drawIndexed count instances _ _ _)) => some ⟨primitive, count, instances⟩
  | _ => none

theorem directDraw?_of_sort {call : Call} (h : call.sort? ≠ some .draw)
    (primitive : Option Primitive) : call.directDraw? primitive = none := by
  cases call with
  | request r =>
    cases r with
    | record b x =>
      cases x with
      | draw count instances first firstInstance => exact absurd rfl h
      | drawIndexed count instances first offset firstInstance => exact absurd rfl h
      | _ => rfl
    | _ => rfl
  | _ => rfl

end GpuRecorder.Native

namespace GpuRecorder.Recording

open Draw Native Resource Device

namespace CommandBuffer

/-! ## 2. What an operation counts -/

/-- The topology of the bound pipeline. -/
def topology (c : CommandBuffer) : Option Primitive := c.bindings.pipeline.map (·.primitive)

/-- A draw is recorded, and it is a direct one. -/
def drawsDirectly (c : CommandBuffer) (s : Store) (a : ResourceId) : Bool :=
  c.isReady && !c.passIsMissing && (s.assemblers.get a).indirect.isNone

/-- The direct draw of an assembler as it is now. -/
def directDraw (c : CommandBuffer) (s : Store) (a : ResourceId) : DirectDraw :=
  let p := s.drawParameters (s.assemblers.get a)
  { primitive := c.topology
    count := if (s.assemblers.get a).index.isSome then p.indexCount else p.vertexCount
    instances := max 1 p.instanceCount }

def counted (c : CommandBuffer) (s : Store) : Operation → Account
  | .draw a => { draws := if c.drawsDirectly s a then [c.directDraw s a] else [] }
  | .execute children =>
    { children := if c.isReady then (children.filter isReady).map (·.stats) else [] }
  | _ => {}

/-- Only an opening sets the statistics back, and only with a native buffer to open. -/
def reopens (c : CommandBuffer) : Operation → Bool
  | .begin _ _ _ => c.isReady
  | _ => false

section

variable {σ : Type} [Driver σ]

theorem buffer_draw (c : CommandBuffer) (multiDraw : Bool) (s : Store) (a : ResourceId) :
    (c.draw multiDraw s a).1 = { c with stats := c.stats.count (c.counted s (.draw a)) } := by
  by_cases hready : c.isReady = true
  · obtain ⟨n, hn⟩ := Option.isSome_iff_exists.1 hready
    rw [draw, withNative_of_ready hn]
    by_cases hmissing : c.passIsMissing = true
    · simp [refuse, counted, drawsDirectly, hmissing, Stats.count]
    · cases hindirect : (s.assemblers.get a).indirect with
      | some i => simp [counted, drawsDirectly, hindirect, hmissing, Stats.count]
      | none =>
        simp [counted, drawsDirectly, hready, hindirect, hmissing, Stats.count, directDraw,
          directStats, topology]
  · have hn : c.native = none := by simpa [isReady] using hready
    rw [draw, withNative_of_not_ready hn]
    simp [counted, drawsDirectly, hready, Stats.count]

theorem buffer_execute (c : CommandBuffer) (s : Store) (children : List CommandBuffer) :
    (c.execute children).1 =
      { c with stats := c.stats.count (c.counted s (.execute children)) } := by
  cases children with
  | nil => simp [execute, counted, Stats.count]
  | cons child rest =>
    rw [execute, if_neg (by simp)]
    by_cases hready : c.isReady = true
    · obtain ⟨n, hn⟩ := Option.isSome_iff_exists.1 hready
      rw [withNative_of_ready hn]
      simp only [counted, hready, if_true, Stats.count, List.foldl_map, List.foldl_nil]
    · have hn : c.native = none := by simpa [isReady] using hready
      rw [withNative_of_not_ready hn]
      simp [counted, hready, Stats.count]

theorem stats_withNative {c : CommandBuffer} {command : String}
    {f : Handle .commandBuffer → CommandBuffer × Script} (h : ∀ b, (f b).1.stats = c.stats) :
    (c.withNative command f).1.stats = c.stats := by
  unfold withNative
  split
  · rfl
  · exact h _

theorem stats_of_reopens {c : CommandBuffer} {op : Operation} (h : c.reopens op = true)
    (d : Device σ) (s : Store) : (c.perform d s op).buffer.stats = {} := by
  cases op with
  | begin pass subpass framebuffer =>
    show (c.begin d s pass subpass framebuffer).buffer.stats = {}
    rw [bindings_begin h]
  | _ => cases h

theorem stats_perform {c : CommandBuffer} {op : Operation} (h : c.reopens op = false)
    (d : Device σ) (s : Store) :
    (c.perform d s op).buffer.stats = c.stats.count (c.counted s op) := by
  cases op with
  | draw a => exact congrArg stats (c.buffer_draw d.capabilities.multiDrawIndirect s a)
  | execute children => exact congrArg stats (c.buffer_execute s children)
  -- The others count nothing.
  | setUp kind queue =>
    show (c.setUp d kind queue).buffer.stats = c.stats
    rw [(setUp_spec c d kind queue).2]
  | release => rfl
  | begin pass subpass framebuffer =>
    have hnative : c.native = none := by simpa [reopens, isReady] using h
    rw [buffer_perform_of_not_ready hnative d s rfl]
    rfl
  | finish =>
    show (c.finish d).buffer.stats = c.stats
    unfold finish
    split <;> rfl
  | bindLayout id =>
    show (c.bindLayout d s id).buffer.stats = c.stats
    have hends := c.endsBinding d s id
    generalize c.bindLayout d s id = result at hends ⊢
    cases hends with
    | left why => rfl
    | @resolved b p r ready pipeline fresh fits done => cases r.outcome.answer <;> rfl
  | bindAssembler a =>
    show (c.bindAssembler s a).2.1.stats = c.stats
    simp only [bindAssembler]
    repeat' split
    all_goals rfl
  | updateBuffer buffer offset data =>
    show (c.updateBuffer s buffer offset data).2.1.stats = c.stats
    simp only [updateBuffer]
    repeat' split
    all_goals rfl
  | copyToTexture sources texture regions =>
    show (c.copyToTexture s sources texture regions).2.1.stats = c.stats
    simp only [copyToTexture]
    repeat' split
    all_goals rfl
  | _ =>
    apply stats_withNative
    intro b
    repeat' split
    all_goals rfl

end

/-! ## 3. What stands in the stream -/

theorem draws_of_sort {calls : List Call} (h : ∀ call ∈ calls, call.sort? ≠ some .draw)
    (primitive : Option Primitive) : calls.filterMap (Call.directDraw? primitive) = [] := by
  rw [List.filterMap_eq_nil_iff]
  exact fun call hcall => directDraw?_of_sort (h call hcall) primitive

/-- Records of an indirect buffer are not counted. -/
theorem directDraw?_indirect {multiDraw : Bool} {start : BufferPoint} {i : Indirect} {x : Command}
    (h : x ∈ indirectCommands multiDraw start i) (b : Handle .commandBuffer)
    (primitive : Option Primitive) : (Call.request (.record b x)).directDraw? primitive = none := by
  have one (records : BufferPoint) (count : Nat) :
      (Call.request (.record b (if i.indexed then .drawIndexedIndirect records count i.stride
        else .drawIndirect records count i.stride))).directDraw? primitive = none := by
    cases i.indexed <;> rfl
  cases multiDraw with
  | true =>
    obtain rfl := List.mem_singleton.1 h
    exact one _ _
  | false =>
    obtain ⟨record, _, rfl⟩ := List.mem_map.1 h
    exact one _ _

/-- The direct draws that a draw records. -/
theorem draws_draw {c : CommandBuffer} {b : Handle .commandBuffer} (hb : c.handle? = some b)
    (multiDraw : Bool) (s : Store) (a : ResourceId) :
    (callsInto b (c.draw multiDraw s a).2.calls).filterMap (Call.directDraw? c.topology) =
      (c.counted s (.draw a)).draws := by
  obtain ⟨n, hn, rfl⟩ := Option.map_eq_some_iff.1 hb
  have hready : c.isReady = true := by rw [isReady, hn, Option.isSome_some]
  rw [draw, withNative_of_ready hn]
  by_cases hmissing : c.passIsMissing = true
  · simp [refuse, Script.calls, counted, drawsDirectly, hmissing, callsInto]
  rw [if_neg hmissing]
  cases hindirect : (s.assemblers.get a).indirect with
  | some i =>
    have hnone : (c.counted s (.draw a)).draws = [] := by simp [counted, drawsDirectly, hindirect]
    have hdraws : ∀ x ∈ indirectCommands multiDraw (s.start i.buffer) i, x.sort ≠ .setting := by
      intro x hx
      rw [sort_indirect _ _ _ x hx]
      decide
    simp only [hindirect]
    rw [Script.calls_record, callsInto_recordedCalls, hnone, List.filterMap_eq_nil_iff]
    intro call hcall
    obtain ⟨x, hx, rfl⟩ := mem_recordedCalls_of_sort hdraws hcall
    exact directDraw?_indirect hx n.handle c.topology
  | none =>
    have hone : (c.counted s (.draw a)).draws = [c.directDraw s a] := by
      simp [counted, drawsDirectly, hready, hmissing, hindirect]
    simp only [hindirect]
    rw [Script.calls_record, callsInto_recordedCalls, hone, directDraw, directCommand]
    cases (s.assemblers.get a).index.isSome <;> rfl

/-- The commands that an operation records are of its own sorts. -/
theorem sort_mem_sorts {c : CommandBuffer} {b : Handle .commandBuffer} (hb : c.handle? = some b)
    {d : Device Trace} {s : Store} {op : Operation} {call : Call} (hcall : call ∈ c.recorded d s op)
    {sort : CommandSort} (hsort : call.sort? = some sort) : sort ∈ op.sorts := by
  have hnothing (d' : Device Trace) (hdevice : (c.perform d s op).outcome.device = d')
      (hlog : d'.driver.log = d.driver.log) : sort ∈ op.sorts := by
    rw [recorded, hb, hdevice] at hcall
    simp only [Trace.callsSince_of_log_eq hlog] at hcall
    cases hcall
  have hnote (call' : Call) (hnosort : call'.sort? = none)
      (hdriver : (c.perform d s op).outcome.device.driver = d.driver.note call') :
      sort ∈ op.sorts := by
    rw [recorded, hb, hdriver] at hcall
    simp only [Trace.callsSince_of_append (d.driver.log_note call')] at hcall
    obtain rfl := List.mem_singleton.1 (List.mem_of_mem_filter hcall)
    rw [hnosort] at hsort
    cases hsort
  cases hscript : c.scripted? d s op with
  | some r =>
    rw [recorded_scripted hscript, hb] at hcall
    have hcall : call ∈ r.2.calls := List.mem_of_mem_filter hcall
    rcases sends_scripted hscript with hnone | ⟨b', commands, _, hcalls, hsorts⟩
    · rw [hnone] at hcall
      cases hcall
    · rw [hcalls] at hcall
      obtain ⟨x, hx, x', rfl, heq⟩ := sort_of_mem_recordedCalls hcall
      obtain rfl : x'.sort = sort := Option.some.inj hsort
      rw [heq]
      exact hsorts x hx
  | none =>
    cases op with
    | setUp kind queue =>
      -- What the pools ask for is done on the device.
      obtain ⟨_, calls, hlog, hcalls⟩ : Trace.Appends (madeByPools ·) d.driver
          (c.setUp d kind queue).outcome.device.driver := by
        rw [(setUp_spec c d kind queue).1, ← driver_release c d]
        exact poolCalls_appends.request _ _ kind.level queue.family
      have hrecorded : c.recorded d s (.setUp kind queue) = callsInto b calls := by
        rw [recorded, hb]
        exact congrArg (callsInto b) (Trace.callsSince_of_append hlog)
      rw [hrecorded, callsInto_of_madeByPools b hcalls] at hcall
      cases hcall
    | release =>
      refine hnothing _ rfl ?_
      show (c.release d).outcome.device.driver.log = _
      rw [driver_release]
    | begin pass subpass framebuffer =>
      cases hopening : openingOf c.kind s pass subpass framebuffer with
      | none =>
        refine hnothing d ?_ rfl
        simp only [perform, asked, CommandBuffer.begin, hb, hopening]
      | some opening =>
        refine hnote (.begin b opening) rfl ?_
        simp only [perform, asked, CommandBuffer.begin, hb, hopening]
        rfl
    | finish =>
      refine hnote (.finish b) rfl ?_
      simp only [perform, asked, finish, hb]
      rfl
    | bindLayout id =>
      have hbinds := c.bindsLayout d s id
      generalize c.recorded d s (.bindLayout id) = calls, c.bindLayout d s id = result at hbinds hcall
      cases hbinds with
      | left why => cases hcall
      | resolved ready pipeline fresh fits done delivers speaks =>
        obtain ⟨x, hx, x', rfl, heq⟩ := sort_of_mem_recordedCalls hcall
        obtain rfl : x'.sort = sort := Option.some.inj hsort
        rw [heq, sort_delivers delivers x hx]
        exact List.mem_singleton_self _
    | _ => cases hscript

theorem draws_recorded (c : CommandBuffer) (d : Device Trace) (s : Store) (op : Operation) :
    (c.recorded d s op).filterMap (Call.directDraw? c.topology) = (c.counted s op).draws := by
  cases hb : c.handle? with
  | none =>
    -- Without a native buffer nothing is recorded and nothing counted.
    have hready : c.isReady = false := by
      rw [isReady, Option.isSome_eq_false_iff, Option.isNone_iff_eq_none]
      exact Option.map_eq_none_iff.1 hb
    rw [recorded, hb]
    cases op <;> simp [counted, drawsDirectly, hready]
  | some b =>
    by_cases hdraw : ∃ a, op = .draw a
    · obtain ⟨a, rfl⟩ := hdraw
      rw [recorded_scripted (r := c.draw d.capabilities.multiDrawIndirect s a) rfl, hb]
      exact draws_draw hb _ s a
    · have hnone : (c.counted s op).draws = [] := by
        cases op with
        | draw a => exact absurd ⟨a, rfl⟩ hdraw
        | _ => rfl
      rw [hnone]
      refine draws_of_sort (fun call hcall hsort => hdraw ?_) _
      have hmem := sort_mem_sorts hb hcall hsort
      cases op <;> simp [Operation.sorts] at hmem
      exact ⟨_, rfl⟩

end CommandBuffer

end GpuRecorder.Recording
