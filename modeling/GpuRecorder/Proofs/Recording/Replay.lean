import GpuRecorder.Proofs.Recording.BindLayout
import Mathlib.Data.List.Forall2

/-!
# Replaying the state of a recording

A driver goes by what was last sent to it: `NativeState` is that, replayed from a stream.  A command
buffer remembers what it has sent and leaves out a request that would not change it.  So replaying
what it records gives what it remembers, and that is near all that was asked for.
-/

namespace GpuRecorder.Recording

open Binary Draw Native Resource Device

/-! ## 1. What a driver has in effect -/

/-- For each state what was last sent for it; none before the first. -/
structure NativeState where
  pipeline : Option (Handle .pipeline) := none
  viewport : Option NativeViewport := none
  scissor : Option Rect := none
  lineWidth : Option Single := none
  depthBias : Option DepthBias := none
  blendConstants : Option Color := none
  depthBounds : Option DepthBounds := none
  stencilWriteMask : PerFace (Option Nat) := ⟨none, none⟩
  stencilCompareMask : PerFace (Option Nat) := ⟨none, none⟩
  stencilReference : PerFace (Option Nat) := ⟨none, none⟩
  deriving DecidableEq, Repr

namespace NativeState

/-- The state after one more command of a stream, where every viewport and every scissor is a
command of its own. -/
def command (s : NativeState) : Command → NativeState
  | .bindPipeline _ pipeline => { s with pipeline := some pipeline }
  | .setViewports _ [v] => { s with viewport := some v }
  | .setScissors _ [r] => { s with scissor := some r }
  | .setLineWidth width => { s with lineWidth := some width }
  | .setDepthBias constant clamp slope => { s with depthBias := some ⟨constant, clamp, slope⟩ }
  | .setBlendConstants c => { s with blendConstants := some c }
  | .setDepthBounds lower upper => { s with depthBounds := some ⟨lower, upper⟩ }
  | .setStencilWriteMask face mask =>
    { s with stencilWriteMask := s.stencilWriteMask.set face (some mask) }
  | .setStencilCompareMask face mask =>
    { s with stencilCompareMask := s.stencilCompareMask.set face (some mask) }
  | .setStencilReference face reference =>
    { s with stencilReference := s.stencilReference.set face (some reference) }
  | _ => s

/-- The state after one more call; a recording that is opened has nothing in effect. -/
def call (s : NativeState) : Call → NativeState
  | .begin _ _ => {}
  | .request (.record _ c) => s.command c
  | _ => s

def replay (calls : List Call) : NativeState := calls.foldl call {}

/-- The state after a setting was sent. -/
def setting (s : NativeState) : Setting → NativeState
  | .viewport v => { s with viewport := some v.toNative }
  | .scissor r => { s with scissor := some r }
  | .lineWidth width => { s with lineWidth := some width }
  | .depthBias b => { s with depthBias := some b }
  | .blendConstants c => { s with blendConstants := some c }
  | .depthBounds b => { s with depthBounds := some b }
  | .stencilWriteMask face mask =>
    { s with stencilWriteMask := s.stencilWriteMask.set face (some mask) }
  | .stencilCompare face c =>
    { s with
      stencilReference := s.stencilReference.set face (some c.reference)
      stencilCompareMask := s.stencilCompareMask.set face (some c.mask) }

theorem replay_append (calls more : List Call) :
    replay (calls ++ more) = more.foldl call (replay calls) := by
  rw [replay, List.foldl_append, replay]

theorem foldl_call_setting (s : NativeState) (b : Handle .commandBuffer) (x : Setting) :
    (recordedCalls b x.commands).foldl call s = s.setting x := by
  cases x <;> rfl

theorem command_of_sort (s : NativeState) {c : Command} (hpipeline : c.sort ≠ .pipeline)
    (hsetting : c.sort ≠ .setting) : s.command c = s := by
  cases c with
  | bindPipeline point pipeline => exact absurd rfl hpipeline
  | setViewports first viewports => exact absurd rfl hsetting
  | setScissors first scissors => exact absurd rfl hsetting
  | setLineWidth width => exact absurd rfl hsetting
  | setDepthBias constant clamp slope => exact absurd rfl hsetting
  | setBlendConstants c => exact absurd rfl hsetting
  | setDepthBounds lower upper => exact absurd rfl hsetting
  | setStencilWriteMask face mask => exact absurd rfl hsetting
  | setStencilCompareMask face mask => exact absurd rfl hsetting
  | setStencilReference face reference => exact absurd rfl hsetting
  | _ => rfl

/-- What sets no state leaves the state as it is. -/
theorem foldl_call_of_sort (s : NativeState) {b : Handle .commandBuffer} {commands : List Command}
    (h : ∀ c ∈ commands, c.sort ≠ .pipeline ∧ c.sort ≠ .setting) :
    (recordedCalls b commands).foldl call s = s := by
  have hcalls : ∀ x ∈ recordedCalls b commands, s.call x = s := by
    intro x hx
    obtain ⟨c, hc, c', rfl, hsort⟩ := sort_of_mem_recordedCalls hx
    obtain ⟨hpipeline, hsetting⟩ := h c hc
    exact s.command_of_sort (hsort ▸ hpipeline) (hsort ▸ hsetting)
  generalize recordedCalls b commands = calls at hcalls
  induction calls with
  | nil => rfl
  | cons x calls ih =>
    rw [List.foldl_cons, hcalls x List.mem_cons_self]
    exact ih fun y hy => hcalls y (List.mem_cons_of_mem _ hy)

end NativeState

/-! ## 2. Near states -/

/-- The same number, or one that does not differ from it. -/
def NearNumber (sent asked : Single) : Prop := sent = asked ∨ sent.differs asked = false

theorem nearNumbers_refl (numbers : List Single) : List.Forall₂ NearNumber numbers numbers :=
  List.forall₂_same.2 fun _ _ => Or.inl rfl

theorem nearNumbers_of_not_anyDiffers {sent asked : List Single}
    (h : Single.anyDiffers sent asked = false) : List.Forall₂ NearNumber sent asked := by
  induction sent generalizing asked with
  | nil =>
    cases asked with
    | nil => exact .nil
    | cons b asked => cases h
  | cons a sent ih =>
    cases asked with
    | nil => cases h
    | cons b asked =>
      obtain ⟨hhead, hrest⟩ := Bool.or_eq_false_iff.1 h
      exact .cons (Or.inr hhead) (ih hrest)

/-- The same corner and size, and depths that are near. -/
structure NearViewport (sent asked : NativeViewport) : Prop where
  x : sent.x = asked.x
  y : sent.y = asked.y
  width : sent.width = asked.width
  height : sent.height = asked.height
  minDepth : NearNumber sent.minDepth asked.minDepth
  maxDepth : NearNumber sent.maxDepth asked.maxDepth

theorem NearViewport.refl (v : NativeViewport) : NearViewport v v :=
  ⟨rfl, rfl, rfl, rfl, Or.inl rfl, Or.inl rfl⟩

theorem nearViewport_of_not_differs {v w : Viewport} (h : v.differs w = false) :
    NearViewport v.toNative w.toNative := by
  simp only [Viewport.differs, Bool.or_eq_false_iff, bne_eq_false_iff_eq] at h
  obtain ⟨⟨⟨⟨⟨hleft, htop⟩, hwidth⟩, hheight⟩, hmin⟩, hmax⟩ := h
  refine ⟨?_, ?_, ?_, ?_, Or.inr hmin, Or.inr hmax⟩ <;> simp only [Viewport.toNative, *]

/-- Handles and integers are the same, floating numbers are near. -/
structure NativeState.Near (sent asked : NativeState) : Prop where
  pipeline : sent.pipeline = asked.pipeline
  viewport : Option.Rel NearViewport sent.viewport asked.viewport
  scissor : sent.scissor = asked.scissor
  lineWidth : Option.Rel NearNumber sent.lineWidth asked.lineWidth
  depthBias : Option.Rel (fun a b => List.Forall₂ NearNumber a.components b.components)
    sent.depthBias asked.depthBias
  blendConstants : Option.Rel (fun a b => List.Forall₂ NearNumber a.components b.components)
    sent.blendConstants asked.blendConstants
  depthBounds : Option.Rel (fun a b => List.Forall₂ NearNumber a.components b.components)
    sent.depthBounds asked.depthBounds
  stencilWriteMask : sent.stencilWriteMask = asked.stencilWriteMask
  stencilCompareMask : sent.stencilCompareMask = asked.stencilCompareMask
  stencilReference : sent.stencilReference = asked.stencilReference

theorem NativeState.Near.empty : NativeState.Near {} {} :=
  ⟨rfl, .none, rfl, .none, .none, .none, .none, rfl, rfl, rfl⟩

theorem NativeState.Near.setting {s t : NativeState} (h : s.Near t) (x : Setting) :
    (s.setting x).Near (t.setting x) := by
  cases x with
  | viewport v => exact { h with viewport := .some (.refl _) }
  | scissor r => exact { h with scissor := rfl }
  | lineWidth width => exact { h with lineWidth := .some (Or.inl rfl) }
  | depthBias b => exact { h with depthBias := .some (nearNumbers_refl _) }
  | blendConstants c => exact { h with blendConstants := .some (nearNumbers_refl _) }
  | depthBounds b => exact { h with depthBounds := .some (nearNumbers_refl _) }
  | stencilWriteMask face mask =>
    exact { h with
      stencilWriteMask := congrArg (·.set face (some mask)) h.stencilWriteMask }
  | stencilCompare face c =>
    exact { h with
      stencilReference := congrArg (·.set face (some c.reference)) h.stencilReference
      stencilCompareMask := congrArg (·.set face (some c.mask)) h.stencilCompareMask }

/-! ## 3. What is asked for -/

/-- A pipeline and dynamic settings. -/
structure Requests where
  pipeline : Option Pipeline := none
  dynamic : DynamicState := {}
  deriving DecidableEq, Repr

namespace Requests

/-- What is in effect when exactly this is sent. -/
def native (r : Requests) : NativeState where
  pipeline := r.pipeline.map (·.handle)
  viewport := r.dynamic.viewport.map (·.toNative)
  scissor := r.dynamic.scissor
  lineWidth := r.dynamic.lineWidth
  depthBias := r.dynamic.depthBias
  blendConstants := r.dynamic.blendConstants
  depthBounds := r.dynamic.depthBounds
  stencilWriteMask := r.dynamic.stencilWriteMask
  stencilCompareMask :=
    ⟨r.dynamic.stencilCompare.front.map (·.mask), r.dynamic.stencilCompare.back.map (·.mask)⟩
  stencilReference :=
    ⟨r.dynamic.stencilCompare.front.map (·.reference),
      r.dynamic.stencilCompare.back.map (·.reference)⟩

def set (r : Requests) (x : Setting) : Requests := { r with dynamic := r.dynamic.remember x }

/-- What has been asked for after one more operation, each state as asked last.  To open a pass is
to ask for its area; a pass without a framebuffer is not opened. -/
def ask (r : Requests) (s : Store) : Operation → Requests
  | .bindPipeline p => { r with pipeline := some p }
  | .set x => r.set x
  | .beginPass p =>
    if (s.resolve p.framebuffer).isSome then
      (r.set (.viewport (.ofRect p.area))).set (.scissor p.area)
    else r
  | _ => r

theorem native_set (r : Requests) (x : Setting) : (r.set x).native = r.native.setting x := by
  cases x with
  | stencilWriteMask face mask => cases face <;> rfl
  | stencilCompare face c => cases face <;> rfl
  | _ => rfl

end Requests

theorem pipeline_ask {r : Requests} {s : Store} {op : Operation} {q : Pipeline}
    (h : (r.ask s op).pipeline = some q) : op = .bindPipeline q ∨ r.pipeline = some q := by
  cases op with
  | bindPipeline p => exact Or.inl (congrArg _ (Option.some.inj h))
  | beginPass p =>
    simp only [Requests.ask] at h
    split at h <;> exact Or.inr h
  | _ => exact Or.inr h

/-- What is sent is in effect as it was asked for. -/
theorem near_ask {sent r : Requests} (h : sent.native.Near r.native) (s : Store) (op : Operation) :
    (sent.ask s op).native.Near (r.ask s op).native := by
  have hset {sent r : Requests} (h : sent.native.Near r.native) (x : Setting) :
      (sent.set x).native.Near (r.set x).native := by
    rw [sent.native_set, r.native_set]
    exact h.setting x
  cases op with
  | bindPipeline p => exact { h with pipeline := rfl }
  | set x => exact hset h x
  | beginPass p =>
    simp only [Requests.ask]
    split
    · exact hset (hset h _) _
    · exact h
  | _ => exact h

/-- What is left out is near what was last sent. -/
theorem rel_of_unchanged {α : Type} {differs : α → α → Bool} {R : α → α → Prop} {sent : Option α}
    {x : α} (h : unchanged differs sent x = true) (hR : ∀ old, differs old x = false → R old x) :
    Option.Rel R sent (some x) := by
  cases sent with
  | none => cases h
  | some old => exact .some (hR old (by simpa [unchanged] using h))

theorem set_eq_self {α : Type} {p : PerFace α} {face : Face} {a : α} (h : p.get face = a) :
    p.set face a = p := by
  cases face <;> exact h ▸ rfl

theorem near_set_of_holds {sent : Requests} {t : NativeState} (h : sent.native.Near t) {x : Setting}
    (hx : sent.dynamic.holds x = true) : sent.native.Near (t.setting x) := by
  -- Setting one face to what it has already changes nothing.
  have same {p q : PerFace (Option Nat)} (hpq : p = q) {face : Face} {a : Nat}
      (hget : p.get face = some a) : p = q.set face (some a) := by
    rw [← hpq, set_eq_self hget]
  cases x with
  | viewport v =>
    have hrel : Option.Rel (fun a b => NearViewport a.toNative b.toNative) sent.dynamic.viewport
        (some v) := rel_of_unchanged hx fun _ => nearViewport_of_not_differs
    refine { h with viewport := ?_ }
    show Option.Rel NearViewport (sent.dynamic.viewport.map (·.toNative)) (some v.toNative)
    generalize sent.dynamic.viewport = viewport at hrel ⊢
    cases hrel with
    | some hnear => exact .some hnear
  | scissor r => exact { h with scissor := of_decide_eq_true hx }
  | lineWidth width => exact { h with lineWidth := rel_of_unchanged hx fun _ => Or.inr }
  | depthBias b =>
    simp only [DynamicState.holds] at hx
    exact { h with depthBias := rel_of_unchanged hx fun _ => nearNumbers_of_not_anyDiffers }
  | blendConstants c =>
    simp only [DynamicState.holds] at hx
    exact { h with blendConstants := rel_of_unchanged hx fun _ => nearNumbers_of_not_anyDiffers }
  | depthBounds b =>
    simp only [DynamicState.holds] at hx
    exact { h with depthBounds := rel_of_unchanged hx fun _ => nearNumbers_of_not_anyDiffers }
  | stencilWriteMask face mask =>
    have hget : sent.dynamic.stencilWriteMask.get face = some mask := of_decide_eq_true hx
    exact { h with stencilWriteMask := same h.stencilWriteMask hget }
  | stencilCompare face c =>
    have hget : sent.dynamic.stencilCompare.get face = some c := of_decide_eq_true hx
    have hreference : sent.native.stencilReference.get face = some c.reference := by
      cases face <;> exact congrArg (Option.map (·.reference)) hget
    have hmask : sent.native.stencilCompareMask.get face = some c.mask := by
      cases face <;> exact congrArg (Option.map (·.mask)) hget
    exact { h with
      stencilReference := same h.stencilReference hreference
      stencilCompareMask := same h.stencilCompareMask hmask }

/-! ## 4. One operation -/

namespace Operation

/-- After these nothing of the recording is in effect: the native buffer changes hands, or a
recording is opened anew. -/
def restarts : Operation → Bool
  | .setUp _ _ | .release | .begin _ _ _ => true
  | _ => false

theorem moves_of_restarts {op : Operation} (h : op.restarts = false) : op.moves = false := by
  cases op with
  | setUp kind queue => cases h
  | release => cases h
  | _ => rfl

end Operation

namespace CommandBuffer

/-- What the command buffer remembers as sent. -/
def sent (c : CommandBuffer) : Requests := ⟨c.bindings.pipeline, c.bindings.dynamic⟩

/-- What an operation means for what the recording has in effect. -/
inductive Affects (c : CommandBuffer) (d : Device Trace) (s : Store) (op : Operation) : Prop
  /-- It asks for something, and that is sent. -/
  | sends (something : c.recorded d s op ≠ [])
      (remembers : (c.perform d s op).buffer.sent = c.sent.ask s op)
      (replay : (c.recorded d s op).foldl NativeState.call c.sent.native =
        (c.sent.ask s op).native)
  /-- It makes a setting that holds already, which is left out. -/
  | omitsSetting {x : Setting} (named : op = .set x) (holds : c.sent.dynamic.holds x = true)
      (nothing : c.recorded d s op = []) (remembers : (c.perform d s op).buffer.sent = c.sent)
  /-- It binds the pipeline that is bound already, which is left out. -/
  | omitsPipeline {p : Pipeline} (named : op = .bindPipeline p)
      (bound : c.sent.pipeline.map (·.id) = some p.id) (nothing : c.recorded d s op = [])
      (remembers : (c.perform d s op).buffer.sent = c.sent)
  /-- It asks for nothing. -/
  | apart (asks : ∀ r : Requests, r.ask s op = r)
      (remembers : (c.perform d s op).buffer.sent = c.sent)
      (replay : (c.recorded d s op).foldl NativeState.call c.sent.native = c.sent.native)

variable {c : CommandBuffer} {b : Handle .commandBuffer}

theorem recorded_of_calls (hb : c.handle? = some b) {d : Device Trace} {s : Store} {op : Operation}
    {r : CommandBuffer × Script} (h : c.scripted? d s op = some r) {commands : List Command}
    (hcalls : r.2.calls = recordedCalls b commands) :
    c.recorded d s op = recordedCalls b commands := by
  rw [recorded_scripted h, hb, Option.map_some, Option.getD_some, hcalls, callsInto_recordedCalls]

/-- A setting is recorded when it would change what is remembered, and only then. -/
theorem recorded_set (hb : c.handle? = some b) (d : Device Trace) (s : Store) (x : Setting) :
    c.recorded d s (.set x) =
      if c.sent.dynamic.holds x then [] else recordedCalls b x.commands := by
  have hset : c.scripted? d s (.set x) = some (c.set x) := rfl
  simp only [set, withNative, hb] at hset
  show _ = if c.bindings.dynamic.holds x then _ else _
  split at hset
  · rename_i hholds
    rw [if_pos hholds, recorded_scripted hset, hb]
    rfl
  · rename_i hholds
    rw [if_neg hholds]
    exact recorded_of_calls hb hset (Script.calls_record _ _)

theorem affects_set (hb : c.handle? = some b) (d : Device Trace) (s : Store) (x : Setting) :
    c.Affects d s (.set x) := by
  have hrecorded := c.recorded_set hb d s x
  have hbuffer : (c.perform d s (.set x)).buffer = (c.set x).1 := rfl
  simp only [set, withNative, hb] at hbuffer
  by_cases hholds : c.sent.dynamic.holds x = true
  · rw [if_pos hholds] at hrecorded
    rw [if_pos (show c.bindings.dynamic.holds x = true from hholds)] at hbuffer
    exact .omitsSetting rfl hholds hrecorded (congrArg sent hbuffer)
  · rw [if_neg hholds] at hrecorded
    rw [if_neg (show ¬ c.bindings.dynamic.holds x = true from hholds)] at hbuffer
    refine .sends ?_ (congrArg sent hbuffer) ?_
    · rw [hrecorded]
      exact recordedCalls_setting_ne_nil b x
    · rw [hrecorded, NativeState.foldl_call_setting]
      exact (c.sent.native_set x).symm

theorem affects_bindPipeline (hb : c.handle? = some b) (d : Device Trace) (s : Store)
    (p : Pipeline) : c.Affects d s (.bindPipeline p) := by
  have hbind : c.scripted? d s (.bindPipeline p) = some (c.bindPipeline p) := rfl
  simp only [bindPipeline, withNative, hb] at hbind
  split at hbind
  · rename_i hbound
    refine .omitsPipeline rfl hbound ?_ (congrArg sent (perform_scripted hbind).1)
    rw [recorded_scripted hbind, hb]
    rfl
  · have hrecorded := recorded_of_calls hb hbind (Script.calls_record _ _)
    refine .sends ?_ (congrArg sent (perform_scripted hbind).1) ?_
    · rw [hrecorded]
      exact List.cons_ne_nil _ _
    · rw [hrecorded]
      rfl

theorem affects_beginPass (hb : c.handle? = some b) (d : Device Trace) (s : Store)
    (p : PassOpening) : c.Affects d s (.beginPass p) := by
  have hopen : c.scripted? d s (.beginPass p) = some (c.beginPass s p) := rfl
  simp only [beginPass, withNative, hb] at hopen
  cases hresolve : s.resolve p.framebuffer with
  | none =>
    rw [hresolve] at hopen
    refine .apart (fun r => ?_) (congrArg sent (perform_scripted hopen).1) ?_
    · simp [Requests.ask, hresolve]
    · rw [recorded_scripted hopen, hb]
      rfl
  | some framebuffer =>
    rw [hresolve] at hopen
    have hask (r : Requests) : r.ask s (.beginPass p) =
        (r.set (.viewport (.ofRect p.area))).set (.scissor p.area) := by
      simp [Requests.ask, hresolve]
    have hrecorded := recorded_of_calls hb hopen (by
      rw [Script.calls_append, Script.calls_of_requests_nil p.requests_shortage, List.nil_append,
        Script.calls_record])
    refine .sends ?_ ?_ ?_
    · rw [hrecorded]
      exact List.cons_ne_nil _ _
    · rw [hask]
      exact congrArg sent (perform_scripted hopen).1
    · rw [hrecorded, hask]
      rfl

/-- Every operation that lets the recording go on. -/
theorem affects (hb : c.handle? = some b) (d : Device Trace) (s : Store) {op : Operation}
    (hop : op.restarts = false) : c.Affects d s op := by
  -- Other scripts record commands of other sorts, and leave pipeline and settings alone.
  have others {r : CommandBuffer × Script} (hscript : c.scripted? d s op = some r)
      (hasks : ∀ r : Requests, r.ask s op = r)
      (hsorts : .pipeline ∉ op.sorts ∧ .setting ∉ op.sorts)
      (hpipeline : ∀ p, op ≠ .bindPipeline p) (hpass : ∀ p, op ≠ .beginPass p)
      (hset : ∀ x, op ≠ .set x) : c.Affects d s op := by
    have hleaves := leaves_scripted hscript
    refine .apart hasks ?_ ?_
    · rw [(perform_scripted hscript).1, sent, hleaves.pipeline hpipeline,
        hleaves.dynamic hpass hset, sent]
    · rw [recorded_scripted hscript, hb]
      rcases sends_scripted hscript with hnone | ⟨b', commands, hb', hcalls, hmem⟩
      · rw [hnone]
        rfl
      · rw [hcalls]
        cases hb.symm.trans hb'
        rw [Option.map_some, Option.getD_some, callsInto_recordedCalls]
        apply NativeState.foldl_call_of_sort
        intro x hx
        constructor <;>
        · intro hsort
          have hbad := hmem x hx
          rw [hsort] at hbad
          first | exact hsorts.1 hbad | exact hsorts.2 hbad
  cases op with
  | setUp kind queue => cases hop
  | release => cases hop
  | begin pass subpass framebuffer => cases hop
  | set x => exact affects_set hb d s x
  | bindPipeline p => exact affects_bindPipeline hb d s p
  | beginPass p => exact affects_beginPass hb d s p
  | finish =>
    obtain ⟨hrecorded, hbuffer⟩ := recorded_finish hb d s
    refine .apart (fun _ => rfl) (by rw [hbuffer]; rfl) (by rw [hrecorded]; rfl)
  | bindLayout id =>
    have hbuffer : (c.perform d s (.bindLayout id)).buffer = (c.bindLayout d s id).buffer := rfl
    have hbinds := c.bindsLayout d s id
    refine .apart (fun _ => rfl) ?_ ?_
    · rw [hbuffer]
      generalize c.bindLayout d s id = result, c.recorded d s (.bindLayout id) = news at hbinds ⊢
      cases hbinds with
      | left why => rfl
      | @resolved b p r commands ready pipeline fresh fits done delivers speaks =>
        show (c.withLayout id r.outcome.answer).sent = c.sent
        cases r.outcome.answer <;> rfl
    · generalize c.bindLayout d s id = result, c.recorded d s (.bindLayout id) = news at hbinds ⊢
      cases hbinds with
      | left why => rfl
      | @resolved b p r commands ready pipeline fresh fits done delivers speaks =>
        apply NativeState.foldl_call_of_sort
        intro x hx
        rw [sort_delivers delivers x hx]
        simp
  | _ => exact others rfl (fun _ => rfl) (by simp [Operation.sorts]) (by simp) (by simp) (by simp)

/-- A recording that is opened starts with nothing in effect and nothing remembered. -/
theorem opens_begin (hb : c.handle? = some b) (d : Device Trace) (s : Store)
    (pass : Option RenderPass) (subpass : Nat) (framebuffer : Option Framebuffer) :
    (c.perform d s (.begin pass subpass framebuffer)).buffer.sent = {} ∧
      (c.recorded d s (.begin pass subpass framebuffer) = [] ∨
        ∃ args, c.recorded d s (.begin pass subpass framebuffer) = [.begin b args]) := by
  cases hopening : openingOf c.kind s pass subpass framebuffer with
  | none =>
    have hbegin : c.begin d s pass subpass framebuffer = ⟨{ c with bindings := {}, stats := {} },
        { answer := .ok (), device := d, messages := [passRequired] }⟩ := by
      simp [CommandBuffer.begin, hb, hopening]
    refine ⟨by simp only [perform, asked, hbegin]; rfl, Or.inl ?_⟩
    simp only [recorded, hb, perform, asked, hbegin]
    rw [Trace.callsSince_of_log_eq rfl]
    rfl
  | some args =>
    have hbegin : c.begin d s pass subpass framebuffer = ⟨{ c with bindings := {}, stats := {} },
        d.call fun driver => Driver.beginRecording driver b args⟩ := by
      simp [CommandBuffer.begin, hb, hopening]
    refine ⟨by simp only [perform, asked, hbegin]; rfl, Or.inr ⟨args, ?_⟩⟩
    have hlog : (c.perform d s (.begin pass subpass framebuffer)).outcome.device.driver.log.toList =
        d.driver.log.toList ++ [.begin b args] := by
      simp only [perform, asked, hbegin]
      exact Trace.log_note _ _
    rw [recorded, hb]
    simp only [Trace.callsSince_of_append hlog]
    exact callsInto_eq_self fun call hcall => by rw [List.mem_singleton.1 hcall]; rfl

end CommandBuffer

end GpuRecorder.Recording
