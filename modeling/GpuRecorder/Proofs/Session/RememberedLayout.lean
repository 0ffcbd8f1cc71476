import GpuRecorder.Proofs.Session.SuppliedContents

/-!
# What a remembered layout was supplied with

A command buffer remembers the layout that it has bound, and leaves out binding it again.  Where
sets are pushed, a shared set without a template is reported and left out, and the layout is
remembered all the same: nothing then supplies that set as long as the layout stays bound.  Every
other shared set has been supplied with its data.
-/

namespace GpuRecorder

open Native Resource Recording Device

namespace Session

/-- After a layout was bound, at this or an earlier time, and is remembered: each set that it shares
with the shader it was delivered for has what was due to it at that time, but for the sets that
lack their template, which have what the recording had supplied them with before.  The delivery was
the last event unless the layout was bound already. -/
theorem remembered_layout_supplied (available : Capabilities) (settings : Settings) (n : Nat)
    (id : ResourceId) (events : List Event) (c c' : CommandBuffer)
    (hc : ((start available settings).through events).buffers[n]? = some c)
    (hc' : (((start available settings).through events).after (.bindLayout n id)).buffers[n]? =
      some c')
    (hid : c'.bindings.layout = some id) :
    let bound := events ++ [.bindLayout n id]
    ∃ before between q, bound = before ++ .bindLayout n id :: between ∧
      (start available settings).BoundFor n id q before between
        ((Watch.start available settings).through n bound).stream ∧
      (c.bindings.layout ≠ some id → before = events ∧ between = []) ∧
      let s := (start available settings).through before
      let l := s.store.layouts.get id
      ∀ set < sharedSets l q.shader,
        let supply := lastSupply set ((Watch.start available settings).through n bound).stream
        if LacksTemplate s.device q set then
          supply = lastSupply set ((Watch.start available settings).through n before).stream
        else ∃ x, supply = some x ∧
          contents q set ((start available settings).chronicle bound) x = due s.store l set := by
  intro bound
  have hwatched : ((Watch.start available settings).through n bound).session.buffers[n]? =
      some c' := by
    rw [Watch.session_through, ← hc', ← through_concat]
    rfl
  obtain ⟨before, between, q, hbound, hserves⟩ :=
    served_of_run available settings n bound c' hwatched id hid
  refine ⟨before, between, q, hbound, hserves, hserves.eq_of_fresh hbound hc, ?_⟩
  intro s l set hset supply
  -- Since the delivery the layout has stayed bound, so what it supplied is still in place.
  have hcontents := contents_while_bound hserves hset
  rw [← hbound] at hcontents
  split
  · rename_i hlacks
    rw [if_pos hlacks] at hcontents
    exact hcontents
  · rename_i hhas
    rw [if_neg hhas] at hcontents
    obtain ⟨x, hsupply, _, hx⟩ := hcontents
    exact ⟨x, hsupply, hx⟩

/-- Two sets with a uniform buffer each, and templates for the first few of them. -/
def twoSetPipeline (templates : List (Handle .updateTemplate)) : Pipeline where
  id := ⟨2⟩
  handle := ⟨602⟩
  primitive := .triangleList
  shader :=
    let sets : List SetLayout := [⟨⟨511⟩, [⟨0, .uniformBuffer, 1, 1⟩]⟩,
      ⟨⟨512⟩, [⟨0, .uniformBuffer, 1, 1⟩]⟩]
    (Shader.attachTemplates ⟨⟨102⟩, "uniform", ⟨501⟩, sets, []⟩ templates).2

/-- A recording with a pipeline bound and a layout made for its shader. -/
def readyToBind (p : Pipeline) : List Event := [
  .act (.change (.addLayout p.shader)),
  .act .create,
  .act (.perform 0 (.setUp .primary ⟨⟨800⟩, 0⟩)),
  .act (.perform 0 (.begin none 0 none)),
  .act (.perform 0 (.bindPipeline p))]

/-- Sets are pushed and only the first has a template: the second is not supplied. -/
theorem second_set_left_out :
    let available : Capabilities := { pushDescriptor := true }
    let q := twoSetPipeline [⟨901⟩]
    let events := readyToBind q
    let bound := events ++ [.bindLayout 0 ⟨1⟩]
    let s := (start available {}).through events
    ∃ c c', s.buffers[0]? = some c ∧ (s.after (.bindLayout 0 ⟨1⟩)).buffers[0]? = some c' ∧
      c'.bindings.layout = some ⟨1⟩ ∧
      (∃ x, lastSupply 0 ((Watch.start available {}).through 0 bound).stream = some x ∧
        contents q 0 ((start available {}).chronicle bound) x =
          due s.store (s.store.layouts.get ⟨1⟩) 0) ∧
      lastSupply 1 ((Watch.start available {}).through 0 bound).stream =
        lastSupply 1 ((Watch.start available {}).through 0 events).stream := by
  intro available q events bound s
  obtain ⟨c, c', hc, hc', hpipeline, hfresh, hid⟩ : ∃ c c', s.buffers[0]? = some c ∧
      (s.after (.bindLayout 0 ⟨1⟩)).buffers[0]? = some c' ∧ c.bindings.pipeline = some q ∧
      c.bindings.layout ≠ some ⟨1⟩ ∧ c'.bindings.layout = some ⟨1⟩ :=
    ⟨_, _, rfl, rfl, rfl, by decide, rfl⟩
  obtain ⟨before, between, q', _, hserves, hnow, hsupplied⟩ :=
    remembered_layout_supplied available {} 0 ⟨1⟩ events c c' hc hc' hid
  obtain ⟨rfl, rfl⟩ := hnow hfresh
  obtain ⟨c₁, hc₁, hq, _⟩ := hserves.bound
  cases hc.symm.trans hc₁
  cases hpipeline.symm.trans hq
  have hfirst := hsupplied 0 (by decide)
  have hsecond := hsupplied 1 (by decide)
  rw [if_neg (by decide)] at hfirst
  rw [if_pos (by decide)] at hsecond
  exact ⟨c, c', hc, hc', hid, hfirst, hsecond⟩

/-- Without any template the binding is answered as done and the layout is remembered.  No set of
the recording was supplied, though each has a slot to be written, and binding the layout again does
nothing. -/
theorem remembered_layout_never_supplied :
    let available : Capabilities := { pushDescriptor := true }
    let q := twoSetPipeline []
    let events := readyToBind q
    let bound := events ++ [.bindLayout 0 ⟨1⟩]
    let s := (start available {}).through events
    let s' := s.after (.bindLayout 0 ⟨1⟩)
    (s.perform 0 (.bindLayout ⟨1⟩)).answer = .done ∧
      (s'.perform 0 (.bindLayout ⟨1⟩)).answer = .done ∧
      (s'.perform 0 (.bindLayout ⟨1⟩)).messages = [] ∧
      s'.news 0 (.bindLayout 0 ⟨1⟩) = [] ∧
      ∀ set < 2, set < sharedSets (s.store.layouts.get ⟨1⟩) q.shader ∧ q.shader.slots set ≠ [] ∧
        lastSupply set ((Watch.start available {}).through 0 bound).stream = none := by
  intro available q events bound s s'
  exact ⟨by decide, by decide, by decide, by decide, by decide⟩

end Session

end GpuRecorder
