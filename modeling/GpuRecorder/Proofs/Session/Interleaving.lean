import GpuRecorder.Proofs.Recording.SetNames
import GpuRecorder.Proofs.Session.ForgottenPast

/-!
# Command buffers that take turns

Command buffers of one device share its pools, its counter of handles and everything in the store.
Yet none of them can tell whether the others take turns with it: it is answered the same, remembers
the same and records the same as alone, but for the names of the descriptor sets.
-/

namespace GpuRecorder

open Native Resource Recording Device

/-! ## 1. The sets that a run has bound -/

namespace Session

theorem boundBelow_after {s : Session Trace} (sound : ∀ id, (s.store.layouts.get id).Sound)
    (h : s.device.driver.BoundBelow) (e : Event) : (s.after e).device.driver.BoundBelow := by
  apply after_cases (P := fun s => s.device.driver.BoundBelow)
  case stays | create => exact h
  case perform =>
    exact fun n c op found => h.appends (c.bindsBelow_perform s.device sound op)
  case change => exact fun _ _ => h
  case submit =>
    exact fun _ _ _ => h.appends (.note (Nat.le_refl _) rfl (bindsBelow_of_nil rfl))
  case resetSets => exact h.appends (bindsBelow_of_pools (poolCalls_appends.reset _ _))
  case allocateSets =>
    exact fun layouts => h.appends (bindsBelow_of_pools (poolCalls_appends.allocate _ _ layouts))
  case switch =>
    intro x
    cases x with
    | takeHandle => exact fun c hc set hset => Nat.lt_succ_of_lt (h c hc set hset)
    | clearLog => exact fun c hc => absurd hc List.not_mem_nil
    | _ => exact h

theorem boundBelow_through (available : Capabilities) (settings : Settings)
    (events : List Event) :
    ((start available settings).through events).device.driver.BoundBelow := by
  induction events using List.reverseRecOn with
  | nil => exact fun c hc => absurd hc List.not_mem_nil
  | append_singleton events e ih =>
    rw [through_concat]
    exact boundBelow_after (sound_layouts available settings events) ih e

end Session

/-! ## 2. Turns -/

/-- A command buffer that takes its turn neither borrows nor gives back. -/
def Action.isTurn : Action → Bool
  | .perform _ op => !op.moves
  | .execute _ _ => true
  | _ => false

/-- The command buffers that another executes. -/
def Action.executed : Action → List Nat
  | .execute n children => children.filter (· ≠ n)
  | _ => []

/-- The turns of one command buffer. -/
def turnsOf (n : Nat) (turns : List Action) : List Action := turns.filter (·.taker? = some n)

/-- Command buffers take turns, and none of them executes another. -/
structure TakeTurns (turns : List Action) : Prop where
  turn : ∀ a ∈ turns, a.isTurn
  apart : ∀ a ∈ turns, ∀ m ∈ a.executed, ∀ a' ∈ turns, a'.taker? ≠ some m

namespace Session

theorem select_congr {σ : Type} {s s' : Session σ} {numbers : List Nat}
    (h : ∀ m ∈ numbers, s'.buffers[m]? = s.buffers[m]?) : s'.select numbers = s.select numbers :=
  List.filterMap_congr h

/-- A turn is one operation, and only of the buffers that it executes does it matter what they
are. -/
theorem step_of_turn {a : Action} (h : a.isTurn) (s : Session Trace) :
    ∃ n op, a.taker? = some n ∧ op.moves = false ∧ s.step a = s.perform n op ∧
      ∀ s' : Session Trace, (∀ m ∈ a.executed, s'.buffers[m]? = s.buffers[m]?) →
        s'.step a = s'.perform n op := by
  cases a with
  | perform n op => exact ⟨n, op, rfl, by simpa [Action.isTurn] using h, rfl, fun _ _ => rfl⟩
  | execute n children =>
    refine ⟨n, .execute (s.select (children.filter (· ≠ n))), rfl, rfl, rfl, fun s' hsame => ?_⟩
    have hselect : s'.select (children.filter (· ≠ n)) = s.select (children.filter (· ≠ n)) :=
      select_congr hsame
    rw [step, hselect]
  | _ => cases h

/-! ## 3. With the others and alone -/

section

variable {x : Seat} {mixed alone : Session Trace}

/-- When another command buffer takes its turn, nothing changes that matters to the twins. -/
theorem Twins.apart (h : Twins x x mixed alone) (sound : mixed.Sound) {k : Nat}
    (other : k ≠ x.number) (op : Operation) :
    Twins x x (mixed.perform k op).session alone ∧
      GrownAlike x.native.handle x.native.handle mixed.device.driver
        (mixed.perform k op).session.device.driver alone.device.driver alone.device.driver := by
  obtain ⟨c, found, ready, hqueue, found'⟩ := h.held
  obtain ⟨capacity, order, order'⟩ := h.order
  have hkept := (mixed.buffers_perform_of_ne other op).trans found
  unfold Session.perform at hkept ⊢
  cases hk : mixed.buffers[k]? with
  | none => exact ⟨h, .refl _ _ _ _⟩
  | some c' =>
    have hother : c'.handle? ≠ some x.native.handle :=
      handle_ne sound other.symm found hk (CommandBuffer.handle?_of_native ready)
    rw [hk] at hkept
    refine ⟨⟨⟨c, hkept, ready, hqueue, found'⟩, ⟨capacity, order.perform c' op, order'⟩, ?_, ?_⟩,
      .of_apart (c'.growsOnly_perform mixed.device mixed.store op) hother _ _⟩
    · exact h.capable.trans (c'.capabilities_perform mixed.device mixed.store op).symm
    · exact (c'.alike_perform mixed.device order.layouts op).1.symm.trans h.alike

/-- The turns of one command buffer, with those of the others in between and without. -/
theorem Twins.interleaved (h : Twins x x mixed alone) (sound : mixed.Sound) (idle : Nat → Prop)
    (same : ∀ m, idle m → alone.buffers[m]? = mixed.buffers[m]?) {turns : List Action}
    (turn : ∀ a ∈ turns, a.isTurn) (awake : ∀ a ∈ turns, ∀ m, a.taker? = some m → ¬ idle m)
    (executes : ∀ a ∈ turns, ∀ m ∈ a.executed, idle m) :
    let own := turnsOf x.number turns
    Twins x x (mixed.run turns) (alone.run own) ∧
      alone.answersOf x.number own = mixed.answersOf x.number turns ∧
      GrownAlike x.native.handle x.native.handle mixed.device.driver
        (mixed.run turns).device.driver alone.device.driver (alone.run own).device.driver := by
  -- By the turns.  What is idle is the same in both sessions, so an execution means the same.
  induction turns generalizing mixed alone with
  | nil => exact ⟨h, rfl, .refl _ _ _ _⟩
  | cons a turns ih =>
    have hrest {mixed alone : Session Trace} (h : Twins x x mixed alone) (sound : mixed.Sound)
        (same : ∀ m, idle m → alone.buffers[m]? = mixed.buffers[m]?) :=
      ih h sound same (fun a ha => turn a (List.mem_cons_of_mem _ ha))
        (fun a ha => awake a (List.mem_cons_of_mem _ ha))
        fun a ha => executes a (List.mem_cons_of_mem _ ha)
    obtain ⟨k, op, htaker, stays, hmixed, halone⟩ :=
      step_of_turn (turn a List.mem_cons_self) mixed
    have hawake {m : Nat} (hm : idle m) : k ≠ m := by
      rintro rfl
      exact awake a List.mem_cons_self k htaker hm
    have hsound := sound_perform sound k op
    simp only [run_cons, answersOf, htaker, hmixed]
    by_cases hk : k = x.number
    · -- Both take the turn.
      subst hk
      have halone := halone alone fun m hm => same m (executes a List.mem_cons_self m hm)
      have hfollows := h.perform stays
      obtain ⟨htwins, hanswers, hgrown⟩ := hrest hfollows.twins hsound fun m hm => by
        rw [buffers_perform_of_ne _ (hawake hm), buffers_perform_of_ne _ (hawake hm), same m hm]
      rw [turnsOf, List.filter_cons_of_pos (by simp [htaker])]
      simp only [run_cons, answersOf, htaker, halone, if_true]
      exact ⟨htwins, congrArg₂ (fun answer rest => [answer] ++ rest) hfollows.answer hanswers,
        hfollows.grown.trans hgrown⟩
    · -- Alone, nothing happens meanwhile.
      have hne : ¬ some k = some x.number := fun heq => hk (Option.some.inj heq)
      obtain ⟨happart, hgrownApart⟩ := h.apart sound hk op
      obtain ⟨htwins, hanswers, hgrown⟩ := hrest happart hsound fun m hm => by
        rw [buffers_perform_of_ne _ (hawake hm), same m hm]
      rw [turnsOf, List.filter_cons_of_neg (by simp [htaker, hk]), if_neg hne, List.nil_append]
      exact ⟨htwins, hanswers, hgrownApart.trans hgrown⟩

end

/-- A command buffer remembers the same, is answered the same and holds the same stream when it
takes its turns alone, up to the names of the descriptor sets. -/
structure Undisturbed (n : Nat) (b : Handle .commandBuffer) (s : Session Trace)
    (turns : List Action) : Prop where
  buffer : (s.run (turnsOf n turns)).buffers[n]? = (s.run turns).buffers[n]?
  answers : s.answersOf n (turnsOf n turns) = s.answersOf n turns
  entries : ∃ f : Equiv.Perm (Handle .descriptorSet),
    (s.run (turnsOf n turns)).device.driver.commandsOf b =
      ((s.run turns).device.driver.commandsOf b).map (Call.moved b f)

/-- From any past, while no failure of sets is asked for: a command buffer that takes turns with
others is not disturbed by them. -/
theorem turns_do_not_interfere (available : Capabilities) (settings : Settings)
    {past : List Event} {turns : List Action} (take : TakeTurns turns) {n : Nat}
    {c : CommandBuffer} {b : Handle .commandBuffer}
    (found : ((start available settings).through past).buffers[n]? = some c)
    (ready : c.handle? = some b)
    (works : ((start available settings).through past).device.driver.setFailure = none) :
    Undisturbed n b ((start available settings).through past) turns := by
  have order := inOrder_through available settings past works
  have sound := sound_through available settings past
  have below := boundBelow_through available settings past
  generalize (start available settings).through past = s at *
  obtain ⟨native, hnative, rfl⟩ := Option.map_eq_some_iff.1 ready
  have hon : c.on native c.queue = c := by rw [CommandBuffer.on, ← hnative]
  have htwins : Twins ⟨n, native, c.queue⟩ ⟨n, native, c.queue⟩ s s :=
    ⟨⟨c, found, hnative, rfl, hon.symm ▸ found⟩, ⟨_, order, order⟩, rfl, .refl _⟩
  obtain ⟨⟨⟨c', found', hnative', hqueue', found''⟩, _, _, _⟩, hanswers, hgrown⟩ :=
    htwins.interleaved sound (fun m => ∀ a ∈ turns, a.taker? ≠ some m) (fun _ _ => rfl)
      take.turn (fun a ha m htaker hidle => hidle a ha htaker) take.apart
  -- Both sessions began as one, so the twins are the same and not only alike.
  refine ⟨?_, hanswers, hgrown.exists_perm_commandsOf below⟩
  have hon' : c'.on native c.queue = c' := by
    rw [CommandBuffer.on, ← hnative', ← show c'.queue = c.queue from hqueue']
  rw [found']
  exact found''.trans (congrArg some hon')

/-- Two command buffers bind one layout, each operation of the one before the same of the other.
What differs for the second one is the name of its set. -/
theorem shared_layout_does_not_interfere :
    let past := furnished ++ [.act .create, .act (.perform 1 (.setUp .primary ⟨⟨800⟩, 0⟩))]
    let turns : List Action := everythingBound.flatMap fun op => [.perform 0 op, .perform 1 op]
    let s := (start {} {}).through past
    let sets (s : Session Trace) := (s.device.driver.commandsOf ⟨4098⟩).flatMap boundSets
    TakeTurns turns ∧ s.buffers[1]?.bind (·.handle?) = some ⟨4098⟩ ∧
      s.device.driver.setFailure = none ∧ Undisturbed 1 ⟨4098⟩ s turns ∧
      sets (s.run (turnsOf 1 turns)) = [⟨4100⟩] ∧ sets (s.run turns) = [⟨4101⟩] := by
  intro past turns s sets
  have take : TakeTurns turns :=
    ⟨by decide, fun a ha m hm => by
      obtain ⟨op, _, hop⟩ := List.mem_flatMap.1 ha
      simp only [List.mem_cons, List.not_mem_nil, or_false] at hop
      rcases hop with rfl | rfl <;> cases hm⟩
  obtain ⟨c, found, ready⟩ : ∃ c, s.buffers[1]? = some c ∧ c.handle? = some ⟨4098⟩ := ⟨_, rfl, rfl⟩
  exact ⟨take, rfl, rfl, turns_do_not_interfere {} {} take found ready rfl, by decide +kernel,
    by decide +kernel⟩

end Session

end GpuRecorder
