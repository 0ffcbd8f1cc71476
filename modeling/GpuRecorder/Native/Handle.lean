/-!
# Native handles

A handle names an object of the driver.  Its kind is part of its type, its number is all the
driver looks at; number zero names nothing.  Drivers here hand out consecutive numbers, so a
handle is fresh when its number is not below the next one.
-/

namespace GpuRecorder.Native

/-- The kinds of native objects. -/
inductive Kind where
  | device
  | queue
  | fence
  | commandPool
  | commandBuffer
  | descriptorPool
  | descriptorSet
  | setLayout
  | pipelineLayout
  | updateTemplate
  | pipeline
  | renderPass
  | framebuffer
  | buffer
  | bufferView
  | image
  | imageView
  | sampler
  deriving DecidableEq, Repr

/-- The number of a native object of one kind. -/
structure Handle (kind : Kind) where
  number : Nat
  deriving DecidableEq, Repr

namespace Handle

variable {kind : Kind}

/-- Names nothing. -/
def null : Handle kind := ⟨0⟩

instance : Inhabited (Handle kind) := ⟨null⟩

/-- `count` consecutive handles from a number on. -/
def freshList (first : Nat) : (count : Nat) → List (Handle kind)
  | 0 => []
  | count + 1 => ⟨first⟩ :: freshList (first + 1) count

@[simp] theorem length_freshList (first count : Nat) :
    (freshList first count : List (Handle kind)).length = count := by
  induction count generalizing first with
  | zero => rfl
  | succ count ih => simp [freshList, ih]

theorem mem_freshList {first count : Nat} {h : Handle kind} :
    h ∈ freshList first count ↔ first ≤ h.number ∧ h.number < first + count := by
  induction count generalizing first with
  | zero =>
    simp only [freshList, List.not_mem_nil, Nat.add_zero, false_iff]
    omega
  | succ count ih =>
    cases h with
    | mk n =>
      simp only [freshList, List.mem_cons, ih, mk.injEq]
      omega

theorem nodup_freshList (first count : Nat) :
    (freshList first count : List (Handle kind)).Nodup := by
  induction count generalizing first with
  | zero => simp [freshList]
  | succ count ih =>
    simp only [freshList, List.nodup_cons, mem_freshList]
    exact ⟨fun h => by omega, ih _⟩

end Handle

end GpuRecorder.Native
