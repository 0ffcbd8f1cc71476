import GpuRecorder.Proofs.Device.PoolCursor

/-!
# The loop that asks for descriptor sets

`DescriptorPools.allocate` goes over the list of pools by recursion.  Here the same request is the
loop that it amounts to, which has no bound of its own: a turn asks the pool at the cursor, moves
the cursor on when that pool has no room, and past the last pool makes one more.  Beside its state
the loop keeps an account of what it offered to which pool and of the pools it tried to make.

What ends the loop is how far the cursor is from the end of the list, counting the pool that may
still be made.  What a request comes to is read from the account, for every sequence of answers.
-/

namespace GpuRecorder.Device

open Native

abbrev SetAnswer := Except Failure (List (Handle .descriptorSet))

/-! ## 1. The loop -/

/-- A request that was put to the pool at some place of the list, and what came back. -/
structure Offer where
  index : Nat
  pool : Handle .descriptorPool
  answer : Except ResultCode (List (Handle .descriptorSet))

/-- The pool had no room for the request. -/
def Offer.Exhausted (o : Offer) : Prop := ∃ code, o.answer = .error code ∧ code.isPoolExhausted

theorem Offer.Exhausted.ne_ok {o : Offer} (h : o.Exhausted) (sets : List (Handle .descriptorSet)) :
    o.answer ≠ .ok sets := by
  obtain ⟨code, hcode, _⟩ := h
  rw [hcode]
  rintro ⟨⟩

theorem Offer.Exhausted.isPoolExhausted {o : Offer} (h : o.Exhausted) {code : ResultCode}
    (hcode : o.answer = .error code) : code.isPoolExhausted = true := by
  obtain ⟨code', hcode', hroom⟩ := h
  rw [hcode'] at hcode
  cases hcode
  exact hroom

/-- The loop between two turns, with its account. -/
structure Walk (σ : Type) where
  pools : DescriptorPools
  driver : σ
  /-- The places that the sets are for. -/
  places : List (Handle .descriptorSet)
  grown : Bool := false
  offers : List Offer := []
  /-- What the driver answered each time it was to make a pool. -/
  creations : List (Except ResultCode (Handle .descriptorPool)) := []
  messages : List Message := []

/-- Sets written over the first places, as far as there are places. -/
def written (sets places : List (Handle .descriptorSet)) : List (Handle .descriptorSet) :=
  sets.take places.length ++ places.drop sets.length

/-- The places after an answer: written if there are sets, else as they were. -/
def SetAnswer.placed (places : List (Handle .descriptorSet)) :
    SetAnswer → List (Handle .descriptorSet)
  | .ok sets => written sets places
  | .error _ => places

namespace Walk

variable {σ : Type}

/-- The pool at the cursor was asked. -/
def asked (w : Walk σ) (pool : Handle .descriptorPool)
    (answer : Except ResultCode (List (Handle .descriptorSet))) (driver : σ) : Walk σ :=
  { w with driver, offers := w.offers ++ [⟨w.pools.current, pool, answer⟩] }

def movedOn (w : Walk σ) : Walk σ :=
  { w with pools := { w.pools with current := w.pools.current + 1 } }

section

variable [Driver σ]

/-- Make one more pool, or end with the driver's error. -/
def make (w : Walk σ) : Walk σ × Option SetAnswer :=
  let answer := (Driver.createDescriptorPool w.driver w.pools.capacity w.pools.poolSizes).1
  let creations := w.creations ++ [answer]
  match w.pools.addPool w.driver with
  | (.error e, driver, messages) =>
    ({ w with driver, creations, messages := w.messages ++ messages }, some (.error (.error e)))
  | (.ok pools, driver, messages) =>
    ({ w with pools, driver, creations, messages := w.messages ++ messages }, none)

/-- The loop before its first turn; where there is no pool, the first one is made. -/
def enter (p : DescriptorPools) (driver : σ) (places : List (Handle .descriptorSet)) :
    Walk σ × Option SetAnswer :=
  let w : Walk σ := { pools := p, driver, places }
  if p.pools = [] then
    match w.make with
    | (w, none) => ({ w with pools := { w.pools with current := 0 } }, none)
    | ended => ended
  else (w, none)

/-- One turn; it ends the loop with an answer, or there is another. -/
def turn (layouts : List (Handle .setLayout)) (w : Walk σ) : Walk σ × Option SetAnswer :=
  match w.pools.pools[w.pools.current]? with
  | none => (w, some (.error .noCurrentPool))
  | some pool =>
    match Driver.allocateDescriptorSets w.driver pool layouts with
    | (.ok sets, driver) =>
      ({ w.asked pool (.ok sets) driver with places := written sets w.places }, some (.ok sets))
    | (.error code, driver) =>
      let w := w.asked pool (.error code) driver
      if code.isPoolExhausted then
        if w.grown then (w, some (.error (.error (.outOfPoolMemory layouts.length))))
        else
          let w := w.movedOn
          if w.pools.current = w.pools.poolCount then
            match w.make with
            | (w, none) => ({ w with grown := true }, none)
            | ended => ended
          else (w, none)
      else (w, some (.error (.error (.api code))))

/-- Turn after turn, from where the loop stands to an answer and the walk that it leaves. -/
inductive Ends (layouts : List (Handle .setLayout)) :
    Walk σ × Option SetAnswer → SetAnswer → Walk σ → Prop
  | answered (w : Walk σ) (answer : SetAnswer) : Ends layouts (w, some answer) answer w
  | turned {w w' : Walk σ} {answer : SetAnswer} :
    Ends layouts (w.turn layouts) answer w' → Ends layouts (w, none) answer w'

/-! ## 2. What a turn does -/

/-- The walk after a pool was made. -/
def withPool (w : Walk σ) (pool : Handle .descriptorPool) (driver : σ) : Walk σ :=
  { w with
    pools := { w.pools with pools := w.pools.pools ++ [pool] }
    driver
    creations := w.creations ++ [.ok pool]
    messages := w.messages ++
      [.debug s!"Created descriptor pool with room for {w.pools.capacity} sets"] }

/-- The walk after no pool was made. -/
def withoutPool (w : Walk σ) (code : ResultCode) (driver : σ) : Walk σ :=
  { w with driver, creations := w.creations ++ [.error code] }

theorem make_of_ok {w : Walk σ} {pool : Handle .descriptorPool} {driver : σ}
    (h : Driver.createDescriptorPool w.driver w.pools.capacity w.pools.poolSizes =
      (.ok pool, driver)) : w.make = (w.withPool pool driver, none) := by
  simp [make, DescriptorPools.addPool, h, withPool]

theorem make_of_error {w : Walk σ} {code : ResultCode} {driver : σ}
    (h : Driver.createDescriptorPool w.driver w.pools.capacity w.pools.poolSizes =
      (.error code, driver)) :
    w.make = (w.withoutPool code driver, some (.error (.error (.api code)))) := by
  simp [make, DescriptorPools.addPool, h, withoutPool]

/-- The cases of a turn whose cursor stands at a pool. -/
inductive Turn (layouts : List (Handle .setLayout)) (w : Walk σ)
    (pool : Handle .descriptorPool) : Walk σ × Option SetAnswer → Prop
  | granted {sets : List (Handle .descriptorSet)} {driver : σ}
      (hask : Driver.allocateDescriptorSets w.driver pool layouts = (.ok sets, driver)) :
      Turn layouts w pool
        ({ w.asked pool (.ok sets) driver with places := written sets w.places },
          some (.ok sets))
  | failed {code : ResultCode} {driver : σ}
      (hask : Driver.allocateDescriptorSets w.driver pool layouts = (.error code, driver))
      (hcode : code.isPoolExhausted = false) :
      Turn layouts w pool (w.asked pool (.error code) driver, some (.error (.error (.api code))))
  | exhausted {code : ResultCode} {driver : σ}
      (hask : Driver.allocateDescriptorSets w.driver pool layouts = (.error code, driver))
      (hcode : code.isPoolExhausted = true) (hgrown : w.grown = true) :
      Turn layouts w pool
        (w.asked pool (.error code) driver,
          some (.error (.error (.outOfPoolMemory layouts.length))))
  | moved {code : ResultCode} {driver : σ}
      (hask : Driver.allocateDescriptorSets w.driver pool layouts = (.error code, driver))
      (hcode : code.isPoolExhausted = true) (hgrown : w.grown = false)
      (hnext : w.pools.current + 1 < w.pools.poolCount) :
      Turn layouts w pool ((w.asked pool (.error code) driver).movedOn, none)
  | grew {code : ResultCode} {driver driver' : σ} {new : Handle .descriptorPool}
      (hask : Driver.allocateDescriptorSets w.driver pool layouts = (.error code, driver))
      (hcode : code.isPoolExhausted = true) (hgrown : w.grown = false)
      (hlast : w.pools.current + 1 = w.pools.poolCount)
      (hmade : Driver.createDescriptorPool driver w.pools.capacity w.pools.poolSizes =
        (.ok new, driver')) :
      Turn layouts w pool
        ({ (w.asked pool (.error code) driver).movedOn.withPool new driver' with grown := true },
          none)
  | unmade {code code' : ResultCode} {driver driver' : σ}
      (hask : Driver.allocateDescriptorSets w.driver pool layouts = (.error code, driver))
      (hcode : code.isPoolExhausted = true) (hgrown : w.grown = false)
      (hlast : w.pools.current + 1 = w.pools.poolCount)
      (hmade : Driver.createDescriptorPool driver w.pools.capacity w.pools.poolSizes =
        (.error code', driver')) :
      Turn layouts w pool
        ((w.asked pool (.error code) driver).movedOn.withoutPool code' driver',
          some (.error (.error (.api code'))))

theorem turn_cases {w : Walk σ} {pool : Handle .descriptorPool}
    (hat : w.pools.pools[w.pools.current]? = some pool) (layouts : List (Handle .setLayout)) :
    Turn layouts w pool (w.turn layouts) := by
  have hlt : w.pools.current < w.pools.poolCount := (List.getElem?_eq_some_iff.1 hat).1
  unfold turn
  simp only [hat]
  rcases hask : Driver.allocateDescriptorSets w.driver pool layouts with ⟨code | sets, driver⟩
  · simp only
    by_cases hcode : code.isPoolExhausted = true
    · simp only [hcode, if_true]
      by_cases hgrown : w.grown = true
      · have hasked : (w.asked pool (.error code) driver).grown = true := hgrown
        rw [if_pos hasked]
        exact .exhausted hask hcode hgrown
      · have hasked : ¬ (w.asked pool (.error code) driver).grown = true := hgrown
        have hgrown : w.grown = false := by simpa using hgrown
        rw [if_neg hasked]
        by_cases hlast : w.pools.current + 1 = w.pools.poolCount
        · have hend : (w.asked pool (.error code) driver).movedOn.pools.current =
              (w.asked pool (.error code) driver).movedOn.pools.poolCount := hlast
          rw [if_pos hend]
          rcases hmade : Driver.createDescriptorPool driver w.pools.capacity w.pools.poolSizes
            with ⟨code' | new, driver'⟩
          · rw [make_of_error (w := (w.asked pool (.error code) driver).movedOn) hmade]
            exact .unmade hask hcode hgrown hlast hmade
          · rw [make_of_ok (w := (w.asked pool (.error code) driver).movedOn) hmade]
            exact .grew hask hcode hgrown hlast hmade
        · have hend : ¬ (w.asked pool (.error code) driver).movedOn.pools.current =
              (w.asked pool (.error code) driver).movedOn.pools.poolCount := hlast
          rw [if_neg hend]
          exact .moved hask hcode hgrown (Nat.lt_of_le_of_ne hlt hlast)
    · have hcode : code.isPoolExhausted = false := by simpa using hcode
      simp only [hcode, Bool.false_eq_true, if_false]
      exact .failed hask hcode
  · exact .granted hask

/-! ## 3. The loop ends -/

/-- The turns that are left at most: one for each pool from the cursor on, and one for the pool
that may still be made. -/
def left (w : Walk σ) : Nat :=
  w.pools.poolCount - w.pools.current + if w.grown then 0 else 1

theorem left_turn_lt {w w' : Walk σ} {layouts : List (Handle .setLayout)}
    (h : w.turn layouts = (w', none)) : w'.left < w.left := by
  cases hat : w.pools.pools[w.pools.current]? with
  | none => simp [turn, hat] at h
  | some pool =>
    have hlt : w.pools.current < w.pools.poolCount := (List.getElem?_eq_some_iff.1 hat).1
    have hturn := turn_cases hat layouts
    rw [h] at hturn
    cases hturn with
    | moved hask hcode hgrown hnext =>
      -- One pool fewer from the cursor on.
      simp only [left, movedOn, asked, hgrown, DescriptorPools.poolCount] at hlt ⊢
      omega
    | grew hask hcode hgrown hlast hmade =>
      -- The list is longer by the pool that could be made, and the cursor stands at that pool.
      simp only [left, withPool, movedOn, asked, hgrown, DescriptorPools.poolCount,
        List.length_append, List.length_singleton] at hlast ⊢
      simp only [Bool.false_eq_true, if_false, if_true]
      omega

/-- From wherever it stands, and whatever the driver answers, the loop comes to an end. -/
theorem exists_ends (layouts : List (Handle .setLayout)) (s : Walk σ × Option SetAnswer) :
    ∃ answer w, Ends layouts s answer w := by
  obtain ⟨w, ending⟩ := s
  cases ending with
  | some answer => exact ⟨answer, w, .answered w answer⟩
  | none =>
    -- By the turns that are left.
    induction hleft : w.left using Nat.strongRecOn generalizing w with
    | ind n ih =>
      subst hleft
      rcases hturn : w.turn layouts with ⟨w', ending⟩
      cases ending with
      | some answer => exact ⟨answer, w', .turned (hturn ▸ .answered w' answer)⟩
      | none =>
        obtain ⟨answer, w'', hends⟩ := ih w'.left (left_turn_lt hturn) w' rfl
        exact ⟨answer, w'', .turned (hturn ▸ hends)⟩

end

end Walk

/-! ## 4. What the loop keeps -/

namespace DescriptorPools

/-- The place at which a request enters the list: the first pool is made for it if there is none. -/
def entry (p : DescriptorPools) : Nat := if p.pools = [] then 0 else p.current

/-- The pools there are when the first turn begins; the pool made by growing stands at this
place. -/
def entryCount (p : DescriptorPools) : Nat := max 1 p.poolCount

/-- There is no pool yet, or the cursor stands at one. -/
def Enterable (p : DescriptorPools) : Prop := p.pools = [] ∨ p.current < p.poolCount

instance (p : DescriptorPools) : Decidable p.Enterable := inferInstanceAs (Decidable (_ ∨ _))

section

variable {σ : Type} [Driver σ] {p : DescriptorPools} {driver driver' : σ}

theorem allocateGrowing_of_error {code : ResultCode}
    (h : Driver.createDescriptorPool driver p.capacity p.poolSizes = (.error code, driver'))
    (layouts : List (Handle .setLayout)) :
    p.allocateGrowing driver layouts = ⟨.error (.error (.api code)), p, driver', []⟩ := by
  simp [allocateGrowing, addPool, h]

theorem allocateGrowing_of_ok {pool : Handle .descriptorPool}
    (h : Driver.createDescriptorPool driver p.capacity p.poolSizes = (.ok pool, driver'))
    (layouts : List (Handle .setLayout)) :
    p.allocateGrowing driver layouts =
      let grown := { p with pools := p.pools ++ [pool] }
      let messages : List Message :=
        [.debug s!"Created descriptor pool with room for {p.capacity} sets"]
      match Driver.allocateDescriptorSets driver' pool layouts with
      | (.ok sets, driver) => ⟨.ok sets, grown, driver, messages⟩
      | (.error code, driver) =>
        if code.isPoolExhausted then
          ⟨.error (.error (.outOfPoolMemory layouts.length)), grown, driver, messages⟩
        else ⟨.error (.error (.api code)), grown, driver, messages⟩ := by
  rcases hasked : Driver.allocateDescriptorSets driver' pool layouts with ⟨code | sets, driver''⟩
  · simp only [allocateGrowing, addPool, h, hasked, List.getLast?_concat]
  · simp only [allocateGrowing, addPool, h, hasked, List.getLast?_concat]

end

theorem entry_lt_entryCount {p : DescriptorPools} (h : p.Enterable) : p.entry < p.entryCount := by
  unfold entry entryCount
  rcases h with hempty | hlt
  · rw [if_pos hempty]
    omega
  · split
    · omega
    · omega

end DescriptorPools

namespace Walk

variable {σ : Type}

/-- The account of a walk from pools `p`: the pools were asked one after the other from the entry
on, each at its place, and the list has grown by the pools that were made. -/
structure Accounts (p : DescriptorPools) (w : Walk σ) : Prop where
  indices : w.offers.map (·.index) = List.range' p.entry w.offers.length
  asked : ∀ o ∈ w.offers, w.pools.pools[o.index]? = some o.pool
  pools : w.pools.pools = p.pools ++ w.creations.filterMap Except.toOption
  sizing : w.pools.sizing = p.sizing

/-- Between two turns: every pool before the cursor had no room, and every pool that was to be
made was made, one of them by growing at most. -/
structure Going (p : DescriptorPools) (places : List (Handle .descriptorSet)) (w : Walk σ) : Prop
    extends w.Accounts p where
  cursor : w.pools.current = p.entry + w.offers.length
  refused : ∀ o ∈ w.offers, o.Exhausted
  made : ∀ answer ∈ w.creations, ∃ pool, answer = .ok pool
  creations : w.creations.length = (if p.pools = [] then 1 else 0) + if w.grown then 1 else 0
  within : w.pools.current < p.entryCount + if w.grown then 1 else 0
  last : w.grown = true → p.entryCount ≤ w.pools.current
  places : w.places = places

/-- What a request of some size comes to. -/
structure Settled (p : DescriptorPools) (requested : Nat) (places : List (Handle .descriptorSet))
    (answer : SetAnswer) (w : Walk σ) : Prop extends w.Accounts p where
  attempts : w.offers.length ≤ p.poolCount - p.current + 2
  /-- At most one pool is made beyond the first. -/
  creations : w.creations.length ≤ (if p.pools = [] then 1 else 0) + 1
  granted : ∀ sets, answer = .ok sets ↔ ∃ o ∈ w.offers, o.answer = .ok sets
  /-- No room anywhere is the answer exactly when the pool made by growing had none either. -/
  exhausted : ∀ n, answer = .error (.error (.outOfPoolMemory n)) ↔
    n = requested ∧ ∃ o ∈ w.offers, o.index = p.entryCount ∧ o.Exhausted
  /-- Any other code is passed on as it is, from an offer or from the making of a pool. -/
  failed : ∀ code, answer = .error (.error (.api code)) ↔
    (∃ o ∈ w.offers, o.answer = .error code ∧ code.isPoolExhausted = false) ∨
      .error code ∈ w.creations
  kinds : (∃ sets, answer = .ok sets) ∨ answer = .error (.error (.outOfPoolMemory requested)) ∨
    ∃ code, answer = .error (.error (.api code))
  places : w.places = answer.placed places

section

variable {p : DescriptorPools} {places : List (Handle .descriptorSet)} {w w' : Walk σ}

theorem Going.poolCount (h : w.Going p places) :
    w.pools.poolCount = p.entryCount + if w.grown then 1 else 0 := by
  have hmade : (w.creations.filterMap Except.toOption).length = w.creations.length := by
    rw [List.length_filterMap_eq_countP, List.countP_eq_length]
    intro answer hmem
    obtain ⟨pool, rfl⟩ := h.made answer hmem
    rfl
  rw [DescriptorPools.poolCount, h.pools, List.length_append, hmade, h.creations,
    DescriptorPools.entryCount, DescriptorPools.poolCount]
  by_cases hempty : p.pools = []
  · simp [hempty]
  · have hpos : 0 < p.pools.length := List.length_pos_iff.2 hempty
    simp only [hempty, if_false]
    omega

theorem Going.cursor_of_grown (h : w.Going p places) (hgrown : w.grown = true) :
    w.pools.current = p.entryCount := by
  have hwithin := h.within
  have hlast := h.last hgrown
  rw [if_pos hgrown] at hwithin
  omega

theorem Going.cursor_of_not_grown (h : w.Going p places) (hgrown : w.grown = false) :
    w.pools.current < p.entryCount := by
  simpa [hgrown] using h.within

theorem Going.exists_pool (h : w.Going p places) :
    ∃ pool, w.pools.pools[w.pools.current]? = some pool := by
  have hwithin := h.within
  rw [← h.poolCount] at hwithin
  exact ⟨_, List.getElem?_eq_getElem hwithin⟩

/-- One more offer, to the pool at the cursor, and no pool more. -/
theorem Accounts.offered (h : w.Accounts p) {pool : Handle .descriptorPool}
    (hat : w.pools.pools[w.pools.current]? = some pool)
    (hcursor : w.pools.current = p.entry + w.offers.length)
    {came : Except ResultCode (List (Handle .descriptorSet))}
    (hoffers : w'.offers = w.offers ++ [⟨w.pools.current, pool, came⟩])
    (hpools : w'.pools.pools = w.pools.pools) (hsizing : w'.pools.sizing = w.pools.sizing)
    (hmade : w'.creations.filterMap Except.toOption = w.creations.filterMap Except.toOption) :
    w'.Accounts p where
  indices := by
    rw [hoffers]
    simp only [List.map_append, List.map_cons, List.map_nil, List.length_append,
      List.length_singleton, h.indices, List.range'_1_concat, hcursor]
  asked := by
    intro o ho
    rw [hoffers] at ho
    rw [hpools]
    rcases List.mem_append.1 ho with ho | ho
    · exact h.asked o ho
    · obtain rfl := List.mem_singleton.1 ho
      exact hat
  pools := by rw [hpools, hmade, h.pools]
  sizing := by rw [hsizing, h.sizing]

theorem Accounts.withPool (h : w.Accounts p) (pool : Handle .descriptorPool) (driver : σ) :
    (w.withPool pool driver).Accounts p where
  indices := h.indices
  asked := by
    intro o ho
    have hat := h.asked o ho
    have hlt : o.index < w.pools.pools.length := (List.getElem?_eq_some_iff.1 hat).1
    exact (List.getElem?_append_left hlt).trans hat
  pools := by
    show w.pools.pools ++ [pool] = _
    rw [h.pools, List.append_assoc]
    simp [Walk.withPool, Except.toOption]
  sizing := h.sizing

/-- Every offer so far was to a pool before the place of the one made by growing. -/
theorem Going.index_lt (h : w.Going p places) {o : Offer} (ho : o ∈ w.offers) :
    o.index < p.entryCount := by
  have hmem : o.index ∈ List.range' p.entry w.offers.length := h.indices ▸ List.mem_map_of_mem ho
  have hlt := (List.mem_range'_1.1 hmem).2
  have hwithin := h.within
  rw [← h.cursor] at hlt
  split at hwithin
  · omega
  · omega

/-- Every offer so far was refused before the place of the pool made by growing, so what holds of
no such offer holds of one of the offers only if it holds of the last. -/
theorem Going.exists_offer_iff (h : w.Going p places) (last : Offer) {P : Offer → Prop}
    (hP : ∀ o, o.Exhausted → o.index < p.entryCount → ¬ P o) :
    (∃ o ∈ w.offers ++ [last], P o) ↔ P last := by
  constructor
  · rintro ⟨o, ho, hPo⟩
    rcases List.mem_append.1 ho with ho | ho
    · exact absurd hPo (hP o (h.refused o ho) (h.index_lt ho))
    · exact List.mem_singleton.1 ho ▸ hPo
  · intro hlast
    exact ⟨last, by simp, hlast⟩

theorem Going.attempts_lt (h : w.Going p places) :
    w.offers.length < p.poolCount - p.current + 2 := by
  have hwithin := h.within
  have hcursor := h.cursor
  simp only [DescriptorPools.entry, DescriptorPools.entryCount] at hwithin hcursor
  have hgrown : (if w.grown = true then 1 else 0) ≤ 1 := by
    split
    · exact Nat.le_refl _
    · exact Nat.zero_le _
  by_cases hempty : p.pools = []
  · have hzero : p.poolCount = 0 := List.length_eq_zero_iff.2 hempty
    rw [if_pos hempty] at hcursor
    omega
  · have hpos : 0 < p.poolCount := List.length_pos_iff.2 hempty
    rw [if_neg hempty] at hcursor
    omega

theorem Going.cursor_succ (h : w.Going p places) {last : Offer} :
    w.pools.current + 1 = p.entry + (w.offers ++ [last]).length := by
  rw [List.length_append, h.cursor]
  rfl

theorem Going.refused_concat (h : w.Going p places) {last : Offer} (hlast : last.Exhausted) :
    ∀ o ∈ w.offers ++ [last], o.Exhausted := by
  intro o ho
  rcases List.mem_append.1 ho with ho | ho
  · exact h.refused o ho
  · exact List.mem_singleton.1 ho ▸ hlast

/-- An offer to the pool at the cursor settles the request when it determines the answer. -/
theorem Going.settled (h : w.Going p places) {pool : Handle .descriptorPool}
    (hat : w.pools.pools[w.pools.current]? = some pool) {requested : Nat} {answer : SetAnswer}
    {came : Except ResultCode (List (Handle .descriptorSet))}
    (hoffers : w'.offers = w.offers ++ [⟨w.pools.current, pool, came⟩])
    (hpools : w'.pools = w.pools) (hcreations : w'.creations = w.creations)
    (hgranted : ∀ sets, answer = .ok sets ↔ came = .ok sets)
    (hexhausted : ∀ n, answer = .error (.error (.outOfPoolMemory n)) ↔
      n = requested ∧ w.pools.current = p.entryCount ∧
        ∃ code, came = .error code ∧ code.isPoolExhausted)
    (hfailed : ∀ code, answer = .error (.error (.api code)) ↔
      came = .error code ∧ code.isPoolExhausted = false)
    (hkinds : (∃ sets, answer = .ok sets) ∨
      answer = .error (.error (.outOfPoolMemory requested)) ∨
      ∃ code, answer = .error (.error (.api code)))
    (hplaces : w'.places = answer.placed places) :
    Settled p requested places answer w' where
  toAccounts := by
    apply h.toAccounts.offered hat h.cursor hoffers
    · rw [hpools]
    · rw [hpools]
    · rw [hcreations]
  attempts := by
    rw [hoffers, List.length_append]
    exact h.attempts_lt
  creations := by
    rw [hcreations, h.creations]
    split
    · exact Nat.add_le_add_left (by split <;> omega) 1
    · exact Nat.add_le_add_left (by split <;> omega) 0
  granted := by
    intro sets
    rw [hgranted, hoffers]
    refine (h.exists_offer_iff ⟨w.pools.current, pool, came⟩ (P := fun o => o.answer = .ok sets)
      ?_).symm
    exact fun o hroom _ => hroom.ne_ok sets
  exhausted := by
    intro n
    rw [hexhausted, hoffers]
    refine and_congr_right fun _ => (h.exists_offer_iff ⟨w.pools.current, pool, came⟩
      (P := fun o => o.index = p.entryCount ∧ o.Exhausted) ?_).symm
    rintro o _ hlt ⟨heq, _⟩
    exact absurd heq (Nat.ne_of_lt hlt)
  failed := by
    intro code
    have hmade : ¬ Except.error code ∈ w.creations := by
      intro hmem
      obtain ⟨pool, hpool⟩ := h.made _ hmem
      cases hpool
    rw [hfailed, hoffers, hcreations]
    simp only [hmade, or_false]
    refine (h.exists_offer_iff ⟨w.pools.current, pool, came⟩
      (P := fun o => o.answer = .error code ∧ code.isPoolExhausted = false) ?_).symm
    rintro o hroom _ ⟨hcode, hnot⟩
    exact Bool.false_ne_true (hnot.symm.trans (hroom.isPoolExhausted hcode))
  kinds := hkinds
  places := hplaces

/-- A pool that could not be made settles the request, where all offers were refused before. -/
theorem settled_of_unmade {requested : Nat} {code : ResultCode}
    {made : List (Except ResultCode (Handle .descriptorPool))}
    (hmade : ∀ answer ∈ made, ∃ pool, answer = .ok pool)
    (hcreations : w.creations = made ++ [.error code]) (haccounts : w.Accounts p)
    (hattempts : w.offers.length ≤ p.poolCount - p.current + 2)
    (hbound : made.length ≤ if p.pools = [] then 1 else 0)
    (hoffers : ∀ o ∈ w.offers, o.Exhausted ∧ o.index < p.entryCount)
    (hplaces : w.places = places) :
    Settled p requested places (.error (.error (.api code))) w where
  toAccounts := haccounts
  attempts := hattempts
  creations := by
    rw [hcreations, List.length_append]
    exact Nat.add_le_add_right hbound 1
  granted := by
    intro sets
    simp only [reduceCtorEq, false_iff]
    rintro ⟨o, ho, hok⟩
    exact (hoffers o ho).1.ne_ok sets hok
  exhausted := by
    intro n
    simp only [Except.error.injEq, Failure.error.injEq, reduceCtorEq, false_iff]
    rintro ⟨_, o, ho, heq, _⟩
    exact absurd heq (Nat.ne_of_lt (hoffers o ho).2)
  failed := by
    intro code'
    rw [hcreations]
    constructor
    · rintro heq
      cases heq
      exact Or.inr (by simp)
    · rintro (⟨o, ho, hcode, hnot⟩ | hmem)
      · have hroom := (hoffers o ho).1.isPoolExhausted hcode
        exact absurd (hnot.symm.trans hroom) Bool.false_ne_true
      · rcases List.mem_append.1 hmem with hmem | hmem
        · obtain ⟨pool, hpool⟩ := hmade _ hmem
          cases hpool
        · cases List.mem_singleton.1 hmem
          rfl
  kinds := Or.inr (Or.inr ⟨code, rfl⟩)
  places := hplaces

/-- What holds of the loop at any point: it is going, or its answer is settled. -/
def Sound (p : DescriptorPools) (requested : Nat) (places : List (Handle .descriptorSet))
    (s : Walk σ × Option SetAnswer) : Prop :=
  match s.2 with
  | none => s.1.Going p places
  | some answer => s.1.Settled p requested places answer

section

variable [Driver σ]

theorem Going.turn (h : w.Going p places) (layouts : List (Handle .setLayout)) :
    Sound p layouts.length places (w.turn layouts) := by
  obtain ⟨pool, hat⟩ := h.exists_pool
  have hturn := turn_cases hat layouts
  generalize w.turn layouts = s at hturn
  cases hturn with
  | @granted sets driver hask =>
    refine h.settled hat rfl rfl rfl ?_ ?_ ?_ (Or.inl ⟨sets, rfl⟩) ?_
    · simp
    · simp
    · simp
    · rw [← h.places]
      rfl
  | @failed code driver hask hcode =>
    refine h.settled hat rfl rfl rfl ?_ ?_ ?_ (Or.inr (Or.inr ⟨code, rfl⟩)) h.places
    · simp
    · simp [hcode]
    · rintro code'
      constructor
      · rintro heq
        cases heq
        exact ⟨rfl, hcode⟩
      · rintro ⟨heq, _⟩
        cases heq
        rfl
  | @exhausted code driver hask hcode hgrown =>
    refine h.settled hat rfl rfl rfl ?_ ?_ ?_ (Or.inr (Or.inl rfl)) h.places
    · simp
    · intro n
      simp only [Except.error.injEq, Failure.error.injEq, DeviceError.outOfPoolMemory.injEq]
      constructor
      · rintro rfl
        exact ⟨rfl, h.cursor_of_grown hgrown, code, rfl, hcode⟩
      · rintro ⟨rfl, _⟩
        rfl
    · rintro code'
      simp only [Except.error.injEq, Failure.error.injEq, reduceCtorEq, false_iff, not_and]
      rintro rfl
      simp [hcode]
  | @moved code driver hask hcode hgrown hnext =>
    have hcount := h.poolCount
    exact
      { toAccounts := h.toAccounts.offered hat h.cursor rfl rfl rfl rfl
        cursor := h.cursor_succ
        refused := h.refused_concat ⟨code, rfl, hcode⟩
        made := h.made
        creations := h.creations
        within := by
          show w.pools.current + 1 < _ + if w.grown = true then 1 else 0
          rwa [← hcount]
        last := fun hgrown' => by
          have hgrown' : w.grown = true := hgrown'
          rw [hgrown] at hgrown'
          cases hgrown'
        places := h.places }
  | @grew code driver driver' new hask hcode hgrown hlast hmade =>
    have hcount := h.poolCount
    rw [hgrown, if_neg Bool.false_ne_true, ← hlast] at hcount
    have hasked : ((w.asked pool (.error code) driver).movedOn).Accounts p :=
      h.toAccounts.offered hat h.cursor rfl rfl rfl rfl
    have hgrew := hasked.withPool new driver'
    exact
      { toAccounts := ⟨hgrew.indices, hgrew.asked, hgrew.pools, hgrew.sizing⟩
        cursor := h.cursor_succ
        refused := h.refused_concat ⟨code, rfl, hcode⟩
        made := by
          intro answer hmem
          rcases List.mem_append.1 hmem with hmem | hmem
          · exact h.made answer hmem
          · exact ⟨new, List.mem_singleton.1 hmem⟩
        creations := by
          have hcreations := h.creations
          rw [hgrown, if_neg Bool.false_ne_true] at hcreations
          show (w.creations ++ [_]).length = _
          rw [List.length_append, hcreations]
          rfl
        within := by
          show w.pools.current + 1 < _ + 1
          omega
        last := fun _ => Nat.le_of_eq hcount.symm
        places := h.places }
  | @unmade code code' driver driver' hask hcode hgrown hlast hmade =>
    have hcreations := h.creations
    rw [hgrown, if_neg Bool.false_ne_true] at hcreations
    refine settled_of_unmade (h.made) rfl ?_ ?_ ?_ ?_ h.places
    · apply h.toAccounts.offered hat h.cursor
      · rfl
      · rfl
      · rfl
      · simp [withoutPool, movedOn, Walk.asked, Except.toOption]
    · show (w.offers ++ [_]).length ≤ _
      rw [List.length_append]
      exact h.attempts_lt
    · rw [hcreations]
      exact Nat.le_refl _
    · intro o ho
      refine ⟨h.refused_concat ⟨code, rfl, hcode⟩ o ho, ?_⟩
      rcases List.mem_append.1 ho with ho | ho
      · exact h.index_lt ho
      · rw [List.mem_singleton.1 ho]
        exact h.cursor_of_not_grown hgrown

theorem sound_enter (hp : p.Enterable) (requested : Nat) (driver : σ)
    (places : List (Handle .descriptorSet)) :
    Sound p requested places (enter p driver places) := by
  have hentry := p.entry_lt_entryCount hp
  by_cases hempty : p.pools = []
  · have hfirst : p.entry = 0 := if_pos hempty
    simp only [enter, if_pos hempty]
    rcases hmade : Driver.createDescriptorPool driver p.capacity p.poolSizes
      with ⟨code | first, driver'⟩
    · rw [make_of_error (w := { pools := p, driver, places }) hmade]
      have hnone : ∀ answer ∈ ([] : List (Except ResultCode (Handle .descriptorPool))),
          ∃ new, answer = .ok new := fun _ hmem => absurd hmem List.not_mem_nil
      refine settled_of_unmade hnone rfl ?_ ?_ ?_ ?_ rfl
      · exact
          { indices := by simp [withoutPool]
            asked := by simp [withoutPool]
            pools := by simp [withoutPool, Except.toOption]
            sizing := rfl }
      · simp [withoutPool]
      · simp [hempty]
      · simp [withoutPool]
    · rw [make_of_ok (w := { pools := p, driver, places }) hmade]
      exact
        { indices := by simp [withPool]
          asked := by simp [withPool]
          pools := by simp [withPool, Except.toOption]
          sizing := rfl
          cursor := by simp [withPool, hfirst]
          refused := by simp [withPool]
          made := by simp [withPool]
          creations := by simp [withPool, hempty]
          within := by
            rw [hfirst] at hentry
            exact hentry
          last := fun hgrown => by cases hgrown
          places := rfl }
  · simp only [enter, if_neg hempty]
    exact
      { indices := by simp
        asked := by simp
        pools := by simp
        sizing := rfl
        cursor := (if_neg hempty).symm
        refused := by simp
        made := by simp
        creations := by simp [hempty]
        within := by
          show p.current < _ + 0
          rwa [DescriptorPools.entry, if_neg hempty] at hentry
        last := fun hgrown => by cases hgrown
        places := rfl }

/-- Whatever the loop started from soundly, its end is a settled request. -/
theorem Ends.settled {layouts : List (Handle .setLayout)} {s : Walk σ × Option SetAnswer}
    {answer : SetAnswer} (hends : Ends layouts s answer w) (hs : Sound p layouts.length places s) :
    w.Settled p layouts.length places answer := by
  induction hends with
  | answered w answer => exact hs
  | turned _ ih => exact ih (Going.turn hs layouts)

end

end

/-! ## 5. The loop is the allocation -/

section

variable [Driver σ]

/-- What an allocation is that ends as a walk does. -/
def allocation (w : Walk σ) (answer : SetAnswer) : DescriptorPools.Allocation σ :=
  ⟨answer, w.pools, w.driver, w.messages⟩

/-- An allocation that was preceded by messages. -/
def preceded (messages : List Message) (a : DescriptorPools.Allocation σ) :
    DescriptorPools.Allocation σ :=
  { a with messages := messages ++ a.messages }

variable {layouts : List (Handle .setLayout)} {w w' : Walk σ} {answer : SetAnswer}

theorem Ends.of_some {answer' : SetAnswer} (h : Ends layouts (w, some answer) answer' w') :
    answer' = answer ∧ w' = w := by
  cases h
  exact ⟨rfl, rfl⟩

theorem Ends.of_none (h : Ends layouts (w, none) answer w') :
    Ends layouts (w.turn layouts) answer w' := by
  cases h with
  | turned h => exact h

/-- Once the list has grown, the pool at its end is asked and that is the answer. -/
theorem Ends.eq_of_grown {pool : Handle .descriptorPool} (h : Ends layouts (w, none) answer w')
    (hgrown : w.grown = true) (hat : w.pools.pools[w.pools.current]? = some pool) :
    w'.allocation answer =
      match Driver.allocateDescriptorSets w.driver pool layouts with
      | (.ok sets, driver) => ⟨.ok sets, w.pools, driver, w.messages⟩
      | (.error code, driver) =>
        if code.isPoolExhausted then
          ⟨.error (.error (.outOfPoolMemory layouts.length)), w.pools, driver, w.messages⟩
        else ⟨.error (.error (.api code)), w.pools, driver, w.messages⟩ := by
  have hturn := turn_cases hat layouts
  have hends := h.of_none
  generalize w.turn layouts = s at hturn hends
  cases hturn with
  | granted hask =>
    obtain ⟨rfl, rfl⟩ := hends.of_some
    simp [hask, allocation, asked]
  | failed hask hcode =>
    obtain ⟨rfl, rfl⟩ := hends.of_some
    simp [hask, hcode, allocation, asked]
  | exhausted hask hcode _ =>
    obtain ⟨rfl, rfl⟩ := hends.of_some
    simp [hask, hcode, allocation, asked]
  | moved _ _ hgrown' _ => simp [hgrown] at hgrown'
  | grew _ _ hgrown' _ _ => simp [hgrown] at hgrown'
  | unmade _ _ hgrown' _ _ => simp [hgrown] at hgrown'

/-- While the list has not grown, the rest of the loop asks the pools from the cursor on. -/
theorem Ends.eq_allocateFrom (h : Ends layouts (w, none) answer w') (hgrown : w.grown = false)
    (hlt : w.pools.current < w.pools.poolCount) :
    w'.allocation answer = preceded w.messages
      (w.pools.allocateFrom w.driver layouts (w.pools.pools.drop w.pools.current)) := by
  generalize hs : (w, (none : Option SetAnswer)) = s at h
  induction h generalizing w with
  | answered => cases hs
  | @turned v w' answer hends ih =>
    obtain ⟨rfl, -⟩ := Prod.mk.inj hs
    have hdrop := List.drop_eq_getElem_cons hlt
    have hat : w.pools.pools[w.pools.current]? = some w.pools.pools[w.pools.current] :=
      List.getElem?_eq_getElem hlt
    have hturn := turn_cases hat layouts
    rw [hdrop]
    generalize hpool : w.pools.pools[w.pools.current] = pool at hturn
    generalize w.turn layouts = s at hturn hends ih
    cases hturn with
    | granted hask =>
      obtain ⟨rfl, rfl⟩ := hends.of_some
      simp [DescriptorPools.allocateFrom, hask, allocation, preceded, asked]
    | failed hask hcode =>
      obtain ⟨rfl, rfl⟩ := hends.of_some
      simp [DescriptorPools.allocateFrom, hask, hcode, allocation, preceded, asked]
    | exhausted _ _ hgrown' => simp [hgrown] at hgrown'
    | @moved code driver hask hcode _ hnext =>
      rw [ih (w := (w.asked pool (.error code) driver).movedOn) hgrown hnext rfl]
      simp only [DescriptorPools.allocateFrom, hask, hcode, if_true]
      rfl
    | @grew code driver driver' new hask hcode _ hlast hmade =>
      -- The new pool stands at the cursor, and the next turn is the last.
      have hat : (w.pools.pools ++ [new])[w.pools.current + 1]? = some new := by
        rw [hlast]
        exact List.getElem?_concat_length
      rw [hends.eq_of_grown rfl hat]
      have hnil : w.pools.pools.drop (w.pools.current + 1) = [] :=
        List.drop_eq_nil_of_le (Nat.le_of_eq hlast.symm)
      simp only [DescriptorPools.allocateFrom, hask, hcode, if_true, hnil]
      rw [DescriptorPools.allocateGrowing_of_ok
        (p := { w.pools with current := w.pools.current + 1 }) hmade]
      simp only [withPool, movedOn, asked, preceded]
      rcases Driver.allocateDescriptorSets driver' new layouts with ⟨code' | sets, driver''⟩
      · by_cases hcode' : code'.isPoolExhausted
        · simp only [hcode', if_true]
        · simp only [hcode', Bool.false_eq_true, if_false]
      · rfl
    | @unmade code code' driver driver' hask hcode _ hlast hmade =>
      obtain ⟨rfl, rfl⟩ := hends.of_some
      have hnil : w.pools.pools.drop (w.pools.current + 1) = [] :=
        List.drop_eq_nil_of_le (Nat.le_of_eq hlast.symm)
      simp only [DescriptorPools.allocateFrom, hask, hcode, if_true, hnil]
      rw [DescriptorPools.allocateGrowing_of_error
        (p := { w.pools with current := w.pools.current + 1 }) hmade]
      simp [allocation, withoutPool, movedOn, asked, preceded]

theorem allocateCurrent_eq {p : DescriptorPools} (hlt : p.current < p.poolCount) (driver : σ)
    (layouts : List (Handle .setLayout)) :
    p.allocateCurrent driver layouts =
      p.allocateFrom driver layouts (p.pools.drop p.current) := by
  unfold DescriptorPools.allocateCurrent
  rw [List.drop_eq_getElem_cons hlt]

/-- The loop comes to what the recursion over the list comes to. -/
theorem Ends.eq_allocate {p : DescriptorPools} (hp : p.Enterable) {driver : σ}
    (hne : layouts ≠ []) (hfits : layouts.length ≤ p.capacity)
    {places : List (Handle .descriptorSet)}
    (h : Ends layouts (enter p driver places) answer w) :
    p.allocate driver layouts = w.allocation answer := by
  unfold DescriptorPools.allocate
  rw [if_neg hne, if_neg (Nat.not_lt.2 hfits)]
  by_cases hempty : p.pools = []
  · rw [if_pos hempty]
    simp only [enter, if_pos hempty] at h
    rcases hmade : Driver.createDescriptorPool driver p.capacity p.poolSizes
      with ⟨code | first, driver'⟩
    · rw [make_of_error (w := { pools := p, driver, places }) hmade] at h
      obtain ⟨rfl, rfl⟩ := h.of_some
      simp [DescriptorPools.addPool, hmade, allocation, withoutPool]
    · rw [make_of_ok (w := { pools := p, driver, places }) hmade] at h
      have hfirst : (0 : Nat) < (p.pools ++ [first]).length := by simp
      rw [h.eq_allocateFrom rfl hfirst]
      simp only [DescriptorPools.addPool, hmade]
      rw [allocateCurrent_eq (p := { p with pools := p.pools ++ [first], current := 0 }) hfirst]
      rfl
  · have hlt : p.current < p.poolCount := hp.resolve_left hempty
    rw [if_neg hempty, allocateCurrent_eq hlt]
    simp only [enter, if_neg hempty] at h
    rw [h.eq_allocateFrom rfl hlt]
    simp [preceded]

/-- Over every driver, whatever it answers, and from every list of pools that is empty or has the
cursor at one of its pools: the loop for a request that one pool can hold comes to an end, which is
where the allocation ends.  On the way the request was offered to pool after pool from the entry
on, at most one pool was made beyond the first, and the answer is the one the account tells. -/
theorem allocation_ends (p : DescriptorPools) (hp : p.Enterable) (driver : σ)
    (layouts : List (Handle .setLayout)) (hne : layouts ≠ []) (hfits : layouts.length ≤ p.capacity)
    (places : List (Handle .descriptorSet)) :
    ∃ answer w, Ends layouts (enter p driver places) answer w ∧
      p.allocate driver layouts = ⟨answer, w.pools, w.driver, w.messages⟩ ∧
      w.Settled p layouts.length places answer := by
  obtain ⟨answer, w, hends⟩ := exists_ends layouts (enter p driver places)
  exact ⟨answer, w, hends, hends.eq_allocate hp hne hfits,
    hends.settled (sound_enter hp layouts.length driver places)⟩

/-- The cursor stands at the second of three pools.  That pool and the third refuse, each with a
code of its own, and so does the pool that is then made: three offers and one pool more. -/
theorem allocation_ends_after_three_refusals :
    let driver : Prepared :=
      { outcomes := [some .outOfPoolMemory, some .fragmentedPool, none, some .outOfPoolMemory]
        next := 4 }
    let p : DescriptorPools := { pools := [⟨1⟩, ⟨2⟩, ⟨3⟩], current := 1 }
    (p.Enterable ∧ [⟨7⟩] ≠ ([] : List (Handle .setLayout)) ∧ 1 ≤ p.capacity) ∧
      (p.allocate driver [⟨7⟩]).answer = .error (.error (.outOfPoolMemory 1)) ∧
      ∃ answer w, Ends [⟨7⟩] (enter p driver [.null]) answer w ∧
        p.allocate driver [⟨7⟩] = ⟨answer, w.pools, w.driver, w.messages⟩ ∧
        w.Settled p 1 [.null] answer := by
  intro driver p
  have hp : p.Enterable := by decide
  have hfits : 1 ≤ p.capacity := by decide
  exact ⟨⟨hp, by simp, hfits⟩, by decide,
    allocation_ends p hp driver [⟨7⟩] (by simp) hfits [.null]⟩

end

end Walk

end GpuRecorder.Device
