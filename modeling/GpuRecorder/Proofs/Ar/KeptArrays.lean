import GpuRecorder.Ar.Tracker
import Mathlib.Data.List.Induction

/-!
# Arrays that a tracker keeps

A tracker passes on what its platform answers.  Camera arrays have a fixed length: an answer that is
too long is passed over, and a shorter one leaves the end as it was.  So every entry of a camera
array comes from the last answer that has an entry there and is not too long, and entries that stand
side by side may come from different answers.  Plane arrays are passed on as they are.
-/

namespace GpuRecorder.Ar

open Binary Native

/-! ## 1. Conversations -/

section

variable {α : Type} (answer : α → Query → Option Reply × α)

/-- Who answers, after some queries. -/
def asked (a : α) (queries : List Query) : α := queries.foldl (fun a q => (answer a q).2) a

/-- What is answered to some queries, each answer with its query. -/
def conversation (a : α) : List Query → List (Query × Reply)
  | [] => []
  | q :: queries => (answer a q).1.toList.map (q, ·) ++ conversation (answer a q).2 queries

theorem asked_concat (a : α) (queries : List Query) (q : Query) :
    asked answer a (queries ++ [q]) = (answer (asked answer a queries) q).2 := by
  simp [asked]

theorem conversation_concat (a : α) (queries : List Query) (q : Query) :
    conversation answer a (queries ++ [q]) =
      conversation answer a queries ++
        (answer (asked answer a queries) q).1.toList.map (q, ·) := by
  -- The last query is answered by whoever the first one leaves.
  induction queries generalizing a with
  | nil => simp [conversation, asked]
  | cons q' queries ih =>
    rw [List.cons_append, conversation, ih, conversation, List.append_assoc]
    rfl

end

variable {π : Type} [Platform π]

/-- What a platform answers to a query by itself.  It learns nothing of the queries that only the
tracker answers. -/
def Query.answeredBy (p : π) : Query → Option Reply × π
  | .available | .infoLength => (none, p)
  | .tell n => (none, Platform.tell p n)
  | .state => (some (.number (Platform.state p).1), (Platform.state p).2)
  | .isRunning => (some (.flag (Platform.isRunning p).1), (Platform.isRunning p).2)
  | .camera a => (some (.singles (Platform.camera p a).1), (Platform.camera p a).2)
  | .planeCount change =>
    (some (.number (Platform.planeCount p change).1), (Platform.planeCount p change).2)
  | .planes .added => (some (.singles (Platform.addedPlanes p).1), (Platform.addedPlanes p).2)
  | .planes .removed =>
    (some (.integers (Platform.removedPlanes p).1), (Platform.removedPlanes p).2)
  | .planes .updated => (some (.singles (Platform.updatedPlanes p).1), (Platform.updatedPlanes p).2)

/-- Where there is no platform, nothing is answered. -/
def platformAnswer : Option π → Query → Option Reply × Option π
  | none, _ => (none, none)
  | some p, q => ((q.answeredBy p).1, some (q.answeredBy p).2)

/-- A tracker answers every query. -/
def trackerAnswer (t : Tracker π) (q : Query) : Option Reply × Tracker π :=
  (some (t.query q).1, (t.query q).2.1)

/-! ## 2. What the answers amount to -/

/-- The answers to one camera query, in order. -/
def cameraAnswers (a : CameraArray) (answers : List (Query × Reply)) : List (List Single) :=
  answers.filterMap fun
    | (.camera b, .singles l) => if b = a then some l else none
    | _ => none

/-- One entry of a camera array: that of the last answer which has such an entry and is not too
long, and zero where there is none. -/
def latestEntry (a : CameraArray) (answers : List (Query × Reply)) (i : Nat) : Single :=
  let supplying := (cameraAnswers a answers).filter fun l => i < l.length ∧ l.length ≤ a.length
  (supplying.getLast?.bind (·[i]?)).getD .zero

def latestArray (a : CameraArray) (answers : List (Query × Reply)) : List Single :=
  (List.range a.length).map (latestEntry a answers)

@[simp] theorem length_latestArray (a : CameraArray) (answers : List (Query × Reply)) :
    (latestArray a answers).length = a.length := by
  simp [latestArray]

theorem getElem_latestArray {a : CameraArray} {answers : List (Query × Reply)} {i : Nat}
    (h : i < (latestArray a answers).length) :
    (latestArray a answers)[i] = latestEntry a answers i := by
  simp [latestArray]

theorem latestArray_nil (a : CameraArray) : latestArray a [] = CameraCache.empty.get a := by
  cases a <;> rfl

/-- One more answer to the same query. -/
theorem latestEntry_camera (a : CameraArray) (answers : List (Query × Reply)) (l : List Single)
    (i : Nat) :
    latestEntry a (answers ++ [(.camera a, .singles l)]) i =
      if i < l.length ∧ l.length ≤ a.length then l[i]?.getD .zero
      else latestEntry a answers i := by
  have hanswers : cameraAnswers a (answers ++ [(.camera a, .singles l)]) =
      cameraAnswers a answers ++ [l] := by
    simp [cameraAnswers]
  rw [latestEntry, hanswers, List.filter_append]
  split
  · rename_i h
    simp [h]
  · rename_i h
    simp [h, latestEntry]

/-- It is taken over as a camera cache takes it over. -/
theorem latestArray_camera (a : CameraArray) (answers : List (Query × Reply)) (l : List Single) :
    latestArray a (answers ++ [(.camera a, .singles l)]) =
      if a.length < l.length then latestArray a answers
      else l ++ (latestArray a answers).drop l.length := by
  split
  · rename_i hlong
    refine List.map_congr_left fun i _ => ?_
    rw [latestEntry_camera, if_neg (by omega)]
  · rename_i hfits
    refine List.ext_getElem (by simp; omega) fun i hi _ => ?_
    rw [length_latestArray] at hi
    rw [getElem_latestArray, latestEntry_camera]
    by_cases hshort : i < l.length
    · rw [if_pos ⟨hshort, by omega⟩, List.getElem?_eq_getElem hshort, Option.getD_some,
        List.getElem_append_left hshort]
    · -- The answer does not reach so far.
      have hplace : l.length + (i - l.length) = i := by omega
      rw [if_neg (by omega), List.getElem_append_right (by omega), List.getElem_drop,
        getElem_latestArray, hplace]

/-- Any other answer leaves the array. -/
theorem latestArray_of_ne {a : CameraArray} {q : Query} (h : q ≠ .camera a)
    (answers : List (Query × Reply)) (reply? : Option Reply) :
    latestArray a (answers ++ reply?.toList.map (q, ·)) = latestArray a answers := by
  have hanswers : cameraAnswers a (answers ++ reply?.toList.map (q, ·)) =
      cameraAnswers a answers := by
    cases reply? with
    | none => simp
    | some reply =>
      rw [cameraAnswers, List.filterMap_append]
      cases q with
      | camera b =>
        have hb : b ≠ a := fun heq => h (congrArg Query.camera heq)
        cases reply <;> simp [cameraAnswers, hb]
      | _ => simp [cameraAnswers]
  have hentry : latestEntry a (answers ++ reply?.toList.map (q, ·)) = latestEntry a answers := by
    funext i
    simp only [latestEntry, hanswers]
  rw [latestArray, hentry, latestArray]

def Reply.arrayLength? : Reply → Option Nat
  | .singles l => some l.length
  | .integers l => some l.length
  | _ => none

/-- The length of the last plane array of any kind; zero where there is none. -/
def latestPlaneLength (answers : List (Query × Reply)) : Nat :=
  (answers.filterMap fun
    | (.planes _, reply) => reply.arrayLength?
    | _ => none).getLast?.getD 0

theorem latestPlaneLength_planes (answers : List (Query × Reply)) (change : PlaneChange)
    (reply : Reply) :
    latestPlaneLength (answers ++ [(.planes change, reply)]) =
      reply.arrayLength?.getD (latestPlaneLength answers) := by
  cases h : reply.arrayLength? <;> simp [latestPlaneLength, h]

theorem latestPlaneLength_of_ne {q : Query} (h : ∀ change, q ≠ .planes change)
    (answers : List (Query × Reply)) (reply : Reply) :
    latestPlaneLength (answers ++ [(q, reply)]) = latestPlaneLength answers := by
  cases q with
  | planes change => exact absurd rfl (h change)
  | _ => simp [latestPlaneLength]

/-- No planes of a kind. -/
def noPlanes : PlaneChange → Reply
  | .added | .updated => .singles []
  | .removed => .integers []

/-! ## 3. One query -/

namespace Tracker

/-- The platform of a tracker hears what it would hear by itself. -/
theorem platform_query (t : Tracker π) (q : Query) :
    (t.query q).2.1.platform = (platformAnswer t.platform q).2 := by
  obtain ⟨platform, cache, added, removed, updated, infoLength⟩ := t
  cases platform with
  | none => cases q with
    | planes change => cases change <;> rfl
    | _ => rfl
  | some p => cases q with
    | planes change => cases change <;> rfl
    | _ => rfl

/-- Only a query for camera arrays concerns them. -/
theorem cache_query_of_ne (t : Tracker π) {q : Query} (h : ∀ a, q ≠ .camera a) :
    (t.query q).2.1.cache = t.cache := by
  obtain ⟨platform, cache, added, removed, updated, infoLength⟩ := t
  cases q with
  | camera a => exact absurd rfl (h a)
  | planes change => cases platform <;> cases change <;> rfl
  | _ => cases platform <;> rfl

/-- A query for another camera array leaves this one. -/
theorem get_cache_query_of_ne (t : Tracker π) {a : CameraArray} {q : Query}
    (h : q ≠ .camera a) : (t.query q).2.1.cache.get a = t.cache.get a := by
  by_cases hcamera : ∃ b, q = .camera b
  · obtain ⟨b, rfl⟩ := hcamera
    have hb : b ≠ a := fun heq => h (congrArg Query.camera heq)
    simp only [query, camera, CameraCache.accept]
    split
    · rfl
    · dsimp only
      split
      · rfl
      · exact CameraCache.get_set_of_ne _ hb _
  · rw [t.cache_query_of_ne fun b hb => hcamera ⟨b, hb⟩]

/-- A query takes over what the platform answers to it. -/
theorem get_cache_query {t : Tracker π} {a : CameraArray} {answers : List (Query × Reply)}
    (h : t.cache.get a = latestArray a answers) (q : Query) :
    (t.query q).2.1.cache.get a =
      latestArray a (answers ++ (platformAnswer t.platform q).1.toList.map (q, ·)) := by
  by_cases hq : q = .camera a
  · subst hq
    cases hplatform : t.platform with
    | none => simpa [query, camera, hplatform, platformAnswer] using h
    | some p =>
      -- An answer that is too long is passed over on both sides.
      simp only [query, camera, hplatform, platformAnswer, Query.answeredBy, Option.toList_some,
        List.map_cons, List.map_nil, latestArray_camera, CameraCache.accept]
      split
      · exact h
      · rw [CameraCache.get_set_self, h]
  · rw [t.get_cache_query_of_ne hq, latestArray_of_ne hq, h]

/-- Without a platform there are no planes, and none were asked for. -/
structure HasNoPlanes (t : Tracker π) : Prop where
  added : t.added = []
  removed : t.removed = []
  updated : t.updated = []
  infoLength : t.infoLength = 0

/-- Without a platform a query changes nothing. -/
theorem query_of_no_platform {t : Tracker π} (h : t.platform = none) (q : Query) :
    (t.query q).2.1 = t := by
  obtain ⟨platform, cache, added, removed, updated, infoLength⟩ := t
  subst h
  cases q with
  | planes change => cases change <;> rfl
  | _ => rfl

/-- A query for planes is answered as the platform answers it. -/
theorem query_planes {t : Tracker π} (h : t.platform = none → t.HasNoPlanes)
    (change : PlaneChange) :
    (t.query (.planes change)).1 =
      (platformAnswer t.platform (.planes change)).1.getD (noPlanes change) := by
  obtain ⟨platform, cache, added, removed, updated, infoLength⟩ := t
  cases platform with
  | some p => cases change <;> rfl
  | none =>
    obtain ⟨hadded, hremoved, hupdated, _⟩ := h rfl
    dsimp only at hadded hremoved hupdated
    subst hadded hremoved hupdated
    cases change <;> rfl

/-- The length that is kept is that of the last plane array that was answered. -/
theorem infoLength_query {t : Tracker π} (hnone : t.platform = none → t.HasNoPlanes)
    {answers : List (Query × Reply)} (h : t.infoLength = latestPlaneLength answers) (q : Query) :
    (t.query q).2.1.infoLength = latestPlaneLength (answers ++ [(q, (t.query q).1)]) := by
  by_cases hplanes : ∃ change, q = .planes change
  · obtain ⟨change, rfl⟩ := hplanes
    rw [latestPlaneLength_planes]
    cases hplatform : t.platform with
    | some p => cases change <;> simp [query, planes, hplatform, Reply.arrayLength?]
    | none =>
      -- No planes are answered, and no length was kept.
      obtain ⟨hadded, hremoved, hupdated, hlength⟩ := hnone hplatform
      cases change <;>
        simp [query, planes, hplatform, Reply.arrayLength?, hadded, hremoved, hupdated, hlength]
  · have hother : ∀ change, q ≠ .planes change := fun change hq => hplanes ⟨change, hq⟩
    rw [latestPlaneLength_of_ne hother, ← h]
    obtain ⟨platform, cache, added, removed, updated, infoLength⟩ := t
    cases q with
    | planes change => exact absurd rfl (hother change)
    | _ => cases platform <;> rfl

/-! ## 4. A whole conversation -/

/-- A tracker that has answered some queries for a platform. -/
structure Follows (platform : Option π) (queries : List Query) (t : Tracker π) : Prop where
  platform_eq : t.platform = asked platformAnswer platform queries
  cache : ∀ a, t.cache.get a = latestArray a (conversation platformAnswer platform queries)
  infoLength : t.infoLength =
    latestPlaneLength (conversation trackerAnswer (ofPlatform platform).1 queries)
  noPlanes : t.platform = none → t.HasNoPlanes

theorem Follows.query {platform : Option π} {queries : List Query} {t : Tracker π}
    (h : t.Follows platform queries)
    (ht : t = asked trackerAnswer (ofPlatform platform).1 queries) (q : Query) :
    (t.query q).2.1.Follows platform (queries ++ [q]) where
  platform_eq := by rw [platform_query, h.platform_eq, asked_concat]
  cache a := by rw [conversation_concat, ← h.platform_eq, get_cache_query (h.cache a)]
  infoLength := by
    rw [conversation_concat, ← ht, infoLength_query h.noPlanes h.infoLength]
    rfl
  noPlanes hnone := by
    -- A platform never goes.
    have hbefore : t.platform = none := by
      rw [platform_query] at hnone
      cases hplatform : t.platform with
      | none => rfl
      | some p => simp [hplatform, platformAnswer] at hnone
    rw [query_of_no_platform hbefore]
    exact h.noPlanes hbefore

/-- By the last query. -/
theorem follows (platform : Option π) (queries : List Query) :
    (asked trackerAnswer (ofPlatform platform).1 queries).Follows platform queries := by
  induction queries using List.reverseRecOn with
  | nil => exact ⟨rfl, fun a => (latestArray_nil a).symm, rfl, fun _ => ⟨rfl, rfl, rfl, rfl⟩⟩
  | append_singleton queries q ih =>
    rw [asked_concat]
    exact ih.query rfl q

/-- After any queries, a camera array is answered as the last answers of the platform that fit and
reach each entry have it, and no other query changes it; planes are answered as the platform
answers them, and the length is that of the planes that were answered last. -/
theorem answers_follow_the_platform (platform : Option π) (queries : List Query) :
    let t := asked trackerAnswer (ofPlatform platform).1 queries
    let past := conversation platformAnswer platform
    (∀ a, (t.query (.camera a)).1 = .singles (latestArray a (past (queries ++ [.camera a])))) ∧
    (∀ a q, (t.query q).2.1.cache.get a =
      if q = .camera a then latestArray a (past (queries ++ [q])) else t.cache.get a) ∧
    (∀ change, (t.query (.planes change)).1 =
      (platformAnswer (asked platformAnswer platform queries) (.planes change)).1.getD
        (Ar.noPlanes change)) ∧
    (t.query .infoLength).1 =
      .length (latestPlaneLength (conversation trackerAnswer (ofPlatform platform).1 queries)) := by
  intro t past
  have ht : t.Follows platform queries := follows platform queries
  have hnext (a : CameraArray) (q : Query) :
      (t.query q).2.1.cache.get a = latestArray a (past (queries ++ [q])) :=
    (ht.query rfl q).cache a
  refine ⟨fun a => ?_, fun a q => ?_, fun change => ?_, ?_⟩
  · have hfst : (t.query (.camera a)).1 =
        .singles ((t.query (.camera a)).2.1.cache.get a) := by
      simp only [query, camera]
      split <;> rfl
    rw [hfst, hnext]
  · split
    · exact hnext a q
    · rename_i hq
      exact t.get_cache_query_of_ne hq
  · rw [query_planes ht.noPlanes, ht.platform_eq]
  · exact congrArg Reply.length ht.infoLength

end Tracker

end GpuRecorder.Ar
