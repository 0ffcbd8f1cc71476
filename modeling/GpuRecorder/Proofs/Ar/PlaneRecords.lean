import GpuRecorder.Ar.Plane

/-!
# Records of planes

A platform sends planes as records of one length, one after the other.  Every record is read for
itself, at places that are fixed: so a list that is cut between two records is read in two parts,
and what stands behind the last complete record waits for the rest of its own.  Here reading is done
a second time with every access checked, and none is ever refused, whatever the numbers are.
-/

namespace GpuRecorder.Ar.Plane

open Binary

/-! ## 1. One record -/

/-- The numbers of a record and the plane that they describe: three are cut to integers, and all
others are kept as they are. -/
structure Describes (record : List Single) (p : Plane) : Prop where
  integers : (record.take 3).map Single.toInt = [p.index, p.type, p.tracking]
  others : record.drop 3 = p.extentX :: p.extentZ :: p.center.toList

theorem Describes.length_eq {record : List Single} {p : Plane} (h : Describes record p) :
    record.length = recordLength := by
  have hintegers := congrArg List.length h.integers
  have hothers := congrArg List.length h.others
  simp only [List.length_map, List.length_take, List.length_cons, List.length_nil] at hintegers
  simp only [List.length_drop, List.length_cons, Pose.length_toList, Pose.length] at hothers
  simp only [recordLength]
  omega

/-- A record describes one plane. -/
theorem Describes.eq {record : List Single} {p q : Plane} (hp : Describes record p)
    (hq : Describes record q) : p = q := by
  obtain ⟨index, type, tracking, extentX, extentZ, center⟩ := p
  obtain ⟨index', type', tracking', extentX', extentZ', center'⟩ := q
  have hintegers := hp.integers.symm.trans hq.integers
  have hothers := hp.others.symm.trans hq.others
  simp only [List.cons.injEq, and_true] at hintegers hothers
  obtain ⟨rfl, rfl, rfl⟩ := hintegers
  obtain ⟨rfl, rfl, hcenter⟩ := hothers
  have hpose : center = center' := by
    rw [← Pose.ofList_toList center, hcenter, Pose.ofList_toList]
  rw [hpose]

theorem decode_take (l : List Single) : decode (l.take recordLength) = decode l := by
  by_cases hl : recordLength ≤ l.length
  · have hfirst : recordLength ≤ (l.take recordLength).length :=
      Nat.le_of_eq (List.length_take_of_le hl).symm
    rw [← decode_append hfirst (l.drop recordLength), List.take_append_drop]
  · rw [List.take_of_length_le (Nat.le_of_not_le hl)]

theorem describes_of_decode {l : List Single} {p : Plane} (h : decode l = some p) :
    Describes (l.take recordLength) p := by
  unfold decode at h
  split at h
  · cases h
    exact ⟨rfl, rfl⟩
  · cases h

theorem decode_eq_some_iff {l : List Single} {p : Plane} :
    decode l = some p ↔ Describes (l.take recordLength) p := by
  refine ⟨describes_of_decode, fun h => ?_⟩
  have hl : recordLength ≤ l.length := by
    have hlength := h.length_eq
    rw [List.length_take] at hlength
    omega
  obtain ⟨q, hq⟩ := Option.isSome_iff_exists.1 (decode_isSome_iff.2 hl)
  rw [hq, (describes_of_decode hq).eq h]

theorem decode_eq_none_iff {l : List Single} : decode l = none ↔ l.length < recordLength := by
  rw [← Option.not_isSome_iff_eq_none, decode_isSome_iff, Nat.not_le]

/-! ## 2. A list of records -/

/-- The numbers behind the last complete record. -/
def leftover (l : List Single) : List Single :=
  l.drop (recordLength * (l.length / recordLength))

theorem length_leftover (l : List Single) : (leftover l).length = l.length % recordLength := by
  rw [leftover, List.length_drop, Nat.mod_eq_sub]

theorem leftover_of_dvd {l : List Single} (h : recordLength ∣ l.length) : leftover l = [] := by
  rw [leftover, Nat.mul_div_cancel' h, List.drop_length]

/-- A complete record in front does not change what is behind the last one. -/
theorem leftover_drop {l : List Single} (h : recordLength ≤ l.length) :
    leftover (l.drop recordLength) = leftover l := by
  have hcount : l.length / recordLength = (l.length - recordLength) / recordLength + 1 :=
    Nat.div_eq_sub_div (by decide) h
  rw [leftover, leftover, List.drop_drop, List.length_drop, hcount, Nat.mul_succ, Nat.add_comm]

theorem decodeAll_of_none {l : List Single} (h : decode l = none) : decodeAll l = [] := by
  rw [decodeAll]
  split
  · rfl
  · rename_i hsome
    rw [h] at hsome
    cases hsome

theorem decodeAll_of_some {l : List Single} {p : Plane} (h : decode l = some p) :
    decodeAll l = p :: decodeAll (l.drop recordLength) := by
  rw [decodeAll]
  split
  · rename_i hnone
    rw [h] at hnone
    cases hnone
  · rename_i q hsome
    rw [h] at hsome
    cases hsome
    rfl

theorem length_decodeAll (l : List Single) : (decodeAll l).length = l.length / recordLength := by
  induction l using decodeAll.induct with
  | case1 l hnone =>
    rw [decodeAll_of_none hnone, List.length_nil, Nat.div_eq_of_lt (decode_eq_none_iff.1 hnone)]
  | case2 l p hsome ih =>
    have hl : recordLength ≤ l.length := decode_isSome_iff.1 (hsome ▸ rfl)
    rw [decodeAll_of_some hsome, List.length_cons, ih, List.length_drop,
      ← Nat.div_eq_sub_div (by decide) hl]

/-- Each plane is the one that stands at its own place in the list; behind the last is none. -/
theorem getElem?_decodeAll (l : List Single) (k : Nat) :
    (decodeAll l)[k]? = decode (l.drop (recordLength * k)) := by
  -- What is left of the list behind its first record is read at a place one record earlier.
  induction l using decodeAll.induct generalizing k with
  | case1 l hnone =>
    have hshort : (l.drop (recordLength * k)).length < recordLength := by
      rw [List.length_drop]
      exact Nat.lt_of_le_of_lt (Nat.sub_le _ _) (decode_eq_none_iff.1 hnone)
    rw [decodeAll_of_none hnone, List.getElem?_nil, decode_eq_none_iff.2 hshort]
  | case2 l p hsome ih =>
    rw [decodeAll_of_some hsome]
    cases k with
    | zero => rw [List.getElem?_cons_zero, Nat.mul_zero, List.drop_zero, hsome]
    | succ k => rw [List.getElem?_cons_succ, ih, List.drop_drop, Nat.mul_succ, Nat.add_comm]

theorem map_some_decodeAll (l : List Single) :
    (decodeAll l).map some =
      (List.range (l.length / recordLength)).map fun k => decode (l.drop (recordLength * k)) := by
  refine List.ext_getElem (by simp [length_decodeAll]) fun k hk _ => ?_
  rw [List.length_map] at hk
  rw [List.getElem_map, List.getElem_map, List.getElem_range, ← getElem?_decodeAll,
    List.getElem?_eq_getElem hk]

/-- Of a list that is cut anywhere, only the leftover of the first part is read with the second. -/
theorem decodeAll_append (l more : List Single) :
    decodeAll (l ++ more) = decodeAll l ++ decodeAll (leftover l ++ more) := by
  induction l using decodeAll.induct with
  | case1 l hnone =>
    -- Nothing has been read, so all of the list is left over.
    have hshort : l.length / recordLength = 0 := Nat.div_eq_of_lt (decode_eq_none_iff.1 hnone)
    rw [decodeAll_of_none hnone, leftover, hshort, Nat.mul_zero, List.drop_zero, List.nil_append]
  | case2 l p hsome ih =>
    have hl : recordLength ≤ l.length := decode_isSome_iff.1 (hsome ▸ rfl)
    have hfirst : decode (l ++ more) = some p := (decode_append hl more).trans hsome
    rw [decodeAll_of_some hfirst, decodeAll_of_some hsome, List.drop_append_of_le_length hl, ih,
      leftover_drop hl, List.cons_append]

/-- What is added is read at once if it completes a record, and not at all if it does not. -/
theorem decodeAll_append_eq_self_iff (l more : List Single) :
    decodeAll (l ++ more) = decodeAll l ↔
      l.length % recordLength + more.length < recordLength := by
  rw [decodeAll_append, List.append_right_eq_self, ← List.length_eq_zero_iff, length_decodeAll,
    List.length_append, length_leftover, Nat.div_eq_zero_iff_lt (by decide)]

/-! ## 3. Checked access -/

/-- What can stop a reading in which every access is checked. -/
inductive Fault where
  /-- A number or a range past the end. -/
  | outside
  /-- A copy between ranges of two lengths. -/
  | uneven
  /-- An integer that 32 bits do not hold. -/
  | tooLarge
  deriving DecidableEq, Repr

namespace Checked

def number (l : List Single) (place : Nat) : Except Fault Single :=
  if h : place < l.length then .ok l[place] else .error .outside

def range (l : List Single) (start stop : Nat) : Except Fault (List Single) :=
  if start ≤ stop ∧ stop ≤ l.length then .ok ((l.take stop).drop start) else .error .outside

def copy (destination source : List Single) : Except Fault (List Single) :=
  if destination.length = source.length then .ok source else .error .uneven

def integer (a : Single) : Except Fault Int :=
  if -2147483648 ≤ a.toInt ∧ a.toInt ≤ 2147483647 then .ok a.toInt else .error .tooLarge

/-- Read one record, if there are numbers enough.  The center is copied over seven zeros. -/
def read (l : List Single) : Except Fault (Option Plane) :=
  if l.length < recordLength then .ok none
  else do
    let record ← range l 0 recordLength
    let rest ← range record 5 record.length
    let center ← copy (List.replicate Pose.length .zero) rest
    let index ← number record 0
    let type ← number record 1
    let tracking ← number record 2
    let extentX ← number record 3
    let extentZ ← number record 4
    return some ⟨← integer index, ← integer type, ← integer tracking, extentX, extentZ,
      Pose.ofList center⟩

/-- Cut one record out of many, and read it. -/
def readRecord (l : List Single) (k : Nat) : Except Fault (Option Plane) := do
  let record ← range l (recordLength * k) (recordLength * (k + 1))
  read record

/-- Read as many records as are complete. -/
def readAll (l : List Single) : Except Fault (List Plane) := do
  let planes ← (List.range (l.length / recordLength)).mapM (readRecord l)
  return planes.filterMap id

/-- Every bit pattern is cut to an integer that 32 bits hold, also where it is no number. -/
theorem integer_eq_ok (a : Single) : integer a = .ok a.toInt := by
  have hrange : -2147483648 ≤ a.toInt ∧ a.toInt ≤ 2147483647 := by
    unfold Single.toInt
    split
    · decide
    · split <;> decide
    · -- A finite number is moved into the range.
      dsimp only
      omega
  rw [integer, if_pos hrange]

theorem read_eq_ok (l : List Single) : read l = .ok (decode l) := by
  by_cases hl : recordLength ≤ l.length
  · rw [read, if_neg (Nat.not_lt.2 hl)]
    match l, hl with
    | index :: type :: tracking :: extentX :: extentZ ::
        x :: y :: z :: i :: j :: k :: w :: rest, _ =>
      simp only [integer_eq_ok]
      rfl
  · have hshort : l.length < recordLength := Nat.lt_of_not_le hl
    rw [read, if_pos hshort, decode_eq_none_iff.2 hshort]

theorem readRecord_eq_ok {l : List Single} {k : Nat} (h : k < l.length / recordLength) :
    readRecord l k = .ok (decode (l.drop (recordLength * k))) := by
  have hstop : recordLength * (k + 1) ≤ l.length :=
    Nat.le_trans (Nat.mul_le_mul_left _ h) (Nat.mul_div_le _ _)
  have hstart : recordLength * k ≤ recordLength * (k + 1) :=
    Nat.mul_le_mul_left _ (Nat.le_succ k)
  rw [readRecord, range, if_pos ⟨hstart, hstop⟩]
  show read _ = _
  rw [read_eq_ok, Nat.mul_succ, List.drop_take, Nat.add_sub_cancel_left, decode_take]

theorem mapM_eq_ok {α β : Type} {f : α → Except Fault β} {g : α → β} {l : List α}
    (h : ∀ a ∈ l, f a = .ok (g a)) : l.mapM f = .ok (l.map g) := by
  induction l with
  | nil => rfl
  | cons a l ih =>
    rw [List.mapM_cons, h a List.mem_cons_self, ih fun b hb => h b (List.mem_cons_of_mem a hb)]
    rfl

theorem readAll_eq_ok (l : List Single) : readAll l = .ok (decodeAll l) := by
  rw [readAll, mapM_eq_ok fun k hk => readRecord_eq_ok (List.mem_range.1 hk), ← map_some_decodeAll]
  show Except.ok _ = _
  rw [List.filterMap_map, Function.id_comp, List.filterMap_some]

end Checked

/-! ## 4. Any list -/

/-- A list gives a plane exactly if it is long enough, and then the one that its first record
describes; nothing behind that is read.  Of all its records, each is read for itself, as many as are
complete.  A list that is cut between two records is read in two parts, and what is added to any
list goes unseen exactly as long as it completes no record.  No access that is made for a plane or
for all of them is refused, whatever the numbers are. -/
theorem planes_are_read_by_records (l : List Single) :
    ((decode l).isSome ↔ recordLength ≤ l.length) ∧
    (∀ p, decode l = some p ↔ Describes (l.take recordLength) p) ∧
    decode (l.take recordLength) = decode l ∧
    (decodeAll l).length = l.length / recordLength ∧
    (∀ k, (decodeAll l)[k]? = decode (l.drop (recordLength * k))) ∧
    (∀ more, recordLength ∣ l.length → decodeAll (l ++ more) = decodeAll l ++ decodeAll more) ∧
    (∀ more, decodeAll (l ++ more) = decodeAll l ↔
      l.length % recordLength + more.length < recordLength) ∧
    Checked.read l = .ok (decode l) ∧ Checked.readAll l = .ok (decodeAll l) := by
  refine ⟨decode_isSome_iff, fun _ => decode_eq_some_iff, decode_take l, length_decodeAll l,
    getElem?_decodeAll l, fun more h => ?_, decodeAll_append_eq_self_iff l, Checked.read_eq_ok l,
    Checked.readAll_eq_ok l⟩
  rw [decodeAll_append, leftover_of_dvd h, List.nil_append]

/-- A record whose integers are a not-a-number, an infinity and a number between two integers. -/
def awkwardRecord : List Single :=
  [.nan, ⟨0xff800000⟩, ⟨0xc0200000⟩, .one, .nan] ++ List.replicate 6 .zero ++ [.one]

/-- Two such records and one number more: both are read, and the last number is not seen. -/
theorem awkward_records_are_read :
    let l := awkwardRecord ++ awkwardRecord
    recordLength ∣ awkwardRecord.length ∧
      decodeAll l = decodeAll awkwardRecord ++ decodeAll awkwardRecord ∧
      decodeAll (l ++ [.one]) = decodeAll l ∧
      (decodeAll l)[1]? =
        some ⟨0, -2147483648, -2, .one, .nan, ⟨.zero, .zero, .zero, .identity⟩⟩ ∧
      Checked.readAll l = .ok (decodeAll l) := by
  intro l
  have hdvd : recordLength ∣ awkwardRecord.length := by decide
  obtain ⟨-, -, -, -, -, hcut, -⟩ := planes_are_read_by_records awkwardRecord
  obtain ⟨-, -, -, -, hplane, -, hunseen, -, hchecked⟩ := planes_are_read_by_records l
  refine ⟨hdvd, hcut awkwardRecord hdvd, (hunseen [.one]).2 (by decide), ?_, hchecked⟩
  rw [hplane]
  decide +kernel

end GpuRecorder.Ar.Plane
