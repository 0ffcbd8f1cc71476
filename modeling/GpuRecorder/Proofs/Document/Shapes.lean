import GpuRecorder.Document.Format
import GpuRecorder.Proofs.Document.RonValues
import GpuRecorder.Proofs.Document.TomlLines

/-!
# Values of a shape

The nodes of a document hold a value that fits the shape asked for, and reading finds it there.
What it takes is the same for both formats: under the key of each field stands the entry of its
value alone, or none for a text that is left out and is the field's fallback
(`readFields_of_fits`).  RON keeps the order of the fields; TOML has the records after the rest,
which makes no difference to a reader by keys.
-/

namespace GpuRecorder.Document

open Decimal (decimalChars)

/-! ## 1. What fits -/

/-- A text that is left out has to be what its field falls back to. -/
def isCovered : Option Value → Value → Bool
  | some (.text none), .text none => true
  | _, .text none => false
  | _, _ => true

mutual

/-- A value of a shape: a flag, a word, a text that may be left out, or a record of such values
with just the keys that the shape names, all different. -/
def Shape.fits : Shape → Value → Bool
  | .flag, .flag _ => true
  | .word, .word _ => true
  | .text, .text _ => true
  | .record _ fields, .record values =>
    decide (values.map (·.1)).Nodup && fitFields fields values
  | _, _ => false

def fitFields : List (String × Shape × Option Value) → List (String × Value) → Bool
  | [], [] => true
  | (key, shape, fallback) :: fields, (k, v) :: values =>
    key = k && shape.fits v && isCovered fallback v && fitFields fields values
  | _, _ => false

end

theorem eq_none_of_isCovered {fallback : Option Value} {v : Value} (h : isCovered fallback v = true)
    (habsent : v = .text none) : fallback = some v := by
  subst habsent
  unfold isCovered at h
  split at h
  · rfl
  · cases h
  · simp_all

theorem map_fst_of_fitFields {fields : List (String × Shape × Option Value)}
    {values : List (String × Value)} (h : fitFields fields values = true) :
    fields.map (·.1) = values.map (·.1) := by
  induction fields generalizing values with
  | nil =>
    cases values with
    | nil => rfl
    | cons value values => cases h
  | cons field fields ih =>
    obtain ⟨key, shape, fallback⟩ := field
    cases values with
    | nil => cases h
    | cons value values =>
      obtain ⟨k, v⟩ := value
      simp only [fitFields, Bool.and_eq_true, decide_eq_true_eq] at h
      rw [List.map_cons, List.map_cons, ih h.2, h.1.1.1]

/-! ## 2. Fields -/

section Fields

variable {N : Type} {view : View N} {node? : Value → Option N}

/-- The entry of a value, if the format has one for it. -/
def entryOf (node? : Value → Option N) (field : String × Value) : Option (String × N) :=
  (node? field.2).map (field.1, ·)

/-- Under a key that comes once there is the entry of its value alone. -/
theorem filter_entryOf {values : List (String × Value)} (hdistinct : (values.map (·.1)).Nodup)
    {g : String × Value} (hg : g ∈ values) :
    (values.filterMap (entryOf node?)).filter (·.1 = g.1) = (entryOf node? g).toList := by
  have hnone {others : List (String × Value)} (h : g.1 ∉ others.map (·.1)) :
      (others.filterMap (entryOf node?)).filter (·.1 = g.1) = [] := by
    rw [List.filter_eq_nil_iff]
    intro entry hentry
    obtain ⟨other, hother, hmap⟩ := List.mem_filterMap.1 hentry
    obtain ⟨node, -, rfl⟩ := Option.map_eq_some_iff.1 hmap
    rw [decide_eq_true_eq]
    intro heq
    exact h (List.mem_map.2 ⟨other, hother, heq⟩)
  -- The keys before and after it are others.
  obtain ⟨before, after, rfl⟩ := List.append_of_mem hg
  rw [List.map_append, List.map_cons] at hdistinct
  obtain ⟨hfresh, -⟩ := List.nodup_cons.1 (List.nodup_middle.1 hdistinct)
  rw [List.mem_append, not_or] at hfresh
  rw [List.filterMap_append, List.filter_append, hnone hfresh.1, List.nil_append,
    List.filterMap_cons]
  cases hentry : entryOf node? g with
  | none => exact hnone hfresh.2
  | some entry =>
    obtain ⟨node, -, rfl⟩ := Option.map_eq_some_iff.1 hentry
    simp [hnone hfresh.2]

/-- A value is read from its node.  Only a text that is left out has none. -/
def ReadsNode (view : View N) (node? : Value → Option N) (shape : Shape) (v : Value) : Prop :=
  match node? v with
  | some node => shape.read view node = some v
  | none => v = .text none

/-- The fields of a record are read, each from the entries under its key. -/
theorem readFields_of_fits {entries : List (String × N)}
    {fields : List (String × Shape × Option Value)} {values : List (String × Value)}
    (hfits : fitFields fields values = true)
    (hentries : ∀ g ∈ values, entries.filter (·.1 = g.1) = (entryOf node? g).toList)
    (hread : ∀ g ∈ values, ∀ shape : Shape, shape.fits g.2 = true →
      ReadsNode view node? shape g.2) :
    readFields view fields entries = some values := by
  induction fields generalizing values with
  | nil =>
    cases values with
    | nil => rfl
    | cons value values => cases hfits
  | cons field fields ih =>
    obtain ⟨key, shape, fallback⟩ := field
    cases values with
    | nil => cases hfits
    | cons value values =>
      obtain ⟨k, v⟩ := value
      simp only [fitFields, Bool.and_eq_true, decide_eq_true_eq] at hfits
      obtain ⟨⟨⟨rfl, hfits⟩, hcovered⟩, hmore⟩ := hfits
      have hrest := ih hmore (fun g hg => hentries g (List.mem_cons_of_mem _ hg))
        fun g hg => hread g (List.mem_cons_of_mem _ hg)
      have hentry := hentries _ List.mem_cons_self
      have hvalue := hread _ List.mem_cons_self shape hfits
      unfold ReadsNode at hvalue
      cases hnode : node? v with
      | none =>
        simp only [hnode] at hvalue
        simp only [entryOf, hnode, Option.map_none, Option.toList_none] at hentry
        simp only [readFields, hentry, eq_none_of_isCovered hcovered hvalue, hrest,
          Option.bind_eq_bind, Option.bind_some]
        rfl
      | some node =>
        simp only [hnode] at hvalue
        simp only [entryOf, hnode, Option.map_some, Option.toList_some] at hentry
        simp only [readFields, hentry, hvalue, hrest, Option.bind_eq_bind, Option.bind_some]
        rfl

end Fields

/-! ## 3. Reading RON -/

namespace Ron

theorem word?_decimalChars (n : UInt32) : word? (.number (decimalChars n.toNat)) = some n := by
  have hnatural := natural?_of_digits (Decimal.decimalChars_ne_nil n.toNat) fun _ hc =>
    Decimal.isDigitIn_of_mem_decimalChars hc
  rw [Decimal.ofDigits_decimalChars] at hnatural
  simp [word?, hnatural, n.toNat_lt_size]

theorem entries?_ofValue {name : String} {known : List String} {fields : List (String × Value)}
    (h : ∀ f ∈ fields, f.1 ∈ known) :
    entries? name known (Node.ofValue (.record fields)) = some (nodesOf fields) := by
  have hknown : (nodesOf fields).all (fun f => f.1 ∈ known || f.2.isIgnorable) = true := by
    rw [nodesOf_eq_map, List.all_map, List.all_eq_true]
    intro f hf
    simp [h f hf]
  exact if_pos ⟨rfl, hknown⟩

/-- A value that fits is found in its node. -/
theorem read_ofValue (shape : Shape) {v : Value} (h : shape.fits v = true) :
    shape.read (view false) (Node.ofValue v) = some v := by
  -- By the size of the value.
  match shape, v with
  | .flag, .flag b => rfl
  | .word, .word n => simp [Shape.read, view, Node.ofValue, word?_decimalChars]
  | .text, .text none => rfl
  | .text, .text (some t) => rfl
  | .record name fields, .record values =>
    simp only [Shape.fits, Bool.and_eq_true, decide_eq_true_eq] at h
    obtain ⟨hdistinct, hfits⟩ := h
    have hentries : entries? name (fields.map (·.1)) (Node.ofValue (.record values)) =
        some (nodesOf values) := entries?_ofValue fun f hf =>
      map_fst_of_fitFields hfits ▸ List.mem_map_of_mem hf
    have hread : readFields (view false) fields (nodesOf values) = some values := by
      have hform : nodesOf values = values.filterMap (entryOf (some ∘ Node.ofValue)) := by
        rw [nodesOf_eq_map, ← List.filterMap_eq_map]
        rfl
      rw [hform]
      exact readFields_of_fits hfits (fun g hg => filter_entryOf hdistinct hg)
        fun g hg shape hshape => read_ofValue shape hshape
    have hview : (view false).entries = entries? := rfl
    simp only [Shape.read, hview, hentries, hread, Option.bind_eq_bind, Option.bind_some]
    rfl
termination_by v
decreasing_by
  have hlt := List.sizeOf_lt_of_mem hg
  obtain ⟨key, value⟩ := g
  simp only [Value.record.sizeOf_spec, Prod.mk.sizeOf_spec] at hlt ⊢
  omega

end Ron

/-! ## 4. Reading TOML -/

namespace Toml

/-- What a value is read as, on its line or under its header. -/
def Node.ofValue? (v : Value) : Option Node := plainNode? v <|> tableNode? v

/-- The entries of a document come by the kind of their values, and not in order. -/
theorem filter_entries {values : List (String × Value)} (hdistinct : (values.map (·.1)).Nodup)
    {g : String × Value} (hg : g ∈ values) :
    (plainEntries values ++ tableEntries values).filter (·.1 = g.1) =
      (entryOf Node.ofValue? g).toList := by
  have hplain : plainEntries values = values.filterMap (entryOf plainNode?) := rfl
  have htables : tableEntries values = values.filterMap (entryOf tableNode?) := rfl
  rw [List.filter_append, hplain, htables, filter_entryOf hdistinct hg, filter_entryOf hdistinct hg]
  obtain ⟨key, v⟩ := g
  cases v with
  | text t => cases t <;> rfl
  | _ => rfl

theorem read_record {name : String} {fields : List (String × Shape × Option Value)}
    {values : List (String × Value)} (h : (Shape.record name fields).fits (.record values) = true)
    (hread : ∀ g ∈ values, ∀ shape : Shape, shape.fits g.2 = true →
      ReadsNode view Node.ofValue? shape g.2) :
    (Shape.record name fields).read view
        (.table .header (plainEntries values ++ tableEntries values)) = some (.record values) := by
  simp only [Shape.fits, Bool.and_eq_true, decide_eq_true_eq] at h
  obtain ⟨hdistinct, hfits⟩ := h
  have hfields := readFields_of_fits hfits (fun g hg => filter_entries hdistinct hg) hread
  have hview : view.entries name (fields.map (·.1))
      (.table .header (plainEntries values ++ tableEntries values)) =
      some (plainEntries values ++ tableEntries values) := rfl
  simp only [Shape.read, hview, hfields, Option.bind_eq_bind, Option.bind_some]
  rfl

theorem readsNode_plain {shape : Shape} {v : Value} (hplain : isPlain v = true)
    (h : shape.fits v = true) : ReadsNode view Node.ofValue? shape v := by
  match shape, v with
  | .flag, .flag b => rfl
  | .word, .word n =>
    have hlt : (n.toNat : Int) < UInt32.size := Int.ofNat_lt.2 n.toNat_lt_size
    have hword : view.word (.integer n.toNat) = some n := by
      simp only [view]
      rw [if_pos ⟨Int.natCast_nonneg _, hlt⟩, Int.toNat_natCast, UInt32.ofNat_toNat]
    simp only [ReadsNode, Node.ofValue?, plainNode?, Shape.read]
    exact congrArg (Value.word <$> ·) hword
  | .text, .text none => rfl
  | .text, .text (some t) => rfl
  | .record _ _, .record _ => cases hplain

theorem readsNode_field {shape : Shape} {v : Value} (hfield : isField v = true)
    (h : shape.fits v = true) : ReadsNode view Node.ofValue? shape v := by
  rcases plain_or_table hfield with ⟨hplain, -⟩ | ⟨inner, rfl, htable⟩
  · exact readsNode_plain hplain h
  · simp only [isTable, Bool.and_eq_true, List.all_eq_true] at htable
    have hinner : ∀ g ∈ inner, isPlain g.2 = true := fun g hg => (htable.1.2 g hg).2
    have hnone : tableEntries inner = [] := by
      rw [tableEntries, List.filterMap_eq_nil_iff]
      intro g hg
      have hplain := hinner g hg
      obtain ⟨key, v⟩ := g
      cases v <;> first | rfl | cases hplain
    cases shape with
    | record name fields =>
      have hread := read_record h fun g hg _ hfits => readsNode_plain (hinner g hg) hfits
      rw [hnone, List.append_nil] at hread
      exact hread
    | _ => cases h

/-- A document that fits is found among its entries. -/
theorem read_entries {shape : Shape} {values : List (String × Value)}
    (hdocument : isDocument values = true) (h : shape.fits (.record values) = true) :
    shape.read view (.table .header (plainEntries values ++ tableEntries values)) =
      some (.record values) := by
  simp only [isDocument, Bool.and_eq_true, List.all_eq_true] at hdocument
  cases shape with
  | record name fields =>
    exact read_record h fun g hg _ hfits => readsNode_field (hdocument.1 g hg).2 hfits
  | _ => cases h

end Toml

/-! ## 5. Both formats -/

/-- A record that fits its shape is written and read back, by either format. -/
theorem Format.read?_write? (format : Format) {shape : Shape} {fields : List (String × Value)}
    (hfits : shape.fits (.record fields) = true)
    (hron : Ron.isReadable Ron.levelLimit (.record fields) = true)
    (htoml : Toml.isDocument fields = true) :
    ∃ text, format.write? (.record fields) = some text ∧
      format.read? shape text = some (.record fields) := by
  cases format with
  | toml =>
    obtain ⟨text, hwrite, hread⟩ := Toml.read?_write? htoml
    refine ⟨text, hwrite, ?_⟩
    simp only [Format.read?, hread, Option.bind_eq_bind, Option.bind_some]
    exact Toml.read_entries htoml hfits
  | ron =>
    refine ⟨_, rfl, ?_⟩
    simp only [Format.read?, Ron.read?_write hron, Option.bind_eq_bind, Option.bind_some]
    exact Ron.read_ofValue shape hfits

end GpuRecorder.Document
