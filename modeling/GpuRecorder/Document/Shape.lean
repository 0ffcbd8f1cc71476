import GpuRecorder.Binary.Single

/-!
# Document shapes — what a settings document may hold

A document of either text format holds one `Value`, and a `Shape` says which values are asked
for.  A format gives a `View` of its own nodes; `Shape.read` then finds the value of a shape in a
node, so that what is required, what has a default and what is ignored is said once for both.
-/

namespace GpuRecorder.Document

open Binary (Single)

/-- What a document holds. -/
inductive Value where
  | flag (b : Bool)
  | word (n : UInt32)
  | single (x : Single)
  /-- A text that may be left out. -/
  | text (t : Option String)
  /-- One of a few names. -/
  | choice (name : String)
  /-- Named fields, in the order they are written. -/
  | record (fields : List (String × Value))
  deriving Inhabited

/-- What a document is asked for.  A field of a record may have a fallback. -/
inductive Shape where
  | flag
  | word
  | single
  | text
  | choice (names : List String)
  | record (name : String) (fields : List (String × Shape × Option Value))

/-- How the nodes of a format are seen: each function gives the node's value of one kind, if it
has one. -/
structure View (N : Type) where
  flag : N → Option Bool
  word : N → Option UInt32
  single : N → Option Single
  text : N → Option (Option String)
  choice : N → Option String
  /-- The entries of a record, given its name and the keys of its fields. -/
  entries : String → List String → N → Option (List (String × N))

mutual

/-- The value of a shape in a node. -/
def Shape.read {N : Type} (view : View N) : Shape → N → Option Value
  | .flag, node => .flag <$> view.flag node
  | .word, node => .word <$> view.word node
  | .single, node => .single <$> view.single node
  | .text, node => .text <$> view.text node
  | .choice names, node => do
    let name ← view.choice node
    if name ∈ names then some (.choice name) else none
  | .record name fields, node => do
    let entries ← view.entries name (fields.map (·.1)) node
    .record <$> readFields view fields entries

/-- The values of a record's fields.  An entry with another key is ignored, a key that comes
twice is refused. -/
def readFields {N : Type} (view : View N) :
    List (String × Shape × Option Value) → List (String × N) → Option (List (String × Value))
  | [], _ => some []
  | (key, shape, fallback) :: fields, entries => do
    let value ← match entries.filter (·.1 = key) with
      | [] => fallback
      | [(_, node)] => shape.read view node
      | _ => none
    return (key, value) :: (← readFields view fields entries)

end

end GpuRecorder.Document
