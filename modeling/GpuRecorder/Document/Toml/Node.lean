/-!
# The tree of a TOML document

A table can be written in pieces: by a header of its own, by headers of tables inside it, by
dotted keys.  `Origin` remembers how a table came to be, because that decides which later pieces
may still add to it.
-/

namespace GpuRecorder.Document.Toml

/-- How a table came to be. -/
inductive Origin where
  /-- Written in braces, complete. -/
  | inline
  /-- Opened by a header. -/
  | header
  /-- Known only from the header of a table inside it. -/
  | implied
  /-- Known only from a dotted key. -/
  | dotted
  deriving DecidableEq, Repr

inductive Node where
  | flag (b : Bool)
  | integer (i : Int)
  /-- A number of the 64-bit format, by its bit pattern. -/
  | decimal (bits : Nat)
  | text (s : String)
  /-- A date, a time of day, or both. -/
  | time
  | list (items : List Node)
  | table (origin : Origin) (entries : List (String × Node))
  /-- Tables under one repeated header, the last of which is open. -/
  | tables (earlier : List Node) (last : List (String × Node))
  deriving Inhabited

/-- The named nodes of a table, in the order they came. -/
abbrev Entries := List (String × Node)

/-- Set an entry; one that is there keeps its place. -/
def Entries.put (key : String) (node : Node) : Entries → Entries
  | [] => [(key, node)]
  | (k, n) :: entries =>
    if k = key then (k, node) :: entries else (k, n) :: Entries.put key node entries

/-- Change the table at the end of a path.  Tables that are missing on the way are made; a table
in braces is never changed, and dotted keys change no table that has a header. -/
def Entries.alter (byKey : Bool) (change : Origin → Entries → Option Entries) :
    List String → Origin → Entries → Option Entries
  | [], origin, entries => change origin entries
  | key :: path, _, entries =>
    match entries.lookup key with
    | none => do
      let origin := if byKey then .dotted else .implied
      let inner ← Entries.alter byKey change path origin []
      return entries.put key (.table origin inner)
    | some (.table origin inner) =>
      if origin = .inline ∨ (byKey ∧ origin = .header) then none
      else do
        let inner ← Entries.alter byKey change path origin inner
        return entries.put key (.table origin inner)
    | some (.tables earlier last) => do
      let last ← Entries.alter byKey change path .header last
      return entries.put key (.tables earlier last)
    | some _ => none

/-- Add an entry under a dotted key, `path` being all but its last part.  The key must be new, and
with a path the table it goes to must come from dotted keys too. -/
def Entries.insert? (path : List String) (key : String) (node : Node) :
    Origin → Entries → Option Entries :=
  Entries.alter true
    (fun origin entries =>
      if (entries.lookup key).isSome ∨ (origin = .dotted) ≠ (path ≠ []) then none
      else some (entries.put key node))
    path

/-- Open the table of a header: a new one, or one that only headers inside it have named. -/
def Entries.open? (path : List String) (key : String) : Entries → Option Entries :=
  Entries.alter false
    (fun _ entries =>
      match entries.lookup key with
      | none => some (entries.put key (.table .header []))
      | some (.table .implied inner) => some (entries.put key (.table .header inner))
      | some _ => none)
    path .header

/-- Open one more table under a repeated header. -/
def Entries.openNext? (path : List String) (key : String) : Entries → Option Entries :=
  Entries.alter false
    (fun _ entries =>
      match entries.lookup key with
      | none => some (entries.put key (.tables [] []))
      | some (.tables earlier last) =>
        some (entries.put key (.tables (earlier ++ [.table .header last]) []))
      | some _ => none)
    path .header

/-! ## Small laws -/

@[simp] theorem Entries.lookup_put (entries : Entries) (key : String) (node : Node) :
    (entries.put key node).lookup key = some node := by
  induction entries with
  | nil => simp [Entries.put]
  | cons entry entries ih =>
    obtain ⟨k, n⟩ := entry
    by_cases h : k = key
    · simp [Entries.put, h]
    · have : (key == k) = false := by simp [Ne.symm h]
      simp [Entries.put, h, List.lookup_cons, this, ih]

end GpuRecorder.Document.Toml
