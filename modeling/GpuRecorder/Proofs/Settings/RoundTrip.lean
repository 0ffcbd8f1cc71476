import GpuRecorder.Proofs.Document.Shapes
import GpuRecorder.Settings.File

/-!
# Settings that were saved

Settings are read back from either format as they were, whatever characters the log level has in
it, and also when there is none.  A file is taken to hold the bytes of the text that was saved.
-/

namespace GpuRecorder

open Document (Format)
open Document.Toml (isDocument isField isKey isPlain isTable showsHeader writePlain?)

/-! ## 1. Settings as a document -/

theorem CapabilityOverrides.isField_toValue (o : CapabilityOverrides) :
    isField o.toValue = true := by
  have hkeys : ["disable_push_descriptor", "disable_descriptor_update_template",
      "disable_multi_draw_indirect"].all isKey = true := by decide +kernel
  simpa [toValue, isField, isTable, showsHeader, writePlain?, isPlain] using hkeys

theorem PoolSizing.isField_toValue (p : PoolSizing) : isField p.toValue = true := by
  have hkeys : ["max_sets_per_pool", "descriptors_per_type"].all isKey = true := by decide +kernel
  simpa [toValue, isField, isTable, showsHeader, writePlain?, isPlain] using hkeys

namespace Settings

theorem fits_toValue (s : Settings) : shape.fits s.toValue = true := by
  obtain ⟨_, _, level⟩ := s
  cases level <;> rfl

theorem isReadable_toValue (s : Settings) :
    Document.Ron.isReadable Document.Ron.levelLimit s.toValue = true := by
  obtain ⟨_, _, level⟩ := s
  cases level <;> rfl

theorem exists_isDocument (s : Settings) :
    ∃ fields, s.toValue = .record fields ∧ isDocument fields = true := by
  have hkeys : ["capabilities", "descriptor_pool", "log_level"].all isKey = true := by
    decide +kernel
  have hlevel : isField (.text s.logLevel) = true := rfl
  refine ⟨_, rfl, ?_⟩
  simpa [isDocument, s.capabilities.isField_toValue, s.descriptorPool.isField_toValue, hlevel]
    using hkeys

/-- Settings are written in either format, and parsing gives them back. -/
theorem parse?_write? (format : Format) (s : Settings) :
    ∃ text, format.write? s.toValue = some text ∧ parse? format text = some s := by
  obtain ⟨fields, heq, hdocument⟩ := exists_isDocument s
  have hfits := fits_toValue s
  have hreadable := isReadable_toValue s
  rw [heq] at hfits hreadable
  obtain ⟨text, hwrite, hread⟩ := format.read?_write? hfits hreadable hdocument
  refine ⟨text, heq ▸ hwrite, ?_⟩
  rw [parse?, hread, ← heq]
  rfl

/-! ## 2. Settings in files -/

theorem fromUTF8?_toUTF8 (text : String) : String.fromUTF8? text.toUTF8 = some text :=
  dif_pos text.isValidUTF8

theorem load_of_parse? {name text : String} {format : Format} {s : Settings}
    (hname : Format.ofFileName? name = some format) (hparse : parse? format text = some s) :
    load name (some text.toUTF8) = .ok s := by
  simp only [load, Option.bind_some, fromUTF8?_toUTF8, hname, hparse]

/-- Saving gives the text in the format of the name, for a file that can have this name. -/
theorem save_eq_ok_iff {name text : String} {s : Settings} :
    save name s = .ok text ↔
      ∃ format, Format.ofFileName? name = some format ∧ format.write? s.toValue = some text ∧
        isFileName name = true := by
  unfold save
  cases hname : Format.ofFileName? name with
  | none => simp
  | some format =>
    obtain ⟨written, hwrite, -⟩ := parse?_write? format s
    by_cases hfile : isFileName name = true <;> simp [hwrite, hfile]

theorem load_of_save {name text : String} {s : Settings} (h : save name s = .ok text) :
    load name (some text.toUTF8) = .ok s := by
  obtain ⟨format, hname, hwrite, -⟩ := save_eq_ok_iff.1 h
  obtain ⟨written, hwritten, hparse⟩ := parse?_write? format s
  obtain rfl : written = text := Option.some.inj (hwritten.symm.trans hwrite)
  exact load_of_parse? hname hparse

/-- Whatever the settings are, their text for a name with either suffix loads as the same settings
from there.  Saving succeeds for every such name that a file can have, and what was saved under
one name loads as what was saved under any other. -/
theorem saved_settings_load (s : Settings) (name : String) :
    (∀ format, Format.ofFileName? name = some format →
      ∃ text, format.write? s.toValue = some text ∧ load name (some text.toUTF8) = .ok s) ∧
    ((∃ text, save name s = .ok text) ↔
      (Format.ofFileName? name).isSome = true ∧ isFileName name = true) ∧
    ∀ text, save name s = .ok text →
      load name (some text.toUTF8) = .ok s ∧
        ∀ other text', save other s = .ok text' →
          load other (some text'.toUTF8) = load name (some text.toUTF8) := by
  refine ⟨fun format hname => ?_, ⟨fun ⟨text, hsave⟩ => ?_, fun ⟨hformat, hfile⟩ => ?_⟩,
    fun text hsave => ⟨load_of_save hsave, fun other text' hother => ?_⟩⟩
  · obtain ⟨text, hwrite, hparse⟩ := parse?_write? format s
    exact ⟨text, hwrite, load_of_parse? hname hparse⟩
  · obtain ⟨format, hname, -, hfile⟩ := save_eq_ok_iff.1 hsave
    exact ⟨Option.isSome_iff_exists.2 ⟨format, hname⟩, hfile⟩
  · obtain ⟨format, hname⟩ := Option.isSome_iff_exists.1 hformat
    obtain ⟨text, hwrite, -⟩ := parse?_write? format s
    exact ⟨text, save_eq_ok_iff.2 ⟨format, hname, hwrite, hfile⟩⟩
  · rw [load_of_save hother, load_of_save hsave]

/-- Settings whose log level needs care in both formats. -/
def awkward : Settings where
  capabilities := { disableMultiDrawIndirect := true }
  descriptorPool := { maxSetsPerPool := 4294967295 }
  logLevel := some "\"\"\"'''\n\r\\\t"

theorem awkward_settings_load :
    ∃ toml ron, save "gfx.toml" awkward = .ok toml ∧ save "gfx.ron" awkward = .ok ron ∧
      load "gfx.toml" (some toml.toUTF8) = .ok awkward ∧
      load "gfx.ron" (some ron.toUTF8) = .ok awkward := by
  obtain ⟨-, hsaved, hload⟩ := saved_settings_load awkward "gfx.toml"
  obtain ⟨toml, htoml⟩ := hsaved.2 (by decide +kernel)
  obtain ⟨ron, hron⟩ := (saved_settings_load awkward "gfx.ron").2.1.2 (by decide +kernel)
  obtain ⟨hsame, hother⟩ := hload toml htoml
  exact ⟨toml, ron, htoml, hron, hsame, (hother _ ron hron).trans hsame⟩

end Settings

end GpuRecorder
