import GpuRecorder.Proofs.Native.Log
import GpuRecorder.Recording.Operation

/-!
# The layouts that a copy finds

An image has a layout for each mip level and layer of it.  A copy into a texture moves a box of
them to the transfer layout and back.  The box is the smallest one around the regions, so every
copy finds the layout it names, and at the end every subresource has the layout it began with.
-/

namespace GpuRecorder.Draw

/-- A region writes a mip level and layer of its texture. -/
def CopyRegion.Touches (r : CopyRegion) (mip layer : Nat) : Prop :=
  mip = r.mipLevel ∧ r.baseLayer ≤ layer ∧ layer < r.baseLayer + r.layers

end GpuRecorder.Draw

namespace GpuRecorder.Native

/-! ## 1. Subresources -/

/-- A mip level and a layer lie in a box. -/
def SubresourceRange.Contains (range : SubresourceRange) (mip layer : Nat) : Prop :=
  (range.baseMip ≤ mip ∧ mip < range.baseMip + range.mipCount) ∧
    range.baseLayer ≤ layer ∧ layer < range.baseLayer + range.layerCount

instance (range : SubresourceRange) (mip layer : Nat) : Decidable (range.Contains mip layer) :=
  inferInstanceAs (Decidable (_ ∧ _))

/-- A copy writes a mip level and layer of its image. -/
def BufferImageCopy.Touches (r : BufferImageCopy) (mip layer : Nat) : Prop :=
  mip = r.mipLevel ∧ r.baseLayer ≤ layer ∧ layer < r.baseLayer + r.layerCount

/-- The layouts of all images, for each mip level and layer. -/
def ImageLayouts : Type := Handle .image → (mip layer : Nat) → ImageLayout

namespace ImageLayouts

/-- Move a box of an image to another layout, whatever it had before. -/
def transition (m : ImageLayouts) (x : ImageTransition) : ImageLayouts := fun image mip layer =>
  if image = x.image ∧ x.range.Contains mip layer then x.newLayout else m image mip layer

/-- The layouts after a command; only barriers change them. -/
def after (m : ImageLayouts) : Command → ImageLayouts
  | .pipelineBarrier _ _ transitions => transitions.foldl transition m
  | _ => m

/-- A command finds the layouts it names: a barrier the old ones all over its boxes, and a copy the
transfer layout wherever it writes. -/
def Fits (m : ImageLayouts) : Command → Prop
  | .pipelineBarrier _ _ transitions =>
    ∀ x ∈ transitions, ∀ mip layer, x.range.Contains mip layer → m x.image mip layer = x.oldLayout
  | .copyBufferToImage _ image layout regions =>
    layout = .transferDestination ∧
      ∀ r ∈ regions, ∀ mip layer, r.Touches mip layer → m image mip layer = .transferDestination
  | _ => True

variable {m : ImageLayouts} {x : ImageTransition} {mip layer : Nat}

theorem transition_inside (h : x.range.Contains mip layer) :
    m.transition x x.image mip layer = x.newLayout :=
  if_pos ⟨rfl, h⟩

/-- A box that had one layout has it again when it is moved back. -/
theorem transition_back {back : ImageTransition}
    (hhad : ∀ mip layer, x.range.Contains mip layer → m x.image mip layer = x.oldLayout)
    (himage : back.image = x.image) (hrange : back.range = x.range)
    (hlayout : back.newLayout = x.oldLayout) : (m.transition x).transition back = m := by
  funext image mip layer
  simp only [transition, himage, hrange, hlayout]
  by_cases h : image = x.image ∧ x.range.Contains mip layer
  · rw [if_pos h, h.1, hhad mip layer h.2]
  · rw [if_neg h, if_neg h]

end ImageLayouts

end GpuRecorder.Native

namespace GpuRecorder.Recording

open Draw Native Resource

namespace CommandBuffer

/-! ## 2. The box around some regions -/

/-- All that the regions write lies in a box. -/
def Surrounds (range : SubresourceRange) (regions : List CopyRegion) : Prop :=
  ∀ r ∈ regions, ∀ mip layer, r.Touches mip layer → range.Contains mip layer

section

variable {regions : List CopyRegion} {n mip layer : Nat}

theorem least_le_iff (h : regions ≠ []) (f : CopyRegion → Nat) :
    ((regions.map f).min?).getD 0 ≤ n ↔ ∃ r ∈ regions, f r ≤ n := by
  constructor
  · intro hle
    have hsome : regions.map f ≠ [] := fun hnil => h (List.map_eq_nil_iff.1 hnil)
    obtain ⟨least, hleast⟩ := Option.isSome_iff_exists.1 (List.isSome_min?_of_ne_nil hsome)
    obtain ⟨r, hr, hvalue⟩ := List.mem_map.1 (List.min?_mem hleast)
    rw [hleast, Option.getD_some, ← hvalue] at hle
    exact ⟨r, hr, hle⟩
  · rintro ⟨r, hr, hle⟩
    exact Nat.le_trans (List.min?_getD_le_of_mem (List.mem_map_of_mem hr)) hle

theorem le_most_iff (h : regions ≠ []) (f : CopyRegion → Nat) :
    n ≤ ((regions.map f).max?).getD 0 ↔ ∃ r ∈ regions, n ≤ f r := by
  constructor
  · intro hle
    have hsome : regions.map f ≠ [] := fun hnil => h (List.map_eq_nil_iff.1 hnil)
    obtain ⟨most, hmost⟩ := Option.isSome_iff_exists.1 (List.isSome_max?_of_ne_nil hsome)
    obtain ⟨r, hr, hvalue⟩ := List.mem_map.1 (List.max?_mem hmost)
    rw [hmost, Option.getD_some, ← hvalue] at hle
    exact ⟨r, hr, hle⟩
  · rintro ⟨r, hr, hle⟩
    exact Nat.le_trans hle (List.le_max?_getD_of_mem (List.mem_map_of_mem hr))

/-- The box is bounded by regions on each of its four sides. -/
theorem contains_boxOf (h : regions ≠ []) :
    (boxOf regions).Contains mip layer ↔
      ((∃ r ∈ regions, r.mipLevel ≤ mip) ∧ ∃ r ∈ regions, mip ≤ r.mipLevel) ∧
        (∃ r ∈ regions, r.baseLayer ≤ layer) ∧
          ∃ r ∈ regions, layer + 1 ≤ r.baseLayer + r.layers := by
  have hspan : ((regions.map (·.mipLevel)).min?).getD 0 ≤
      ((regions.map (·.mipLevel)).max?).getD 0 := by
    obtain ⟨r, hr⟩ := List.exists_mem_of_ne_nil regions h
    rw [le_most_iff h (·.mipLevel)]
    exact ⟨r, hr, (least_le_iff h (·.mipLevel)).2 ⟨r, hr, Nat.le_refl _⟩⟩
  rw [← least_le_iff h (·.mipLevel), ← le_most_iff h (·.mipLevel),
    ← least_le_iff h (·.baseLayer), ← le_most_iff h fun r => r.baseLayer + r.layers]
  simp only [SubresourceRange.Contains, boxOf]
  omega

theorem surrounds_boxOf (h : regions ≠ []) : Surrounds (boxOf regions) regions := by
  rintro r hr mip layer ⟨rfl, hfirst, hlast⟩
  rw [contains_boxOf h]
  exact ⟨⟨⟨r, hr, Nat.le_refl _⟩, ⟨r, hr, Nat.le_refl _⟩⟩, ⟨r, hr, hfirst⟩, ⟨r, hr, hlast⟩⟩

/-- The mip levels of a box are counted between two regions of it. -/
theorem mipCount_boxOf_le (h : regions ≠ [])
    (hmips : ∀ r ∈ regions, ∀ r' ∈ regions, r'.mipLevel - r.mipLevel + 1 ≤ n) :
    (boxOf regions).mipCount ≤ n := by
  obtain ⟨r, hr, hleast⟩ := (least_le_iff h (·.mipLevel)).1 (Nat.le_refl _)
  obtain ⟨r', hr', hmost⟩ := (le_most_iff h (·.mipLevel)).1 (Nat.le_refl _)
  have hspan := hmips r hr r' hr'
  simp only [boxOf]
  omega

/-- Every other box around the regions is larger. -/
theorem boxOf_smallest (h : regions ≠ []) {other : SubresourceRange}
    (hother : Surrounds other regions) (hin : (boxOf regions).Contains mip layer) :
    other.Contains mip layer := by
  -- A region's first and last layers lie in the other box, which bounds it on all sides.
  have hbounds (r : CopyRegion) (hr : r ∈ regions) :
      (other.baseMip ≤ r.mipLevel ∧ r.mipLevel < other.baseMip + other.mipCount) ∧
        other.baseLayer ≤ r.baseLayer ∧
          r.baseLayer + r.layers ≤ other.baseLayer + other.layerCount := by
    have hlayers : 1 ≤ r.layers := Nat.le_max_left 1 r.layerCount
    have hfirst := hother r hr r.mipLevel r.baseLayer ⟨rfl, Nat.le_refl _, by omega⟩
    have hlast := hother r hr r.mipLevel (r.baseLayer + r.layers - 1) ⟨rfl, by omega, by omega⟩
    exact ⟨hfirst.1, hfirst.2.1, by have hend := hlast.2.2; omega⟩
  obtain ⟨⟨⟨r, hr, hmip⟩, r', hr', hmip'⟩, ⟨q, hq, hlayer⟩, q', hq', hlayer'⟩ :=
    (contains_boxOf h).1 hin
  have hlow := (hbounds r hr).1.1
  have hhigh := (hbounds r' hr').1.2
  have hfirst := (hbounds q hq).2.1
  have hlast := (hbounds q' hq').2.2
  exact ⟨⟨by omega, by omega⟩, by omega, by omega⟩

end

/-! ## 3. The copies -/

/-- The change of layout that makes a box of a texture ready for copies. -/
def moveThere (t : Texture) (range : SubresourceRange) : ImageTransition :=
  ⟨t.backing.image, t.aspect, t.backing.layout, .transferDestination, .shaderRead, .transferWrite,
    range⟩

/-- The change of layout that makes it ready for shaders again. -/
def moveBack (t : Texture) (range : SubresourceRange) : ImageTransition :=
  ⟨t.backing.image, t.aspect, .transferDestination, t.backing.layout, .transferWrite, .shaderRead,
    range⟩

/-- The call that copies a region out of a source. -/
def copyCommand (s : Store) (t : Texture) (region : CopyRegion) (source : ResourceId) : Command :=
  .copyBufferToImage (s.start source).buffer t.backing.image .transferDestination
    [regionCopy (s.start source) t.aspect region]

def regionCommands (s : Store) (sources : List ResourceId) (t : Texture)
    (regions : List CopyRegion) : List Command :=
  (regions.zip sources).map fun (region, source) => copyCommand s t region source

theorem copyCommands_eq (s : Store) (sources : List ResourceId) (t : Texture)
    (regions : List CopyRegion) :
    copyCommands s sources t regions =
      .pipelineBarrier .fragmentShader .transfer [moveThere t (boxOf regions)] ::
        regionCommands s sources t regions ++
        [.pipelineBarrier .transfer .fragmentShader [moveBack t (boxOf regions)]] :=
  rfl

section

variable {m : ImageLayouts} (s : Store) (sources : List ResourceId) (t : Texture)
  {regions : List CopyRegion}

/-- Where a barrier has moved the box, every copy finds the transfer layout and leaves it. -/
theorem regionCommands_fit
    (hmoved : ∀ mip layer, (boxOf regions).Contains mip layer →
      m t.backing.image mip layer = .transferDestination) :
    Accepts ImageLayouts.Fits ImageLayouts.after m (regionCommands s sources t regions) ∧
      (regionCommands s sources t regions).foldl ImageLayouts.after m = m := by
  apply accepts_of_still
  intro x hx
  obtain ⟨⟨region, source⟩, hpair, rfl⟩ := List.mem_map.1 hx
  have hregion : region ∈ regions := (List.of_mem_zip hpair).1
  refine ⟨⟨rfl, ?_⟩, rfl⟩
  intro r hr mip layer htouches
  obtain rfl := List.mem_singleton.1 hr
  apply hmoved
  exact surrounds_boxOf (List.ne_nil_of_mem hregion) region hregion mip layer htouches

/-- The first barrier finds the texture's layout, the copies and the last barrier find what the
first has made, and nothing of it is left. -/
theorem copyCommands_fit
    (hhad : ∀ mip layer, (boxOf regions).Contains mip layer →
      m t.backing.image mip layer = t.backing.layout) :
    Accepts ImageLayouts.Fits ImageLayouts.after m (copyCommands s sources t regions) ∧
      (copyCommands s sources t regions).foldl ImageLayouts.after m = m := by
  let moved := m.transition (moveThere t (boxOf regions))
  have hmoved : ∀ mip layer, (boxOf regions).Contains mip layer →
      moved t.backing.image mip layer = .transferDestination :=
    fun _ _ hin => ImageLayouts.transition_inside hin
  have hback : moved.transition (moveBack t (boxOf regions)) = m :=
    ImageLayouts.transition_back hhad rfl rfl rfl
  obtain ⟨hcopies, hstill⟩ := regionCommands_fit s sources t hmoved
  rw [copyCommands_eq, List.cons_append, Accepts, accepts_append, List.foldl_cons,
    List.foldl_append]
  show (_ ∧ _ ∧ Accepts _ _ ((regionCommands s sources t regions).foldl _ moved) _) ∧
    [_].foldl _ ((regionCommands s sources t regions).foldl _ moved) = m
  rw [hstill]
  refine ⟨⟨fun x hx => ?_, hcopies, fun x hx => ?_, trivial⟩, hback⟩
  · obtain rfl := List.mem_singleton.1 hx
    exact hhad
  · obtain rfl := List.mem_singleton.1 hx
    exact hmoved

end

/-- A copy whose sums keep to their widths does not stop. -/
theorem copyStop?_of_sums {s : Store} {sources : List ResourceId} {regions : List CopyRegion}
    (hregions : regions ≠ []) (hlayers : ∀ r ∈ regions, r.baseLayer + r.layers ≤ maxCount)
    (hmips : ∀ r ∈ regions, ∀ r' ∈ regions, r'.mipLevel - r.mipLevel + 1 ≤ maxCount)
    (hstarts : ∀ pair ∈ regions.zip sources,
      (s.backing pair.2).offset + pair.1.bufferOffset ≤ maxOffset) :
    copyStop? s sources regions = none := by
  have hbox : boxOverflows regions = false := by
    simp only [boxOverflows, Bool.or_eq_false_iff, List.any_eq_false, decide_eq_true_eq,
      decide_eq_false_iff_not, Nat.not_lt]
    exact ⟨hlayers, mipCount_boxOf_le hregions hmips⟩
  have hpairs : ((regions.zip sources).findIdx? fun (region, source) =>
      startOverflows s region source) = none := by
    rw [List.findIdx?_eq_none_iff]
    intro pair hpair
    exact decide_eq_false (Nat.not_lt.2 (hstarts pair hpair))
  rw [copyStop?, hbox, hpairs]
  rfl

theorem copyToTexture_of_accepted {c : CommandBuffer} {s : Store} {sources : List ResourceId}
    {texture : ResourceId} {regions : List CopyRegion} {b : Handle .commandBuffer}
    (hb : c.handle? = some b) (houtside : c.passIsOpen = false) (hregions : regions ≠ [])
    (hsources : regions.length ≤ sources.length) (hstop : copyStop? s sources regions = none) :
    c.copyToTexture s sources texture regions =
      (.ok (), c, .record b (copyCommands s sources (s.textures.get texture) regions)) := by
  have hpass : ¬ c.passIsOpen = true := by simp [houtside]
  have hsome : ¬ regions.isEmpty = true := by simpa using hregions
  have hpaired : ¬ sources.length < regions.length := by omega
  simp only [copyToTexture, hb, if_neg hpass, if_neg hsome, if_neg hpaired, hstop, copiedCommands,
    Option.isSome_none, Bool.false_eq_true, if_false]

/-- A copy that is accepted, over any driver, records a barrier, one copy for each region in order,
and a barrier, if the ends of the regions' layers and the number of mip levels fit into 32 bits and
the starts of the regions in their sources into 64.  Let all subresources of the image have the
texture's layout.  Then each command finds the layouts it names, and at the end every layout is
what it was.  Both barriers move the smallest box around the regions.  Each copy reads from where
its source's range starts now, plus the offset of the region, and writes the region's mip level and
layers. -/
theorem copy_finds_and_restores_layouts {c : CommandBuffer} {s : Store}
    {sources : List ResourceId} {texture : ResourceId} {regions : List CopyRegion}
    {b : Handle .commandBuffer} {layouts : ImageLayouts} (hb : c.handle? = some b)
    (houtside : c.passIsOpen = false) (hregions : regions ≠ [])
    (hsources : regions.length ≤ sources.length)
    (hlayers : ∀ r ∈ regions, r.baseLayer + r.layers ≤ maxCount)
    (hmips : ∀ r ∈ regions, ∀ r' ∈ regions, r'.mipLevel - r.mipLevel + 1 ≤ maxCount)
    (hstarts : ∀ pair ∈ regions.zip sources,
      (s.backing pair.2).offset + pair.1.bufferOffset ≤ maxOffset)
    (hlayout : ∀ mip layer, layouts (s.textures.get texture).backing.image mip layer =
      (s.textures.get texture).backing.layout) :
    let t := s.textures.get texture
    ∃ there back copies,
      let commands := .pipelineBarrier .fragmentShader .transfer [there] :: copies ++
        [.pipelineBarrier .transfer .fragmentShader [back]]
      (∀ (σ : Type) [Driver σ] (d : Device σ),
        c.perform d s (.copyToTexture sources texture regions) =
          send d s .done (c, .record b commands)) ∧
      Accepts ImageLayouts.Fits ImageLayouts.after layouts commands ∧
      commands.foldl ImageLayouts.after layouts = layouts ∧
      (there.image = t.backing.image ∧ back.image = t.backing.image ∧ back.range = there.range) ∧
      Surrounds there.range regions ∧
      (∀ other, Surrounds other regions →
        ∀ mip layer, there.range.Contains mip layer → other.Contains mip layer) ∧
      copies.length = regions.length ∧
      ∀ (i : Nat) (hi : i < regions.length),
        let region := regions[i]
        let backing := s.backing sources[i]
        ∃ copy : BufferImageCopy,
          copies[i]? = some (.copyBufferToImage backing.handle t.backing.image
            .transferDestination [copy]) ∧
          copy.bufferOffset = backing.offset + region.bufferOffset ∧
          ∀ mip layer, copy.Touches mip layer ↔ region.Touches mip layer := by
  intro t
  have hlength : (regionCommands s sources t regions).length = regions.length := by
    rw [regionCommands, List.length_map, List.length_zip, Nat.min_eq_left hsources]
  obtain ⟨hfits, hrestored⟩ :=
    @copyCommands_fit layouts s sources t regions fun mip layer _ => hlayout mip layer
  refine ⟨moveThere t (boxOf regions), moveBack t (boxOf regions),
    regionCommands s sources t regions, fun σ _ d => ?_, hfits, hrestored, ⟨rfl, rfl, rfl⟩,
    surrounds_boxOf hregions, fun other hother mip layer => boxOf_smallest hregions hother,
    hlength, fun i hi => ?_⟩
  · have hstop := copyStop?_of_sums hregions hlayers hmips hstarts
    simp only [perform]
    rw [copyToTexture_of_accepted hb houtside hregions hsources hstop, copyCommands_eq]
    rfl
  · have hpair : (regions.zip sources)[i]? = some (regions[i], sources[i]) := by
      rw [List.getElem?_zip_eq_some]
      exact ⟨List.getElem?_eq_getElem hi, List.getElem?_eq_getElem (by omega)⟩
    refine ⟨regionCopy (s.start sources[i]) t.aspect regions[i], ?_, rfl, fun _ _ => Iff.rfl⟩
    rw [regionCommands, List.getElem?_map, hpair]
    rfl

/-- Two sources and a texture. -/
def twoSources : Store where
  buffers := ⟨[(⟨1⟩, .ofRange ⟨700⟩ 0 64 256 0), (⟨2⟩, .ofRange ⟨701⟩ 0 0 256 0)]⟩
  textures := ⟨[(⟨3⟩, { backing := { image := ⟨900⟩ } })]⟩

theorem two_regions_are_copied :
    let c : CommandBuffer := { native := some ⟨⟨7⟩, .primary, 0⟩ }
    let layouts : ImageLayouts := fun _ _ _ => .shaderReadOnly
    let regions : List CopyRegion :=
      [{ mipLevel := 2, baseLayer := 1 }, { mipLevel := 0, baseLayer := 3, layerCount := 2 }]
    let image := (twoSources.textures.get ⟨3⟩).backing.image
    c.handle? = some ⟨7⟩ ∧ c.passIsOpen = false ∧ regions ≠ [] ∧
      (∀ r ∈ regions, r.baseLayer + r.layers ≤ maxCount) ∧
      (∀ r ∈ regions, ∀ r' ∈ regions, r'.mipLevel - r.mipLevel + 1 ≤ maxCount) ∧
      (∀ pair ∈ regions.zip [⟨1⟩, ⟨2⟩],
        (twoSources.backing pair.2).offset + pair.1.bufferOffset ≤ maxOffset) ∧
      (∀ mip layer, layouts image mip layer = (twoSources.textures.get ⟨3⟩).backing.layout) ∧
      ∃ there back copies,
        let commands := .pipelineBarrier .fragmentShader .transfer [there] :: copies ++
          [.pipelineBarrier .transfer .fragmentShader [back]]
        Accepts ImageLayouts.Fits ImageLayouts.after layouts commands ∧
          commands.foldl ImageLayouts.after layouts = layouts ∧
          Surrounds there.range regions ∧ copies.length = regions.length := by
  intro c layouts regions image
  have hb : c.handle? = some ⟨7⟩ := rfl
  have houtside : c.passIsOpen = false := rfl
  have hregions : regions ≠ [] := List.cons_ne_nil _ _
  have hlayout : ∀ mip layer,
      layouts image mip layer = (twoSources.textures.get ⟨3⟩).backing.layout := fun _ _ => rfl
  have hlayers : ∀ r ∈ regions, r.baseLayer + r.layers ≤ maxCount := by decide
  have hmips : ∀ r ∈ regions, ∀ r' ∈ regions, r'.mipLevel - r.mipLevel + 1 ≤ maxCount := by decide
  have hstarts : ∀ pair ∈ regions.zip [⟨1⟩, ⟨2⟩],
      (twoSources.backing pair.2).offset + pair.1.bufferOffset ≤ maxOffset := by decide
  obtain ⟨there, back, copies, _, hfits, hrestored, _, hsurrounds, _, hlength, _⟩ :=
    @copy_finds_and_restores_layouts c twoSources [⟨1⟩, ⟨2⟩] ⟨3⟩ regions ⟨7⟩ layouts hb houtside
      hregions (Nat.le_refl 2) hlayers hmips hstarts hlayout
  exact ⟨hb, houtside, hregions, hlayers, hmips, hstarts, hlayout, there, back, copies, hfits,
    hrestored, hsurrounds, hlength⟩

/-- Sums that pass their widths: the end of a region's layers and the number of mip levels, where
nothing is recorded, and the start of a region in its source, where the texture is left in the
transfer layout. -/
theorem overflowing_copies_stop :
    let c : CommandBuffer := { native := some ⟨⟨7⟩, .primary, 0⟩ }
    let layouts : ImageLayouts := fun _ _ _ => .shaderReadOnly
    let tall : List CopyRegion := [{ baseLayer := 1, layerCount := maxCount }]
    let deep : List CopyRegion := [{}, { mipLevel := maxCount }]
    let far : List CopyRegion := [{ bufferOffset := maxOffset }]
    let there := moveThere (twoSources.textures.get ⟨3⟩) (boxOf far)
    let moved := layouts.after (.pipelineBarrier .fragmentShader .transfer [there])
    c.copyToTexture twoSources [⟨1⟩] ⟨3⟩ tall = (.error .overflow, c, []) ∧
      c.copyToTexture twoSources [⟨1⟩, ⟨2⟩] ⟨3⟩ deep = (.error .overflow, c, []) ∧
      c.copyToTexture twoSources [⟨1⟩] ⟨3⟩ far = (.error .overflow, c,
        .record ⟨7⟩ [.pipelineBarrier .fragmentShader .transfer [there]]) ∧
      (∀ image mip layer, layouts image mip layer =
        (twoSources.textures.get ⟨3⟩).backing.layout) ∧
      moved ⟨900⟩ 0 0 = .transferDestination := by
  exact ⟨rfl, rfl, rfl, fun _ _ _ => rfl, by decide⟩

end CommandBuffer

end GpuRecorder.Recording
