import Voicx.Found.FiniteMap

/-!
# Stored images

Model of the image store of `internal/server/assets.go`, as far as the emoji and branding handlers
use it. An image is a file named by its base name and one of four extensions; the files of one base
name are its variants, and at most one of them is meant to be there.

* `AssetFiles` — the files below the root, by directory and name. A missing directory is one without
  files.
* `existingImageVariants`, `validImageVariants` — the variants of a base name.
* `writeImage`, `removeImage`, `renameImage` — the operations. Each returns the files it leaves
  behind, also when it fails half way; `AssetFaults` says which calls of the operating system fail.
* `Removable`, `Renamable` — when the two get as far as their first change. Otherwise they fail and
  leave the files as they were (`removeImage_of_not_removable`, `renameImage_of_not_renamable`).

The locks of the store make an operation one step. File modes are left out.

Source names without a file are from `internal/server/assets.go`.
-/

namespace Voicx.Server

open Found

/-! ## Formats and files -/

/-- Source: `assetImageFormat`. -/
inductive ImageFormat
  | png
  | jpeg
  | gif
  | webp
deriving DecidableEq, Repr

/-- `assetImageFormat.extension`. -/
def ImageFormat.extension : ImageFormat → String
  | .png => ".png"
  | .jpeg => ".jpg"
  | .gif => ".gif"
  | .webp => ".webp"

/-- The formats in order of preference. Source: `assetImageFormats`. -/
def assetImageFormats : List ImageFormat := [.png, .jpeg, .gif, .webp]

/-- What stands at a path: a regular file, or something that is refused (a link, a directory). -/
inductive AssetFile
  | regular (data : List UInt8)
  | irregular
deriving DecidableEq, Repr

/-- A path below the root: the directory, empty for the root itself, and the file name. -/
abbrev AssetPath := String × String

/-- The files below the root. -/
abbrev AssetFiles := FMap AssetPath AssetFile

/-- Source: `assetImage`. -/
structure AssetImage where
  base : String
  fileName : String
  format : ImageFormat
deriving DecidableEq, Repr

/-- The errors that the handlers tell apart: `fs.ErrNotExist`, `fs.ErrExist`, and all others. -/
inductive AssetError
  | notExist
  | exist
  | failed
deriving DecidableEq, Repr

/-- The parts of the platform that the store relies on. -/
structure AssetPlatform where
  /-- `filepath.Base(value) == value && filepath.IsLocal(value)` for a value without separators -/
  isLocal : String → Bool
  /-- `inspectAssetImage`: the format of a bounded static image -/
  inspect : List UInt8 → Option ImageFormat
  /-- `base64.StdEncoding.DecodeString` -/
  decodeBase64 : String → Option (List UInt8)

/-- Which calls of the operating system fail. -/
structure AssetFaults where
  openRoot : Bool := false
  /-- opening or creating the directory -/
  dir : Bool := false
  /-- `regularAssetInfo` of a path -/
  info : AssetPath → Bool := fun _ => false
  read : AssetPath → Bool := fun _ => false
  /-- writing a file, before it is installed -/
  write : AssetPath → Bool := fun _ => false
  /-- the sync after a file was installed -/
  writeSync : AssetPath → Bool := fun _ => false
  remove : AssetPath → Bool := fun _ => false
  rename : Bool := false
  sync : Bool := false

/-- `maxImageBytes`. -/
def maxImageBytes : ℕ := 256 * 1024

/-- The file name of a variant. -/
def variantName (base : String) (format : ImageFormat) : String := base ++ format.extension

/-- Source: `validateAssetComponent`. -/
def validateAssetComponent (p : AssetPlatform) (value : String) : Bool :=
  value ≠ "" && value ≠ "." && value ≠ ".." && value.toList.all (fun c => c ≠ '/' && c ≠ '\\') &&
    p.isLocal value

/-! ## Variants -/

section variants

variable (p : AssetPlatform) (faults : AssetFaults) (files : AssetFiles) (dir base : String)

/-- The loop of `imageVariants` over the formats. -/
def collectVariants : List ImageFormat → Except AssetError (List AssetImage)
  | [] => .ok []
  | format :: rest =>
    let path := (dir, variantName base format)
    if faults.info path then .error .failed
    else
      match files.lookup path with
      | none => collectVariants rest
      | some .irregular => .error .failed
      | some (.regular _) =>
        match collectVariants rest with
        | .error e => .error e
        | .ok images => .ok (⟨base, variantName base format, format⟩ :: images)

/-- The variants of a base name that are there, in order of preference.
Source: `existingImageVariants`. -/
def existingImageVariants : Except AssetError (List AssetImage) :=
  if !validateAssetComponent p base then .error .failed
  else if faults.dir then .error .failed
  else collectVariants faults files dir base assetImageFormats

/-- The bytes of an image file. Source: `readRegularAsset`. -/
def readRegularAsset (path : AssetPath) : Option (List UInt8) :=
  if faults.read path then none
  else
    match files.lookup path with
    | some (.regular data) => if data.length ≤ maxImageBytes then some data else none
    | _ => none

/-- The file holds an image of the format its name says.
Source: `validateAssetImage`. -/
def validVariant (image : AssetImage) : Bool :=
  match readRegularAsset faults files (dir, image.fileName) with
  | none => false
  | some data => decide (p.inspect data = some image.format)

/-- Source: `validImageVariants`. -/
def validImageVariants : Except AssetError (List AssetImage) :=
  match existingImageVariants p faults files dir base with
  | .error e => .error e
  | .ok images => .ok (images.filter (validVariant p faults files dir))

end variants

/-! ## Operations -/

/-- The loop of `removeKnownVariants`. -/
def removeVariants (faults : AssetFaults) (dir : String) :
    List AssetImage → AssetFiles → AssetFiles × Except AssetError Unit
  | [], files => (files, .ok ())
  | image :: rest, files =>
    if faults.remove (dir, image.fileName) then (files, .error .failed)
    else removeVariants faults dir rest (files.erase (dir, image.fileName))

/-- Source: `removeKnownVariants`. -/
def removeKnownVariants (faults : AssetFaults) (dir : String) (images : List AssetImage)
    (files : AssetFiles) : AssetFiles × Except AssetError Unit :=
  if images = [] then (files, .ok ())
  else
    match removeVariants faults dir images files with
    | (files, .error e) => (files, .error e)
    | (files, .ok ()) => (files, if faults.sync then .error .failed else .ok ())

section operations

variable (p : AssetPlatform) (faults : AssetFaults) (files : AssetFiles) (dir : String)

variable (base : String)

/-- Source: `removeImagesAtRoot`. -/
def removeImagesAtRoot (required : Bool) : AssetFiles × Except AssetError (Option AssetImage) :=
  match existingImageVariants p faults files dir base with
  | .error e => (files, .error e)
  | .ok [] => (files, if required then .error .notExist else .ok none)
  | .ok (image :: rest) =>
    match removeKnownVariants faults dir (image :: rest) files with
    | (files, .error e) => (files, .error e)
    | (files, .ok ()) => (files, .ok (some image))

/-- Source: `removeImage`. -/
def removeImage : AssetFiles × Except AssetError String :=
  if !validateAssetComponent p base then (files, .error .failed)
  else if faults.openRoot then (files, .error .failed)
  else
    match removeImagesAtRoot p faults files dir base true with
    | (files, .error e) => (files, .error e)
    | (files, .ok image) => (files, .ok ((image.map AssetImage.fileName).getD ""))

/-- The end of `renameImage`, with the sources found and the destination free. -/
def moveVariant (sources : List AssetImage) (chosen : AssetImage) (newBase : String) :
    AssetFiles × Except AssetError String :=
  if faults.rename then (files, .error .failed)
  else
    let newName := variantName newBase chosen.format
    match files.lookup (dir, chosen.fileName) with
    | none => (files, .error .failed)
    | some file =>
      let files := (files.erase (dir, chosen.fileName)).insert (dir, newName) file
      match removeKnownVariants faults dir
          (sources.filter fun source => source.fileName ≠ chosen.fileName) files with
      | (files, .error e) => (files, .error e)
      | (files, .ok ()) => (files, if faults.sync then .error .failed else .ok newName)

/-- Source: `renameImage`. -/
def renameImage (oldBase newBase : String) : AssetFiles × Except AssetError String :=
  if !validateAssetComponent p oldBase || !validateAssetComponent p newBase then
    (files, .error .failed)
  else if faults.openRoot then (files, .error .failed)
  else
    match existingImageVariants p faults files dir oldBase with
    | .error e => (files, .error e)
    | .ok [] => (files, .error .notExist)
    | .ok (source :: sources) =>
      match validImageVariants p faults files dir oldBase with
      | .error e => (files, .error e)
      | .ok [] => (files, .error .notExist)
      | .ok (chosen :: _) =>
        match existingImageVariants p faults files dir newBase with
        | .error e => (files, .error e)
        | .ok (_ :: _) => (files, .error .exist)
        | .ok [] => moveVariant faults files dir (source :: sources) chosen newBase

/-- The variants with their bytes. Source: `snapshotImageVariants`. -/
def snapshotImageVariants : Except AssetError (List (AssetImage × List UInt8)) :=
  match existingImageVariants p faults files dir base with
  | .error e => .error e
  | .ok images =>
    if images.all fun image => (readRegularAsset faults files (dir, image.fileName)).isSome then
      .ok (images.filterMap fun image =>
        (readRegularAsset faults files (dir, image.fileName)).map fun data => (image, data))
    else .error .failed

/-- A file is written beside its place and renamed into it.
Source: `writeAssetAtomicWithSync`. -/
def writeAssetAtomic (path : AssetPath) (data : List UInt8) : AssetFiles × Except AssetError Unit :=
  if faults.write path then (files, .error .failed)
  else
    (files.insert path (.regular data), if faults.writeSync path then .error .failed else .ok ())

/-- Install the image, then remove the variants it supersedes.
Source: `mutateImageAtRoot`. -/
def mutateImageAtRoot (format : ImageFormat) (data : List UInt8) :
    AssetFiles × Except AssetError String :=
  if faults.dir then (files, .error .failed)
  else
    match existingImageVariants p faults files dir base with
    | .error e => (files, .error e)
    | .ok existing =>
      match writeAssetAtomic faults files (dir, variantName base format) data with
      | (files, .error e) => (files, .error e)
      | (files, .ok ()) =>
        match removeVariants faults dir (existing.filter fun image => image.format ≠ format)
            files with
        | (files, .error e) => (files, .error e)
        | (files, .ok ()) =>
          (files, if faults.sync then .error .failed else .ok (variantName base format))

/-- The loop of `restoreImageVariants` over the snapshots. -/
def restoreSnapshots : List (AssetImage × List UInt8) → AssetFiles → AssetFiles
  | [], files => files
  | (image, data) :: rest, files =>
    match writeAssetAtomic faults files (dir, image.fileName) data with
    | (files, .error _) => files
    | (files, .ok ()) => restoreSnapshots rest files

/-- The files after the rollback of a failed write; that it may fail itself only adds to the error.
Source: `restoreImageVariants`. -/
def restoreImageVariants (base : String) (snapshots : List (AssetImage × List UInt8)) :
    AssetFiles :=
  match removeImagesAtRoot p faults files dir base false with
  | (files, .error _) => files
  | (files, .ok _) => restoreSnapshots faults dir snapshots files

/-- Write an image; a failed write is rolled back under the faults `rollback`.
Source: `writeImage`. -/
def writeImage (rollback : AssetFaults) (base : String) (format : ImageFormat)
    (data : List UInt8) : AssetFiles × Except AssetError String :=
  if !validateAssetComponent p base then (files, .error .failed)
  else if faults.openRoot then (files, .error .failed)
  else
    match snapshotImageVariants p faults files dir base with
    | .error e => (files, .error e)
    | .ok prior =>
      match mutateImageAtRoot p faults files dir base format data with
      | (files, .ok fileName) => (files, .ok fileName)
      | (files, .error e) => (restoreImageVariants p rollback files dir base prior, .error e)

end operations

/-! ## What a listing says -/

section listing

variable {p : AssetPlatform} {faults : AssetFaults} {files : AssetFiles} {dir base : String}
  {formats : List ImageFormat} {images : List AssetImage}

/-- A listed variant is a regular file under its name. -/
lemma lookup_of_mem_collectVariants
    (h : collectVariants faults files dir base formats = .ok images) {image : AssetImage}
    (hmem : image ∈ images) :
    ∃ data, files.lookup (dir, image.fileName) = some (.regular data) := by
  induction formats generalizing images with
  | nil =>
    cases h
    cases hmem
  | cons format rest ih =>
    rw [collectVariants] at h
    split_ifs at h
    split at h
    · exact ih h hmem
    · cases h
    rename_i data hfile
    split at h
    · cases h
    · rename_i hrest
      cases h
      rcases List.mem_cons.mp hmem with rfl | hmem'
      · exact ⟨data, hfile⟩
      · exact ih hrest hmem'

/-- An empty listing means that no variant is there. -/
lemma lookup_of_collectVariants_nil (h : collectVariants faults files dir base formats = .ok [])
    {format : ImageFormat} (hmem : format ∈ formats) :
    files.lookup (dir, variantName base format) = none := by
  induction formats with
  | nil => cases hmem
  | cons f rest ih =>
    rw [collectVariants] at h
    split_ifs at h
    split at h
    · rename_i hnone
      rcases List.mem_cons.mp hmem with rfl | hmem'
      · exact hnone
      · exact ih h hmem'
    · cases h
    · split at h <;> cases h

lemma existingImageVariants_eq_ok {images : List AssetImage}
    (h : existingImageVariants p faults files dir base = .ok images) :
    collectVariants faults files dir base assetImageFormats = .ok images := by
  unfold existingImageVariants at h
  split_ifs at h
  exact h

end listing

/-! ## When the files change -/

section changes

variable (p : AssetPlatform) (faults : AssetFaults) (files : AssetFiles) (dir : String)

/-- `removeImage` gets as far as removing the first variant. -/
structure Removable (base : String) : Prop where
  valid : validateAssetComponent p base = true
  root : faults.openRoot = false
  first : ∃ image rest, existingImageVariants p faults files dir base = .ok (image :: rest) ∧
    faults.remove (dir, image.fileName) = false

/-- `renameImage` gets as far as the rename. -/
structure Renamable (oldBase newBase : String) : Prop where
  valid : validateAssetComponent p oldBase = true ∧ validateAssetComponent p newBase = true
  root : faults.openRoot = false
  sources : ∃ source rest, existingImageVariants p faults files dir oldBase = .ok (source :: rest)
  chosen : ∃ image rest, validImageVariants p faults files dir oldBase = .ok (image :: rest)
  free : existingImageVariants p faults files dir newBase = .ok []
  rename : faults.rename = false

variable {p faults files dir} {images : List AssetImage} {base oldBase newBase : String}

/-- Removing files brings none back. -/
lemma removeVariants_lookup_none {files : AssetFiles} {path : AssetPath}
    (h : files.lookup path = none) :
    (removeVariants faults dir images files).1.lookup path = none := by
  induction images generalizing files with
  | nil => exact h
  | cons image rest ih =>
    rw [removeVariants]
    split_ifs
    · exact h
    · apply ih
      rw [FMap.lookup_erase_ite, h, ite_self]

/-- The sync at the end changes no file. -/
lemma removeKnownVariants_files (images : List AssetImage) (files : AssetFiles) :
    (removeKnownVariants faults dir images files).1 =
      (removeVariants faults dir images files).1 := by
  unfold removeKnownVariants
  by_cases hnil : images = []
  · rw [hnil]
    rfl
  · rw [if_neg hnil]
    generalize removeVariants faults dir images files = r
    obtain ⟨files', _ | _⟩ := r <;> rfl

/-- A refused removal touches no file. -/
theorem removeImage_of_not_removable (h : ¬Removable p faults files dir base) :
    ∃ e, removeImage p faults files dir base = (files, .error e) := by
  unfold removeImage
  split_ifs with hvalid hroot
  · exact ⟨_, rfl⟩
  · exact ⟨_, rfl⟩
  unfold removeImagesAtRoot
  cases hvariants : existingImageVariants p faults files dir base with
  | error e => exact ⟨e, rfl⟩
  | ok images =>
    cases images with
    | nil => exact ⟨.notExist, rfl⟩
    | cons image rest =>
      -- nothing else stands in the way, so the first removal fails
      have hremove : faults.remove (dir, image.fileName) = true := by
        by_contra hremove
        exact h ⟨by simpa using hvalid, by simpa using hroot, image, rest, hvariants,
          by simpa using hremove⟩
      exact ⟨.failed, by simp [removeKnownVariants, removeVariants, hremove]⟩

lemma removeImage_of_removable (h : Removable p faults files dir base) :
    (removeImage p faults files dir base).1 ≠ files := by
  obtain ⟨image, rest, hvariants, hremove⟩ := h.first
  obtain ⟨data, hfile⟩ := lookup_of_mem_collectVariants (existingImageVariants_eq_ok hvariants)
    List.mem_cons_self
  have hgone : (removeVariants faults dir (image :: rest) files).1.lookup
      (dir, image.fileName) = none := by
    rw [removeVariants, if_neg (by simp [hremove])]
    exact removeVariants_lookup_none (Finmap.lookup_erase _ _)
  have hresult : (removeImage p faults files dir base).1 =
      (removeVariants faults dir (image :: rest) files).1 := by
    rw [← removeKnownVariants_files]
    simp only [removeImage, h.valid, h.root, removeImagesAtRoot, hvariants]
    generalize removeKnownVariants faults dir (image :: rest) files = r
    obtain ⟨files', _ | _⟩ := r <;> rfl
  intro heq
  rw [hresult] at heq
  rw [heq, hfile] at hgone
  cases hgone

/-- A refused renaming touches no file. -/
theorem renameImage_of_not_renamable (h : ¬Renamable p faults files dir oldBase newBase) :
    ∃ e, renameImage p faults files dir oldBase newBase = (files, .error e) := by
  unfold renameImage
  split_ifs with hvalid hroot
  · exact ⟨_, rfl⟩
  · exact ⟨_, rfl⟩
  split
  · exact ⟨_, rfl⟩
  · exact ⟨_, rfl⟩
  rename_i source sources hsources
  split
  · exact ⟨_, rfl⟩
  · exact ⟨_, rfl⟩
  rename_i chosen rest hchosen
  split
  · exact ⟨_, rfl⟩
  · exact ⟨_, rfl⟩
  rename_i hfree
  -- only the rename itself is left to fail
  have hrename : faults.rename = true := by
    by_contra hrename
    exact h ⟨by simpa using hvalid, by simpa using hroot, ⟨source, sources, hsources⟩,
      ⟨chosen, rest, hchosen⟩, hfree, by simpa using hrename⟩
  exact ⟨.failed, by simp [moveVariant, hrename]⟩

/-- A valid variant is one of those that are there. -/
lemma mem_existing_of_valid (h : validImageVariants p faults files dir base = .ok images)
    {image : AssetImage} (hmem : image ∈ images) :
    ∃ data, files.lookup (dir, image.fileName) = some (.regular data) := by
  unfold validImageVariants at h
  split at h
  · cases h
  · rename_i hexisting
    cases h
    exact lookup_of_mem_collectVariants (existingImageVariants_eq_ok hexisting)
      (List.mem_of_mem_filter hmem)

lemma renameImage_of_renamable (h : Renamable p faults files dir oldBase newBase) :
    (renameImage p faults files dir oldBase newBase).1 ≠ files := by
  obtain ⟨source, sources, hsources⟩ := h.sources
  obtain ⟨image, rest, hchosen⟩ := h.chosen
  obtain ⟨data, hfile⟩ := mem_existing_of_valid hchosen List.mem_cons_self
  -- the new name is free, so it is another one
  have hfree : files.lookup (dir, variantName newBase image.format) = none :=
    lookup_of_collectVariants_nil (existingImageVariants_eq_ok h.free)
      (by cases image.format <;> decide)
  have hne : (dir, image.fileName) ≠ (dir, variantName newBase image.format) := by
    intro heq
    rw [heq, hfree] at hfile
    cases hfile
  set moved := (files.erase (dir, image.fileName)).insert
    (dir, variantName newBase image.format) (.regular data) with hmoved
  have hgone : moved.lookup (dir, image.fileName) = none := by
    rw [FMap.lookup_insert_ite, if_neg hne, Finmap.lookup_erase]
  have hresult : (renameImage p faults files dir oldBase newBase).1 =
      (removeVariants faults dir ((source :: sources).filter fun other =>
        other.fileName ≠ image.fileName) moved).1 := by
    rw [← removeKnownVariants_files]
    simp only [renameImage, h.valid.1, h.valid.2, h.root, hsources, hchosen, h.free, moveVariant,
      h.rename, hfile, ← hmoved]
    generalize removeKnownVariants faults dir _ moved = r
    obtain ⟨files', _ | _⟩ := r <;> rfl
  have hstill : (renameImage p faults files dir oldBase newBase).1.lookup
      (dir, image.fileName) = none := by
    rw [hresult]
    exact removeVariants_lookup_none hgone
  intro heq
  rw [heq, hfile] at hstill
  cases hstill

end changes

end Voicx.Server
