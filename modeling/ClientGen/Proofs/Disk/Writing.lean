import Mathlib.Data.List.Basic
import Mathlib.Data.List.Nodup
import Mathlib.Data.List.Perm.Subperm
import ClientGen.Disk.Write
import ClientGen.Proofs.Lookup

/-!
What writing does to a disk. A write that succeeds gives its target the new text and leaves every
other file. A write that fails leaves all files, and adds one only where it has made its temporary
file and the disk does not let that be removed. Directories on the way to the target may be new. A
target that has been written can be written again.
-/
namespace ClientGen

namespace FilePath

variable {path : FilePath}

theorem names_ne_nil (h : path.name ≠ "") : path.names ≠ [] := by
  intro hnil
  simp [name, hnil] at h

theorem names_eq_concat (h : path.names ≠ []) : path.names = path.parent.names ++ [path.name] := by
  simp [parent, name, List.getLast?_eq_some_getLast h, List.dropLast_append_getLast]

theorem hasNul_parent (h : path.hasNul = false) : path.parent.hasNul = false := by
  rw [hasNul, List.any_eq_false] at h ⊢
  intro name hname
  exact h name (List.dropLast_subset _ hname)

end FilePath

namespace Disk

/-! ### Names of temporary files -/

theorem ofDigitChars_zeros (count : Nat) :
    Nat.ofDigitChars 10 (List.replicate count '0') 0 = 0 := by
  induction count with
  | zero => rfl
  | succ count ih => exact ih

theorem temporaryMark_injective : Function.Injective temporaryMark := by
  have hread (number : Nat) :
      Nat.ofDigitChars 10 (temporaryMark number).toList 0 = number := by
    unfold temporaryMark
    rw [String.toList_ofList, Nat.ofDigitChars_append, ofDigitChars_zeros]
    exact Nat.ofDigitChars_toDigits (by decide) (by decide)
  intro m n h
  rw [← hread m, h, hread]

theorem temporaryName_injective (name : String) : Function.Injective (temporaryName name) := by
  intro m n h
  simp only [temporaryName, String.append_assoc, String.append_right_inj] at h
  exact temporaryMark_injective ((String.append_left_inj _).mp h)

section FreeNames

variable {disk : Disk} {directory : Location} {name temporary : String}

theorem free_of_freeName? (h : disk.freeName? directory name = some temporary) :
    disk.content? (directory ++ [temporary]) = none := by
  simpa using List.find?_some h

theorem temporaryName_of_freeName? (h : disk.freeName? directory name = some temporary) :
    ∃ number, temporaryName name number = temporary := by
  obtain ⟨number, -, heq⟩ := List.mem_map.mp (List.mem_of_find?_eq_some h)
  exact ⟨number, heq⟩

theorem mem_entries_of_content? {location : Location} (hne : location ≠ [])
    (h : disk.content? location ≠ none) : location ∈ disk.entries.map Prod.fst := by
  have hlookup : disk.entries.lookup location ≠ none := by
    simpa [content?, hne] using h
  by_contra hmem
  exact hlookup (lookup_of_not_mem hmem)

/-- One of more names than there are entries is free. -/
theorem exists_freeName (disk : Disk) (directory : Location) (name : String) :
    ∃ temporary, disk.freeName? directory name = some temporary := by
  by_contra hnone
  have hnone : disk.freeName? directory name = none := by
    cases hfree : disk.freeName? directory name with
    | none => rfl
    | some temporary => exact absurd ⟨temporary, hfree⟩ hnone
  -- if every candidate were taken, there would be more locations in use than entries
  let candidates := (List.range (disk.entries.length + 1)).map fun number =>
    directory ++ [temporaryName name number]
  have hnodup : candidates.Nodup := by
    refine List.Nodup.map ?_ List.nodup_range
    intro m n h
    exact temporaryName_injective name (by simpa using h)
  have htaken : candidates ⊆ disk.entries.map Prod.fst := by
    intro location hlocation
    obtain ⟨number, hnumber, rfl⟩ := List.mem_map.mp hlocation
    have hall := List.find?_eq_none.mp hnone _ (List.mem_map_of_mem hnumber)
    exact mem_entries_of_content? (by simp) (by simpa using hall)
  have hlength := hnodup.length_le_of_subset htaken
  simp only [candidates, List.length_map, List.length_range] at hlength
  omega

end FreeNames

/-! ### Locations -/

/-- The location that a path leads to, whatever is on the way. -/
def locate (disk : Disk) (path : FilePath) : Location :=
  path.names.foldl step (disk.origin path)

def text? (disk : Disk) (location : Location) : Option String :=
  match disk.content? location with
  | some (.file text) => some text
  | _ => none

section Walking

variable {disk : Disk} {location directory : Location} {path : FilePath}

theorem locate_eq_step (h : path.names ≠ []) :
    disk.locate path = step (disk.locate path.parent) path.name := by
  simp only [locate, FilePath.names_eq_concat h, List.foldl_append, List.foldl_cons,
    List.foldl_nil]
  rfl

theorem walkFrom_concat {names : List String} {name : String}
    (h : disk.walkFrom location names = .arrived directory)
    (hdirectory : disk.content? directory = some .directory)
    (hname : FilePath.isLongName name = false) :
    disk.walkFrom location (names ++ [name]) = .arrived (step directory name) := by
  induction names generalizing location with
  | nil =>
    cases h
    simp [walkFrom, hdirectory, hname]
  | cons first rest ih =>
    simp only [List.cons_append, walkFrom] at h ⊢
    split_ifs at h ⊢
    exact ih h

theorem foldl_step_of_walkFrom {names : List String}
    (h : disk.walkFrom location names = .arrived directory) :
    names.foldl step location = directory := by
  induction names generalizing location with
  | nil => simpa [walkFrom] using h
  | cons name rest ih =>
    simp only [walkFrom] at h
    split_ifs at h
    exact ih h

theorem locate_of_walk (h : disk.walk path = .arrived location) : disk.locate path = location := by
  unfold walk at h
  split_ifs at h
  exact foldl_step_of_walkFrom h

theorem find?_eq_some_iff {entry : Entry} :
    disk.find? path = some entry ↔
      disk.walk path = .arrived (disk.locate path) ∧
        disk.content? (disk.locate path) = some entry := by
  unfold find?
  cases hwalk : disk.walk path with
  | arrived location =>
    rw [locate_of_walk hwalk]
    simp
  | blocked => simp
  | tooLong => simp

theorem directory_of_walkFrom {names : List String}
    (h : disk.walkFrom location names = .arrived directory)
    (hdirectory : disk.content? directory = some .directory) :
    disk.content? location = some .directory := by
  cases names with
  | nil =>
    cases h
    exact hdirectory
  | cons name rest =>
    simp only [walkFrom] at h
    split_ifs at h with hblocked
    simpa using hblocked

end Walking

/-! ### What writing leaves -/

/-- What becomes of a disk when texts are written to locations, given from the last one to the
first: other locations keep what they have, but a directory may be made where nothing was. -/
structure Written (files : List (Location × String)) (before after : Disk) : Prop where
  working : after.working = before.working
  refuses : after.refuses = before.refuses
  directory : ∀ location, before.content? location = some .directory →
    after.content? location = some .directory
  text : ∀ location text, files.lookup location = some text →
    after.content? location = some (.file text)
  other : ∀ location, files.lookup location = none →
    after.content? location = before.content? location ∨
      before.content? location = none ∧ after.content? location = some .directory

namespace Written

variable {files later : List (Location × String)} {before middle after : Disk}

theorem refl (disk : Disk) : Written [] disk disk :=
  ⟨rfl, rfl, fun _ h => h, by simp, fun _ _ => .inl rfl⟩

theorem trans (h : Written files before middle) (hlater : Written later middle after) :
    Written (later ++ files) before after where
  working := hlater.working.trans h.working
  refuses := hlater.refuses.trans h.refuses
  directory location hlocation := hlater.directory location (h.directory location hlocation)
  text location text hlookup := by
    rw [List.lookup_append] at hlookup
    cases hlast : later.lookup location with
    | some last =>
      rw [hlast, Option.some_or] at hlookup
      exact hlater.text location text (hlast.trans hlookup)
    | none =>
      -- nothing later goes there, and where a file is no directory is made
      rw [hlast, Option.none_or] at hlookup
      have hmiddle := h.text location text hlookup
      rcases hlater.other location hlast with heq | ⟨hnone, -⟩
      · exact heq.trans hmiddle
      · simp [hmiddle] at hnone
  other location hlookup := by
    rw [List.lookup_append, Option.or_eq_none_iff] at hlookup
    rcases h.other location hlookup.2 with heq | ⟨hnone, hmade⟩
    · rw [← heq]
      exact hlater.other location hlookup.1
    · exact .inr ⟨hnone, hlater.directory location hmade⟩

theorem file (h : Written files before after) {location : Location} {text : String}
    (hfile : before.content? location = some (.file text)) :
    ∃ text, after.content? location = some (.file text) := by
  cases hlookup : files.lookup location with
  | some text => exact ⟨text, h.text location text hlookup⟩
  | none =>
    rcases h.other location hlookup with heq | ⟨hnone, -⟩
    · exact ⟨text, heq.trans hfile⟩
    · simp [hfile] at hnone

theorem origin (h : Written files before after) (path : FilePath) :
    after.origin path = before.origin path := by
  rw [Disk.origin, Disk.origin, h.working]

theorem locate (h : Written files before after) (path : FilePath) :
    after.locate path = before.locate path := by
  rw [Disk.locate, Disk.locate, h.origin]

theorem walkFrom (h : Written files before after) {location directory : Location}
    {names : List String} (hwalk : before.walkFrom location names = .arrived directory) :
    after.walkFrom location names = .arrived directory := by
  induction names generalizing location with
  | nil => exact hwalk
  | cons name rest ih =>
    simp only [Disk.walkFrom] at hwalk ⊢
    split_ifs at hwalk with hblocked hlong
    have hlocation : before.content? location = some .directory := by simpa using hblocked
    simp [h.directory location hlocation, hlong, ih hwalk]

theorem walk (h : Written files before after) {path : FilePath} {location : Location}
    (hwalk : before.walk path = .arrived location) : after.walk path = .arrived location := by
  unfold Disk.walk at hwalk ⊢
  rw [h.origin]
  split_ifs at hwalk ⊢
  exact h.walkFrom hwalk

theorem free (h : Written files before after) {location : Location}
    (hfree : after.content? location = none) : before.content? location = none := by
  rcases hbefore : before.content? location with _ | text | _
  · rfl
  · obtain ⟨later, hlater⟩ := h.file hbefore
    simp [hfree] at hlater
  · simp [h.directory location hbefore] at hfree

theorem find?_file (h : Written files before after) {path : FilePath} {text : String}
    (hother : before.locate path ∉ files.map (·.1))
    (hfile : before.find? path = some (.file text)) : after.find? path = some (.file text) := by
  obtain ⟨hwalk, hentry⟩ := find?_eq_some_iff.mp hfile
  refine find?_eq_some_iff.mpr ⟨?_, ?_⟩
  · rw [h.locate]
    exact h.walk hwalk
  · rw [h.locate]
    rcases h.other _ (lookup_of_not_mem hother) with heq | ⟨hnone, -⟩
    · exact heq.trans hentry
    · simp [hentry] at hnone

end Written

section Changes

variable {disk changed : Disk} {location : Location} {text : String}

theorem written_of_same (hworking : changed.working = disk.working)
    (hrefuses : changed.refuses = disk.refuses)
    (h : ∀ other, changed.content? other = disk.content? other) : Written [] disk changed :=
  ⟨hworking, hrefuses, fun other => (h other).trans, by simp, fun other _ => .inl (h other)⟩

/-- A file that takes no directory's place is written by itself. -/
theorem written_of_file (hworking : changed.working = disk.working)
    (hrefuses : changed.refuses = disk.refuses)
    (hplace : disk.content? location ≠ some .directory)
    (h : ∀ other, changed.content? other =
      if other = location then some (.file text) else disk.content? other) :
    Written [(location, text)] disk changed := by
  refine ⟨hworking, hrefuses, fun other hother => ?_, fun other later hlookup => ?_,
    fun other hlookup => .inl ?_⟩
  · rw [h, if_neg, hother]
    rintro rfl
    exact hplace hother
  · rw [h]
    by_cases heq : other = location
    · simpa [heq] using hlookup
    · simp [lookup_singleton_of_ne heq] at hlookup
  · rw [h, if_neg]
    rintro rfl
    simp at hlookup

end Changes

/-! ### Directories -/

section Directories

variable {disk : Disk} {location directory : Location}

theorem written_put_directory (h : disk.content? location = none) :
    Written [] disk (disk.put location .directory) := by
  have hne : location ≠ [] := by
    rintro rfl
    simp [content?] at h
  refine ⟨rfl, rfl, fun other hother => ?_, by simp, fun other _ => ?_⟩
  · rw [content?_put _ _ _ _ hne]
    split_ifs
    · rfl
    · exact hother
  · rw [content?_put _ _ _ _ hne]
    split_ifs with heq
    · exact .inr ⟨heq ▸ h, rfl⟩
    · exact .inl rfl

theorem written_makeFrom (disk : Disk) (location : Location) (names : List String) :
    Written [] disk (disk.makeFrom location names).1 := by
  induction names generalizing disk location with
  | nil => exact .refl disk
  | cons name rest ih =>
    simp only [makeFrom]
    by_cases hlong : FilePath.isLongName name
    · simpa [hlong] using .refl disk
    · rcases hnext : disk.content? (step location name) with _ | text | _
      · by_cases hrefused : disk.refuses .makeDirectory (step location name)
        · simpa [hlong, hrefused] using .refl disk
        · simpa [hlong, hrefused] using (written_put_directory hnext).trans (ih _ _)
      · simpa [hlong] using .refl disk
      · simpa [hlong] using ih disk (step location name)

theorem walkFrom_makeFrom {names : List String}
    (hlocation : disk.content? location = some .directory)
    (h : (disk.makeFrom location names).2 = some directory) :
    (disk.makeFrom location names).1.walkFrom location names = .arrived directory ∧
      (disk.makeFrom location names).1.content? directory = some .directory := by
  induction names generalizing disk location with
  | nil =>
    cases h
    exact ⟨rfl, hlocation⟩
  | cons name rest ih =>
    have hkept := (written_makeFrom disk location (name :: rest)).directory location hlocation
    simp only [makeFrom] at h hkept ⊢
    by_cases hlong : FilePath.isLongName name
    · simp [hlong] at h
    · rcases hnext : disk.content? (step location name) with _ | text | _
      · by_cases hrefused : disk.refuses .makeDirectory (step location name)
        · simp [hlong, hnext, hrefused] at h
        · have hne : step location name ≠ [] := by
            intro hnil
            simp [content?, hnil] at hnext
          have hmade : (disk.put (step location name) .directory).content? (step location name) =
              some .directory := by
            rw [content?_put _ _ _ _ hne, if_pos rfl]
          simp only [hlong, hnext, hrefused, Bool.false_eq_true, if_false] at h hkept ⊢
          simpa [walkFrom, hkept, hlong] using ih hmade h
      · simp [hlong, hnext] at h
      · simp only [hlong, hnext, Bool.false_eq_true, if_false] at h hkept ⊢
        simpa [walkFrom, hkept, hlong] using ih hnext h

theorem makeFrom_of_walkFrom {names : List String}
    (h : disk.walkFrom location names = .arrived directory)
    (hdirectory : disk.content? directory = some .directory) :
    disk.makeFrom location names = (disk, some directory) := by
  induction names generalizing location with
  | nil =>
    cases h
    rfl
  | cons name rest ih =>
    simp only [walkFrom] at h
    split_ifs at h with hblocked hlong
    have hnext := directory_of_walkFrom h hdirectory
    simp [makeFrom, hlong, hnext, ih h]

variable {path : FilePath}

theorem written_makeDirectories (disk : Disk) (path : FilePath) :
    Written [] disk (disk.makeDirectories path).1 := by
  unfold makeDirectories
  split_ifs
  · exact .refl disk
  · exact written_makeFrom disk _ _

theorem walk_makeDirectories (h : (disk.makeDirectories path).2 = some directory) :
    (disk.makeDirectories path).1.walk path = .arrived directory ∧
      (disk.makeDirectories path).1.content? directory = some .directory := by
  have horigin := (written_makeDirectories disk path).origin path
  unfold walk
  rw [horigin]
  unfold makeDirectories at h ⊢
  split_ifs at h ⊢ with hlong hbad
  · simp [hlong] at hbad
  next hbad =>
    simp only [Bool.or_eq_true, not_or] at hbad
    exact walkFrom_makeFrom (by simpa using hbad.2) h

theorem makeDirectories_of_walk (h : disk.walk path = .arrived directory)
    (hdirectory : disk.content? directory = some .directory) :
    disk.makeDirectories path = (disk, some directory) := by
  unfold walk at h
  split_ifs at h with hlong
  have horigin := directory_of_walkFrom h hdirectory
  simp [makeDirectories, hlong, horigin, makeFrom_of_walkFrom h hdirectory]

end Directories

/-! ### Targets -/

/-- The steps of writing to a target that is in a directory. -/
def targetSteps : List WriteStep := [.createTemporary, .writeText, .synchronize, .replaceTarget]

/-- Whether a disk takes new texts for the target of a path in a directory. -/
structure Accepts (disk : Disk) (directory : Location) (path : FilePath) : Prop where
  named : path.name ≠ ""
  notUp : path.name ≠ ".."
  short : path.isLong = false
  room : hasRoom directory path.name = true
  allowed : ∀ s ∈ targetSteps, disk.refuses s (step directory path.name) = false
  free : disk.content? (step directory path.name) ≠ some .directory

/-- Whether a disk takes a temporary file for a target in a directory. -/
structure TakesTemporary (disk : Disk) (directory : Location) (name : String) : Prop where
  room : hasRoom directory name = true
  allowed : disk.refuses .createTemporary (step directory name) = false

/-- The files that a failed write adds to a directory: none, or its temporary file where one was
made and the disk refuses to remove it. -/
inductive Leftover (disk : Disk) (directory : Location) (name : String) :
    List (Location × String) → Prop where
  | nothing (h : disk.TakesTemporary directory name →
        disk.refuses .removeTemporary (step directory name) = false) :
      Leftover disk directory name []
  | temporary (number : Nat) (text : String) (taken : disk.TakesTemporary directory name)
      (refused : disk.refuses .removeTemporary (step directory name) = true)
      (free : disk.content? (directory ++ [temporaryName name number]) = none) :
      Leftover disk directory name [(directory ++ [temporaryName name number], text)]

section Targets

variable {disk changed : Disk} {directory location : Location} {path : FilePath}

/-- Removing a file that was made leaves no trace of it. -/
theorem content?_remove_of_free (hfree : disk.content? location = none)
    (h : ∀ other, other ≠ location → changed.content? other = disk.content? other)
    (other : Location) : (changed.remove location).content? other = disk.content? other := by
  have hne : location ≠ [] := by
    rintro rfl
    simp [content?] at hfree
  rw [content?_remove _ _ _ hne]
  split_ifs with heq
  · rw [heq, hfree]
  · exact h other heq

theorem accepts_of_replaceTarget {temporary text : String} {replaced : Disk}
    (h : changed.replaceTarget directory temporary path text = some replaced)
    (hroom : hasRoom directory path.name = true)
    (hallowed : ∀ s ∈ targetSteps, s ≠ .replaceTarget →
      changed.refuses s (step directory path.name) = false) :
    changed.Accepts directory path := by
  simp only [replaceTarget] at h
  split_ifs at h with hbad
  simp only [Bool.or_eq_true, beq_iff_eq, not_or, Bool.not_eq_true] at hbad
  obtain ⟨⟨⟨⟨hnamed, hup⟩, hshort⟩, hfree⟩, hreplace⟩ := hbad
  refine ⟨hnamed, hup, hshort, hroom, fun s hs => ?_, hfree⟩
  by_cases heq : s = .replaceTarget
  · rw [heq]
    exact hreplace
  · exact hallowed s hs heq

theorem replaceTarget_of_accepts (h : changed.Accepts directory path) (temporary text : String) :
    changed.replaceTarget directory temporary path text =
      some ((changed.remove (directory ++ [temporary])).put (step directory path.name)
        (.file text)) := by
  have hreplace := h.allowed .replaceTarget (by simp [targetSteps])
  simp [replaceTarget, h.named, h.notUp, h.short, h.free, hreplace]

theorem Accepts.of_changed (h : changed.Accepts directory path)
    (hrefuses : disk.refuses = changed.refuses)
    (hentry : disk.content? (step directory path.name) = some .directory →
      changed.content? (step directory path.name) = some .directory) :
    disk.Accepts directory path where
  named := h.named
  notUp := h.notUp
  short := h.short
  room := h.room
  allowed s hs := by
    rw [hrefuses]
    exact h.allowed s hs
  free hdirectory := h.free (hentry hdirectory)

theorem Accepts.ne_root (h : disk.Accepts directory path) : step directory path.name ≠ [] := by
  simp [step, h.notUp]

theorem content?_put_put {first second : Entry} (hne : location ≠ []) (other : Location) :
    ((disk.put location first).put location second).content? other =
      if other = location then some second else disk.content? other := by
  rw [content?_put _ _ _ _ hne, content?_put _ _ _ _ hne]
  split_ifs <;> rfl

/-- Where a disk takes texts for a target, a write succeeds and changes nothing else. -/
theorem writeIn_of_accepts (h : disk.Accepts directory path) (text : String) :
    (disk.writeIn directory path text).2 = .ok () ∧
      ∀ other, (disk.writeIn directory path text).1.content? other =
        if other = step directory path.name then some (.file text) else disk.content? other := by
  obtain ⟨temporary, htemporary⟩ := exists_freeName disk directory path.name
  have hfree := free_of_freeName? htemporary
  have hne : directory ++ [temporary] ≠ [] := by simp
  let written := (disk.put (directory ++ [temporary]) (.file "")).put (directory ++ [temporary])
    (.file text)
  have hwritten : written.Accepts directory path := by
    -- the temporary file may stand at the target itself, where nothing was then
    refine h.of_changed rfl fun hentry => ?_
    by_cases heq : step directory path.name = directory ++ [temporary]
    · simp [written, heq, content?_put _ _ _ _ hne] at hentry
    · rwa [content?_put_put hne, if_neg heq] at hentry
  have hreplaced := replaceTarget_of_accepts hwritten temporary text
  have hcreate := h.allowed .createTemporary (by simp [targetSteps])
  have hwrite := h.allowed .writeText (by simp [targetSteps])
  have hsynchronize := h.allowed .synchronize (by simp [targetSteps])
  simp only [writeIn, htemporary, h.room, hcreate, put_refuses, hwrite, hsynchronize, written,
    hreplaced, Bool.not_true, Bool.or_false, Bool.false_eq_true, if_false, true_and]
  intro other
  rw [content?_put _ _ _ _ h.ne_root]
  split_ifs
  · rfl
  · refine content?_remove_of_free hfree (fun place hplace => ?_) other
    rw [content?_put_put hne, if_neg hplace]

theorem leftover_discard {name text : String} {number : Nat}
    (taken : disk.TakesTemporary directory name)
    (free : disk.content? (directory ++ [temporaryName name number]) = none)
    (hworking : changed.working = disk.working) (hrefuses : changed.refuses = disk.refuses)
    (h : ∀ other, changed.content? other =
      if other = directory ++ [temporaryName name number] then some (.file text)
      else disk.content? other) :
    ∃ left, disk.Leftover directory name left ∧
      Written left disk
        (changed.discard (directory ++ [temporaryName name number]) (step directory name)) := by
  unfold discard
  rw [hrefuses]
  by_cases hrefused : disk.refuses .removeTemporary (step directory name) = true
  · rw [if_pos hrefused]
    exact ⟨_, .temporary number text taken hrefused free,
      written_of_file hworking hrefuses (by simp [free]) h⟩
  · rw [if_neg hrefused]
    refine ⟨[], .nothing fun _ => by simpa using hrefused, written_of_same hworking hrefuses ?_⟩
    refine content?_remove_of_free free fun other hother => ?_
    rw [h, if_neg hother]

/-- Where a disk takes no texts for a target, a write fails. It adds no file but what is left of its
temporary file, unless that cannot be closed. -/
theorem writeIn_of_not_accepts (h : ¬disk.Accepts directory path) (text : String) :
    (disk.writeIn directory path text).2 = .error .unusable ∨
      (disk.writeIn directory path text).2 = .error (.notWritten path.render) ∧
        ∃ left, disk.Leftover directory path.name left ∧
          Written left disk (disk.writeIn directory path text).1 := by
  obtain ⟨temporary, htemporary⟩ := exists_freeName disk directory path.name
  have hfree := free_of_freeName? htemporary
  have hne : directory ++ [temporary] ≠ [] := by simp
  obtain ⟨number, rfl⟩ := temporaryName_of_freeName? htemporary
  simp only [writeIn, htemporary]
  split_ifs with hbad hwrite hrest hsynchronize
  · refine .inr ⟨rfl, [], .nothing fun htaken => ?_, .refl disk⟩
    simp [htaken.room, htaken.allowed] at hbad
  · exact .inl rfl
  all_goals
    have htaken : disk.TakesTemporary directory path.name := by
      simp only [Bool.or_eq_true, Bool.not_eq_true', not_or, Bool.not_eq_false,
        Bool.not_eq_true] at hbad
      exact ⟨hbad.1, hbad.2⟩
  · exact .inr ⟨rfl, leftover_discard htaken hfree rfl rfl (content?_put _ _ · _ hne)⟩
  · exact .inr ⟨rfl, leftover_discard htaken hfree rfl rfl (content?_put_put hne)⟩
  · split
    next replaced hreplaced =>
      have hwritten := accepts_of_replaceTarget hreplaced htaken.room (by
        intro s hs hother
        simp only [targetSteps, List.mem_cons, List.not_mem_nil, or_false] at hs
        rcases hs with rfl | rfl | rfl | rfl
        · exact htaken.allowed
        · simpa using hwrite
        · simpa using hsynchronize
        · exact absurd rfl hother)
      refine (h (hwritten.of_changed rfl fun hentry => ?_)).elim
      have hother : step directory path.name ≠
          directory ++ [temporaryName path.name number] := by
        intro heq
        simp [heq, hfree] at hentry
      rwa [content?_put_put hne, if_neg hother]
    · exact .inr ⟨rfl, leftover_discard htaken hfree rfl rfl (content?_put_put hne)⟩

theorem writeIn_working (disk : Disk) (directory : Location) (path : FilePath) (text : String) :
    (disk.writeIn directory path text).1.working = disk.working := by
  obtain ⟨temporary, htemporary⟩ := exists_freeName disk directory path.name
  simp only [writeIn, htemporary, replaceTarget, discard]
  split_ifs <;> rfl

theorem writeIn_refuses (disk : Disk) (directory : Location) (path : FilePath) (text : String) :
    (disk.writeIn directory path text).1.refuses = disk.refuses := by
  obtain ⟨temporary, htemporary⟩ := exists_freeName disk directory path.name
  simp only [writeIn, htemporary, replaceTarget, discard]
  split_ifs <;> rfl

end Targets

/-! ### Writing to a path -/

/-- The files that a failed write to a path adds. -/
def LeftBehind (disk : Disk) (path : FilePath) (left : List (Location × String)) : Prop :=
  match (disk.makeDirectories path.parent).2 with
  | none => left = []
  | some directory => disk.Leftover directory path.name left

/-- A file that can be written once more. -/
structure Rewritable (disk : Disk) (path : FilePath) : Prop where
  noNul : path.hasNul = false
  parent : disk.walk path.parent = .arrived (disk.locate path.parent)
  directory : disk.content? (disk.locate path.parent) = some .directory
  accepts : disk.Accepts (disk.locate path.parent) path
  file : ∃ text, disk.content? (disk.locate path) = some (.file text)

section Paths

variable {disk before after : Disk} {path : FilePath} {files : List (Location × String)}

theorem isLongName_of_hasRoom {directory : Location} {name : String}
    (h : hasRoom directory name = true) : FilePath.isLongName name = false := by
  simp only [hasRoom, Bool.and_eq_true, Bool.not_eq_true', FilePath.isLongName,
    decide_eq_false_iff_not, Nat.not_lt, temporaryName, String.utf8ByteSize_append] at h ⊢
  omega

theorem Rewritable.walk (h : disk.Rewritable path) :
    disk.walk path = .arrived (disk.locate path) := by
  have hnames := FilePath.names_ne_nil h.accepts.named
  have hparent := h.parent
  unfold Disk.walk at hparent ⊢
  split_ifs at hparent
  simp only [h.accepts.short, Bool.false_eq_true, if_false, locate_eq_step hnames]
  rw [FilePath.names_eq_concat hnames]
  exact walkFrom_concat hparent h.directory (isLongName_of_hasRoom h.accepts.room)

theorem Rewritable.find? (h : disk.Rewritable path) :
    disk.find? path = disk.content? (disk.locate path) := by
  simp [Disk.find?, h.walk]

theorem Written.rewritable (h : Written files before after) (hpath : before.Rewritable path) :
    after.Rewritable path := by
  obtain ⟨text, hfile⟩ := hpath.file
  obtain ⟨later, hlater⟩ := h.file hfile
  have htarget : before.locate path = step (before.locate path.parent) path.name :=
    locate_eq_step (FilePath.names_ne_nil hpath.accepts.named)
  constructor
  · exact hpath.noNul
  · rw [h.locate]
    exact h.walk hpath.parent
  · rw [h.locate]
    exact h.directory _ hpath.directory
  · rw [h.locate]
    refine hpath.accepts.of_changed h.refuses fun hdirectory => ?_
    simp [← htarget, hlater] at hdirectory
  · rw [h.locate]
    exact ⟨later, hlater⟩

theorem written_writeIn {directory : Location} (h : disk.Accepts directory path) (text : String) :
    Written [(step directory path.name, text)] disk (disk.writeIn directory path text).1 :=
  written_of_file (writeIn_working ..) (writeIn_refuses ..) h.free (writeIn_of_accepts h text).2

/-- A write ends before its directory is there, or is a write in that directory. -/
theorem write_cases (disk : Disk) (path : FilePath) (text : String) :
    (∃ made, Written [] disk made ∧ ∃ directory,
        (disk.makeDirectories path.parent).2 = some directory ∧
        made.walk path.parent = .arrived directory ∧
        made.content? directory = some .directory ∧ path.hasNul = false ∧
        disk.write path text = made.writeIn directory path text) ∨
      (disk.write path text).2 = .error .unusable ∨
      (disk.write path text).2 = .error (.notWritten path.render) ∧
        (disk.makeDirectories path.parent).2 = none ∧
        Written [] disk (disk.write path text).1 := by
  have hmade := written_makeDirectories disk path.parent
  unfold write
  by_cases hnul : path.parent.hasNul
  · exact .inr (.inl (by simp [hnul]))
  · rcases hresult : disk.makeDirectories path.parent with ⟨made, _ | directory⟩
    · rw [hresult] at hmade
      exact .inr (.inr (by simp [hnul, hmade]))
    · obtain ⟨hwalk, hdirectory⟩ := walk_makeDirectories (by rw [hresult])
      rw [hresult] at hmade hwalk hdirectory
      by_cases hwhole : path.hasNul
      · exact .inr (.inl (by simp [hnul, hwhole]))
      · exact .inl ⟨made, hmade, directory, rfl, hwalk, hdirectory, by simpa using hwhole,
          by simp [hnul, hwhole]⟩

/-- A write that succeeds gives its target the text, and can be done again. -/
theorem written_write {text : String} (h : (disk.write path text).2 = .ok ()) :
    Written [(disk.locate path, text)] disk (disk.write path text).1 ∧
      (disk.write path text).1.Rewritable path := by
  rcases write_cases disk path text with
    ⟨made, hmade, directory, -, hwalk, hdirectory, hnul, heq⟩ | hfailed | ⟨hfailed, -⟩
  · rw [heq] at h ⊢
    have haccepts : made.Accepts directory path := by
      by_contra hno
      rcases writeIn_of_not_accepts hno text with hfailed | ⟨hfailed, -⟩ <;> simp [hfailed] at h
    have hwritten := written_writeIn haccepts text
    have hlocate := locate_of_walk hwalk
    have htarget : made.locate path = step directory path.name := by
      rw [locate_eq_step (FilePath.names_ne_nil haccepts.named), hlocate]
    have hfile := hwritten.text (step directory path.name) text (by simp)
    have hplaced :
        Written [(disk.locate path, text)] disk (made.writeIn directory path text).1 := by
      rw [← hmade.locate, htarget]
      exact hmade.trans hwritten
    refine ⟨hplaced, ?_⟩
    constructor
    · exact hnul
    · rw [hwritten.locate, hlocate]
      exact hwritten.walk hwalk
    · rw [hwritten.locate, hlocate]
      exact hwritten.directory directory hdirectory
    · rw [hwritten.locate, hlocate]
      refine haccepts.of_changed hwritten.refuses fun hentry => ?_
      simp [hfile] at hentry
    · rw [hwritten.locate, htarget]
      exact ⟨text, hfile⟩
  · simp [hfailed] at h
  · simp [hfailed] at h

/-- A disk on which every temporary file can be removed keeps none. -/
theorem LeftBehind.eq_nil {left : List (Location × String)} (h : disk.LeftBehind path left)
    (hallowed : ∀ location, disk.refuses .removeTemporary location = false) : left = [] := by
  unfold LeftBehind at h
  split at h
  · exact h
  · cases h with
    | nothing => rfl
    | temporary number text taken refused free => simp [hallowed] at refused

/-- A target has another place than the temporary files beside it. -/
theorem locate_ne_temporary (disk : Disk) (path : FilePath) (number : Nat) :
    disk.locate path ≠ disk.locate path.parent ++ [temporaryName path.name number] := by
  intro heq
  by_cases hnames : path.names = []
  · have hparent : path.parent = path := by
      rw [FilePath.parent, hnames, List.dropLast_nil, ← hnames]
    rw [hparent] at heq
    simp at heq
  · rw [locate_eq_step hnames, step] at heq
    split_ifs at heq
    · have hlength := congrArg List.length heq
      simp at hlength
    · have hname : path.name = temporaryName path.name number := by simpa using heq
      have hlength := congrArg String.length hname
      have hdot : ".".length = 1 := rfl
      simp only [temporaryName, String.length_append] at hlength
      omega

/-- What is left of a failed write stands where nothing was, and not at its target. -/
theorem LeftBehind.fresh {left : List (Location × String)} (h : disk.LeftBehind path left) :
    (∀ location ∈ left.map (·.1), disk.content? location = none) ∧
      disk.locate path ∉ left.map (·.1) := by
  unfold LeftBehind at h
  rcases hplace : (disk.makeDirectories path.parent).2 with _ | directory
  · rw [hplace] at h
    simp [h]
  · have hlocate := locate_of_walk (walk_makeDirectories hplace).1
    rw [(written_makeDirectories disk path.parent).locate] at hlocate
    rw [hplace, ← hlocate] at h
    cases h with
    | nothing h => simp
    | temporary number text taken refused free =>
      simpa [free] using locate_ne_temporary disk path number

/-- Writing once more changes the text of the file and nothing else. -/
theorem write_of_rewritable (h : disk.Rewritable path) (text : String) :
    (disk.write path text).2 = .ok () ∧
      ∀ location, (disk.write path text).1.content? location =
        if location = disk.locate path then some (.file text) else disk.content? location := by
  have hmade := makeDirectories_of_walk h.parent h.directory
  have heq : disk.write path text = disk.writeIn (disk.locate path.parent) path text := by
    simp [write, FilePath.hasNul_parent h.noNul, h.noNul, hmade]
  rw [heq, locate_eq_step (FilePath.names_ne_nil h.accepts.named)]
  exact writeIn_of_accepts h.accepts text

end Paths

end Disk
end ClientGen
