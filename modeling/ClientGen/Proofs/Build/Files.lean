import ClientGen.Build
import ClientGen.Proofs.Disk.Writing
import ClientGen.Proofs.Outcome

/-!
The files that a build writes. A build that cannot generate its texts touches no disk; a build that
cannot write one of its files has written all before it, and leaves every other file as it was. It
adds no other file, but for the temporary one of the write that failed, where that was made and the
disk refuses to remove it.
-/
namespace ClientGen.Build

open Disk

def targets (disk : Disk) (files : List (FilePath × String)) : List (Location × String) :=
  files.map fun file => (disk.locate file.1, file.2)

variable {disk before after : Disk} {files : List (FilePath × String)}

theorem targets_of_written {written : List (Location × String)} (h : Written written before after)
    (files : List (FilePath × String)) : targets after files = targets before files := by
  simp only [targets, h.locate]

theorem text_of_written (distinct : (files.map fun file => before.locate file.1).Nodup)
    (h : Written (targets before files).reverse before after)
    (hagain : ∀ file ∈ files, after.Rewritable file.1) {path : FilePath} {text : String}
    (hfile : (path, text) ∈ files) : after.find? path = some (.file text) := by
  have hkeys : ((targets before files).reverse.map (·.1)).Nodup := by
    simpa [targets, Function.comp_def] using distinct
  have htarget : (before.locate path, text) ∈ (targets before files).reverse := by
    rw [List.mem_reverse]
    exact List.mem_map.mpr ⟨(path, text), hfile, rfl⟩
  rw [(hagain _ hfile).find?, h.locate]
  exact h.text _ text (lookup_of_mem hkeys htarget)

section Runs

variable {path : FilePath} {text : String} {rest : List (FilePath × String)}

theorem reverse_targets_cons :
    (targets disk ((path, text) :: rest)).reverse =
      (targets disk rest).reverse ++ [(disk.locate path, text)] := by
  simp [targets]

/-- What a run over files has done, when the first has been written and the others are to come. -/
theorem written_cons (h : (disk.write path text).2 = .ok ())
    (hrest : Written (targets (disk.write path text).1 rest).reverse (disk.write path text).1
      after) :
    Written (targets disk ((path, text) :: rest)).reverse disk after := by
  have hfirst := (written_write h).1
  rw [targets_of_written hfirst] at hrest
  rw [reverse_targets_cons]
  exact hfirst.trans hrest

theorem writeAll_cons_of_ok (h : (disk.write path text).2 = .ok ())
    (rest : List (FilePath × String)) :
    (writeAll disk ((path, text) :: rest)).1 = (writeAll (disk.write path text).1 rest).1 ∧
      (writeAll disk ((path, text) :: rest)).2.result =
        (writeAll (disk.write path text).1 rest).2.result.map (path :: ·) := by
  rcases hwrite : disk.write path text with ⟨next, failure | ⟨⟩⟩
  · simp [hwrite] at h
  · simp only [writeAll, hwrite, Progress.result_bind, Progress.result_say, Progress.result_pure,
      true_and]
    cases (writeAll next rest).2.result <;> rfl

theorem writeAll_cons_of_error {failure : Failure}
    (h : (disk.write path text).2 = .error failure) (rest : List (FilePath × String)) :
    (writeAll disk ((path, text) :: rest)).1 = (disk.write path text).1 ∧
      (writeAll disk ((path, text) :: rest)).2.result = .error failure := by
  rcases hwrite : disk.write path text with ⟨next, other | ⟨⟩⟩
  · rw [hwrite] at h
    simpa [writeAll, hwrite] using h
  · simp [hwrite] at h

/-- A run that succeeds has given every target its text. -/
theorem written_writeAll {paths : List FilePath}
    (h : (writeAll disk files).2.result = .ok paths) :
    paths = files.map (·.1) ∧
      Written (targets disk files).reverse disk (writeAll disk files).1 ∧
      ∀ file ∈ files, (writeAll disk files).1.Rewritable file.1 := by
  induction files generalizing disk paths with
  | nil =>
    cases h
    exact ⟨rfl, .refl disk, by simp⟩
  | cons file rest ih =>
    obtain ⟨path, text⟩ := file
    rcases hwrite : (disk.write path text).2 with failure | ⟨⟩
    · simp [(writeAll_cons_of_error hwrite rest).2] at h
    · obtain ⟨hdisk, hresult⟩ := writeAll_cons_of_ok hwrite rest
      rw [hresult] at h
      rw [hdisk]
      rcases hrest : (writeAll (disk.write path text).1 rest).2.result with failure | later
      · simp [hrest, Except.map] at h
      · obtain ⟨rfl, hwritten, hagain⟩ := ih hrest
        rw [hrest] at h
        refine ⟨by simpa [Except.map] using h.symm, written_cons hwrite hwritten,
          fun file hfile => ?_⟩
        rcases List.mem_cons.mp hfile with rfl | hlater
        · exact hwritten.rewritable (written_write hwrite).2
        · exact hagain file hlater

/-- A run over files that can be written again gives them their texts and changes nothing else. -/
theorem writeAll_again (h : ∀ file ∈ files, disk.Rewritable file.1) :
    (writeAll disk files).2.result = .ok (files.map (·.1)) ∧
      ∀ location, (writeAll disk files).1.content? location =
        match (targets disk files).reverse.lookup location with
        | some text => some (.file text)
        | none => disk.content? location := by
  induction files generalizing disk with
  | nil => exact ⟨rfl, fun _ => rfl⟩
  | cons file rest ih =>
    obtain ⟨path, text⟩ := file
    have hfile : disk.Rewritable path := h (path, text) List.mem_cons_self
    obtain ⟨hwrite, hentry⟩ := write_of_rewritable hfile text
    obtain ⟨hwritten, -⟩ := written_write hwrite
    obtain ⟨hdisk, hresult⟩ := writeAll_cons_of_ok hwrite rest
    obtain ⟨hpaths, hrest⟩ := ih fun file hfile =>
      hwritten.rewritable (h file (List.mem_cons_of_mem _ hfile))
    rw [hresult, hdisk, hpaths]
    refine ⟨rfl, fun location => ?_⟩
    rw [hrest, targets_of_written hwritten, reverse_targets_cons, List.lookup_append]
    cases List.lookup location (targets disk rest).reverse with
    | some last => rfl
    | none =>
      by_cases heq : location = disk.locate path
      · simp [heq, hentry]
      · simp [heq, hentry, lookup_singleton_of_ne heq]

end Runs

variable {world : World} {settings : Settings}

def filesOf (settings : Settings) (artifacts : Generation.Artifacts) : List (FilePath × String) :=
  artifacts.map fun artifact => (artifactPath settings artifact.1, artifact.2)

def fileNames (settings : Settings) : List String :=
  (settings.updatedSpecFile.filter fun name => !name.isEmpty).toList ++
    [settings.genericFile, settings.wrappedFile]

/-- Where an artifact goes on a disk. -/
def target (disk : Disk) (settings : Settings) (name : String) : Location :=
  disk.locate (artifactPath settings name)

theorem build_of_generated {artifacts : Generation.Artifacts}
    (h : (generate world settings).result = .ok artifacts) :
    (build world settings).1 = (writeAll world.disk (filesOf settings artifacts)).1 ∧
      (build world settings).2.result =
        (writeAll world.disk (filesOf settings artifacts)).2.result := by
  simp only [build, h, Progress.result_bind]
  exact ⟨rfl, rfl⟩

theorem build_of_not_generated {failure : Failure}
    (h : (generate world settings).result = .error failure) :
    (build world settings).1 = world.disk ∧
      (build world settings).2.result = .error failure := by
  simp only [build, h, Progress.result_bind, true_and]
  rfl

/-- A disk with one file, a description without paths. -/
def describing (name : String) : World where
  disk := (fresh ["home"]).withFile ["home", name] "\x7b\"openapi\": \"3.0\"\x7d"
  environment := []
  input := ""
  web := fun _ => .unreachable ""
  system := "Linux"
  time := ""

def described : Settings := { spec := some "api.json" }

end ClientGen.Build
