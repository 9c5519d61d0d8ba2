import ClientGen.Proofs.Build.Files
import ClientGen.Proofs.Generation.Stages

/-!
Builds that succeed. Every configured file has its text exactly when no two of them are the same
file; and when none of them is the file that the description was read from, building again changes
nothing.
-/
namespace ClientGen.Build

open Disk Outcome

variable {document : Document} {settings : Settings}

/-- The configured file for the prepared document with its text, if one is configured. -/
def updatedOutput (document : Document) (settings : Settings) :
    Except Failure (List (String × String)) :=
  match settings.updatedSpecFile.filter fun name => !name.isEmpty with
  | none => .ok []
  | some name => (Generation.documentText document).map fun text => [(name, text)]

/-- Each configured file name with the text that belongs there. -/
def outputs (document : Document) (settings : Settings) :
    Except Failure (List (String × String)) := do
  let updated ← updatedOutput document settings
  let generic ← (Generation.generic document settings).result
  let wrapped ← (Generation.wrapped document settings).result
  return updated ++ [(settings.genericFile, generic), (settings.wrappedFile, wrapped)]

theorem updatedOutput_cases {updated : List (String × String)}
    (h : updatedOutput document settings = .ok updated) :
    (settings.updatedSpecFile.filter fun name => !name.isEmpty) = none ∧ updated = [] ∨
      ∃ name text, (settings.updatedSpecFile.filter fun name => !name.isEmpty) = some name ∧
        Generation.documentText document = .ok text ∧ updated = [(name, text)] := by
  unfold updatedOutput at h
  split at h
  next hnone =>
    cases h
    exact .inl ⟨hnone, rfl⟩
  next name hname =>
    cases htext : Generation.documentText document with
    | error failure => simp [htext, Except.map] at h
    | ok text =>
      simp only [htext, Except.map, Except.ok.injEq] at h
      exact .inr ⟨name, text, hname, rfl, h.symm⟩

theorem names_outputs {found : List (String × String)}
    (h : outputs document settings = .ok found) : found.map (·.1) = fileNames settings := by
  obtain ⟨updated, hupdated, h⟩ := bind_eq_ok.mp h
  obtain ⟨generic, -, h⟩ := bind_eq_ok.mp h
  obtain ⟨wrapped, -, h⟩ := bind_eq_ok.mp h
  cases pure_eq_ok.mp h
  unfold fileNames
  rcases updatedOutput_cases hupdated with ⟨hnone, rfl⟩ | ⟨name, text, hname, -, rfl⟩
  · simp [hnone]
  · simp [hname]

/-- Artifacts with more texts, a later text in the place of an earlier one of the same name. -/
def addAll (artifacts : Generation.Artifacts) (outputs : List (String × String)) :
    Generation.Artifacts :=
  outputs.foldl (fun artifacts output => Generation.addArtifact artifacts output.1 output.2)
    artifacts

theorem result_artifacts (document : Document) (settings : Settings) :
    (Generation.artifacts document settings).result =
      (outputs document settings).map (addAll []) := by
  unfold Generation.artifacts outputs updatedOutput
  rcases settings.updatedSpecFile with _ | name
  · simp only [Progress.result_bind, Progress.result_pure, Option.filter_none]
    cases (Generation.generic document settings).result <;>
      cases (Generation.wrapped document settings).result <;> rfl
  · cases hname : name.isEmpty
    · simp only [hname, Progress.result_bind, Progress.result_pure, Progress.result_ofResult,
        Bool.false_eq_true, if_false, Option.filter_some, Bool.not_false, if_true]
      cases Generation.documentText document <;>
        cases (Generation.generic document settings).result <;>
          cases (Generation.wrapped document settings).result <;> rfl
    · simp only [hname, Progress.result_bind, Progress.result_pure, if_true, Option.filter_some,
        Bool.not_true, Bool.false_eq_true, if_false]
      cases (Generation.generic document settings).result <;>
        cases (Generation.wrapped document settings).result <;> rfl

theorem addAll_of_nodup {artifacts : Generation.Artifacts} {outputs : List (String × String)}
    (distinct : ((artifacts ++ outputs).map (·.1)).Nodup) :
    addAll artifacts outputs = artifacts ++ outputs := by
  induction outputs generalizing artifacts with
  | nil => simp [addAll]
  | cons output rest ih =>
    have hnew : Generation.addArtifact artifacts output.1 output.2 = artifacts ++ [output] := by
      have hother : output.1 ∉ artifacts.map (·.1) := by
        rw [List.map_append, List.nodup_append] at distinct
        intro hmem
        exact distinct.2.2 _ hmem _ (by simp) rfl
      unfold Generation.addArtifact
      rw [if_neg]
      simpa using hother
    have hrest : addAll (artifacts ++ [output]) rest = artifacts ++ [output] ++ rest :=
      ih (by simpa using distinct)
    simpa [addAll, hnew] using hrest

theorem names_addArtifact (artifacts : Generation.Artifacts) (name text : String) :
    (Generation.addArtifact artifacts name text).map (·.1) ⊆ artifacts.map (·.1) ++ [name] := by
  intro other hother
  obtain ⟨artifact, hartifact, rfl⟩ := List.mem_map.mp hother
  unfold Generation.addArtifact at hartifact
  split_ifs at hartifact
  · obtain ⟨old, hold, rfl⟩ := List.mem_map.mp hartifact
    split_ifs
    · simp
    · exact List.mem_append_left _ (List.mem_map_of_mem hold)
  · simpa using List.mem_map_of_mem (f := (·.1)) hartifact

theorem names_addAll (artifacts : Generation.Artifacts) (outputs : List (String × String)) :
    (addAll artifacts outputs).map (·.1) ⊆ artifacts.map (·.1) ++ outputs.map (·.1) := by
  induction outputs generalizing artifacts with
  | nil => simp [addAll]
  | cons output rest ih =>
    rw [List.map_cons, List.append_cons]
    intro name hname
    rcases List.mem_append.mp (ih _ hname) with hfirst | hlater
    · exact List.mem_append_left _ (names_addArtifact artifacts output.1 output.2 hfirst)
    · exact List.mem_append_right _ hlater

/-! ### The three texts differ -/

theorem start_genericHead (version : String) (modules : Client.Modules) (types : List String)
    (rest : String) :
    (Client.genericHead version modules types ++ rest).toList.take 4 = ['"', '"', '"', 'G'] := by
  unfold Client.genericHead
  simp only [String.append_assoc]
  rw [String.toList_append, List.take_append_of_le_length]
  · rfl
  · decide

theorem start_wrappedHead (version : String) (modules : Client.Modules) (types : List String)
    (usesIds : Bool) (rest : String) :
    (Client.wrappedHead version modules types usesIds ++ rest).toList.take 4 =
      ['"', '"', '"', 'T'] := by
  unfold Client.wrappedHead
  simp only [String.append_assoc]
  rw [String.toList_append, List.take_append_of_le_length]
  · rfl
  · decide

theorem isObject_of_documentVersion {version : String}
    (h : Client.documentVersion document = .ok version) : document.isObject = true := by
  unfold Client.documentVersion at h
  split_ifs at h with hno
  simpa using hno

theorem start_generic {text : String}
    (h : (Generation.generic document settings).result = .ok text) :
    document.isObject = true ∧ text.toList.take 4 = ['"', '"', '"', 'G'] := by
  rw [Generation.result_generic] at h
  obtain ⟨collection, -, h⟩ := bind_eq_ok.mp h
  unfold Client.renderGeneric at h
  split at h
  · obtain ⟨methods, -, h⟩ := bind_eq_ok.mp h
    obtain ⟨version, hversion, h⟩ := bind_eq_ok.mp h
    obtain ⟨types, -, h⟩ := bind_eq_ok.mp h
    cases pure_eq_ok.mp h
    rw [String.append_assoc, String.append_assoc]
    exact ⟨isObject_of_documentVersion hversion, start_genericHead version _ types _⟩
  · cases h

theorem start_wrapped {text : String}
    (h : (Generation.wrapped document settings).result = .ok text) :
    text.toList.take 4 = ['"', '"', '"', 'T'] := by
  rw [Generation.result_wrapped] at h
  obtain ⟨collection, -, h⟩ := bind_eq_ok.mp h
  unfold Client.renderWrapped at h
  split at h
  · obtain ⟨version, -, h⟩ := bind_eq_ok.mp h
    obtain ⟨types, -, h⟩ := bind_eq_ok.mp h
    obtain ⟨views, -, h⟩ := bind_eq_ok.mp h
    cases pure_eq_ok.mp h
    exact start_wrappedHead version _ types _ _
  · cases h

theorem start_documentText {text : String} (hobject : document.isObject = true)
    (h : Generation.documentText document = .ok text) : text.toList.take 1 = ['\x7b'] := by
  unfold Generation.documentText Json.write? at h
  cases document with
  | object members =>
    simp only [Json.valueText?] at h
    cases hmembers : Json.memberTexts? 1 members with
    | none => simp [hmembers] at h
    | some texts =>
      simp only [hmembers, Option.map_some, Except.ok.injEq] at h
      cases texts with
      | nil =>
        rw [← h]
        rfl
      | cons first rest =>
        rw [← h]
        unfold Json.bracketed
        simp only [String.append_assoc]
        rw [String.toList_append, List.take_append_of_le_length]
        · rfl
        · decide
  | knot mark content => simp [Json.valueText?] at h
  | _ => simp [Document.isObject, Document.untie] at hobject

theorem nodup_texts {found : List (String × String)} (h : outputs document settings = .ok found) :
    (found.map (·.2)).Nodup := by
  obtain ⟨updated, hupdated, h⟩ := bind_eq_ok.mp h
  obtain ⟨generic, hgeneric, h⟩ := bind_eq_ok.mp h
  obtain ⟨wrapped, hwrapped, h⟩ := bind_eq_ok.mp h
  cases pure_eq_ok.mp h
  obtain ⟨hobject, hgeneric⟩ := start_generic hgeneric
  have hwrapped := start_wrapped hwrapped
  have hne : generic ≠ wrapped := by
    rintro rfl
    simp [hgeneric] at hwrapped
  have hmodule {text : String} {c : Char} (hstart : text.toList.take 4 = ['"', '"', '"', c]) :
      text.toList.take 1 = ['"'] := by
    have hfirst := congrArg (List.take 1) hstart
    simpa [List.take_take] using hfirst
  rcases updatedOutput_cases hupdated with ⟨-, rfl⟩ | ⟨name, text, -, htext, rfl⟩
  · simpa using hne
  · have hstart := start_documentText hobject htext
    have hneGeneric : text ≠ generic := by
      rintro rfl
      simp [hmodule hgeneric] at hstart
    have hneWrapped : text ≠ wrapped := by
      rintro rfl
      simp [hmodule hwrapped] at hstart
    simp [hne, hneGeneric, hneWrapped]

/-! ### Complete files -/

variable {world : World} {source : String}

/-- Whether every output stands in its file. -/
def Complete (disk : Disk) (settings : Settings) (outputs : List (String × String)) : Prop :=
  ∀ output ∈ outputs, disk.find? (artifactPath settings output.1) = some (.file output.2)

theorem result_generate (hspec : settings.spec = some source) (hsource : source ≠ "") :
    (generate world settings).result =
      (Generation.prepare world source settings.features).result >>= fun document =>
        (outputs document settings).map (addAll []) := by
  have hfilter : settings.spec.filter (fun spec => !spec.isEmpty) = some source := by
    simp [hspec, Option.filter, hsource]
  simp only [generate, hfilter, Progress.result_bind, result_artifacts]

/-- After a build every output stands in its file exactly when no two of the files are one. -/
theorem complete_iff {found : List (String × String)} {paths : List FilePath}
    (houtputs : outputs document settings = .ok found)
    (hgenerated : (generate world settings).result = .ok (addAll [] found))
    (hbuild : (build world settings).2.result = .ok paths) :
    Complete (build world settings).1 settings found ↔
      ((fileNames settings).map (target world.disk settings)).Nodup := by
  obtain ⟨hdisk, hresult⟩ := build_of_generated hgenerated
  rw [hresult] at hbuild
  obtain ⟨-, hwritten, hagain⟩ := written_writeAll hbuild
  rw [← hdisk] at hwritten hagain
  rw [← names_outputs houtputs, List.map_map]
  constructor
  · intro hcomplete
    have htexts := nodup_texts houtputs
    refine List.Nodup.map_on (fun first hfirst second hsecond heq => ?_) (htexts.of_map _)
    have hfirstText := (find?_eq_some_iff.mp (hcomplete first hfirst)).2
    have hsecondText := (find?_eq_some_iff.mp (hcomplete second hsecond)).2
    rw [hwritten.locate] at hfirstText hsecondText
    have hentries : some (Entry.file first.2) = some (.file second.2) := by
      rw [← hfirstText, ← hsecondText]
      exact congrArg _ heq
    have htext : first.2 = second.2 := by simpa using hentries
    exact List.inj_on_of_nodup_map htexts hfirst hsecond htext
  · intro distinct output houtput
    have hnames : (found.map (·.1)).Nodup := by
      rw [← List.map_map] at distinct
      exact distinct.of_map _
    have hall : addAll [] found = found := addAll_of_nodup (by simpa using hnames)
    rw [hall] at hwritten hagain
    have hfile : (artifactPath settings output.1, output.2) ∈ filesOf settings found :=
      List.mem_map.mpr ⟨output, houtput, rfl⟩
    refine text_of_written ?_ hwritten hagain hfile
    simpa [filesOf, target, Function.comp_def] using distinct

/-! ### Building again -/

section Again

variable {after : Disk} {written : List (Location × String)}

/-- A description in a file that is not written to is read as before. -/
theorem text_again (hwritten : Written written world.disk after) (hinput : source ≠ "-")
    (hurl : Source.isUrl source = false)
    (hkept : world.disk.locate (FilePath.parse source) ∉ written.map (·.1))
    {found : String × Source.Hint} (h : Source.text world source = .ok found) :
    Source.text { world with disk := after } source = .ok found := by
  simp only [Source.text, hinput, hurl, beq_iff_eq, if_false, Bool.false_eq_true,
    Source.readFile, Disk.readText?] at h ⊢
  rcases hfind : world.disk.find? (FilePath.parse source) with _ | text | _
  · simp only [hfind] at h
    split_ifs at h
  · have hagain := hwritten.find?_file hkept hfind
    have hbefore := (find?_eq_some_iff.mp hfind).1
    have hafter := (find?_eq_some_iff.mp hagain).1
    simpa [hfind, hagain, hbefore, hafter] using h
  · simp only [hfind] at h
    split_ifs at h

theorem prepare_again (hwritten : Written written world.disk after) (hinput : source ≠ "-")
    (hurl : Source.isUrl source = false)
    (hkept : world.disk.locate (FilePath.parse source) ∉ written.map (·.1))
    {features : List String}
    (h : (Generation.prepare world source features).result = .ok document) :
    (Generation.prepare { world with disk := after } source features).result = .ok document := by
  simp only [Generation.prepare, Progress.result_bind, Progress.result_say,
    Progress.result_ofResult, Progress.result_sayAll, Progress.result_pure] at h ⊢
  obtain ⟨-, -, h⟩ := bind_eq_ok.mp h
  obtain ⟨draft, hdraft, hrest⟩ := bind_eq_ok.mp h
  obtain ⟨loaded, hloaded, hversion⟩ := bind_eq_ok.mp hdraft
  obtain ⟨found, hfound, hparsed⟩ := bind_eq_ok.mp hloaded
  have hagain := text_again hwritten hinput hurl hkept hfound
  have hload : Source.load { world with disk := after } source = .ok draft :=
    bind_eq_ok.mpr ⟨loaded, bind_eq_ok.mpr ⟨found, hagain, hparsed⟩, hversion⟩
  exact bind_eq_ok.mpr ⟨(), rfl, bind_eq_ok.mpr ⟨draft, hload, hrest⟩⟩

end Again

theorem source_ne_empty {artifacts : Generation.Artifacts} (hspec : settings.spec = some source)
    (h : (generate world settings).result = .ok artifacts) : source ≠ "" := by
  rintro rfl
  simp [generate, hspec, Option.filter] at h

theorem generated_of_build {paths : List FilePath} (hspec : settings.spec = some source)
    (hbuild : (build world settings).2.result = .ok paths) :
    ∃ document found,
      (Generation.prepare world source settings.features).result = .ok document ∧
        outputs document settings = .ok found ∧
        (generate world settings).result = .ok (addAll [] found) := by
  rcases hgenerated : (generate world settings).result with failure | artifacts
  · simp [(build_of_not_generated hgenerated).2] at hbuild
  · have hresult := hgenerated
    rw [result_generate hspec (source_ne_empty hspec hgenerated)] at hresult
    obtain ⟨document, hprepared, hresult⟩ := bind_eq_ok.mp hresult
    rcases houtputs : outputs document settings with failure | found
    · simp [houtputs, Except.map] at hresult
    · simp only [houtputs, Except.map, Except.ok.injEq] at hresult
      exact ⟨document, found, hprepared, houtputs, by rw [hresult]⟩

/-- The build after a build. -/
def buildAgain (world : World) (settings : Settings) : Disk × Progress (List FilePath) :=
  build { world with disk := (build world settings).1 } settings

theorem build_again {paths : List FilePath} (hspec : settings.spec = some source)
    (hinput : source ≠ "-") (hurl : Source.isUrl source = false)
    (hbuild : (build world settings).2.result = .ok paths) {document : Document}
    {found : List (String × String)}
    (hprepared : (Generation.prepare world source settings.features).result = .ok document)
    (houtputs : outputs document settings = .ok found)
    (hgenerated : (generate world settings).result = .ok (addAll [] found))
    (hkept : world.disk.locate (FilePath.parse source) ∉
      (fileNames settings).map (target world.disk settings)) :
    (buildAgain world settings).2.result = .ok paths ∧
      ∀ location, (buildAgain world settings).1.content? location =
        (build world settings).1.content? location := by
  unfold buildAgain
  obtain ⟨hdisk, hresult⟩ := build_of_generated hgenerated
  rw [hresult] at hbuild
  obtain ⟨rfl, hwritten, hagain⟩ := written_writeAll hbuild
  rw [← hdisk] at hwritten hagain
  generalize (build world settings).1 = after at hwritten hagain ⊢
  have hother : world.disk.locate (FilePath.parse source) ∉
      (targets world.disk (filesOf settings (addAll [] found))).reverse.map (·.1) := by
    intro hmem
    simp only [targets, filesOf, List.map_reverse, List.map_map, List.mem_reverse,
      List.mem_map, Function.comp_apply] at hmem
    obtain ⟨artifact, hartifact, heq⟩ := hmem
    have hname := names_addAll [] found (List.mem_map_of_mem hartifact)
    rw [List.map_nil, List.nil_append, names_outputs houtputs] at hname
    exact hkept (List.mem_map.mpr ⟨artifact.1, hname, heq⟩)
  have hgeneratedAgain :
      (generate { world with disk := after } settings).result = .ok (addAll [] found) := by
    rw [result_generate hspec (source_ne_empty hspec hgenerated),
      prepare_again hwritten hinput hurl hother hprepared]
    simp only [Bind.bind, Except.bind, houtputs, Except.map]
  obtain ⟨hdiskAgain, hresultAgain⟩ := build_of_generated hgeneratedAgain
  obtain ⟨hpaths, hentry⟩ := writeAll_again hagain
  rw [hresultAgain, hdiskAgain]
  refine ⟨hpaths, fun location => ?_⟩
  rw [hentry, targets_of_written hwritten]
  cases hlookup : (targets world.disk (filesOf settings (addAll [] found))).reverse.lookup location
    with
  | some text => exact (hwritten.text location text hlookup).symm
  | none => rfl

/-- A successful build from a file is complete exactly when no two of its files are one, and when
none of them is the description itself, building again succeeds and leaves everything as it is. -/
theorem build_complete_and_repeatable {paths : List FilePath}
    (hspec : settings.spec = some source) (hinput : source ≠ "-")
    (hurl : Source.isUrl source = false)
    (hbuild : (build world settings).2.result = .ok paths) :
    ∃ document found,
      (Generation.prepare world source settings.features).result = .ok document ∧
      outputs document settings = .ok found ∧
      (Complete (build world settings).1 settings found ↔
        ((fileNames settings).map (target world.disk settings)).Nodup) ∧
      (world.disk.locate (FilePath.parse source) ∉
          (fileNames settings).map (target world.disk settings) →
        (buildAgain world settings).2.result = .ok paths ∧
          ∀ location, (buildAgain world settings).1.content? location =
            (build world settings).1.content? location) := by
  obtain ⟨document, found, hprepared, houtputs, hgenerated⟩ := generated_of_build hspec hbuild
  exact ⟨document, found, hprepared, houtputs, complete_iff houtputs hgenerated hbuild,
    build_again hspec hinput hurl hbuild hprepared houtputs hgenerated⟩

theorem build_complete_and_repeatable_described :
    described.spec = some "api.json" ∧ "api.json" ≠ "-" ∧ Source.isUrl "api.json" = false ∧
      (build (describing "api.json") described).2.result =
        .ok [⟨"", ["openapi.json"]⟩, ⟨"", ["generic.py"]⟩, ⟨"", ["wrapped.py"]⟩] ∧
      (∃ document found, outputs document described = .ok found ∧
        Complete (build (describing "api.json") described).1 described found) ∧
      (buildAgain (describing "api.json") described).2.result =
        .ok [⟨"", ["openapi.json"]⟩, ⟨"", ["generic.py"]⟩, ⟨"", ["wrapped.py"]⟩] ∧
      ∀ location, (buildAgain (describing "api.json") described).1.content? location =
        (build (describing "api.json") described).1.content? location := by
  have hbuild : (build (describing "api.json") described).2.result =
      .ok [⟨"", ["openapi.json"]⟩, ⟨"", ["generic.py"]⟩, ⟨"", ["wrapped.py"]⟩] := by
    decide +kernel
  have hspec : described.spec = some "api.json" := rfl
  have hurl : Source.isUrl "api.json" = false := by decide +kernel
  obtain ⟨document, found, -, houtputs, hcomplete, hrepeated⟩ :=
    build_complete_and_repeatable hspec (by decide) hurl hbuild
  obtain ⟨hpaths, hentries⟩ := hrepeated (by decide +kernel)
  exact ⟨rfl, by decide, hurl, hbuild,
    ⟨document, found, houtputs, hcomplete.mpr (by decide +kernel)⟩, hpaths, hentries⟩

/-- Where the prepared document goes to the file that the description is read from, which is the
file it goes to by default, building again adds a note to it once more. -/
theorem build_changes_own_description :
    (build (describing "openapi.json") { spec := some "openapi.json" }).2.result =
        .ok [⟨"", ["openapi.json"]⟩, ⟨"", ["generic.py"]⟩, ⟨"", ["wrapped.py"]⟩] ∧
      (buildAgain (describing "openapi.json") { spec := some "openapi.json" }).1.text?
          ["home", "openapi.json"] ≠
        (build (describing "openapi.json") { spec := some "openapi.json" }).1.text?
          ["home", "openapi.json"] := by
  decide +kernel

end ClientGen.Build
