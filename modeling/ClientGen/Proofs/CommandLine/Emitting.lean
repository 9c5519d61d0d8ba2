import ClientGen.CommandLine.Run
import ClientGen.Proofs.Build.Repeating
import ClientGen.Proofs.Generation.LineEnds
import ClientGen.Proofs.Settings.Layers

/-!
The ways to emit a text: printed by a command, written to the file that the command names, or
written by a build together with the others. The text is the same, for it ends in a line feed in any
case and depends on no setting that the ways read differently.
-/
namespace ClientGen

open Build Outcome

namespace Console

variable {console : Console} {text : String}

theorem out_debug (console : Console) (line : String) : (console.debug line).out = console.out := by
  unfold debug
  split <;> rfl

theorem out_follow (console : Console) (lines : List String) :
    (console.follow lines).out = console.out := by
  unfold follow
  induction lines generalizing console with
  | nil => rfl
  | cons line lines ih => rw [List.foldl_cons, ih, out_debug]

theorem out_print (h : EndsLine text) (console : Console) :
    (console.print text).out = console.out ++ text := by
  have hlast : (text.toList.getLast? == some '\n') = true := beq_iff_eq.mpr h
  unfold print
  rw [if_pos hlast]

end Console

namespace CommandLine

/-! ### Runs that succeed -/

/-- Whether the program ends with the exit code of success. -/
def Outcome.Succeeds (outcome : Outcome) : Prop := outcome.exit = 0

instance (outcome : Outcome) : Decidable outcome.Succeeds := inferInstanceAs (Decidable (_ = _))

theorem exitCode_ne_zero (category : Category) : category.exitCode ≠ 0 := by
  cases category <;> decide

theorem not_succeeds_fail (world : World) (disk : Disk) (console : Console) (failure : Failure) :
    ¬(fail world disk console failure).Succeeds := by
  unfold fail
  split
  · split <;> exact Int.one_ne_zero
  · exact exitCode_ne_zero failure.category

variable {world : World} {disk : Disk} {console : Console}

theorem succeeds_finish {α : Type} {work : Progress α} {next : Console → α → Outcome} :
    (finish world disk console work next).Succeeds ↔
      ∃ value, work.result = .ok value ∧ (next (console.follow work.lines) value).Succeeds := by
  unfold finish
  cases hresult : work.result with
  | error failure => simp [not_succeeds_fail]
  | ok value => simp

theorem finish_of_ok {α : Type} {work : Progress α} {value : α} (h : work.result = .ok value)
    (next : Console → α → Outcome) :
    finish world disk console work next = next (console.follow work.lines) value := by
  unfold finish
  rw [h]

theorem write_of_deliver {text file : String}
    (h : (deliver world console text (some file)).Succeeds) :
    (world.disk.write (FilePath.parse file) text).2 = .ok () ∧
      (deliver world console text (some file)).disk =
        (world.disk.write (FilePath.parse file) text).1 := by
  rcases hwrite : world.disk.write (FilePath.parse file) text with ⟨after, failure | ⟨⟩⟩
  · simp only [deliver, hwrite] at h
    exact (not_succeeds_fail world after console failure h).elim
  · simp only [deliver, hwrite, and_self]

/-- A file that a text has been delivered to holds the text. -/
theorem find?_deliver {text file : String} (h : (deliver world console text (some file)).Succeeds) :
    (deliver world console text (some file)).disk.find? (FilePath.parse file) =
      some (.file text) := by
  obtain ⟨hwrite, hdisk⟩ := write_of_deliver h
  obtain ⟨hwritten, hagain⟩ := Disk.written_write hwrite
  rw [hdisk, hagain.find?, hwritten.locate]
  exact hwritten.text _ text (by simp)

/-- A command succeeds and prints a text, after what had been printed before. -/
structure Prints (world : World) (console : Console) (command : Command) (text : String) :
    Prop where
  succeeds : (runCommand world console command).Succeeds
  out : (runCommand world console command).console.out = console.out ++ text

/-! ### The texts -/

/-- The texts that can be emitted: the prepared document, and each of the modules. -/
inductive Emitted where
  | updated
  | module (kind : ModuleKind)
deriving DecidableEq, Repr

namespace Emitted

def command (emitted : Emitted) (flags : Settings.Flags) (spec : String)
    (output : Option String) : Command :=
  match emitted with
  | updated => .update flags spec output
  | module kind => .emit kind flags spec output

def text (emitted : Emitted) (world : World) (flags : Settings.Flags) (spec : String) :
    Progress String :=
  match emitted with
  | updated => updateText world flags spec
  | module kind => moduleText world kind flags spec

/-- The text for a prepared document under some settings. -/
def render (emitted : Emitted) (document : Document) (settings : Settings) :
    Except Failure String :=
  match emitted with
  | updated => Generation.documentText document
  | module .generic => (Generation.generic document settings).result
  | module .wrapped => (Generation.wrapped document settings).result

/-- The name of the file that a build writes a text to. The prepared document need not have one. -/
def fileName? (emitted : Emitted) (settings : Settings) : Option String :=
  match emitted with
  | updated => settings.updatedSpecFile.filter fun name => !name.isEmpty
  | module .generic => some settings.genericFile
  | module .wrapped => some settings.wrappedFile

/-- Those flags of a build that the command for one text has too. Only modules import types. -/
def flags (emitted : Emitted) (flags : Settings.Flags) (source : String) : Settings.Flags where
  spec := some source
  features := flags.features
  typesModule :=
    match emitted with
    | updated => none
    | module _ => flags.typesModule

end Emitted

variable {flags : Settings.Flags} {spec file written : String} {emitted : Emitted}
  {document : Document} {settings : Settings}

theorem runCommand_command (output : Option String) :
    runCommand world console (emitted.command flags spec output) =
      finish world world.disk console (emitted.text world flags spec) fun console text =>
        deliver world console text output := by
  cases emitted <;> rfl

/-- A text is emitted when the settings are right, the document can be prepared, and its text can be
rendered. -/
theorem result_text (emitted : Emitted) (world : World) (flags : Settings.Flags) (spec : String) :
    (emitted.text world flags spec).result =
      Settings.resolve world flags >>= fun settings =>
        (Generation.prepare world spec settings.features).result >>= fun document =>
          emitted.render document settings := by
  rcases emitted with _ | _ | _
  all_goals
    simp only [Emitted.text, updateText, moduleText, prepare, Progress.result_bind,
      Progress.result_ofResult, Progress.result_pure, bind_assoc]
    rfl

theorem endsLine_render (h : emitted.render document settings = .ok written) :
    EndsLine written := by
  rcases emitted with _ | _ | _
  · exact Generation.endsLine_documentText h
  · exact Generation.endsLine_generic h
  · exact Generation.endsLine_wrapped h

theorem endsLine_text (h : (emitted.text world flags spec).result = .ok written) :
    EndsLine written := by
  rw [result_text] at h
  obtain ⟨settings, -, h⟩ := bind_eq_ok.mp h
  obtain ⟨document, -, h⟩ := bind_eq_ok.mp h
  exact endsLine_render h

theorem prints_of_text (h : (emitted.text world flags spec).result = .ok written) :
    Prints world console (emitted.command flags spec none) written := by
  have hrun : runCommand world console (emitted.command flags spec none) =
      { disk := world.disk
        console := (console.follow (emitted.text world flags spec).lines).print written } := by
    rw [runCommand_command, finish_of_ok h]
    rfl
  refine ⟨?_, ?_⟩
  · rw [hrun]
    exact rfl
  · rw [hrun]
    exact (Console.out_print (endsLine_text h) _).trans
      (congrArg (· ++ written) (Console.out_follow console _))

/-- A file holds the text that the command would have printed. -/
theorem stored_as_printed
    (h : (runCommand world console (emitted.command flags spec (some file))).Succeeds) :
    ∃ text, Prints world console (emitted.command flags spec none) text ∧
      (runCommand world console (emitted.command flags spec (some file))).disk.find?
        (FilePath.parse file) = some (.file text) := by
  rw [runCommand_command] at h ⊢
  obtain ⟨text, htext, hdelivered⟩ := succeeds_finish.mp h
  rw [finish_of_ok htext]
  exact ⟨text, prints_of_text htext, find?_deliver hdelivered⟩

/-! ### Commands beside a build -/

variable {lower : Members} {source name : String}

/-- Whether the settings are texts below the flags for which the build has a flag and the command
for one text has none. -/
def Emitted.Readable (emitted : Emitted) (flags : Settings.Flags) (lower : Members) : Prop :=
  (flags.outDir.isSome → Settings.TextAt lower "out_dir") ∧
    (emitted = .updated → flags.typesModule.isSome → Settings.TextAt lower "types_module")

theorem textAt_outDir (h : Settings.ReadFrom (Settings.withFlags flags lower) settings) :
    Settings.TextAt (Settings.withFlags (emitted.flags flags source) lower) "out_dir" ↔
      (flags.outDir.isSome → Settings.TextAt lower "out_dir") := by
  rw [Settings.textAt_withFlags rfl]
  cases hflag : flags.outDir with
  | some outDir => simp
  | none =>
    have hnone : (flags.values.lookup "out_dir").join = none := by
      simp [Settings.Flags.values, List.lookup_cons, hflag]
    have hread := (Settings.textAt_withFlags hnone).mp ((Settings.textAt_iff _).mpr ⟨_, h.outDir⟩)
    simp [hread]

theorem textAt_typesModule (h : Settings.ReadFrom (Settings.withFlags flags lower) settings) :
    Settings.TextAt (Settings.withFlags (emitted.flags flags source) lower) "types_module" ↔
      (emitted = .updated → flags.typesModule.isSome → Settings.TextAt lower "types_module") := by
  have hread := (Settings.textAt_iff _).mpr ⟨_, h.typesModule⟩
  cases emitted with
  | updated =>
    rw [Settings.textAt_withFlags rfl]
    cases hflag : flags.typesModule with
    | some typesModule => simp
    | none =>
      have hnone : (flags.values.lookup "types_module").join = none := by
        simp [Settings.Flags.values, List.lookup_cons, hflag]
      simp [(Settings.textAt_withFlags hnone).mp hread]
  | module kind =>
    have hflag : (Emitted.flags (.module kind) flags source).typesModule = flags.typesModule := rfl
    rw [Settings.textAt_iff, Settings.field_typesModule_shared hflag, ← Settings.textAt_iff]
    simp [hread]

/-- No text depends on where it goes, and that of the document on no types module. -/
theorem render_of_same {settings' : Settings}
    (hsame : settings' =
      { settings with outDir := settings'.outDir, typesModule := settings'.typesModule })
    (htypes : emitted ≠ .updated → settings'.typesModule = settings.typesModule)
    (document : Document) :
    emitted.render document settings' = emitted.render document settings := by
  rw [hsame]
  rcases emitted with _ | _ | _
  · rfl
  · rw [htypes (by decide)]
    rfl
  · rw [htypes (by decide)]
    rfl

/-- The command for one text has the settings of the build, as far as they matter to the text, if it
has any. -/
theorem resolve_flags (hlower : Settings.lowerMembers world = .ok lower)
    (hresolved : Settings.resolve world flags = .ok settings)
    (hspec : settings.spec = some source) (emitted : Emitted) :
    ((∃ settings', Settings.resolve world (emitted.flags flags source) = .ok settings') ↔
      emitted.Readable flags lower) ∧
    ∀ settings', Settings.resolve world (emitted.flags flags source) = .ok settings' →
      settings'.features = settings.features ∧
        ∀ document, emitted.render document settings' = emitted.render document settings := by
  obtain ⟨_, hsame, hread⟩ := Settings.resolve_eq_ok.mp hresolved
  cases hsame.symm.trans hlower
  have hsource : (emitted.flags flags source).spec = some source := rfl
  obtain ⟨hany, hshared⟩ := Settings.resolve_shared hlower hresolved hspec hsource rfl
  rw [textAt_outDir hread, textAt_typesModule hread] at hany
  refine ⟨hany, fun settings' h => ?_⟩
  have heq := hshared settings' h
  -- A module has the build's own flag for the types module, so both runs read the same one.
  refine ⟨by rw [heq], render_of_same heq fun hmodule => ?_⟩
  obtain ⟨_, hsame, hread'⟩ := Settings.resolve_eq_ok.mp h
  cases hsame.symm.trans hlower
  have htypes : (emitted.flags flags source).typesModule = flags.typesModule := by
    cases emitted with
    | updated => exact absurd rfl hmodule
    | module kind => rfl
  have hfield := hread'.typesModule
  rw [Settings.field_typesModule_shared htypes, hread.typesModule] at hfield
  exact (Except.ok.inj hfield).symm

theorem render_of_outputs {found : List (String × String)}
    (h : outputs document settings = .ok found) (hname : emitted.fileName? settings = some name) :
    ∃ text, emitted.render document settings = .ok text ∧ (name, text) ∈ found := by
  obtain ⟨updated, hupdated, h⟩ := bind_eq_ok.mp h
  obtain ⟨generic, hgeneric, h⟩ := bind_eq_ok.mp h
  obtain ⟨wrapped, hwrapped, h⟩ := bind_eq_ok.mp h
  cases pure_eq_ok.mp h
  rcases emitted with _ | _ | _
  · rcases updatedOutput_cases hupdated with ⟨hnone, -⟩ | ⟨_, text, hsome, htext, rfl⟩
    · cases hnone.symm.trans hname
    · cases hsome.symm.trans hname
      exact ⟨text, htext, by simp⟩
  · cases hname
    exact ⟨generic, hgeneric, by simp⟩
  · cases hname
    exact ⟨wrapped, hwrapped, by simp⟩

theorem result_of_build (hresolved : Settings.resolve world flags = .ok settings)
    (h : (runCommand world console (.build flags)).Succeeds) :
    (∃ paths, (build world settings).2.result = .ok paths) ∧
      (runCommand world console (.build flags)).disk = (build world settings).1 := by
  simp only [runCommand, hresolved] at h ⊢
  obtain ⟨paths, hpaths, -⟩ := succeeds_finish.mp h
  rw [finish_of_ok hpaths]
  exact ⟨⟨paths, hpaths⟩, rfl⟩

/-- A build that has written its texts to different files gives each the text that the command for
it prints. That command succeeds if it can read the settings that only the build need not read. -/
theorem printed_as_built {builder : Console} (hlower : Settings.lowerMembers world = .ok lower)
    (hresolved : Settings.resolve world flags = .ok settings)
    (hspec : settings.spec = some source)
    (hbuild : (runCommand world builder (.build flags)).Succeeds)
    (distinct : ((fileNames settings).map (target world.disk settings)).Nodup)
    (hname : emitted.fileName? settings = some name) :
    ∃ text,
      (runCommand world builder (.build flags)).disk.find? (artifactPath settings name) =
        some (.file text) ∧
      ((runCommand world console
          (emitted.command (emitted.flags flags source) source none)).Succeeds ↔
        emitted.Readable flags lower) ∧
      (emitted.Readable flags lower →
        Prints world console (emitted.command (emitted.flags flags source) source none) text) := by
  obtain ⟨⟨paths, hpaths⟩, hdisk⟩ := result_of_build hresolved hbuild
  obtain ⟨document, found, hprepared, houtputs, hgenerated⟩ := generated_of_build hspec hpaths
  obtain ⟨text, htext, hfound⟩ := render_of_outputs houtputs hname
  have hcomplete := (complete_iff houtputs hgenerated hpaths).mpr distinct
  obtain ⟨hany, hsame⟩ := resolve_flags hlower hresolved hspec emitted
  have hprints (hreadable : emitted.Readable flags lower) :
      Prints world console (emitted.command (emitted.flags flags source) source none) text := by
    obtain ⟨settings', h⟩ := hany.mpr hreadable
    obtain ⟨hfeatures, hrender⟩ := hsame settings' h
    refine prints_of_text ?_
    rw [result_text]
    refine bind_eq_ok.mpr ⟨settings', h, bind_eq_ok.mpr ⟨document, ?_, ?_⟩⟩
    · rw [hfeatures, hprepared]
    · rw [hrender, htext]
  refine ⟨text, ?_, ⟨fun hsucceeds => hany.mp ?_, fun h => (hprints h).succeeds⟩, hprints⟩
  · rw [hdisk]
    exact hcomplete (name, text) hfound
  · rw [runCommand_command] at hsucceeds
    obtain ⟨_, h, -⟩ := succeeds_finish.mp hsucceeds
    rw [result_text] at h
    obtain ⟨settings', h, -⟩ := bind_eq_ok.mp h
    exact ⟨settings', h⟩

/-- All ways to emit a text agree. A command that has written a text to a file prints the same text
without the file. And the file of a build, if it has one of its own, holds the same text as well;
the command then succeeds if each setting is a text that it reads below a flag of the build. -/
theorem emitted_agree (world : World) (console : Console) (emitted : Emitted) :
    (∀ flags spec file,
      (runCommand world console (emitted.command flags spec (some file))).Succeeds →
      ∃ text, Prints world console (emitted.command flags spec none) text ∧
        (runCommand world console (emitted.command flags spec (some file))).disk.find?
          (FilePath.parse file) = some (.file text)) ∧
    ∀ builder flags lower settings source name,
      Settings.lowerMembers world = .ok lower → Settings.resolve world flags = .ok settings →
      settings.spec = some source → (runCommand world builder (.build flags)).Succeeds →
      ((fileNames settings).map (target world.disk settings)).Nodup →
      emitted.fileName? settings = some name →
      ∃ text,
        (runCommand world builder (.build flags)).disk.find? (artifactPath settings name) =
          some (.file text) ∧
        ((runCommand world console
            (emitted.command (emitted.flags flags source) source none)).Succeeds ↔
          emitted.Readable flags lower) ∧
        (emitted.Readable flags lower →
          Prints world console (emitted.command (emitted.flags flags source) source none) text) :=
  ⟨fun _ _ _ h => stored_as_printed h,
    fun _ _ _ _ _ _ hlower hresolved hspec hbuild distinct hname =>
      printed_as_built hlower hresolved hspec hbuild distinct hname⟩

/-- A project file that has no text for the types module. -/
def untyped : World :=
  { describing "api.json" with
    disk := (describing "api.json").disk.withFile ["home", "dsh-api-build.json"]
      "\x7b\"types_module\": 5\x7d" }

def typedFlags : Settings.Flags := { spec := some "api.json", typesModule := some "limits.types" }

def typedSettings : Settings := { spec := some "api.json", typesModule := "limits.types" }

def untypedMembers : Members := value (Settings.lowerMembers untyped) (by decide +kernel)

theorem emitted_agree_untyped :
    (runCommand untyped {} (.emit .generic typedFlags "api.json" (some "api.py"))).Succeeds ∧
      (∃ text, Prints untyped {} (.emit .generic typedFlags "api.json" none) text ∧
        (runCommand untyped {} (.emit .generic typedFlags "api.json" (some "api.py"))).disk.find?
          (FilePath.parse "api.py") = some (.file text)) ∧
      (runCommand untyped {} (.build typedFlags)).Succeeds ∧
      ((fileNames typedSettings).map (target untyped.disk typedSettings)).Nodup ∧
      ∃ text,
        (runCommand untyped {} (.build typedFlags)).disk.find?
          (artifactPath typedSettings "generic.py") = some (.file text) ∧
        Prints untyped {} (.emit .generic typedFlags "api.json" none) text := by
  have hwrites : (runCommand untyped {}
      (.emit .generic typedFlags "api.json" (some "api.py"))).Succeeds := by decide +kernel
  have hresolved : Settings.resolve untyped typedFlags = .ok typedSettings := by decide +kernel
  have hbuild : (runCommand untyped {} (.build typedFlags)).Succeeds := by decide +kernel
  have distinct : ((fileNames typedSettings).map (target untyped.disk typedSettings)).Nodup := by
    decide +kernel
  have hlower : Settings.lowerMembers untyped = .ok untypedMembers := eq_ok_value _ _
  obtain ⟨hstored, hbuilt⟩ := emitted_agree untyped {} (.module .generic)
  obtain ⟨text, hfile, -, hprints⟩ :=
    hbuilt {} typedFlags _ typedSettings "api.json" "generic.py" hlower hresolved rfl hbuild
      distinct rfl
  have hreadable : (Emitted.module .generic).Readable typedFlags untypedMembers :=
    ⟨by simp [typedFlags], by simp⟩
  exact ⟨hwrites, hstored typedFlags "api.json" "api.py" hwrites, hbuild, distinct, text, hfile,
    hprints hreadable⟩

/-- Only a build stands a flag over the types module, so that the prepared document is built where
the command for it fails. -/
theorem updated_fails_beside_build :
    Settings.resolve untyped typedFlags = .ok typedSettings ∧
      typedSettings.updatedSpecFile = some "openapi.json" ∧
      (runCommand untyped {} (.build typedFlags)).Succeeds ∧
      ((fileNames typedSettings).map (target untyped.disk typedSettings)).Nodup ∧
      ¬(runCommand untyped {} (.update { spec := some "api.json" } "api.json" none)).Succeeds := by
  decide +kernel

end CommandLine

end ClientGen
