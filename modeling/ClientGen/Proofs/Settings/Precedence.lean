import ClientGen.Proofs.Settings.Layers
import Mathlib.Tactic.Tauto

/-!
Which layer a setting comes from. Settings are read from what the highest layer gives for each, so
nothing in a layer below can change them or make them fail, except by a name that is no setting.
-/
namespace ClientGen.Settings

open Outcome

variable {members members' : Members}

/-- The settings that the environment gives, with the value of each if it is given. -/
def environmentValues (world : World) : List (String × Option Document) := [
  ("spec", (filledVariable? world "DSH_API_BUILD_SPEC").map .text),
  ("features", (world.lookup? "DSH_API_BUILD_FEATURES").map fun value =>
    textsDocument (splitFeatures value)),
  ("types_module", (filledVariable? world "DSH_API_BUILD_TYPES_MODULE").map .text)]

/-- The value that the highest layer gives for a setting, if any does. Flags stand over the
environment, and the environment stands over the project file. -/
def topValue? (world : World) (flags : Flags) (project : Members) (name : String) :
    Option Document :=
  ((flags.values.lookup name).join).or
    (((environmentValues world).lookup name).join.or (Members.get? project name))

theorem withEnvironment_eq_putAll (world : World) (members : Members) :
    withEnvironment world members = putAll members (environmentValues world) := rfl

theorem get?_layers (world : World) (flags : Flags) (project : Members) (name : String) :
    Members.get? (withFlags flags (withEnvironment world project)) name =
      topValue? world flags project name := by
  have distinct : ((environmentValues world).map (·.1)).Nodup := by simp [environmentValues]
  rw [get?_withFlags, withEnvironment_eq_putAll, get?_putAll distinct, topValue?]

theorem unknownFields_layers (world : World) (flags : Flags) (project : Members) :
    unknownFields (withFlags flags (withEnvironment world project)) = unknownFields project := by
  have known : ∀ value ∈ environmentValues world, value.1 ∈ fieldNames := by
    simp [environmentValues, fieldNames]
  rw [unknownFields_withFlags, withEnvironment_eq_putAll, unknownFields_putAll known]

theorem mem_unknownFields {fault : SettingFault} :
    fault ∈ unknownFields members ↔
      ∃ key ∈ members.map (·.1), (∀ name ∈ fieldNames, key ≠ .text name) ∧
        fault = ⟨key.display, none, "extra_forbidden", "Extra inputs are not permitted"⟩ := by
  simp [unknownFields, List.mem_filter, @eq_comm _ fault, and_assoc]

theorem mem_unknownFields_congr
    (keys : ∀ key, key ∈ members.map (·.1) ↔ key ∈ members'.map (·.1)) (fault : SettingFault) :
    fault ∈ unknownFields members ↔ fault ∈ unknownFields members' := by
  rw [mem_unknownFields, mem_unknownFields]
  simp only [keys]

/-- Two runs that give the same settings, or fail with the same faults in some order. -/
inductive SameOutcome : Except Failure Settings → Except Failure Settings → Prop
  | settled (settings : Settings) : SameOutcome (.ok settings) (.ok settings)
  | refused {faults faults' : List SettingFault}
      (same : ∀ fault, fault ∈ faults ↔ fault ∈ faults') :
      SameOutcome (.error (.invalidSettings faults)) (.error (.invalidSettings faults'))

/-- Reading looks at the members of known names and at the keys of all others. -/
theorem sameOutcome_ofMembers
    (fields : ∀ name ∈ fieldNames, Members.get? members name = Members.get? members' name)
    (unknown : ∀ fault, fault ∈ unknownFields members ↔ fault ∈ unknownFields members') :
    SameOutcome (ofMembers members) (ofMembers members') := by
  have hfield {α : Type} (name : String) (known : name ∈ fieldNames) (default : α)
      (read : String → Document → Checked α) :
      field members name default read = field members' name default read :=
    field_congr (fields name known) default read
  unfold ofMembers
  simp only [hfield "spec" (by decide), hfield "features" (by decide),
    hfield "types_module" (by decide), hfield "runtime_module" (by decide),
    hfield "id_collection_schema" (by decide), hfield "out_dir" (by decide),
    hfield "generic_file" (by decide), hfield "wrapped_file" (by decide),
    hfield "updated_spec_file" (by decide), hfield "path_aliases" (by decide)]
  -- what is left of either run depends on its checked settings and its list of faults
  generalize faultsOf (field members' "spec" _ _) ++ _ ++ _ ++ _ ++ _ ++ _ ++ _ ++ _ ++ _ ++ _ =
    known
  have same : ∀ fault, fault ∈ known ++ unknownFields members ↔
      fault ∈ known ++ unknownFields members' := by
    intro fault
    rw [List.mem_append, List.mem_append, unknown fault]
  generalize (field members' "spec" _ _ >>= _ : Checked Settings) = checked
  generalize known ++ unknownFields members = faults at *
  generalize known ++ unknownFields members' = faults' at *
  cases faults with
  | nil =>
    have hnone : faults' = [] := by simpa [List.eq_nil_iff_forall_not_mem] using same
    subst hnone
    cases checked with
    | ok settings => exact .settled settings
    | error _ => exact .refused same
  | cons fault rest =>
    obtain ⟨fault', rest', rfl⟩ : ∃ fault' rest', faults' = fault' :: rest' :=
      List.exists_cons_of_ne_nil (List.ne_nil_of_mem ((same fault).mp List.mem_cons_self))
    cases checked <;> exact .refused same

theorem resolve_of_project {world : World} {project : Option Members}
    (read : projectMembers world = .ok project) (flags : Flags) :
    resolve world flags =
      ofMembers (withFlags flags (withEnvironment world (project.getD []))) := by
  rw [resolve, read]
  rfl

/-- Runs that agree on the keys of their project files, and on what the highest layer gives for each
setting, have the same outcome. What stands below that, valid or not, has no effect. -/
theorem sameOutcome_of_topValues {world world' : World} {flags flags' : Flags}
    {project project' : Option Members} (read : projectMembers world = .ok project)
    (read' : projectMembers world' = .ok project')
    (keys : ∀ key, key ∈ (project.getD []).map (·.1) ↔ key ∈ (project'.getD []).map (·.1))
    (tops : ∀ name ∈ fieldNames, topValue? world flags (project.getD []) name =
      topValue? world' flags' (project'.getD []) name) :
    SameOutcome (resolve world flags) (resolve world' flags') := by
  rw [resolve_of_project read, resolve_of_project read']
  refine sameOutcome_ofMembers (fun name hname => ?_) ?_
  · rw [get?_layers, get?_layers]
    exact tops name hname
  · rw [unknownFields_layers, unknownFields_layers]
    exact mem_unknownFields_congr keys

/-- A working directory with a project file, and some variables. -/
def configured (project : String) (environment : List (String × String)) : World where
  disk := (Disk.fresh ["home"]).withFile ["home", projectFileName] project
  environment
  input := ""
  web := fun _ => .unreachable ""
  system := "Linux"
  time := ""

/-- A source and kinds that cannot be used. -/
def unusableProject : Members := [
  (.text "spec", .int 5), (.text "features", textsDocument ["limits"]),
  (.text "out_dir", .text "out")]

def unusableBelow : World :=
  configured "\x7b\"spec\": 5, \"features\": [\"limits\"], \"out_dir\": \"out\"\x7d"
    [("DSH_API_BUILD_SPEC", "a.json")]

/-- A directory that cannot be used. -/
def otherProject : Members := [
  (.text "out_dir", .int 7), (.text "features", .array []), (.text "spec", .text "a.json")]

/-- A world in which the environment has kinds that cannot be used. -/
def otherBelow : World :=
  configured "\x7b\"out_dir\": 7, \"features\": [], \"spec\": \"a.json\"\x7d"
    [("DSH_API_BUILD_SPEC", ""), ("DSH_API_BUILD_FEATURES", "limits")]

/-- The settings that are left on top in both worlds. -/
def managing : Settings := { spec := some "a.json", features := ["manage"], outDir := "out" }

theorem sameOutcome_of_topValues_unusable :
    projectMembers unusableBelow = .ok (some unusableProject) ∧
    projectMembers otherBelow = .ok (some otherProject) ∧
    SameOutcome (resolve unusableBelow { features := ["manage"] })
      (resolve otherBelow { features := ["manage"], outDir := some "out" }) ∧
    resolve unusableBelow { features := ["manage"] } = .ok managing := by
  have keys : ∀ key, key ∈ unusableProject.map (·.1) ↔ key ∈ otherProject.map (·.1) := by
    intro key
    simp only [unusableProject, otherProject, List.map_cons, List.map_nil, List.mem_cons,
      List.not_mem_nil, or_false]
    tauto
  have read : projectMembers unusableBelow = .ok (some unusableProject) := by decide +kernel
  have read' : projectMembers otherBelow = .ok (some otherProject) := by decide +kernel
  have settled : resolve unusableBelow { features := ["manage"] } = .ok managing := by
    rw [resolve_of_project read, Option.getD_some]
    decide +kernel
  have tops : ∀ name ∈ fieldNames,
      topValue? unusableBelow { features := ["manage"] } unusableProject name =
        topValue? otherBelow { features := ["manage"], outDir := some "out" } otherProject
          name := by
    decide +kernel
  exact ⟨read, read', sameOutcome_of_topValues read read' keys tops, settled⟩

end ClientGen.Settings
