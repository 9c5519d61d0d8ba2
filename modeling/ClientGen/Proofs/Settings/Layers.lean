import ClientGen.Proofs.Document.Reordering
import ClientGen.Proofs.Lookup
import ClientGen.Proofs.Outcome
import ClientGen.Settings.Layers

/-!
The settings that layers give. Settings are read member by member, so those of two runs can differ
only where a flag of one of them stands over what the other one reads.
-/
namespace ClientGen.Settings

open Outcome

variable {members members' : Members} {settings : Settings} {name other : String}

/-- Settings of which each is read from its member or has its default, where all members are
settings. -/
structure ReadFrom (members : Members) (settings : Settings) : Prop where
  spec : field members "spec" none readOptionalText = .ok settings.spec
  features : field members "features" [] (fun _ => readFeatures) = .ok settings.features
  typesModule : field members "types_module" ({} : Settings).typesModule readText =
    .ok settings.typesModule
  runtimeModule : field members "runtime_module" ({} : Settings).runtimeModule readText =
    .ok settings.runtimeModule
  idCollectionSchema : field members "id_collection_schema" ({} : Settings).idCollectionSchema
    readText = .ok settings.idCollectionSchema
  outDir : field members "out_dir" ({} : Settings).outDir readText = .ok settings.outDir
  genericFile : field members "generic_file" ({} : Settings).genericFile readText =
    .ok settings.genericFile
  wrappedFile : field members "wrapped_file" ({} : Settings).wrappedFile readText =
    .ok settings.wrappedFile
  updatedSpecFile : field members "updated_spec_file" ({} : Settings).updatedSpecFile
    readOptionalText = .ok settings.updatedSpecFile
  pathAliases : field members "path_aliases" ({} : Settings).pathAliases readTruth =
    .ok settings.pathAliases
  known : unknownFields members = []

theorem ofMembers_eq_ok : ofMembers members = .ok settings ↔ ReadFrom members settings := by
  constructor
  · intro h
    unfold ofMembers at h
    dsimp only at h
    split at h
    next checked hchecked hfaults =>
      cases h
      simp only [bind_eq_ok, pure_eq_ok] at hchecked
      obtain ⟨spec, hspec, features, hfeatures, typesModule, htypes, runtime, hruntime, ids, hids,
        outDir, hout, generic, hgeneric, wrapped, hwrapped, updated, hupdated, aliases, haliases,
        rfl⟩ := hchecked
      have hknown := (List.append_eq_nil_iff.mp hfaults).2
      exact ⟨hspec, hfeatures, htypes, hruntime, hids, hout, hgeneric, hwrapped, hupdated, haliases,
        hknown⟩
    · cases h
  · intro h
    unfold ofMembers
    simp only [h.spec, h.features, h.typesModule, h.runtimeModule, h.idCollectionSchema, h.outDir,
      h.genericFile, h.wrappedFile, h.updatedSpecFile, h.pathAliases, h.known]
    rfl

theorem get?_putIf (members : Members) (value : Option Document) :
    Members.get? (putIf members name value) other =
      if other = name then value.or (Members.get? members other)
      else Members.get? members other := by
  cases value with
  | none => simp [putIf]
  | some value =>
    split
    next hsame =>
      subst hsame
      exact Members.get?_put_same members other value
    next hother => exact Members.get?_put_of_ne members value (Ne.symm hother)

/-- The settings that flags give, with the value of each if it is given. -/
def Flags.values (flags : Flags) : List (String × Option Document) := [
  ("spec", flags.spec.map .text),
  ("features", if flags.features.isEmpty then none else some (textsDocument flags.features)),
  ("out_dir", flags.outDir.map .text), ("types_module", flags.typesModule.map .text)]

/-- The members with those that several values set. -/
def putAll (members : Members) (values : List (String × Option Document)) : Members :=
  values.foldl (fun members value => putIf members value.1 value.2) members

theorem withFlags_eq_putAll (flags : Flags) (members : Members) :
    withFlags flags members = putAll members flags.values := rfl

theorem get?_putAll {values : List (String × Option Document)}
    (distinct : (values.map (·.1)).Nodup) (members : Members) (name : String) :
    Members.get? (putAll members values) name =
      ((values.lookup name).join).or (Members.get? members name) := by
  induction values generalizing members with
  | nil => rfl
  | cons value values ih =>
    obtain ⟨field, value⟩ := value
    obtain ⟨hfresh, hrest⟩ := List.nodup_cons.mp distinct
    rw [putAll, List.foldl_cons, ← putAll, ih hrest, get?_putIf, List.lookup_cons]
    by_cases hsame : name = field
    · subst hsame
      rw [lookup_of_not_mem hfresh]
      simp
    · have hother : (name == field) = false := by simpa using hsame
      simp [hsame, hother]

theorem unknownFields_put (members : Members) (value : Document) (known : name ∈ fieldNames) :
    unknownFields (Members.put members name value) = unknownFields members := by
  have hknown : (fieldNames.any fun field => Scalar.text name == .text field) = true :=
    List.any_eq_true.mpr ⟨name, known, beq_self_eq_true _⟩
  unfold Members.put unknownFields
  induction members with
  | nil => simp [Members.putKey, hknown]
  | cons member rest ih =>
    obtain ⟨key, old⟩ := member
    cases hsame : key.same (.text name)
    · simp only [Members.putKey, hsame, Bool.false_eq_true, if_false, List.filter_cons]
      split
      · simpa using ih
      · exact ih
    · cases Scalar.same_text_iff.mp hsame
      simp [Members.putKey, hsame, hknown]

theorem unknownFields_putIf (members : Members) (value : Option Document)
    (known : name ∈ fieldNames) :
    unknownFields (putIf members name value) = unknownFields members := by
  cases value with
  | none => rfl
  | some value => exact unknownFields_put members value known

/-- No flag gives a setting that is none. -/
theorem unknownFields_putAll {values : List (String × Option Document)}
    (known : ∀ value ∈ values, value.1 ∈ fieldNames) (members : Members) :
    unknownFields (putAll members values) = unknownFields members := by
  induction values generalizing members with
  | nil => rfl
  | cons value values ih =>
    obtain ⟨hvalue, hrest⟩ := List.forall_mem_cons.mp known
    rw [putAll, List.foldl_cons, ← putAll, ih hrest, unknownFields_putIf members value.2 hvalue]

theorem get?_withFlags (flags : Flags) (members : Members) (name : String) :
    Members.get? (withFlags flags members) name =
      ((flags.values.lookup name).join).or (Members.get? members name) := by
  rw [withFlags_eq_putAll]
  have distinct : (flags.values.map (·.1)).Nodup := by simp [Flags.values]
  exact get?_putAll distinct members name

theorem unknownFields_withFlags (flags : Flags) (members : Members) :
    unknownFields (withFlags flags members) = unknownFields members := by
  rw [withFlags_eq_putAll]
  exact unknownFields_putAll (by simp [Flags.values, fieldNames]) members

/-- The members that the project file and the environment give, below the flags. -/
def lowerMembers (world : World) : Except Failure Members :=
  (projectMembers world).map fun project => withEnvironment world (project.getD [])

theorem resolve_eq_ok {world : World} {flags : Flags} :
    resolve world flags = .ok settings ↔
      ∃ lower, lowerMembers world = .ok lower ∧ ReadFrom (withFlags flags lower) settings := by
  unfold resolve lowerMembers
  cases projectMembers world with
  | error failure => simp [Except.map, Bind.bind, Except.bind]
  | ok project => simp [Except.map, Bind.bind, Except.bind, ofMembers_eq_ok]

/-! ### Runs that share flags -/

theorem field_congr {α : Type} (h : Members.get? members name = Members.get? members' name)
    (default : α) (read : String → Document → Checked α) :
    field members name default read = field members' name default read := by
  unfold field
  rw [h]

theorem readText_eq_ok {value : Document} {s : String} :
    readText name value = .ok s ↔ value = .text s := by
  unfold readText
  split <;> simp_all

/-- Whether a member is a text, if it is there. -/
def TextAt (members : Members) (name : String) : Prop :=
  ∀ value, Members.get? members name = some value → ∃ s, value = .text s

theorem textAt_iff (default : String) :
    TextAt members name ↔ ∃ s, field members name default readText = .ok s := by
  unfold TextAt field
  cases hvalue : Members.get? members name with
  | none => simp
  | some value => simp [readText_eq_ok]

variable {world : World} {flags shared : Flags} {lower : Members} {source : String}

/-- Flags for the same kinds leave all other settings as they are. -/
theorem get?_shared (hfeatures : shared.features = flags.features)
    (different : name ∉ ["spec", "out_dir", "types_module"]) :
    Members.get? (withFlags shared lower) name = Members.get? (withFlags flags lower) name := by
  simp only [List.mem_cons, List.not_mem_nil, or_false, not_or, ← beq_eq_false_iff_ne] at different
  have hlookup : shared.values.lookup name = flags.values.lookup name := by
    simp [Flags.values, List.lookup_cons, different, hfeatures]
  rw [get?_withFlags, get?_withFlags, hlookup]

theorem field_spec_of_flag (hsource : shared.spec = some source) :
    field (withFlags shared lower) "spec" none readOptionalText = .ok (some source) := by
  have hget : Members.get? (withFlags shared lower) "spec" = some (.text source) := by
    rw [get?_withFlags]
    simp [Flags.values, hsource]
  simp [field, hget, readOptionalText, readText, Except.map]

theorem readFrom_shared (h : ReadFrom (withFlags flags lower) settings)
    (hspec : settings.spec = some source) (hsource : shared.spec = some source)
    (hfeatures : shared.features = flags.features) {outDir typesModule : String}
    (hout : field (withFlags shared lower) "out_dir" ({} : Settings).outDir readText = .ok outDir)
    (htypes : field (withFlags shared lower) "types_module" ({} : Settings).typesModule readText =
      .ok typesModule) :
    ReadFrom (withFlags shared lower) { settings with outDir, typesModule } := by
  have hsame {α : Type} (name : String) (different : name ∉ ["spec", "out_dir", "types_module"])
      (default : α) (read : String → Document → Checked α) :
      field (withFlags shared lower) name default read =
        field (withFlags flags lower) name default read :=
    field_congr (get?_shared hfeatures different) default read
  have hknown : unknownFields (withFlags shared lower) = [] := by
    rw [unknownFields_withFlags, ← unknownFields_withFlags flags, h.known]
  have hread : field (withFlags shared lower) "spec" none readOptionalText = .ok settings.spec := by
    rw [field_spec_of_flag hsource, hspec]
  refine ⟨hread, ?_, htypes, ?_, ?_, hout, ?_, ?_, ?_, ?_, hknown⟩
  all_goals rw [hsame _ (by decide)]
  · exact h.features
  · exact h.runtimeModule
  · exact h.idCollectionSchema
  · exact h.genericFile
  · exact h.wrappedFile
  · exact h.updatedSpecFile
  · exact h.pathAliases

theorem textAt_withFlags (hnone : (shared.values.lookup name).join = none) :
    TextAt (withFlags shared lower) name ↔ TextAt lower name := by
  unfold TextAt
  rw [get?_withFlags, hnone, Option.none_or]

/-- The types module of two runs with the same flag for it is the same. -/
theorem field_typesModule_shared (htypes : shared.typesModule = flags.typesModule) :
    field (withFlags shared lower) "types_module" ({} : Settings).typesModule readText =
      field (withFlags flags lower) "types_module" ({} : Settings).typesModule readText := by
  refine field_congr ?_ _ _
  rw [get?_withFlags, get?_withFlags]
  simp [Flags.values, List.lookup_cons, htypes]

/-- Flags for the same source and kinds give the same settings, but for those that flags of one of
them stand over. They give any as long as these are texts. -/
theorem resolve_shared (hlower : lowerMembers world = .ok lower)
    (h : resolve world flags = .ok settings) (hspec : settings.spec = some source)
    (hsource : shared.spec = some source) (hfeatures : shared.features = flags.features) :
    ((∃ settings', resolve world shared = .ok settings') ↔
      TextAt (withFlags shared lower) "out_dir" ∧
        TextAt (withFlags shared lower) "types_module") ∧
    ∀ settings', resolve world shared = .ok settings' → settings' =
      { settings with outDir := settings'.outDir, typesModule := settings'.typesModule } := by
  obtain ⟨_, hsame, hread⟩ := resolve_eq_ok.mp h
  cases hsame.symm.trans hlower
  have hresolve {settings' : Settings} :
      resolve world shared = .ok settings' ↔ ReadFrom (withFlags shared lower) settings' := by
    rw [resolve_eq_ok]
    simp [hlower]
  refine ⟨⟨?_, ?_⟩, fun settings' h' => ?_⟩
  · rintro ⟨settings', h'⟩
    have hread' := hresolve.mp h'
    exact ⟨(textAt_iff _).mpr ⟨_, hread'.outDir⟩, (textAt_iff _).mpr ⟨_, hread'.typesModule⟩⟩
  · rintro ⟨hout, htypes⟩
    obtain ⟨outDir, hout⟩ := (textAt_iff ({} : Settings).outDir).mp hout
    obtain ⟨typesModule, htypes⟩ := (textAt_iff ({} : Settings).typesModule).mp htypes
    exact ⟨_, hresolve.mpr (readFrom_shared hread hspec hsource hfeatures hout htypes)⟩
  · have hread' := hresolve.mp h'
    have hagain := hresolve.mpr
      (readFrom_shared hread hspec hsource hfeatures hread'.outDir hread'.typesModule)
    exact Except.ok.inj (h'.symm.trans hagain)

end ClientGen.Settings
