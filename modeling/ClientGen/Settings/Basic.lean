import ClientGen.Client.Imports
import ClientGen.Document.Truth
import ClientGen.Failure

/-!
The settings of a run, and reading them from the members of an object. Every fault is found: first
those of the settings in order, then the names that are no settings.
-/
namespace ClientGen

/-- What a run is to do: the source, the kinds of paths that are asked for, the modules that
generated code imports from, and where the results go. -/
structure Settings where
  spec : Option String := none
  features : List String := []
  typesModule : String := "dsh_api.types"
  runtimeModule : String := "dsh_api_build.runtime"
  idCollectionSchema : String := "ChildList"
  outDir : String := "."
  genericFile : String := "generic.py"
  wrappedFile : String := "wrapped.py"
  updatedSpecFile : Option String := some "openapi.json"
  pathAliases : Bool := true
deriving DecidableEq, Repr

namespace Settings

def modules (settings : Settings) : Client.Modules := ⟨settings.runtimeModule, settings.typesModule⟩

abbrev Checked (α : Type) := Except (List SettingFault) α

def readText (field : String) : Document → Checked String
  | .text s => .ok s
  | _ => .error [⟨field, none, "string_type", "Input should be a valid string"⟩]

def readOptionalText (field : String) : Document → Checked (Option String)
  | .null => .ok none
  | value => (readText field value).map some

def readTruth (field : String) (value : Document) : Checked Bool :=
  let wrongType : Checked Bool :=
    .error [⟨field, none, "bool_type", "Input should be a valid boolean"⟩]
  match value with
  | .scalar scalar =>
    match scalar.truth? with
    | some truth => .ok truth
    | none =>
      if scalar.mayBeTruth then
        .error [⟨field, none, "bool_parsing",
          "Input should be a valid boolean, unable to interpret input"⟩]
      else wrongType
  | _ => wrongType

def featureNames : List String := Kind.optional.map Kind.name

def checkFeatures (names : List String) : Checked (List String) :=
  match names.filter fun name => !featureNames.contains name with
  | [] => .ok (names.eraseDups.mergeSort fun a b => a ≤ b)
  | unknown =>
    .error [⟨"features", none, "value_error",
      "Value error, unknown feature(s) " ++ ", ".intercalate unknown ++ ", expected one of " ++
        ", ".intercalate featureNames⟩]

def readFeatures : Document → Checked (List String)
  | .array items =>
    let faults := items.zipIdx.filterMap fun (item, index) =>
      if item.text?.isSome then none
      else some ⟨"features", some index, "string_type", "Input should be a valid string"⟩
    if faults.isEmpty then checkFeatures (items.filterMap Document.text?) else .error faults
  | _ => .error [⟨"features", none, "list_type", "Input should be a valid list"⟩]

def fieldNames : List String := [
  "spec", "features", "types_module", "runtime_module", "id_collection_schema", "out_dir",
  "generic_file", "wrapped_file", "updated_spec_file", "path_aliases"]

def unknownFields (members : Members) : List SettingFault :=
  let unknown := members.filter fun member => !fieldNames.any fun name => member.1 == .text name
  unknown.map fun member =>
    ⟨member.1.display, none, "extra_forbidden", "Extra inputs are not permitted"⟩

def field {α : Type} (members : Members) (name : String) (default : α)
    (read : String → Document → Checked α) : Checked α :=
  match Members.get? members name with
  | none => .ok default
  | some value => read name value

def faultsOf {α : Type} : Checked α → List SettingFault
  | .ok _ => []
  | .error faults => faults

def ofMembers (members : Members) : Except Failure Settings :=
  let defaults : Settings := {}
  let spec := field members "spec" defaults.spec readOptionalText
  let features := field members "features" defaults.features fun _ => readFeatures
  let typesModule := field members "types_module" defaults.typesModule readText
  let runtimeModule := field members "runtime_module" defaults.runtimeModule readText
  let idCollectionSchema :=
    field members "id_collection_schema" defaults.idCollectionSchema readText
  let outDir := field members "out_dir" defaults.outDir readText
  let genericFile := field members "generic_file" defaults.genericFile readText
  let wrappedFile := field members "wrapped_file" defaults.wrappedFile readText
  let updatedSpecFile :=
    field members "updated_spec_file" defaults.updatedSpecFile readOptionalText
  let pathAliases := field members "path_aliases" defaults.pathAliases readTruth
  let checked : Checked Settings := do
    return ⟨← spec, ← features, ← typesModule, ← runtimeModule, ← idCollectionSchema, ← outDir,
      ← genericFile, ← wrappedFile, ← updatedSpecFile, ← pathAliases⟩
  let faults := faultsOf spec ++ faultsOf features ++ faultsOf typesModule ++
    faultsOf runtimeModule ++ faultsOf idCollectionSchema ++ faultsOf outDir ++
    faultsOf genericFile ++ faultsOf wrappedFile ++ faultsOf updatedSpecFile ++
    faultsOf pathAliases ++ unknownFields members
  match checked, faults with
  | .ok settings, [] => .ok settings
  | _, faults => .error (.invalidSettings faults)

end Settings

end ClientGen
