import ClientGen.Proofs.Schema.Innermost
import ClientGen.Proofs.TypeExpression.Annotation

/-!
The texts of types as type expressions. What the types of schemas are written as is an annotation,
however deep arrays and maps are nested, and only the name at its innermost place is imported.
-/
namespace ClientGen

namespace TypeExpression

variable {item value : TypeExpression}

theorem mergeLevels_nil (levels : List (List String)) : mergeLevels levels [] = levels := by
  cases levels <;> rfl

/-- What a name that needs no import adds to the first of some levels is left out. -/
theorem filter_mergeLevels {name : String} (builtin : name ∈ builtinNames)
    (levels : List (List String)) :
    (mergeLevels [[name]] levels).flatten.filter (fun name => !builtinNames.contains name) =
      levels.flatten.filter fun name => !builtinNames.contains name := by
  cases levels <;> simp [mergeLevels, builtin]

theorem importedNames_name (name : String) :
    importedNames (.name name) = if builtinNames.contains name then [] else [name] := by
  by_cases h : name ∈ builtinNames <;> simp [importedNames, levels, h]

theorem importedNames_list : importedNames (.subscript (.name "list") item) = item.importedNames :=
  filter_mergeLevels (by decide) item.levels

theorem importedNames_dict :
    importedNames (.subscript (.name "dict") (.tuple [.name "str", value])) =
      value.importedNames := by
  have hlevels : levelsOf [.name "str", value] = mergeLevels [["str"]] value.levels := by
    simp [levels, levelsOf, mergeLevels_nil]
  calc importedNames (.subscript (.name "dict") (.tuple [.name "str", value]))
      = (mergeLevels [["str"]] value.levels).flatten.filter
          (fun name => !builtinNames.contains name) := by
        rw [← hlevels]
        exact filter_mergeLevels (by decide) ([] :: levelsOf [.name "str", value])
    _ = value.importedNames := filter_mergeLevels (by decide) value.levels

/-- A word that is an identifier in normal form, and not reserved, writes itself. -/
theorem writes_self {name : String} (identifier : Text.isIdentifier name = true)
    (free : Text.isKeyword name = false) (normal : Text.normalize name = name) :
    Writes name.toList name where
  identifier := identifier
  free := by rwa [String.ofList_toList]
  normal := by rwa [String.ofList_toList]

theorem writes_str : Writes "str".toList "str" :=
  writes_self (by decide) (by decide) (by decide +kernel)

theorem writes_list : Writes "list".toList "list" :=
  writes_self (by decide) (by decide) (by decide +kernel)

theorem writes_dict : Writes "dict".toList "dict" :=
  writes_self (by decide) (by decide) (by decide +kernel)

end TypeExpression

namespace TypeShape

open TypeExpression

variable {shape : TypeShape} {expression : TypeExpression}

/-- A type is written as an annotation if its innermost type is, and both import the same names. -/
theorem annotation_render (h : Annotation shape.innermost.render.toList expression) :
    ∃ whole, Annotation shape.render.toList whole ∧
      whole.importedNames = expression.importedNames := by
  induction shape with
  | list item ih =>
    obtain ⟨inside, hinside, hnames⟩ := ih h
    refine ⟨_, ?_, importedNames_list.trans hnames⟩
    have hlist := Annotation.list writes_list .nil .nil hinside .nil
    simpa [render] using hlist
  | map value ih =>
    obtain ⟨inside, hinside, hnames⟩ := ih h
    refine ⟨_, ?_, importedNames_dict.trans hnames⟩
    have hblank : Gaps [' '] := by simp [Gaps, isGap]
    have hdict := Annotation.dict writes_dict .nil .nil writes_str .nil hblank hinside .nil
    simpa [render] using hdict
  | _ => exact ⟨expression, h, rfl⟩

theorem ofReference_place (name : String) :
    ofReference (Reference.schemaPlace ++ name) = named name := by
  have hdrop : Text.dropStart? Reference.schemaPlace (Reference.schemaPlace ++ name) =
      some name := by
    simp [Text.dropStart?, ← String.length_toList]
  rw [ofReference, hdrop]

theorem typeNames_render (h : Annotation shape.innermost.render.toList expression) :
    typeNames shape.render = .ok expression.importedNames := by
  obtain ⟨whole, hwhole, hnames⟩ := annotation_render h
  exact typeNames_eq_ok_iff.mpr ⟨whole, hwhole.parse?, hnames.symm⟩

/-- The text of the type of a schema is read back, at every depth of arrays and maps. The schema
that a reference at the innermost place names has to be imported, if its name is no built-in
one. -/
theorem typeNames_of_schema {schema : Document} {leaf : Members} {shape : TypeShape}
    (h : ofSchema schema = .ok shape) (encloses : Encloses schema leaf) :
    (∀ name, Text.isIdentifier name = true → Text.isKeyword name = false →
      Text.normalize name = name →
      Members.get? leaf "$ref" = some (.text (Reference.schemaPlace ++ name)) →
      typeNames shape.render = .ok (if name ∈ ["str", "list", "dict"] then [] else [name])) ∧
    (Members.get? leaf "$ref" = none → Members.get? leaf "type" = some (.text "string") →
      typeNames shape.render = .ok []) := by
  obtain ⟨outer, inner, hinner, hinnermost⟩ := innermost_of_encloses encloses h
  constructor
  · intro name identifier free normal href
    simp only [ofSchemaWithin, href, ofReference_place] at hinner
    cases hinner
    have hname : Annotation shape.innermost.render.toList (.name name) := by
      rw [hinnermost]
      exact .name (writes_self identifier free normal)
    rw [typeNames_render hname, importedNames_name]
    simp [builtinNames]
  · intro hnone hkind
    simp only [ofSchemaWithin, hnone, hkind] at hinner
    cases hinner
    have hstr : Annotation shape.innermost.render.toList (.name "str") := by
      rw [hinnermost]
      exact .name writes_str
    rw [typeNames_render hstr, importedNames_name]
    simp [builtinNames]

def nestedTasks : Document := .object [
  (.text "type", .text "array"),
  (.text "items", .object [
    (.text "type", .text "object"),
    (.text "additionalProperties", .object [
      (.text "$ref", .text "#/components/schemas/Task")])])]

theorem typeNames_of_nestedTasks : ofSchema nestedTasks = .ok (.list (.map (.named "Task"))) ∧
    typeNames "list[dict[str, Task]]" = .ok ["Task"] := by
  have hshape : ofSchema nestedTasks = .ok (.list (.map (.named "Task"))) := by rfl
  have hencloses : Encloses nestedTasks [(.text "$ref", .text "#/components/schemas/Task")] := by
    refine .items (by decide +kernel) (by decide +kernel) rfl ?_
    exact .values (by decide +kernel) (by decide +kernel) rfl .self
  have hnames := (typeNames_of_schema hshape hencloses).1 "Task" (by decide) (by decide)
    (by decide +kernel) (by decide +kernel)
  have hrender : (list (map (named "Task"))).render = "list[dict[str, Task]]" := by decide +kernel
  rw [hrender] at hnames
  exact ⟨hshape, by simpa using hnames⟩

end TypeShape

end ClientGen
