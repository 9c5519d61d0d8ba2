import ClientGen.Proofs.Operation.Prepared
import ClientGen.Proofs.Text.Capitals

/-!
The names of the types that are made for parameters with an enumeration or a pattern. Such a name is
written from the words of the operation id and the name of the parameter with nothing between them,
so parameters share a type where the capitals do not tell the words apart.
-/
namespace ClientGen

open Outcome

namespace Parameter

variable {operationId operationId' name name' : String}

/-- Whether each word of an operation id begins with a small letter of ASCII and has no capital of
ASCII. -/
def SmallWords (operationId : String) : Prop :=
  ∀ word ∈ operationId.toList.splitOn '_', Text.IsWord Char.isLower word

instance : DecidablePred SmallWords := fun operationId =>
  inferInstanceAs (Decidable (∀ word ∈ operationId.toList.splitOn '_', Text.IsWord _ word))

def typeWords (operationId name : String) : List (List Char) :=
  operationId.toList.splitOn '_' ++ [name.toList]

theorem toList_typeNameFor (operationId name : String) : (typeNameFor operationId name).toList =
    ((typeWords operationId name).map Text.withCapital).flatten := by
  have hcapital : Text.withCapital = fun word => (Text.capitalize (.ofList word)).toList := rfl
  simp [typeNameFor, typeWords, hcapital, List.flatMap, Function.comp_def]

/-- With one operation id, type names are the same where the names are with a capital. -/
theorem typeNameFor_right_inj :
    typeNameFor operationId name = typeNameFor operationId name' ↔
      Text.capitalize name = Text.capitalize name' := by
  rw [← String.toList_inj, toList_typeNameFor, toList_typeNameFor, ← String.toList_inj]
  simp [typeWords, Text.withCapital_toList]

theorem isWord_withCapital_typeWords (small : SmallWords operationId)
    (word : Text.IsWord Char.isAlpha name.toList) :
    ∀ word ∈ (typeWords operationId name).map Text.withCapital,
      Text.IsWord Char.isUpper word := by
  rw [typeWords, List.forall_mem_map, List.forall_mem_append, List.forall_mem_singleton]
  exact ⟨fun part hpart => (small part hpart).isAlpha.withCapital, word.withCapital⟩

/-- Where capitals tell the words apart, a type name gives back the operation id, and the name of
the parameter but for the case of its first letter. -/
theorem typeNameFor_inj (small : SmallWords operationId) (small' : SmallWords operationId')
    (word : Text.IsWord Char.isAlpha name.toList) (word' : Text.IsWord Char.isAlpha name'.toList) :
    typeNameFor operationId name = typeNameFor operationId' name' ↔
      operationId = operationId' ∧ Text.capitalize name = Text.capitalize name' := by
  constructor
  · intro h
    rw [← String.toList_inj, toList_typeNameFor, toList_typeNameFor] at h
    have hwords := Text.flatten_inj_of_capital (isWord_withCapital_typeWords small word)
      (isWord_withCapital_typeWords small' word') h
    rw [typeWords, typeWords, List.map_append, List.map_append] at hwords
    obtain ⟨hid, hname⟩ := List.append_inj' hwords (by simp)
    have hsplit := (Text.map_withCapital_inj small small').mp hid
    have hjoin := congrArg (List.intercalate ['_']) hsplit
    rw [List.intercalate_splitOn, List.intercalate_splitOn] at hjoin
    refine ⟨String.toList_inj.mp hjoin, String.toList_inj.mp ?_⟩
    simpa [Text.withCapital_toList] using hname
  · rintro ⟨rfl, hname⟩
    exact typeNameFor_right_inj.mpr hname

/-- A type that makes values of its own is named after the operation and the parameter. -/
theorem typeName_of_schemaType {schema : Document} {type : ParameterType}
    (h : schemaType schema operationId name = .ok type) (constructed : type.isConstructed = true) :
    type.typeName = some (typeNameFor operationId name) := by
  unfold schemaType at h
  split at h
  · cases h
    cases constructed
  · cases h
  · split at h
    · dsimp only [textType] at h
      split at h
      · cases h
      · cases h
        rfl
      · cases h
        rfl
      · cases h
        cases constructed
    · cases h

end Parameter

namespace Operation

open Parameter

variable {document : Document} {idCollection : String} {collection : Collection}
  {a b : Operation} {p q : Parameter}

/-- The type of a parameter of a collected operation, if it makes values of its own, is named after
both. -/
theorem typeName_of_collect (h : collect document idCollection = .ok collection)
    (ha : a ∈ collection.operations) (hp : p ∈ a.parameters)
    (constructed : p.type.isConstructed = true) :
    p.type.typeName = some (typeNameFor a.operationId p.name) := by
  obtain ⟨-, item, raw, origin⟩ := origin_of_collect h ha
  obtain ⟨object, hread⟩ := read_of_mem_parameters origin.extracted hp
  obtain ⟨schema, -, htype⟩ := schemaType_of_read hread
  exact typeName_of_schemaType htype constructed

/-- When two parameters of collected operations share the name of a type that makes values of its
own: with one operation id, if their names are the same with a capital; and wherever capitals tell
words apart, only with one operation id. -/
theorem shared_typeName_iff (h : collect document idCollection = .ok collection)
    (ha : a ∈ collection.operations) (hb : b ∈ collection.operations) (hp : p ∈ a.parameters)
    (hq : q ∈ b.parameters) (hpc : p.type.isConstructed = true)
    (hqc : q.type.isConstructed = true) :
    (a.operationId = b.operationId →
      (p.type.typeName = q.type.typeName ↔ Text.capitalize p.name = Text.capitalize q.name)) ∧
    (SmallWords a.operationId → SmallWords b.operationId →
      (Text.IsWord Char.isAlpha p.name.toList → Text.IsWord Char.isAlpha q.name.toList →
        (p.type.typeName = q.type.typeName ↔
          a.operationId = b.operationId ∧ Text.capitalize p.name = Text.capitalize q.name)) ∧
      (Text.IsWord Char.isLower p.name.toList → Text.IsWord Char.isLower q.name.toList →
        (p.type.typeName = q.type.typeName ↔
          a.operationId = b.operationId ∧ p.name = q.name))) := by
  rw [typeName_of_collect h ha hp hpc, typeName_of_collect h hb hq hqc, Option.some_inj]
  refine ⟨fun hid => ?_, fun hsmall hsmall' => ⟨typeNameFor_inj hsmall hsmall', ?_⟩⟩
  · rw [hid]
    exact typeNameFor_right_inj
  · intro hword hword'
    rw [typeNameFor_inj hsmall hsmall' hword.isAlpha hword'.isAlpha,
      Text.capitalize_inj hword hword']

def choiceParameter (name : String) (values : List String) : Document :=
  .object [(.text "name", .text name), (.text "in", .text "query"),
    (.text "schema", .object [(.text "type", .text "string"),
      (.text "enum", .array (values.map .text))])]

/-- Paths whose parameters share types: two names of one operation that differ in the case of the
first letter, a name that goes on where a longer id does, and ids with a number as a word. -/
def choiceDocument : Document := .object [
  (.text "paths", .object [
    (.text "/allocation/\x7btenant\x7d/task",
      readItem [pathParameter "tenant", choiceParameter "logKind" ["job", "service"],
        choiceParameter "kind" ["batch"], choiceParameter "Kind" ["daily"]]),
    (.text "/allocation/\x7btenant\x7d/task/log",
      readItem [pathParameter "tenant", choiceParameter "kind" ["text"]]),
    (.text "/allocation/\x7btenant\x7d/v-1",
      readItem [pathParameter "tenant", choiceParameter "kind" ["old"]]),
    (.text "/allocation/\x7btenant\x7d/v1",
      readItem [pathParameter "tenant", choiceParameter "kind" ["new"]])])]

def choicePrepared : Document := (Update.update [] choiceDocument).toOption.getD .null

theorem update_choiceDocument : Update.update [] choiceDocument = .ok choicePrepared := by
  decide +kernel

/-- A parameter that takes one of some values, as it is read. -/
def chosen (name typeName : String) : Parameter := ⟨name, ⟨.enumerated, some typeName⟩, none⟩

def choiceRead (path : String) (segments : List Segment) (id selector : String)
    (parameters : List Parameter) : Operation :=
  { sampleOperation .get path (.literal "allocation" :: .placeholder "tenant" :: segments) id
      selector with
    parameters
    requiresToken := true }

def taskRead : Operation :=
  choiceRead "/allocation/\x7btenant\x7d/task" [.literal "task"] "get_task" "task"
    [chosen "logKind" "GetTaskLogKind", chosen "kind" "GetTaskKind", chosen "Kind" "GetTaskKind"]

def taskLogRead : Operation :=
  choiceRead "/allocation/\x7btenant\x7d/task/log" [.literal "task", .literal "log"]
    "get_task_log" "task-log" [chosen "kind" "GetTaskLogKind"]

/-- An operation of a version that is written as one word or as two. -/
def versionRead (literal id : String) : Operation :=
  choiceRead ("/allocation/\x7btenant\x7d/" ++ literal) [.literal literal] id literal
    [chosen "kind" "GetV1Kind"]

def choiceReads : List Operation :=
  [taskRead, taskLogRead, versionRead "v-1" "get_v_1", versionRead "v1" "get_v1"]

def choiceCollection : Collection :=
  [(.get, choiceReads), (.delete, []), (.post, []), (.put, [])]

theorem collect_choicePrepared :
    collect choicePrepared "ChildList" = .ok choiceCollection := by
  have hreads : collectMethod choicePrepared "ChildList" .get = .ok choiceReads :=
    collectMethod_of_ordered choiceReads (by decide +kernel) (by decide +kernel)
      (by decide +kernel)
  refine collect_of_methods ?_ ?_ hreads ?_ ?_ ?_
  all_goals decide +kernel

theorem mem_choiceCollection {a : Operation} (h : a ∈ choiceReads) :
    a ∈ choiceCollection.operations := by
  simpa [Collection.operations, choiceCollection] using h

theorem taskRead_mem : taskRead ∈ choiceCollection.operations :=
  mem_choiceCollection (by simp [choiceReads])

theorem taskLogRead_mem : taskLogRead ∈ choiceCollection.operations :=
  mem_choiceCollection (by simp [choiceReads])

/-- Whether two parameters share the name of a type that makes values of its own. -/
def ShareType (p q : Parameter) : Prop :=
  p.type.isConstructed = true ∧ q.type.isConstructed = true ∧ p.type.typeName = q.type.typeName

instance (p q : Parameter) : Decidable (ShareType p q) :=
  inferInstanceAs (Decidable (_ ∧ _ ∧ p.type.typeName = q.type.typeName))

/-- Parameters of one operation share a type, and so do parameters of operations of different
ids. -/
theorem constructed_types_shared :
    Update.update [] choiceDocument = .ok choicePrepared ∧
    collect choicePrepared "ChildList" = .ok choiceCollection ∧
    (∃ a ∈ choiceCollection.operations, ∃ p ∈ a.parameters, ∃ q ∈ a.parameters,
      ShareType p q ∧ p.name ≠ q.name) ∧
    (∃ a ∈ choiceCollection.operations, ∃ b ∈ choiceCollection.operations,
      SmallWords a.operationId ∧ SmallWords b.operationId ∧ a.operationId ≠ b.operationId ∧
        ∃ p ∈ a.parameters, ∃ q ∈ b.parameters, ShareType p q) ∧
    (∃ a ∈ choiceCollection.operations, ∃ b ∈ choiceCollection.operations,
      a.operationId ≠ b.operationId ∧ ∃ p ∈ a.parameters, ∃ q ∈ b.parameters,
        ShareType p q ∧ Text.IsWord Char.isLower p.name.toList ∧ p.name = q.name) := by
  refine ⟨update_choiceDocument, collect_choicePrepared, ?_, ?_, ?_⟩
  · refine ⟨taskRead, taskRead_mem, chosen "kind" "GetTaskKind", ?_, chosen "Kind" "GetTaskKind",
      ?_, by decide, by decide⟩
    all_goals simp [taskRead, choiceRead]
  · refine ⟨taskRead, taskRead_mem, taskLogRead, taskLogRead_mem, by decide +kernel,
      by decide +kernel, by decide, chosen "logKind" "GetTaskLogKind", ?_,
      chosen "kind" "GetTaskLogKind", ?_, by decide⟩
    all_goals simp [taskRead, taskLogRead, choiceRead]
  · refine ⟨versionRead "v-1" "get_v_1", mem_choiceCollection (by simp [choiceReads]),
      versionRead "v1" "get_v1", mem_choiceCollection (by simp [choiceReads]), by decide +kernel,
      chosen "kind" "GetV1Kind", ?_, chosen "kind" "GetV1Kind", ?_, by decide, by decide, rfl⟩
    all_goals simp [versionRead, choiceRead]

/-- The kind of a task is no kind of a log, but it is the other kind of the task. -/
theorem shared_typeName_iff_kinds :
    collect choicePrepared "ChildList" = .ok choiceCollection ∧
    ¬ ShareType (chosen "kind" "GetTaskKind") (chosen "kind" "GetTaskLogKind") ∧
    ShareType (chosen "kind" "GetTaskKind") (chosen "Kind" "GetTaskKind") := by
  have hkind : chosen "kind" "GetTaskKind" ∈ taskRead.parameters := by
    simp [taskRead, choiceRead]
  refine ⟨collect_choicePrepared, ?_, rfl, rfl, ?_⟩
  · rintro ⟨hpc, hqc, htype⟩
    have hiff := (shared_typeName_iff collect_choicePrepared taskRead_mem taskLogRead_mem hkind
      (by simp [taskLogRead, choiceRead]) hpc hqc).2 (by decide +kernel) (by decide +kernel)
    have hsame := (hiff.2 (by decide) (by decide)).mp htype
    exact absurd hsame.1 (by decide)
  · have hiff := shared_typeName_iff (q := chosen "Kind" "GetTaskKind") collect_choicePrepared
      taskRead_mem taskRead_mem hkind (by simp [taskRead, choiceRead]) rfl rfl
    exact (hiff.1 rfl).mpr (by decide +kernel)

end Operation

end ClientGen
