import ClientGen.Proofs.Client.Bodies
import ClientGen.Proofs.Operation.Prepared

/-!
Names at the top of the generic module. The module imports the types of the schemas after the names
that it needs itself and before the names that it defines, so a schema can have a name that stands
for something else where a handler converts a value to it.
-/
namespace ClientGen.Client

open Operation Outcome

variable {collection : Collection} {modules : Modules} {byPath : Bool} {document : Document}
  {text version : String} {types : List String} {views : List MethodView}

/-- A statement at the top of a module, by the names that it binds. Documentation, comments and
blank lines bind none. -/
inductive Statement where
  | inert (text : String)
  | imports (source : String) (names : List String)
  | importLines (source : String) (names : List String)
  | assignment (name : String) (type : Option String) (value : String)
  | function (name rest : String)
  | classBody (name rest : String)
deriving DecidableEq, Repr

namespace Statement

def render : Statement → String
  | inert text => text
  | imports source names => "from " ++ source ++ " import " ++ ", ".intercalate names ++ "\n"
  | importLines source names =>
    "from " ++ source ++ " import (\n" ++
      String.join (names.map fun name => "    " ++ name ++ ",\n") ++ ")\n"
  | assignment name none value => name ++ " = " ++ value ++ "\n"
  | assignment name (some type) value => name ++ ": " ++ type ++ " = " ++ value ++ "\n"
  | function name rest => "async def " ++ name ++ "(" ++ rest
  | classBody name rest => "class " ++ name ++ ":\n" ++ rest

def binds : Statement → List String
  | inert _ => []
  | imports _ names | importLines _ names => names
  | assignment name _ _ | function name _ | classBody name _ => [name]

def renderAll (statements : List Statement) : String := String.join (statements.map render)

theorem renderAll_append (first second : List Statement) :
    renderAll (first ++ second) = renderAll first ++ renderAll second := by
  rw [renderAll, List.map_append, String.join_append]
  rfl

theorem renderAll_cons (first : Statement) (rest : List Statement) :
    renderAll (first :: rest) = first.render ++ renderAll rest := by
  rw [renderAll, List.map_cons, String.join_cons]
  rfl

theorem renderAll_nil : renderAll [] = "" := rfl

theorem renderAll_flatMap {α : Type} (parts : α → List Statement) (as : List α) :
    renderAll (as.flatMap parts) = String.join (as.map fun a => renderAll (parts a)) := by
  induction as with
  | nil => rfl
  | cons a as ih =>
    rw [List.flatMap_cons, renderAll_append, ih, List.map_cons, String.join_cons]

end Statement

open Statement

def helperNames : List String := ["ConfigurationError", "MethodDescriptor", "check_body",
  "check_parameters", "parse_constructed", "parse_json", "parse_json_string", "to_ids",
  "to_serializable"]

def statementsBefore (version : String) (modules : Modules) : List Statement := [
  .inert ("\"\"\"Generic client for the DSH resource management API.\n\n" ++
    "Generated by dsh-api-build " ++ generatorVersion ++ " from API version " ++
    docText version ++ ". Do not edit.\n\n" ++
    "Operations are chosen by selector, operation id or path template and take\n" ++
    "their parameters as a list of strings::\n\n" ++
    "    bucket = await client.get(\"bucket\", [\"my-bucket\"])\n" ++
    "    await client.put(\"secret\", [\"my-secret\"], '\"ABCDEF\"')\n\n" ++
    "``get`` returns JSON-compatible data, the other methods return ``None``.\n\"\"\"\n\n"),
  .imports "__future__" ["annotations"], .inert "\n",
  .imports "collections.abc" ["Awaitable", "Callable", "Sequence"],
  .imports "typing" ["Any", "Optional"], .inert "\n",
  .importLines modules.runtime helperNames]

def typeStatements (modules : Modules) (types : List String) : List Statement :=
  if types.isEmpty then [] else [.importLines modules.types types]

def aliasStatements : List Statement :=
  [.inert "\n", .assignment "Handler" none
    "Callable[[Any, Sequence[str], Optional[str]], Awaitable[Any]]"]

theorem render_typeStatements (modules : Modules) (types : List String) :
    renderAll (typeStatements modules types) = typeImport modules types := by
  unfold typeStatements typeImport
  split
  · rfl
  · rw [renderAll_cons, renderAll_nil, String.append_empty]
    rfl

theorem render_head (version : String) (modules : Modules) (types : List String) :
    renderAll (statementsBefore version modules ++ typeStatements modules types ++
      aliasStatements) = genericHead version modules types := by
  have hfuture : "from __future__ import annotations\n\n" =
      render (.imports "__future__" ["annotations"]) ++ "\n" := by decide +kernel
  have habc : "from collections.abc import Awaitable, Callable, Sequence\n" =
      render (.imports "collections.abc" ["Awaitable", "Callable", "Sequence"]) := by
    decide +kernel
  have htyping : "from typing import Any, Optional\n\nfrom " =
      render (.imports "typing" ["Any", "Optional"]) ++ ("\n" ++ "from ") := by decide +kernel
  have halias : renderAll aliasStatements =
      "\nHandler = Callable[[Any, Sequence[str], Optional[str]], Awaitable[Any]]\n" := by
    decide +kernel
  have hinert (text : String) : render (.inert text) = text := rfl
  have hhelpers : render (.importLines modules.runtime helperNames) =
      "from " ++ modules.runtime ++ " import (\n" ++
        String.join (helperNames.map fun name => "    " ++ name ++ ",\n") ++ ")\n" := rfl
  rw [renderAll_append, renderAll_append, render_typeStatements]
  unfold statementsBefore genericHead
  simp only [renderAll_cons, renderAll_nil, halias, hfuture, habc, htyping, hinert, hhelpers,
    String.append_assoc, String.empty_append]
  rfl

def HandlerView.behindName (view : HandlerView) : String :=
  "client: Any, parameters: Sequence[str], body: Optional[str]) -> Any:\n" ++
    (String.join (view.comments.map fun line => "    # " ++ line ++ "\n") ++
    (s!"    check_parameters(parameters, {view.parameterCount})\n" ++
    ((if view.checksBody then
      "    check_body(body, " ++ (Literal.ofText? view.bodyType).render ++ ")\n" else "") ++
    ("    " ++ (resultBinding view.hasResult ++ ("await client." ++ view.closing))))))

def HandlerView.statements (view : HandlerView) : List Statement :=
  [.inert "\n\n", .function view.handler view.behindName]

theorem HandlerView.render_statements (view : HandlerView) :
    renderAll view.statements = view.render := by
  have hname : "\n\nasync def " = "\n\n" ++ "async def " := by decide +kernel
  have hsignature :
      "(client: Any, parameters: Sequence[str], body: Optional[str]) -> Any:\n" =
        "(" ++ "client: Any, parameters: Sequence[str], body: Optional[str]) -> Any:\n" := by
    decide +kernel
  rw [render_eq_opening]
  unfold HandlerView.statements HandlerView.behindName HandlerView.opening
  simp only [renderAll_cons, renderAll_nil, Statement.render, hname, hsignature,
    String.append_assoc, String.append_empty]

def handlersTable (method : Method) : String := "_" ++ (method.upperName ++ "_HANDLERS")

def methodsTable (method : Method) : String := method.upperName ++ "_METHODS"

def MethodView.dispatchText (view : MethodView) : String :=
  String.join (view.dispatch.map fun (key, handler) =>
    "    " ++ (Literal.text key).render ++ ": " ++ handler ++ ",\n")

def MethodView.descriptorText (view : MethodView) : String :=
  if view.handlers.isEmpty then ")"
  else "\n" ++ String.join (view.handlers.map HandlerView.renderDescriptor) ++ ")"

def MethodView.statements (view : MethodView) : List Statement :=
  .inert ("\n\n# --- " ++ view.method.name ++ " ---\n") ::
    view.handlers.flatMap HandlerView.statements ++
    [.inert "\n\n",
      .assignment (handlersTable view.method) (some "dict[str, Handler]")
        ("\x7b\n" ++ view.dispatchText ++ "\x7d"),
      .inert "\n",
      .assignment (methodsTable view.method) (some "tuple[tuple[str, MethodDescriptor], ...]")
        ("(" ++ view.descriptorText)]

theorem MethodView.render_statements (view : MethodView) :
    renderAll view.statements = view.render := by
  have hhandlers : (view.handlers.map fun handler => renderAll handler.statements) =
      view.handlers.map HandlerView.render :=
    List.map_congr_left fun handler _ => handler.render_statements
  have hstart : "\n\n_" = "\n\n" ++ "_" := by decide +kernel
  have htyped : "_HANDLERS: dict[str, Handler] = \x7b\n" =
      "_HANDLERS" ++ (": " ++ ("dict[str, Handler]" ++ (" = " ++ "\x7b\n"))) := by decide +kernel
  have hend : "\x7d\n\n" = "\x7d" ++ ("\n" ++ "\n") := by decide +kernel
  have htuple : "_METHODS: tuple[tuple[str, MethodDescriptor], ...] = (" =
      "_METHODS" ++ (": " ++ ("tuple[tuple[str, MethodDescriptor], ...]" ++ (" = " ++ "("))) := by
    decide +kernel
  have hclose : ")\n" = ")" ++ "\n" := by decide +kernel
  unfold MethodView.statements MethodView.render MethodView.descriptorText MethodView.dispatchText
    handlersTable methodsTable
  rw [renderAll_append, renderAll_cons, renderAll_flatMap, hhandlers]
  split <;>
    simp only [renderAll_cons, renderAll_nil, Statement.render, hstart, htyped, hend, htuple,
      hclose, String.append_assoc, String.append_empty]

/-- The signature and the body of the function that calls handlers. -/
def dispatchDefinition : String :=
  "\n    method: str,\n    handlers: dict[str, Handler],\n" ++
    "    client: Any,\n    selector: str,\n    parameters: Sequence[str],\n" ++
    "    body: Optional[str],\n) -> Any:\n    if not handlers:\n" ++
    "        raise ConfigurationError(f\"no \x7bmethod\x7d methods available\")\n" ++
    "    handler = handlers.get(selector)\n    if handler is None:\n" ++
    "        raise ConfigurationError(f\"\x7bmethod\x7d method selector " ++
    "'\x7bselector\x7d' not recognized\")\n" ++
    "    return await handler(client, parameters, body)\n"

def clientDoc : String :=
  "    \"\"\"Generic ``get``, ``delete``, ``post`` and ``put`` calls.\n\n" ++
    "    Mixed into the DSH API client, which provides ``generated_client``,\n" ++
    "    ``tenant_name``, ``token()``, ``process()`` and ``process_string()``.\n    \"\"\"\n"

def statementsAfter (views : List MethodView) : List Statement :=
  aliasStatements ++ views.flatMap MethodView.statements ++
    [.inert "\n\n", .function "_dispatch" dispatchDefinition, .inert "\n\n",
      .classBody "GenericClientMixin"
        (clientDoc ++ String.join (views.map MethodView.renderCoroutine))]

def genericStatements (version : String) (modules : Modules) (types : List String)
    (views : List MethodView) : List Statement :=
  statementsBefore version modules ++ typeStatements modules types ++ statementsAfter views

theorem render_genericStatements (version : String) (modules : Modules) (types : List String)
    (views : List MethodView) :
    renderAll (genericStatements version modules types views) =
      genericHead version modules types ++ String.join (views.map MethodView.render) ++
        genericDispatch ++ String.join (views.map MethodView.renderCoroutine) := by
  have hviews : (views.map fun view => renderAll view.statements) = views.map MethodView.render :=
    List.map_congr_left fun view _ => view.render_statements
  have hdispatch : genericDispatch = "\n\n" ++ ("async def " ++ ("_dispatch" ++ ("(" ++
      (dispatchDefinition ++ ("\n\n" ++ ("class " ++ ("GenericClientMixin" ++ (":\n" ++
        clientDoc)))))))) := by
    decide +kernel
  rw [genericStatements, statementsAfter, ← List.append_assoc, ← List.append_assoc,
    renderAll_append, renderAll_append, render_head, renderAll_flatMap, hviews, hdispatch]
  simp only [renderAll_cons, renderAll_nil, Statement.render, String.append_assoc,
    String.append_empty]

def namesBefore : List String :=
  ["annotations", "Awaitable", "Callable", "Sequence", "Any", "Optional"] ++ helperNames

def namesAfter (collection : Collection) : List String :=
  "Handler" :: (collection.flatMap fun entry =>
    entry.2.map handlerName ++ [handlersTable entry.1, methodsTable entry.1]) ++
    ["_dispatch", "GenericClientMixin"]

theorem binds_statementsBefore (version : String) (modules : Modules) :
    (statementsBefore version modules).flatMap Statement.binds = namesBefore := rfl

theorem MethodView.binds_statements {entry : Method × List Operation} {view : MethodView}
    (h : Serves byPath entry view) : view.statements.flatMap Statement.binds =
      entry.2.map handlerName ++ [handlersTable entry.1, methodsTable entry.1] := by
  have hhandlers : (view.handlers.flatMap HandlerView.statements).flatMap Statement.binds =
      entry.2.map handlerName := by
    rw [h.handlers_eq, List.flatMap_assoc, List.flatMap_map]
    exact List.flatMap_pure_eq_map handlerName entry.2
  rw [MethodView.statements, List.cons_append, List.flatMap_cons, List.flatMap_append, hhandlers,
    h.method_eq]
  rfl

theorem binds_statementsAfter (h : List.Forall₂ (Serves byPath) collection views) :
    (statementsAfter views).flatMap Statement.binds = namesAfter collection := by
  have hviews : (views.flatMap MethodView.statements).flatMap Statement.binds =
      collection.flatMap fun entry =>
        entry.2.map handlerName ++ [handlersTable entry.1, methodsTable entry.1] := by
    rw [List.flatMap_assoc]
    induction h with
    | nil => rfl
    | cons head _ ih =>
      rw [List.flatMap_cons, List.flatMap_cons, MethodView.binds_statements head, ih]
  rw [statementsAfter, List.flatMap_append, List.flatMap_append, hviews]
  rfl

def HandlerArgument.convertedTo? : HandlerArgument → Option String
  | parameter _ type => if type.kind = .plain then none else some type.expression
  | body type => if type.kind = .plain then none else some type.expression
  | tenant | token => none

theorem HandlerArgument.render_of_convertedTo? {argument : HandlerArgument} {type : String}
    (h : argument.convertedTo? = some type) :
    ∃ function ∈ ["parse_json", "parse_constructed"], ∃ value,
      argument.render = function ++ "(" ++ type ++ ", " ++ value ++ ")" := by
  have hjson : "parse_json(" = "parse_json" ++ "(" := by decide
  have hconstructed : "parse_constructed(" = "parse_constructed" ++ "(" := by decide
  have hbody : ", body)" = ", " ++ ("body" ++ ")") := by decide
  cases argument with
  | tenant | token => cases h
  | parameter index type' =>
    obtain ⟨kind, typeName⟩ := type'
    cases kind with
    | plain => cases h
    | enumerated | patterned =>
      cases h
      refine ⟨"parse_constructed", by simp, s!"parameters[{index}]", ?_⟩
      simp only [HandlerArgument.render, hconstructed]
    | schema =>
      cases h
      refine ⟨"parse_json", by simp, s!"parameters[{index}]", ?_⟩
      simp only [HandlerArgument.render, hjson]
  | body type' =>
    obtain ⟨kind, typeName⟩ := type'
    cases kind with
    | plain => cases h
    | schema =>
      cases h
      refine ⟨"parse_json", by simp, "body", ?_⟩
      simp only [HandlerArgument.render, hjson, hbody, String.append_assoc]

theorem mem_typeTexts_of_convertedTo? {operation : Operation} {argument : HandlerArgument}
    {type : String} (hmem : argument ∈ handlerArguments operation)
    (h : argument.convertedTo? = some type) : type ∈ typeTexts operation := by
  unfold typeTexts
  cases argument with
  | tenant | token => cases h
  | parameter index type' =>
    simp only [HandlerArgument.convertedTo?, Option.ite_none_left_eq_some, Option.some.injEq] at h
    obtain ⟨hkind, rfl⟩ := h
    obtain ⟨parameter, hparameter, rfl⟩ : ∃ parameter ∈ operation.parameters,
        parameter.type = type' := by
      have hindexed : HandlerArgument.parameter index type' ∈
          operation.parameters.mapIdx fun index parameter => .parameter index parameter.type := by
        simpa [handlerArguments] using hmem
      obtain ⟨i, hi, hsame⟩ := List.mem_mapIdx.mp hindexed
      cases hsame
      exact ⟨_, List.getElem_mem hi, rfl⟩
    refine List.mem_append_left _ (List.mem_append_left _ (List.mem_map_of_mem ?_))
    exact List.mem_filter.mpr ⟨hparameter, by simpa using hkind⟩
  | body type' =>
    simp only [HandlerArgument.convertedTo?, Option.ite_none_left_eq_some, Option.some.injEq] at h
    obtain ⟨hkind, rfl⟩ := h
    have hbody : operation.body = some type' := by
      simpa [handlerArguments] using hmem
    have hschema : type'.kind = .schema := by
      cases hcase : type'.kind <;> simp_all
    exact List.mem_append_left _ (List.mem_append_right _ (by simp [hbody, hschema]))

theorem typeNames_of_importedTypes {operations : List Operation}
    (h : importedTypes operations = .ok types) {operation : Operation}
    (hmem : operation ∈ operations) {type : String} (htype : type ∈ typeTexts operation) :
    ∃ names, typeNames type = .ok names ∧ ∀ name ∈ names, name ∈ types := by
  simp only [importedTypes, bind_eq_ok, pure_eq_ok] at h
  obtain ⟨names, hnames, rfl⟩ := h
  obtain ⟨found, hfound, hname⟩ :=
    exists_mem_of_mapM hnames (List.mem_flatMap.mpr ⟨operation, hmem, htype⟩)
  refine ⟨found, hname, fun name hmem => ?_⟩
  rw [List.mem_mergeSort, List.mem_eraseDups]
  exact List.mem_flatten.mpr ⟨found, hfound, hmem⟩

/-- The names that a handler has for itself: its parameters and the variables that it binds. -/
def HandlerView.ownNames (view : HandlerView) : List String :=
  ["client", "parameters", "body"] ++ if view.hasResult then ["_", "result"] else []

/-- The statement that a name within a handler refers to when the handler runs: the last one at the
top of the module that binds it, unless the handler has the name for itself. -/
def HandlerView.referent? (view : HandlerView) (statements : List Statement) (name : String) :
    Option Statement :=
  if name ∈ view.ownNames then none
  else statements.reverse.find? fun statement => statement.binds.contains name

theorem not_importLines_of_mem_statementsAfter {statement : Statement}
    (h : statement ∈ statementsAfter views) (source : String) (names : List String) :
    statement ≠ .importLines source names := by
  rintro rfl
  simp [statementsAfter, aliasStatements, MethodView.statements, HandlerView.statements] at h

/-- A name refers to its import exactly if neither the handler nor a later statement binds it. -/
theorem referent?_eq_import_iff {view : HandlerView} {name : String} (hname : name ∈ types) :
    view.referent? (genericStatements version modules types views) name =
        some (.importLines modules.types types) ↔
      name ∉ view.ownNames ∧ name ∉ (statementsAfter views).flatMap Statement.binds := by
  have htypes : typeStatements modules types = [.importLines modules.types types] := by
    unfold typeStatements
    rw [if_neg]
    simpa using List.ne_nil_of_mem hname
  have himport : (Statement.importLines modules.types types).binds.contains name = true := by
    simpa [Statement.binds] using hname
  unfold HandlerView.referent? genericStatements
  rw [htypes, List.reverse_append, List.reverse_append, List.find?_append, List.find?_append,
    List.reverse_singleton, List.find?_singleton, himport]
  by_cases hown : name ∈ view.ownNames
  · simp [hown]
  rw [if_neg hown, and_iff_right hown]
  cases hlater : (statementsAfter views).reverse.find? fun statement =>
      statement.binds.contains name with
  | none =>
    refine iff_of_true rfl ?_
    rw [List.find?_eq_none] at hlater
    simpa using hlater
  | some statement =>
    have hmem := List.mem_reverse.mp (List.mem_of_find?_eq_some hlater)
    have hbinds : name ∈ statement.binds := by simpa using List.find?_some hlater
    refine iff_of_false (fun hsame => ?_) (fun hfree => ?_)
    · exact not_importLines_of_mem_statementsAfter hmem _ _ (Option.some.inj hsame)
    · exact hfree (List.mem_flatMap.mpr ⟨statement, hmem, hbinds⟩)

/-- Whether the module defines a name: one of its own, a handler or a table of a method. -/
def Defines (collection : Collection) (name : String) : Prop :=
  name ∈ ["Handler", "_dispatch", "GenericClientMixin"] ∨
  (∃ operation ∈ collection.operations, name = handlerName operation) ∨
  ∃ entry ∈ collection, name = handlersTable entry.1 ∨ name = methodsTable entry.1

theorem mem_namesAfter_iff {name : String} :
    name ∈ namesAfter collection ↔ Defines collection name := by
  have hmiddle : (name ∈ collection.flatMap fun entry =>
      entry.2.map handlerName ++ [handlersTable entry.1, methodsTable entry.1]) ↔
        (∃ operation ∈ collection.operations, name = handlerName operation) ∨
        ∃ entry ∈ collection, name = handlersTable entry.1 ∨ name = methodsTable entry.1 := by
    rw [List.mem_flatMap]
    constructor
    · rintro ⟨entry, hentry, hname⟩
      rcases List.mem_append.mp hname with hhandler | htable
      · obtain ⟨operation, hoperation, rfl⟩ := List.mem_map.mp hhandler
        exact .inl ⟨operation, List.mem_flatMap.mpr ⟨entry, hentry, hoperation⟩, rfl⟩
      · exact .inr ⟨entry, hentry, List.mem_pair.mp htable⟩
    · rintro (⟨operation, hoperation, rfl⟩ | ⟨entry, hentry, htable⟩)
      · obtain ⟨entry, hentry, hmem⟩ := List.mem_flatMap.mp hoperation
        exact ⟨entry, hentry, List.mem_append_left _ (List.mem_map_of_mem hmem)⟩
      · exact ⟨entry, hentry, List.mem_append_right _ (List.mem_pair.mpr htable)⟩
  rw [namesAfter, List.mem_append, List.mem_cons, hmiddle, List.mem_pair, Defines, List.mem_cons,
    List.mem_pair]
  generalize ((∃ operation ∈ collection.operations, name = handlerName operation) ∨
    ∃ entry ∈ collection, name = handlersTable entry.1 ∨ name = methodsTable entry.1) = middle
  tauto

/-- A rendered generic module is made of its statements. -/
theorem statements_of_renderGeneric
    (h : renderGeneric collection modules byPath document = .ok text) :
    ∃ version types views, List.Forall₂ (Serves byPath) collection views ∧
      importedTypes collection.operations = .ok types ∧
      text = renderAll (genericStatements version modules types views) := by
  obtain ⟨-, views, version, types, hviews, -, htypes, rfl⟩ := renderGeneric_eq_ok.mp h
  exact ⟨version, types, views, serves_of_mapM hviews, htypes,
    (render_genericStatements version modules types views).symm⟩

theorem mem_binds_besides_iff (hserves : List.Forall₂ (Serves byPath) collection views)
    {name : String} : name ∈ (statementsBefore version modules ++ statementsAfter views).flatMap
      Statement.binds ↔ name ∈ namesBefore ∨ Defines collection name := by
  rw [List.flatMap_append, List.mem_append, binds_statementsBefore, binds_statementsAfter hserves,
    mem_namesAfter_iff]

/-- In a rendered generic module one statement imports the types of the schemas. Another one binds a
name of these exactly if the module needs the name itself or defines it. And wherever a handler
converts a value to a type, each name of the type is imported, and it refers to its import exactly
if the handler does not have the name for itself and the module does not define it. -/
theorem import_shadowed_iff (h : renderGeneric collection modules byPath document = .ok text) :
    ∃ version types views, List.Forall₂ (Serves byPath) collection views ∧
      importedTypes collection.operations = .ok types ∧
      text = renderAll (statementsBefore version modules ++ typeStatements modules types ++
        statementsAfter views) ∧
      (∀ name, name ∈ (statementsBefore version modules ++ statementsAfter views).flatMap
          Statement.binds ↔ name ∈ namesBefore ∨ Defines collection name) ∧
      ∀ operation ∈ collection.operations, ∀ argument ∈ (HandlerView.of operation).arguments,
        ∀ type, argument.convertedTo? = some type →
          (∃ function ∈ ["parse_json", "parse_constructed"], ∃ value,
            argument.render = function ++ "(" ++ type ++ ", " ++ value ++ ")") ∧
          ∃ names, typeNames type = .ok names ∧ ∀ name ∈ names, name ∈ types ∧
            ((HandlerView.of operation).referent?
                (genericStatements version modules types views) name =
                some (.importLines modules.types types) ↔
              name ∉ (HandlerView.of operation).ownNames ∧ ¬Defines collection name) := by
  obtain ⟨version, types, views, hserves, htypes, htext⟩ := statements_of_renderGeneric h
  refine ⟨version, types, views, hserves, htypes, htext,
    fun name => mem_binds_besides_iff hserves, ?_⟩
  intro operation hoperation argument hargument type htype
  obtain ⟨names, hnames, himported⟩ := typeNames_of_importedTypes htypes hoperation
    (mem_typeTexts_of_convertedTo? hargument htype)
  refine ⟨argument.render_of_convertedTo? htype, names, hnames, fun name hname => ?_⟩
  refine ⟨himported name hname, ?_⟩
  rw [referent?_eq_import_iff (himported name hname), binds_statementsAfter hserves,
    mem_namesAfter_iff]

/-- Handlers of tasks that are put, with a schema of the name that the module gives the type of its
own handlers. -/
def handlerDocument : Document := .object [
  (.text "paths", .object [
    (.text "/allocation/\x7btenant\x7d/handler", .object [(.text "put", .object [
      (.text "parameters", .array [pathParameter "tenant"]),
      (.text "requestBody", .object [(.text "content", .object [
        (.text "application/json", .object [(.text "schema", .object [
          (.text "$ref", .text "#/components/schemas/Handler")])])])]),
      (.text "responses", .object [
        (.text "200", .object [(.text "description", .text "ok")])])])])])]

def handlerPrepared : Document := value (Update.update [] handlerDocument) (by decide +kernel)

theorem update_handlerDocument : Update.update [] handlerDocument = .ok handlerPrepared :=
  eq_ok_value _ _

def handlerPut : Operation :=
  { sampleOperation .put "/allocation/\x7btenant\x7d/handler"
      [.literal "allocation", .placeholder "tenant", .literal "handler"] "put_handler"
      "handler" with
    requiresToken := true
    body := some ⟨.schema, some "Handler"⟩ }

def handlerCollection : Collection := [(.get, []), (.delete, []), (.post, []), (.put, [handlerPut])]

theorem collect_handlerPrepared : collect handlerPrepared "ChildList" = .ok handlerCollection := by
  have hputs : collectMethod handlerPrepared "ChildList" .put = .ok [handlerPut] :=
    collectMethod_of_ordered [handlerPut] (by decide +kernel) (by decide +kernel)
      (by decide +kernel)
  refine collect_of_methods ?_ ?_ ?_ ?_ ?_ hputs
  all_goals decide +kernel

def handlerModule : String :=
  value (renderGeneric handlerCollection ({} : Settings).modules true handlerPrepared)
    (by decide +kernel)

theorem renderGeneric_handlers :
    renderGeneric handlerCollection ({} : Settings).modules true handlerPrepared =
      .ok handlerModule :=
  eq_ok_value _ _

theorem import_shadowed_iff_handlers :
    renderGeneric handlerCollection ({} : Settings).modules true handlerPrepared =
      .ok handlerModule ∧
    ∃ version types views, List.Forall₂ (Serves true) handlerCollection views ∧
      importedTypes handlerCollection.operations = .ok types ∧
      handlerModule = renderAll (statementsBefore version ({} : Settings).modules ++
        typeStatements ({} : Settings).modules types ++ statementsAfter views) ∧
      (∀ name, name ∈ (statementsBefore version ({} : Settings).modules ++
          statementsAfter views).flatMap Statement.binds ↔
        name ∈ namesBefore ∨ Defines handlerCollection name) ∧
      ∀ operation ∈ handlerCollection.operations,
        ∀ argument ∈ (HandlerView.of operation).arguments,
        ∀ type, argument.convertedTo? = some type →
          (∃ function ∈ ["parse_json", "parse_constructed"], ∃ value,
            argument.render = function ++ "(" ++ type ++ ", " ++ value ++ ")") ∧
          ∃ names, typeNames type = .ok names ∧ ∀ name ∈ names, name ∈ types ∧
            ((HandlerView.of operation).referent?
                (genericStatements version ({} : Settings).modules types views) name =
                some (.importLines ({} : Settings).modules.types types) ↔
              name ∉ (HandlerView.of operation).ownNames ∧ ¬Defines handlerCollection name) :=
  ⟨renderGeneric_handlers, import_shadowed_iff renderGeneric_handlers⟩

/-- The module imports the schema under a name to which it then gives another meaning, and the body
is converted to that. -/
theorem import_shadowed_by_alias :
    Update.update [] handlerDocument = .ok handlerPrepared ∧
    collect handlerPrepared "ChildList" = .ok handlerCollection ∧
    renderGeneric handlerCollection ({} : Settings).modules true handlerPrepared =
      .ok handlerModule ∧
    importedTypes handlerCollection.operations = .ok ["Handler"] ∧
    HandlerArgument.body ⟨.schema, some "Handler"⟩ ∈ (HandlerView.of handlerPut).arguments ∧
    ∃ version views,
      handlerModule = renderAll (statementsBefore version ({} : Settings).modules ++
        typeStatements ({} : Settings).modules ["Handler"] ++ statementsAfter views) ∧
      "Handler" ∈ (statementsBefore version ({} : Settings).modules ++
        statementsAfter views).flatMap Statement.binds ∧
      (HandlerView.of handlerPut).referent?
          (genericStatements version ({} : Settings).modules ["Handler"] views) "Handler" ≠
        some (.importLines ({} : Settings).modules.types ["Handler"]) := by
  have himported : importedTypes handlerCollection.operations = .ok ["Handler"] := by
    have hmap : (handlerCollection.operations.flatMap typeTexts).mapM typeNames =
        .ok [["Handler"]] := by decide +kernel
    have hsorted : [["Handler"]].flatten.eraseDups.mergeSort (fun a b => a ≤ b) = ["Handler"] := by
      simp [List.eraseDups_cons]
    simp only [importedTypes, bind_eq_ok, pure_eq_ok]
    exact ⟨_, hmap, hsorted⟩
  obtain ⟨version, types, views, hserves, htypes, htext⟩ :=
    statements_of_renderGeneric renderGeneric_handlers
  cases himported.symm.trans htypes
  have hdefined : Defines handlerCollection "Handler" := .inl (by simp)
  refine ⟨update_handlerDocument, collect_handlerPrepared, renderGeneric_handlers, himported,
    by decide +kernel, version, views, htext, ?_, ?_⟩
  · exact (mem_binds_besides_iff hserves).mpr (.inr hdefined)
  · rw [Ne, referent?_eq_import_iff (by simp), binds_statementsAfter hserves, mem_namesAfter_iff]
    exact fun hfree => hfree.2 hdefined

end ClientGen.Client
