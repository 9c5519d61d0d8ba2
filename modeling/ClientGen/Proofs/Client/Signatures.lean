import ClientGen.Proofs.Client.Coroutines
import ClientGen.Proofs.Client.Calls

/-!
Names within wrapped methods. The names of a signature differ, and the code of a method takes all
other names from itself but one: the function that makes ids of a result. An argument of its name
hides it.
-/
namespace ClientGen.Client

open Operation Outcome

variable {operation : Operation} {view : WrappedView}

/-- Where a name in the code of a method comes from: the signature, the code itself or the module
around it. -/
inductive Origin where
  | signature
  | code
  | module
deriving DecidableEq, Repr

/-- Expressions of the code of a method, each name with its origin. -/
inductive Expression where
  | name (origin : Origin) (text : String)
  | member (object : Expression) (text : String)
  | await (value : Expression)
  | call (function : Expression)
  | apply (function argument : Expression)
deriving DecidableEq, Repr

namespace Expression

def render : Expression → String
  | name _ text => text
  | member object text => object.render ++ "." ++ text
  | await value => "await " ++ value.render
  | call function => function.render ++ "()"
  | apply function argument => function.render ++ "(" ++ argument.render ++ ")"

def names (origin : Origin) : Expression → List String
  | name other text => if other = origin then [text] else []
  | member object _ => object.names origin
  | await value => value.names origin
  | call function => function.names origin
  | apply function argument => function.names origin ++ argument.names origin

def ofSelf (text : String) : Expression := member (name .signature "self") text

end Expression

open Expression

def MethodArgument.expression : MethodArgument → Expression
  | tenant => ofSelf "tenant_name"
  | token => .await (.call (ofSelf "token"))
  | named text => .name .signature text
  | body => .name .signature "body"

theorem MethodArgument.render_expression (argument : MethodArgument) :
    argument.expression.render = argument.render := by
  cases argument <;> rfl

/-- The code of a method: a call of the typed client, drained by a function of the client, and the
value that is returned. -/
structure MethodCode where
  process : Expression
  coroutine : Expression
  arguments : List Expression
  result : Option Expression

namespace MethodCode

def of (operation : Operation) (view : WrappedView) : MethodCode where
  process := ofSelf view.process
  coroutine := .member (ofSelf "generated_client") view.operationId
  arguments := view.arguments.map MethodArgument.expression
  result :=
    match operation.okResponse.kind with
    | .nothing => none
    | .ids => some (.apply (.name .module "to_ids") (.name .code "result"))
    | _ => some (.name .code "result")

/-- The code as it is written. A result is bound where it is returned. -/
def render (code : MethodCode) : String :=
  "        " ++ resultBinding code.result.isSome ++ "await " ++ code.process.render ++
    "(\n" ++ "            " ++ code.coroutine.render ++ "(\n" ++
    String.join (code.arguments.map fun argument =>
      "                " ++ argument.render ++ ",\n") ++
    "            )\n        )\n" ++
    (match code.result with
      | some result => "        return " ++ result.render ++ "\n"
      | none => "")

def names (origin : Origin) (code : MethodCode) : List String :=
  code.process.names origin ++ code.coroutine.names origin ++
    code.arguments.flatMap (Expression.names origin) ++
    code.result.toList.flatMap (Expression.names origin)

end MethodCode

theorem MethodCode.render_result (h : WrappedView.of operation = .ok view) :
    (MethodCode.of operation view).result.map Expression.render = view.result := by
  simp only [WrappedView.of, bind_eq_ok, pure_eq_ok] at h
  obtain ⟨names, -, rfl⟩ := h
  dsimp only [MethodCode.of]
  cases operation.okResponse.kind <;> rfl

namespace WrappedView

/-- The text of a method up to the quotes that open its documentation. -/
def opening (view : WrappedView) : String :=
  "\n    async def " ++ view.name ++ "(" ++ view.signatureText ++ ") -> " ++ view.returns ++
    ":\n        "

def docSource (view : WrappedView) : String := Text.trim view.doc ++ "\n        "

def closing (view : WrappedView) : String :=
  "        " ++ resultBinding view.result.isSome ++ "await self." ++ view.process ++ "(\n" ++
    "            self.generated_client." ++ view.operationId ++ "(\n" ++
    String.join (view.arguments.map fun argument =>
      "                " ++ argument.render ++ ",\n") ++
    "            )\n        )\n" ++
    (match view.result with
      | some result => "        return " ++ result ++ "\n"
      | none => "")

def signatureNames (view : WrappedView) : List String := view.signature.map (·.1)

/-- A method is written as its opening, its documentation between quotes, and its code. -/
theorem render_eq (view : WrappedView) :
    view.render = view.opening ++ ("\"\"\"" ++ (view.docSource ++ ("\"\"\"\n" ++
      view.closing))) := by
  have hopen : ":\n        \"\"\"" = ":\n        " ++ "\"\"\"" := by decide
  have hclose : "\n        \"\"\"\n        " =
      "\n        " ++ ("\"\"\"\n" ++ "        ") := by decide
  unfold render opening docSource closing
  cases view.result <;> simp only [hopen, hclose, String.append_assoc]

end WrappedView

theorem render_code (h : WrappedView.of operation = .ok view) :
    (MethodCode.of operation view).render = view.closing := by
  have hself : "self" ++ "." = "self." := by decide
  have hclient : "self." ++ "generated_client" = "self.generated_client" := by decide
  have hmember : "self.generated_client" ++ "." = "self.generated_client." := by decide
  have harguments : ((MethodCode.of operation view).arguments.map fun argument =>
      "                " ++ argument.render ++ ",\n") =
        view.arguments.map fun argument => "                " ++ argument.render ++ ",\n" := by
    rw [MethodCode.of, List.map_map]
    exact List.map_congr_left fun argument _ => by
      rw [Function.comp_apply, argument.render_expression]
  have hprocess : (MethodCode.of operation view).process.render = "self." ++ view.process := by
    simp only [MethodCode.of, ofSelf, Expression.render, hself]
  have hcoroutine : (MethodCode.of operation view).coroutine.render =
      "self.generated_client." ++ view.operationId := by
    simp only [MethodCode.of, ofSelf, Expression.render, hself, hclient, hmember]
  unfold WrappedView.closing MethodCode.render
  rw [← MethodCode.render_result h, harguments, hprocess, hcoroutine]
  have hawait : "await self." = "await " ++ "self." := by decide
  have hindent : "            self.generated_client." =
      "            " ++ "self.generated_client." := by decide
  cases (MethodCode.of operation view).result <;>
    simp only [Option.map, Option.isSome, hawait, hindent, String.append_assoc]

theorem signatureNames_eq (h : WrappedView.of operation = .ok view) :
    view.signatureNames = "self" :: view.formals := by
  simp only [WrappedView.of, bind_eq_ok, pure_eq_ok] at h
  obtain ⟨names, -, rfl⟩ := h
  rfl

/-- The names of a signature: the object itself, one argument for each parameter, and the body. -/
theorem signatureNames_of_ok (h : WrappedView.of operation = .ok view) :
    view.signatureNames = "self" ::
      ((operation.parameters.map fun parameter => argumentName parameter.name) ++
        if operation.body.isSome then ["body"] else []) := by
  obtain ⟨names, rfl, -, -, hformals, -⟩ := arguments_of_ok h
  rw [signatureNames_eq h, hformals]

theorem signatureNames_nodup (h : WrappedView.of operation = .ok view) :
    view.signatureNames.Nodup := by
  obtain ⟨names, hgiven, hnodup, hbody, hformals, -⟩ := arguments_of_ok h
  have hself : "self" ∉ names := by
    rw [← hgiven, List.mem_map]
    rintro ⟨parameter, -, hname⟩
    exact argumentName_not_own parameter.name (by simp [hname, ownArguments])
  rw [signatureNames_eq h, hformals]
  cases operation.body with
  | none => simp [hself, hnodup]
  | some type =>
    have hdisjoint : ∀ name ∈ names, name ≠ "body" :=
      fun name hmem => ne_of_mem_of_not_mem hmem hbody
    simpa [List.nodup_append, hself, hnodup] using hdisjoint

/-- The code of a method uses no name of the module but the function that makes ids, and that only
if the operation gives ids. -/
theorem names_module (operation : Operation) (view : WrappedView) :
    (MethodCode.of operation view).names .module =
      if operation.okResponse.kind = .ids then ["to_ids"] else [] := by
  have harguments : ∀ argument : MethodArgument, argument.expression.names .module = [] := by
    rintro (_ | _ | _ | _) <;> rfl
  have hall : (view.arguments.map MethodArgument.expression).flatMap (Expression.names .module) =
      [] := by
    simp [List.flatMap_map, harguments]
  simp only [MethodCode.names, MethodCode.of, hall]
  cases operation.okResponse.kind <;> rfl

theorem MethodArgument.eq_of_mem_names {argument : MethodArgument} {name : String}
    (h : name ∈ argument.expression.names .signature) :
    name = "self" ∨ argument = .named name ∨ argument = .body ∧ name = "body" := by
  cases argument with
  | tenant => exact .inl (List.mem_singleton.mp h)
  | token => exact .inl (List.mem_singleton.mp h)
  | named text => exact .inr (.inl (by rw [List.mem_singleton.mp h]))
  | body => exact .inr (.inr ⟨rfl, List.mem_singleton.mp h⟩)

theorem names_signature_subset (h : WrappedView.of operation = .ok view) :
    ∀ name ∈ (MethodCode.of operation view).names .signature, name ∈ view.signatureNames := by
  obtain ⟨names, -, -, -, hformals, harguments⟩ := arguments_of_ok h
  rw [signatureNames_eq h, hformals]
  intro name hname
  have hresult : (MethodCode.of operation view).result.toList.flatMap
      (Expression.names .signature) = [] := by
    dsimp only [MethodCode.of]
    cases operation.okResponse.kind <;> rfl
  rw [MethodCode.names, hresult, List.append_nil, List.mem_append, List.mem_flatMap] at hname
  rcases hname with hself | ⟨expression, hmem, hname⟩
  · have hself : name = "self" := by simpa [MethodCode.of, ofSelf, Expression.names] using hself
    exact hself ▸ List.mem_cons_self
  · obtain ⟨argument, hargument, rfl⟩ := List.mem_map.mp hmem
    rcases argument.eq_of_mem_names hname with rfl | rfl | ⟨rfl, rfl⟩
    · exact List.mem_cons_self
    · refine List.mem_cons_of_mem _ (List.mem_append_left _ ?_)
      rw [harguments] at hargument
      split_ifs at hargument <;> simpa using hargument
    · refine List.mem_cons_of_mem _ (List.mem_append_right _ ?_)
      rw [harguments] at hargument
      cases hbody : operation.body <;> simp [hbody] at hargument ⊢

/-- The names of a signature differ, and the code of the method finds there what it takes from
there. It takes a name from the module only to make ids of a result, and an argument hides that name
exactly if some parameter has the argument name `to_ids`. -/
theorem argument_hides_iff (h : WrappedView.of operation = .ok view) :
    view.signatureNames = "self" ::
      ((operation.parameters.map fun parameter => argumentName parameter.name) ++
        if operation.body.isSome then ["body"] else []) ∧
    view.signatureNames.Nodup ∧
    view.render = view.opening ++ ("\"\"\"" ++ (view.docSource ++ ("\"\"\"\n" ++
      (MethodCode.of operation view).render))) ∧
    (∀ name ∈ (MethodCode.of operation view).names .signature, name ∈ view.signatureNames) ∧
    ∀ name, name ∈ view.signatureNames ∧ name ∈ (MethodCode.of operation view).names .module ↔
      name = "to_ids" ∧ operation.okResponse.kind = .ids ∧
        ∃ parameter ∈ operation.parameters, argumentName parameter.name = "to_ids" := by
  have hnames := signatureNames_of_ok h
  refine ⟨hnames, signatureNames_nodup h, ?_, names_signature_subset h, fun name => ?_⟩
  · rw [render_code h]
    exact view.render_eq
  · rw [names_module, hnames]
    constructor
    · rintro ⟨hmem, hmodule⟩
      split_ifs at hmodule with hids
      · obtain rfl := List.mem_singleton.mp hmodule
        refine ⟨rfl, hids, ?_⟩
        have hbody : "to_ids" ∉ if operation.body.isSome then ["body"] else [] := by
          split <;> decide
        simpa [hbody] using hmem
      · cases hmodule
    · rintro ⟨rfl, hids, parameter, hparameter, hname⟩
      rw [if_pos hids]
      refine ⟨List.mem_cons_of_mem _ (List.mem_append_left _ ?_), List.mem_singleton.mpr rfl⟩
      exact List.mem_map.mpr ⟨parameter, hparameter, hname⟩

/-- Buckets that are read as ids, with a parameter that asks for them. -/
def idsDocument : Document := .object [
  (.text "paths", .object [
    (.text "/allocation/\x7btenant\x7d/bucket", .object [(.text "get", .object [
      (.text "parameters", .array [pathParameter "tenant",
        .object [(.text "name", .text "toIds"), (.text "in", .text "query"),
          (.text "schema", .object [(.text "type", .text "string")])]]),
      (.text "responses", .object [(.text "200", .object [
        (.text "description", .text "ok"),
        (.text "content", .object [(.text "application/json", .object [(.text "schema", .object [
          (.text "$ref", .text "#/components/schemas/ChildList")])])])])])])])])]

def idsPrepared : Document := value (Update.update [] idsDocument) (by decide +kernel)

theorem update_idsDocument : Update.update [] idsDocument = .ok idsPrepared := eq_ok_value _ _

def idsRead : Operation :=
  { sampleOperation .get "/allocation/\x7btenant\x7d/bucket"
      [.literal "allocation", .placeholder "tenant", .literal "bucket"] "get_bucket"
      "bucket-ids" with
    parameters := [⟨"toIds", ⟨.plain, none⟩, none⟩]
    requiresToken := true
    okResponse := ⟨.ids, none, none⟩
    okResponses := [(200, ⟨.ids, none, none⟩)] }

def idsCollection : Collection := [(.get, [idsRead]), (.delete, []), (.post, []), (.put, [])]

theorem collect_idsPrepared : collect idsPrepared "ChildList" = .ok idsCollection := by
  have hreads : collectMethod idsPrepared "ChildList" .get = .ok [idsRead] :=
    collectMethod_of_ordered [idsRead] (by decide +kernel) (by decide +kernel)
      (by decide +kernel)
  refine collect_of_methods ?_ ?_ hreads ?_ ?_ ?_
  all_goals decide +kernel

def idsMethod : WrappedView := value (WrappedView.of idsRead) (by decide +kernel)

theorem argument_hides_iff_ids :
    WrappedView.of idsRead = .ok idsMethod ∧
    idsMethod.signatureNames = "self" ::
      ((idsRead.parameters.map fun parameter => argumentName parameter.name) ++
        if idsRead.body.isSome then ["body"] else []) ∧
    idsMethod.signatureNames.Nodup ∧
    idsMethod.render = idsMethod.opening ++ ("\"\"\"" ++ (idsMethod.docSource ++ ("\"\"\"\n" ++
      (MethodCode.of idsRead idsMethod).render))) ∧
    (∀ name ∈ (MethodCode.of idsRead idsMethod).names .signature,
      name ∈ idsMethod.signatureNames) ∧
    ∀ name, name ∈ idsMethod.signatureNames ∧
        name ∈ (MethodCode.of idsRead idsMethod).names .module ↔
      name = "to_ids" ∧ idsRead.okResponse.kind = .ids ∧
        ∃ parameter ∈ idsRead.parameters, argumentName parameter.name = "to_ids" :=
  ⟨eq_ok_value _ _, argument_hides_iff (eq_ok_value _ _)⟩

/-- The parameter becomes an argument of the name of the function that is to make ids. -/
theorem argument_hides_helper :
    Update.update [] idsDocument = .ok idsPrepared ∧
    collect idsPrepared "ChildList" = .ok idsCollection ∧
    idsRead ∈ idsCollection.operations ∧ WrappedView.of idsRead = .ok idsMethod ∧
    "to_ids" ∈ idsMethod.signatureNames ∧
    "to_ids" ∈ (MethodCode.of idsRead idsMethod).names .module := by
  refine ⟨update_idsDocument, collect_idsPrepared, ?_, eq_ok_value _ _, ?_, ?_⟩
  · simp [idsCollection, Collection.operations]
  · decide +kernel
  · rw [names_module]
    decide

end ClientGen.Client
