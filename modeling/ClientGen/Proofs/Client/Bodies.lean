import ClientGen.Proofs.Client.Dispatch
import ClientGen.Proofs.Generation.Stages

/-!
Request bodies in the generic client. Whether a handler passes a body on is decided by the document;
whether the body is checked and can be given at all is decided by the method. The two agree unless
an operation that reads or deletes has a request body.
-/
namespace ClientGen.Client

open Operation Outcome

variable {document : Document} {idCollection : String} {method : Method}

/-- Whether a handler passes a body to the typed client. -/
def HandlerView.UsesBody (view : HandlerView) : Prop :=
  ∃ type, HandlerArgument.body type ∈ view.arguments

/-- The text of a handler up to the check of its parameters. -/
def HandlerView.opening (view : HandlerView) : String :=
  "\n\nasync def " ++ view.handler ++
    "(client: Any, parameters: Sequence[str], body: Optional[str]) -> Any:\n" ++
    String.join (view.comments.map fun line => "    # " ++ line ++ "\n") ++
    s!"    check_parameters(parameters, {view.parameterCount})\n"

/-- Whether the text of a handler checks the body, which it does after the parameters. -/
def HandlerView.ChecksBody (view : HandlerView) : Prop :=
  ∃ rest, view.render = view.opening ++ ("    check_body(body, " ++
    (Literal.ofText? view.bodyType).render ++ ")\n" ++ rest)

/-- Whether the coroutine of a method has a body among its parameters and passes it to the
handler. -/
def MethodView.ForwardsBody (view : MethodView) : Prop :=
  (∃ rest, view.renderCoroutine = "\n    async def " ++ view.method.name ++
    ("(\n        self, selector: str, parameters: Sequence[str] = (), " ++
      "body: Optional[str] = None\n    ) -> Any:\n" ++ rest)) ∧
  ∃ before, view.renderCoroutine = before ++
    ("_HANDLERS, self, selector, parameters, " ++ ("body" ++ "\n        )\n"))

theorem call_ne_check (hasResult : Bool) (call rest : String) :
    "    " ++ (resultBinding hasResult ++ ("await client." ++ call)) ≠
      "    check_body(body, " ++ rest := by
  intro h
  have hfifth := congrArg (fun s => (s.toList.drop 4).head?) h
  cases hasResult <;> simp [resultBinding, String.toList_append] at hfifth

theorem signature_ne_bodied (doc rest : String) :
    "(self, selector: str, parameters: Sequence[str] = ()) -> Any:\n" ++ doc ≠
      "(\n        self, selector: str, parameters: Sequence[str] = (), " ++
        "body: Optional[str] = None\n    ) -> Any:\n" ++ rest := by
  intro h
  have hsecond := congrArg (fun s => (s.toList.drop 1).head?) h
  simp [String.toList_append] at hsecond

def HandlerView.closing (view : HandlerView) : String :=
  view.process ++ "(\n" ++ "        client.generated_client." ++ view.operationId ++ "(\n" ++
    String.join (view.arguments.map fun argument => "            " ++ argument.render ++ ",\n") ++
    "        )\n    )\n    return " ++ view.result ++ "\n"

theorem render_eq_opening (view : HandlerView) :
    view.render = view.opening ++ ((if view.checksBody then
      "    check_body(body, " ++ (Literal.ofText? view.bodyType).render ++ ")\n" else "") ++
      ("    " ++ (resultBinding view.hasResult ++ ("await client." ++ view.closing)))) := by
  unfold HandlerView.render HandlerView.opening HandlerView.closing
  simp only [String.append_assoc]

/-- The text of a handler checks the body exactly if its view says so. -/
theorem checksBody_iff (view : HandlerView) : view.ChecksBody ↔ view.checksBody = true := by
  constructor
  · rintro ⟨rest, hrest⟩
    by_contra hunchecked
    have hsame := (String.append_right_inj _).mp ((render_eq_opening view).symm.trans hrest)
    rw [if_neg hunchecked, String.empty_append, String.append_assoc] at hsame
    exact call_ne_check _ _ _ (hsame.trans (String.append_assoc ..))
  · intro hchecked
    have hrender := render_eq_opening view
    rw [if_pos hchecked] at hrender
    exact ⟨_, hrender⟩

/-- The text of a coroutine between its signature and the arguments that it forwards. -/
def MethodView.dispatching (view : MethodView) : String :=
  "        \"\"\"" ++ Text.trim view.doc ++ "\n        \"\"\"\n" ++
    "        return await _dispatch(\n            " ++ (Literal.text view.method.name).render ++
    ", _" ++ view.method.upperName

theorem renderCoroutine_eq (view : MethodView) :
    view.renderCoroutine = "\n    async def " ++ view.method.name ++
      ((if view.method.hasBody then
        "(\n        self, selector: str, parameters: Sequence[str] = (), " ++
          "body: Optional[str] = None\n    ) -> Any:\n"
      else "(self, selector: str, parameters: Sequence[str] = ()) -> Any:\n") ++
      (view.dispatching ++ ("_HANDLERS, self, selector, parameters, " ++
        ((if view.method.hasBody then "body" else "None") ++ "\n        )\n")))) := by
  unfold MethodView.renderCoroutine MethodView.dispatching
  simp only [String.append_assoc]

/-- The coroutine of a method forwards a body exactly if requests of the method carry one. -/
theorem forwardsBody_iff (view : MethodView) :
    view.ForwardsBody ↔ view.method.hasBody = true := by
  constructor
  · rintro ⟨⟨rest, hrest⟩, -⟩
    by_contra hno
    have hsame := (String.append_right_inj _).mp ((renderCoroutine_eq view).symm.trans hrest)
    rw [if_neg hno] at hsame
    exact signature_ne_bodied _ _ hsame
  · intro hbody
    have hcoroutine := renderCoroutine_eq view
    rw [if_pos hbody, if_pos hbody] at hcoroutine
    refine ⟨⟨_, hcoroutine⟩, "\n    async def " ++ view.method.name ++
      ("(\n        self, selector: str, parameters: Sequence[str] = (), " ++
        "body: Optional[str] = None\n    ) -> Any:\n") ++ view.dispatching, ?_⟩
    rw [hcoroutine]
    simp only [String.append_assoc]

/-- Whether some operation of a method has a request body. -/
def GivesBody (document : Document) (method : Method) : Prop :=
  ∃ raws, rawOf document method = .ok raws ∧
    ∃ raw ∈ raws, (raw.2.get "requestBody").isNull = false

theorem isSome_body_of_extract {path : String} {raw : Document} {operation : Operation}
    (h : extract method path raw document idCollection = .ok operation) :
    operation.body.isSome = !(raw.get "requestBody").isNull := by
  have hbody := body_of_extract h
  unfold bodyType? at hbody
  dsimp only at hbody
  split at hbody
  next hnull =>
    rw [pure_eq_ok] at hbody
    simp [← hbody, hnull]
  next hgiven =>
    simp only [bind_eq_ok, pure_eq_ok] at hbody
    obtain ⟨_, -, type, -, hbody⟩ := hbody
    simpa [← hbody] using hgiven

theorem widen_map_body (taken : List String) (operations : List Operation) :
    (widen taken operations).map (·.body) = operations.map (·.body) := by
  induction operations generalizing taken with
  | nil => rfl
  | cons operation rest ih =>
    rw [widen_cons, List.map_cons, List.map_cons, ih, settled_eq]

theorem bodies_of_collectMethod {operations : List Operation}
    (h : collectMethod document idCollection method = .ok operations) :
    ∃ raws, rawOf document method = .ok raws ∧
      (operations.map fun operation => operation.body.isSome).Perm
        (raws.map fun raw => !(raw.2.get "requestBody").isNull) := by
  obtain ⟨raws, sources, hraws, hsources, -, rfl⟩ := collectMethod_eq_ok.mp h
  refine ⟨raws, hraws, ?_⟩
  have hsame : (sources.map fun source => source.body.isSome) =
      raws.map fun raw => !(raw.2.get "requestBody").isNull := by
    have hall := mapM_eq_ok.mp hsources
    clear hsources hraws h
    induction hall with
    | nil => rfl
    | cons head _ ih =>
      rw [List.map_cons, List.map_cons, ih,
        isSome_body_of_extract (extractAt_eq_ok.mp head).2]
  have hpaths : ((widen [] (sortByPath sources)).map fun operation => operation.body.isSome) =
      (sortByPath sources).map fun source => source.body.isSome := by
    have hbodies := congrArg (List.map Option.isSome) (widen_map_body [] (sortByPath sources))
    simpa [List.map_map, Function.comp_def] using hbodies
  rw [← hsame]
  refine ((sort_perm _).map _).trans ?_
  rw [hpaths]
  exact (sortByPath_perm sources).map _

theorem givesBody_iff {operations : List Operation}
    (h : collectMethod document idCollection method = .ok operations) :
    GivesBody document method ↔ ∃ operation ∈ operations, operation.body.isSome = true := by
  obtain ⟨raws, hraws, hbodies⟩ := bodies_of_collectMethod h
  have hmem := hbodies.mem_iff (a := true)
  simp only [List.mem_map] at hmem
  rw [hmem]
  constructor
  · rintro ⟨raws', hraws', raw, hraw, hgiven⟩
    cases hraws.symm.trans hraws'
    exact ⟨raw, hraw, by simp [hgiven]⟩
  · rintro ⟨raw, hraw, hgiven⟩
    exact ⟨raws, hraws, raw, hraw, by simpa using hgiven⟩

theorem usesBody_of_iff (operation : Operation) :
    (HandlerView.of operation).UsesBody ↔ operation.body.isSome = true := by
  constructor
  · rintro ⟨type, htype⟩
    have hmem : type ∈ operation.body := by
      simpa [HandlerView.of, handlerArguments] using htype
    simp [Option.mem_def.mp hmem]
  · intro hsome
    obtain ⟨type, htype⟩ := Option.isSome_iff_exists.mp hsome
    exact ⟨type, by simp [HandlerView.of, handlerArguments, htype]⟩

/-- In a generated module the handlers of a method that use a body check it, and can be given one,
exactly if requests of the method carry bodies or no operation of the method has one. -/
theorem handlers_take_bodies_iff {settings : Settings} {text : String}
    (h : (Generation.generic document settings).result = .ok text) :
    ∃ collection views version types,
      collect document settings.idCollectionSchema = .ok collection ∧
      List.Forall₂ (Serves settings.pathAliases) collection views ∧
      text = genericHead version settings.modules types ++
        String.join (views.map MethodView.render) ++ genericDispatch ++
        String.join (views.map MethodView.renderCoroutine) ∧
      ∀ view ∈ views,
        ((∀ handler ∈ view.handlers, handler.UsesBody →
            handler.ChecksBody ∧ view.ForwardsBody) ↔
          view.method.hasBody = true ∨ ¬GivesBody document view.method) := by
  rw [Generation.result_generic, bind_eq_ok] at h
  obtain ⟨collection, hcollect, hrender⟩ := h
  obtain ⟨-, views, version, types, hserves, htext⟩ := serves_of_renderGeneric hrender
  refine ⟨collection, views, version, types, hcollect, hserves, htext, ?_⟩
  intro view hview
  obtain ⟨⟨method, operations⟩, hentry, hserve⟩ := exists_left_of_mem hserves hview
  obtain ⟨-, hmethod⟩ := collectMethod_of_mem hcollect hentry
  rw [forwardsBody_iff, hserve.method_eq, hserve.handlers_eq, givesBody_iff hmethod]
  constructor
  · intro hall
    by_cases hbody : method.hasBody = true
    · exact .inl hbody
    · refine .inr ?_
      rintro ⟨operation, hoperation, hsome⟩
      have huses := (usesBody_of_iff operation).mpr hsome
      exact hbody (hall _ (List.mem_map_of_mem hoperation) huses).2
  · intro hor handler hhandler huses
    obtain ⟨operation, hoperation, rfl⟩ := List.mem_map.mp hhandler
    rcases hor with hbody | hnone
    · obtain ⟨_, _, -, -, hextract⟩ := extract_of_mem_collectMethod hmethod hoperation
      have hsame : operation.method = method := (extracted_of_extract hextract).method_eq
      refine ⟨(checksBody_iff _).mpr ?_, hbody⟩
      rw [← hsame] at hbody
      exact hbody
    · exact absurd ⟨operation, hoperation, (usesBody_of_iff operation).mp huses⟩ hnone

/-- A limit that is deleted with a request body. -/
def limitDocument : Document := .object [
  (.text "paths", .object [
    (.text "/allocation/\x7btenant\x7d/limit", .object [
      (.text "delete", .object [
        (.text "operationId", .text "delete_limit"),
        (.text "requestBody", .object [(.text "content", .object [
          (.text "application/json", .object [(.text "schema", .object [
            (.text "$ref", .text "#/components/schemas/LimitValue")])])])]),
        (.text "responses", .object [
          (.text "200", .object [(.text "description", .text "ok")])])])])])]

def limitDelete : Operation :=
  { sampleOperation .delete "/allocation/\x7btenant\x7d/limit"
      [.literal "allocation", .placeholder "tenant", .literal "limit"] "delete_limit" "limit" with
    body := some ⟨.schema, some "LimitValue"⟩ }

def limitCollection : Collection := [(.get, []), (.delete, [limitDelete]), (.post, []), (.put, [])]

theorem collect_limitDocument : collect limitDocument "ChildList" = .ok limitCollection := by
  have hdeletes : collectMethod limitDocument "ChildList" .delete = .ok [limitDelete] :=
    collectMethod_of_ordered [limitDelete] (by decide +kernel) (by decide +kernel)
      (by decide +kernel)
  refine collect_of_methods ?_ ?_ ?_ hdeletes ?_ ?_
  all_goals decide +kernel

def limitModule : String :=
  value (renderGeneric limitCollection ({} : Settings).modules true limitDocument)
    (by decide +kernel)

theorem renderGeneric_limits :
    renderGeneric limitCollection ({} : Settings).modules true limitDocument = .ok limitModule :=
  eq_ok_value _ _

theorem generic_limitDocument : (Generation.generic limitDocument {}).result = .ok limitModule := by
  rw [Generation.result_generic, bind_eq_ok]
  exact ⟨limitCollection, collect_limitDocument, renderGeneric_limits⟩

theorem handlers_take_bodies_iff_limits :
    (Generation.generic limitDocument {}).result = .ok limitModule ∧
    ∃ collection views version types,
      collect limitDocument ({} : Settings).idCollectionSchema = .ok collection ∧
      List.Forall₂ (Serves ({} : Settings).pathAliases) collection views ∧
      limitModule = genericHead version ({} : Settings).modules types ++
        String.join (views.map MethodView.render) ++ genericDispatch ++
        String.join (views.map MethodView.renderCoroutine) ∧
      ∀ view ∈ views,
        ((∀ handler ∈ view.handlers, handler.UsesBody →
            handler.ChecksBody ∧ view.ForwardsBody) ↔
          view.method.hasBody = true ∨ ¬GivesBody limitDocument view.method) :=
  ⟨generic_limitDocument, handlers_take_bodies_iff generic_limitDocument⟩

/-- The handler that deletes a limit reads a body that is not checked and that the coroutine cannot
be given. -/
theorem limit_deleted_without_body :
    (Generation.generic limitDocument {}).result = .ok limitModule ∧
    ∃ (views : List MethodView) (version : String) (types : List String),
      limitModule = genericHead version ({} : Settings).modules types ++
        String.join (views.map MethodView.render) ++ genericDispatch ++
        String.join (views.map MethodView.renderCoroutine) ∧
      ∃ view ∈ views, view.method = .delete ∧ ∃ handler ∈ view.handlers,
        handler.UsesBody ∧ ¬handler.ChecksBody ∧ ¬view.ForwardsBody := by
  refine ⟨generic_limitDocument, ?_⟩
  obtain ⟨-, views, version, types, hserves, htext⟩ := serves_of_renderGeneric renderGeneric_limits
  have hentry : (Method.delete, [limitDelete]) ∈ limitCollection := by simp [limitCollection]
  obtain ⟨view, hview, hserve⟩ := exists_right_of_mem hserves hentry
  have hhandler : HandlerView.of limitDelete ∈ view.handlers := by
    rw [hserve.handlers_eq]
    simp
  refine ⟨views, version, types, htext, view, hview, hserve.method_eq, _, hhandler, ?_, ?_, ?_⟩
  · exact (usesBody_of_iff limitDelete).mpr rfl
  · rw [checksBody_iff]
    decide
  · rw [forwardsBody_iff, hserve.method_eq]
    decide

end ClientGen.Client
