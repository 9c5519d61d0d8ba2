import ClientGen.Proofs.Client.Bodies
import ClientGen.Proofs.Operation.Prepared
import ClientGen.Proofs.Text.Pieces

/-!
The comments of handlers in the generic client. A comment line shows the path of its operation, the
name, type and description of a parameter, the type of the body, or what a call returns.
Descriptions are put on one line; paths, names and types are written as the document has them, and a
line break in one of these ends the comment.
-/
namespace ClientGen

namespace Text

def endsLine (c : Char) : Bool := c == '\n' || c == '\r'

/-- Whether a text stands on one line. -/
def OnOneLine (s : String) : Prop := ∀ c ∈ s.toList, endsLine c = false

instance (s : String) : Decidable (OnOneLine s) :=
  List.decidableBAll (fun c => endsLine c = false) s.toList

theorem onOneLine_append {s t : String} : OnOneLine (s ++ t) ↔ OnOneLine s ∧ OnOneLine t := by
  simp [OnOneLine, String.toList_append, or_imp, forall_and]

theorem isBlank_of_endsLine {c : Char} (h : endsLine c = true) : isBlank c = true := by
  simp only [endsLine, Bool.or_eq_true, beq_iff_eq] at h
  rcases h with rfl | rfl <;> rfl

theorem mem_intercalate {separator : List Char} {parts : List (List Char)} {c : Char}
    (h : c ∈ separator.intercalate parts) : c ∈ separator ∨ ∃ part ∈ parts, c ∈ part := by
  induction parts with
  | nil => simp at h
  | cons part rest ih =>
    cases rest with
    | nil => exact .inr ⟨part, by simp, by simpa using h⟩
    | cons next rest =>
      rw [List.intercalate_cons_cons, List.mem_append, List.mem_append] at h
      rcases h with (hpart | hseparator) | hlater
      · exact .inr ⟨part, by simp, hpart⟩
      · exact .inl hseparator
      · refine (ih hlater).imp_right ?_
        rintro ⟨later, hmem, hc⟩
        exact ⟨later, List.mem_cons_of_mem _ hmem, hc⟩

theorem onOneLine_oneLine (s : String) : OnOneLine (oneLine s) := by
  intro c hc
  rw [oneLine, String.toList_ofList] at hc
  rcases mem_intercalate hc with hspace | ⟨word, hword, hc⟩
  · rw [List.mem_singleton.mp hspace]
    rfl
  · have hblank : isBlank c = false := not_of_mem_splitOnP (List.mem_filter.mp hword).1 c hc
    by_contra hends
    simp [isBlank_of_endsLine (by simpa using hends)] at hblank

end Text

namespace Client

open Operation Outcome Text

variable {document : Document}

theorem onOneLine_descriptionLine {description : Option String} {line : String}
    (h : descriptionLine? description = some line) : OnOneLine line := by
  unfold descriptionLine? at h
  split at h
  · split_ifs at h
    cases h
    exact onOneLine_oneLine _
  · cases h

theorem onOneLine_upperName (method : Method) : OnOneLine method.upperName := by
  cases method <;> decide

theorem onOneLine_none : OnOneLine "None" := by decide

/-- What a call returns is told on one line exactly if the type of its value is. -/
theorem onOneLine_returnText_iff (operation : Operation) :
    OnOneLine (returnText operation) ↔ OnOneLine operation.okResponse.expression := by
  have hstart : OnOneLine "None when " := by decide
  unfold returnText
  obtain ⟨kind, typeName, description⟩ := operation.okResponse
  cases kind with
  | nothing =>
    refine iff_of_true (onOneLine_append.mpr ⟨hstart, onOneLine_oneLine _⟩) onOneLine_none
  | _ => exact Iff.rfl

def parameterLine (parameter : Parameter) : String :=
  let typed := parameter.name ++ ": " ++ parameter.type.expression
  match descriptionLine? parameter.description with
  | some line => typed ++ ", " ++ line
  | none => typed

theorem onOneLine_parameterLine_iff (parameter : Parameter) :
    OnOneLine (parameterLine parameter) ↔
      OnOneLine parameter.name ∧ OnOneLine parameter.type.expression := by
  have hcolon : OnOneLine ": " := by decide
  have hcomma : OnOneLine ", " := by decide
  unfold parameterLine
  split
  next line hline =>
    simp only [onOneLine_append, hcolon, hcomma, onOneLine_descriptionLine hline, and_true]
  · simp only [onOneLine_append, hcolon, and_true]

/-- The comment lines of a handler are single lines exactly if path, names and types are. -/
theorem onOneLine_commentLines_iff (operation : Operation) :
    (∀ line ∈ commentLines operation, OnOneLine line) ↔
      OnOneLine operation.path ∧
      (∀ parameter ∈ operation.parameters,
        OnOneLine parameter.name ∧ OnOneLine parameter.type.expression) ∧
      (∀ body ∈ operation.body, OnOneLine body.expression) ∧
      OnOneLine operation.okResponse.expression := by
  have hspace : OnOneLine " " := by decide
  have hbody : OnOneLine "body: " := by decide
  have hreturns : OnOneLine "returns " := by decide
  have hlines : commentLines operation =
      (operation.method.upperName ++ " " ++ operation.path) ::
        operation.parameters.map parameterLine ++
        (operation.body.toList.map fun body => "body: " ++ body.expression) ++
        ["returns " ++ returnText operation] := rfl
  rw [hlines]
  simp only [List.cons_append, List.forall_mem_cons, List.forall_mem_append, List.forall_mem_map,
    List.not_mem_nil, false_imp_iff, implies_true, and_true, Option.mem_toList, ← Option.mem_def,
    onOneLine_append, onOneLine_upperName, onOneLine_parameterLine_iff, onOneLine_returnText_iff,
    hspace, hbody, hreturns, true_and, and_assoc]

/-- The types that are written for an operation are single lines exactly if those to be imported
are: the others are fixed words. -/
theorem onOneLine_typeTexts_iff (operation : Operation) :
    (∀ type ∈ typeTexts operation, OnOneLine type) ↔
      (∀ parameter ∈ operation.parameters, OnOneLine parameter.type.expression) ∧
      (∀ body ∈ operation.body, OnOneLine body.expression) ∧
      OnOneLine operation.okResponse.expression := by
  have hstr : OnOneLine "str" := by decide
  have hparameter (parameter : Parameter) (hplain : parameter.type.kind = .plain) :
      OnOneLine parameter.type.expression := by
    rw [ParameterType.expression, hplain]
    exact hstr
  have hbody (body : BodyType) (hplain : body.kind = .plain) : OnOneLine body.expression := by
    rw [BodyType.expression, hplain]
    exact hstr
  have hresponse (response : ResponseType) (hnothing : response.kind = .nothing) :
      OnOneLine response.expression := by
    rw [ResponseType.expression, hnothing]
    exact onOneLine_none
  unfold typeTexts
  simp only [List.forall_mem_append, List.forall_mem_map, List.mem_filter, bne_iff_ne, and_imp]
  rw [and_assoc]
  refine and_congr ⟨fun h parameter hmem => ?_, fun h parameter hmem _ => h parameter hmem⟩
    (and_congr ?_ ?_)
  · by_cases hplain : parameter.type.kind = .plain
    · exact hparameter parameter hplain
    · exact h parameter hmem hplain
  · cases operation.body with
    | none => simp
    | some body =>
      cases hkind : body.kind with
      | plain => simpa [hkind] using hbody body hkind
      | schema => simp [hkind]
  · split
    next hnothing =>
      simpa using hresponse operation.okResponse (by simpa using hnothing)
    · simp

/-- The comments of an operation's handler as they are written. -/
def commentBlock (operation : Operation) : String :=
  String.join ((commentLines operation).map fun line => "    # " ++ line ++ "\n")

/-- Whether a text stands somewhere in another. -/
def StandsIn (part whole : String) : Prop := ∃ before after, whole = before ++ part ++ after

theorem StandsIn.trans {first second third : String} (h : StandsIn first second)
    (hlater : StandsIn second third) : StandsIn first third := by
  obtain ⟨before, after, rfl⟩ := h
  obtain ⟨before', after', rfl⟩ := hlater
  exact ⟨before' ++ before, after ++ after', by simp only [String.append_assoc]⟩

theorem standsIn_append (part rest : String) : StandsIn part (part ++ rest) :=
  ⟨"", rest, by rw [String.empty_append]⟩

theorem StandsIn.after {part whole : String} (h : StandsIn part whole) (start : String) :
    StandsIn part (start ++ whole) := by
  obtain ⟨before, after, rfl⟩ := h
  exact ⟨start ++ before, after, by simp only [String.append_assoc]⟩

theorem standsIn_join {part : String} {parts : List String} (h : part ∈ parts) :
    StandsIn part (String.join parts) := by
  obtain ⟨before, after, rfl⟩ := List.append_of_mem h
  rw [String.join_append, String.join_cons]
  exact (standsIn_append _ _).after _

theorem commentBlock_standsIn_render (operation : Operation) :
    StandsIn (commentBlock operation) (HandlerView.of operation).render := by
  rw [render_eq_opening]
  unfold HandlerView.opening
  simp only [String.append_assoc]
  exact (((standsIn_append (commentBlock operation) _).after _).after _).after _

/-- The comments of every operation stand in a rendered module. -/
theorem commentBlock_standsIn_renderGeneric {collection : Collection} {modules : Modules}
    {byPath : Bool} {text : String}
    (h : renderGeneric collection modules byPath document = .ok text) {operation : Operation}
    (hoperation : operation ∈ collection.operations) : StandsIn (commentBlock operation) text := by
  -- From the inside out: handler, handlers of a method, coroutines of all methods, module.
  obtain ⟨-, views, version, types, hserves, rfl⟩ := serves_of_renderGeneric h
  obtain ⟨entry, hentry, hmem⟩ := List.mem_flatMap.mp hoperation
  obtain ⟨view, hview, hserve⟩ := exists_right_of_mem hserves hentry
  have hhandler : HandlerView.of operation ∈ view.handlers := by
    rw [hserve.handlers_eq]
    exact List.mem_map_of_mem hmem
  have hhandlers := (commentBlock_standsIn_render operation).trans
    (standsIn_join (List.mem_map_of_mem hhandler))
  have hmethod : StandsIn (String.join (view.handlers.map HandlerView.render)) view.render := by
    unfold MethodView.render
    simp only [String.append_assoc]
    exact (((standsIn_append _ _).after _).after _).after _
  have hmethods := (hhandlers.trans hmethod).trans (standsIn_join (List.mem_map_of_mem hview))
  rw [String.append_assoc, String.append_assoc]
  exact hmethods.trans ((standsIn_append _ _).after _)

/-- In a generated module the comments of each operation stand as they are, and each of them is a
single line exactly if the path, the names of the parameters and the types to be imported are: no
description ends a comment. -/
theorem comments_onOneLine_iff {settings : Settings} {text : String}
    (h : (Generation.generic document settings).result = .ok text) :
    ∃ collection, collect document settings.idCollectionSchema = .ok collection ∧
      ∀ operation ∈ collection.operations, StandsIn (commentBlock operation) text ∧
        ((∀ line ∈ commentLines operation, OnOneLine line) ↔
          OnOneLine operation.path ∧
          (∀ parameter ∈ operation.parameters, OnOneLine parameter.name) ∧
          ∀ type ∈ typeTexts operation, OnOneLine type) := by
  rw [Generation.result_generic, bind_eq_ok] at h
  obtain ⟨collection, hcollect, hrender⟩ := h
  refine ⟨collection, hcollect, fun operation hoperation =>
    ⟨commentBlock_standsIn_renderGeneric hrender hoperation, ?_⟩⟩
  rw [onOneLine_commentLines_iff, onOneLine_typeTexts_iff]
  simp only [imp_and, forall_and, and_assoc]

/-- A limit that is read with a parameter whose name has a line break. -/
def brokenDocument : Document := .object [
  (.text "paths", .object [
    (.text "/allocation/\x7btenant\x7d/limit", readItem [
      pathParameter "tenant",
      .object [(.text "name", .text "limit\n    body = None #"), (.text "in", .text "query"),
        (.text "schema", .object [(.text "type", .text "string")])]])])]

def brokenPrepared : Document := value (Update.update [] brokenDocument) (by decide +kernel)

theorem update_brokenDocument : Update.update [] brokenDocument = .ok brokenPrepared :=
  eq_ok_value _ _

def brokenRead : Operation :=
  { sampleOperation .get "/allocation/\x7btenant\x7d/limit"
      [.literal "allocation", .placeholder "tenant", .literal "limit"] "get_limit" "limit" with
    parameters := [⟨"limit\n    body = None #", ⟨.plain, none⟩, none⟩]
    requiresToken := true }

def brokenCollection : Collection := [(.get, [brokenRead]), (.delete, []), (.post, []), (.put, [])]

theorem collect_brokenPrepared : collect brokenPrepared "ChildList" = .ok brokenCollection := by
  have hreads : collectMethod brokenPrepared "ChildList" .get = .ok [brokenRead] :=
    collectMethod_of_ordered [brokenRead] (by decide +kernel) (by decide +kernel)
      (by decide +kernel)
  refine collect_of_methods ?_ ?_ hreads ?_ ?_ ?_
  all_goals decide +kernel

theorem generic_brokenPrepared :
    ∃ text, (Generation.generic brokenPrepared {}).result = .ok text := by
  have hrender : ∃ text, renderGeneric brokenCollection ({} : Settings).modules true
      brokenPrepared = .ok text :=
    ⟨_, eq_ok_value _ (by decide +kernel)⟩
  obtain ⟨text, htext⟩ := hrender
  refine ⟨text, ?_⟩
  rw [Generation.result_generic, bind_eq_ok]
  exact ⟨brokenCollection, collect_brokenPrepared, htext⟩

theorem comments_onOneLine_iff_broken :
    ∃ text, (Generation.generic brokenPrepared {}).result = .ok text ∧
      ∃ collection, collect brokenPrepared ({} : Settings).idCollectionSchema = .ok collection ∧
        ∀ operation ∈ collection.operations, StandsIn (commentBlock operation) text ∧
          ((∀ line ∈ commentLines operation, OnOneLine line) ↔
            OnOneLine operation.path ∧
            (∀ parameter ∈ operation.parameters, OnOneLine parameter.name) ∧
            ∀ type ∈ typeTexts operation, OnOneLine type) := by
  obtain ⟨text, htext⟩ := generic_brokenPrepared
  exact ⟨text, htext, comments_onOneLine_iff htext⟩

/-- The second line of a parameter's name becomes a statement of the handler. -/
theorem comment_ends_in_name :
    Update.update [] brokenDocument = .ok brokenPrepared ∧
    ∃ text, (Generation.generic brokenPrepared {}).result = .ok text ∧
      collect brokenPrepared ({} : Settings).idCollectionSchema = .ok brokenCollection ∧
      ∃ operation ∈ brokenCollection.operations,
        (∃ line ∈ commentLines operation, ¬OnOneLine line) ∧
        StandsIn "    # limit\n    body = None #: str\n" text := by
  obtain ⟨text, htext⟩ := generic_brokenPrepared
  refine ⟨update_brokenDocument, text, htext, collect_brokenPrepared, brokenRead,
    by simp [brokenCollection, Collection.operations], ?_, ?_⟩
  · decide +kernel
  · have hblock : StandsIn "    # limit\n    body = None #: str\n" (commentBlock brokenRead) :=
      ⟨"    # GET /allocation/\x7btenant\x7d/limit\n", "    # returns None when ok\n",
        by decide +kernel⟩
    rw [Generation.result_generic, collect_brokenPrepared] at htext
    exact hblock.trans (commentBlock_standsIn_renderGeneric htext
      (by simp [brokenCollection, Collection.operations]))

end Client

end ClientGen
