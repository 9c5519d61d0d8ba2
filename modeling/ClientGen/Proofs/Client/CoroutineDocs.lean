import ClientGen.Proofs.Client.Comments
import ClientGen.Proofs.Client.Docstrings.Parts
import ClientGen.Proofs.Client.Documentation
import Mathlib.Algebra.Order.BigOperators.Group.List

/-!
The documentation of the coroutines of the generic client. It has one line for each operation, on
which the path is escaped and the selector is not.
-/
namespace ClientGen.Client

open Operation Outcome Text

variable {method : Method} {operations : List Operation}

def linesBefore (method : Method) (operations : List Operation) : List String :=
  ["Call a ``" ++ method.upperName ++ "`` operation by selector.", "",
    if method == .get then "The result is returned as JSON-compatible data."
    else "Only errors are reported; response data is discarded."] ++
  (if method.hasBody then
    ["``body`` is the JSON text of the request body, when the operation has one."] else []) ++
  [""] ++
  if operations.isEmpty then
    ["There are no supported selectors for the ``" ++ method.name ++ "`` method."]
  else ["Supported selectors:", ""]

/-- The line of an operation, with its selector and its path written in given ways. -/
def operationLine (selectorText pathText : String → String) (method : Method)
    (operation : Operation) : String :=
  "* ``" ++ selectorText operation.selector ++ "`` -- ``" ++ method.upperName ++ " " ++
    pathText operation.path ++ "``"

def linesAfter : List String := ["", "Raises:",
  "    ConfigurationError: If the selector is not recognized.",
  "    ParameterError: If the parameters or body do not fit the operation."]

/-- The text between the quotes of the documentation, with selectors and paths written in given
ways. -/
def coroutineDoc (selectorText pathText : String → String) (method : Method)
    (operations : List Operation) : String :=
  trim (docBlock (linesBefore method operations ++
    operations.map (operationLine selectorText pathText method) ++ linesAfter) "        ") ++
    "\n        "

theorem methodDoc_eq (method : Method) (operations : List Operation) :
    methodDoc method operations = docBlock (linesBefore method operations ++
      operations.map (operationLine id docText method) ++ linesAfter) "        " := by
  unfold methodDoc linesBefore linesAfter
  cases operations with
  | nil =>
    simp only [List.isEmpty_nil, if_true, List.append_assoc, List.map_nil, List.nil_append]
  | cons operation rest =>
    simp only [List.isEmpty_cons, Bool.false_eq_true, if_false, List.append_assoc]
    rfl

theorem isPlain_linesBefore : ∀ line ∈ linesBefore method operations, IsPlain line := by
  have hname : IsPlain method.name := by cases method <;> decide
  have hcall : IsPlain ("Call a ``" ++ method.upperName ++ "`` operation by selector.") :=
    ((by decide : IsPlain "Call a ``").append (isPlain_upperName method)).append (by decide)
  have hnone : IsPlain ("There are no supported selectors for the ``" ++ method.name ++
      "`` method.") :=
    ((by decide : IsPlain "There are no supported selectors for the ``").append hname).append
      (by decide)
  have hempty : IsPlain "" := by decide
  have hread : IsPlain "The result is returned as JSON-compatible data." := by decide
  have hwrite : IsPlain "Only errors are reported; response data is discarded." := by decide
  have hbody : IsPlain
      "``body`` is the JSON text of the request body, when the operation has one." := by decide
  have hheading : IsPlain "Supported selectors:" := by decide
  unfold linesBefore
  simp only [List.forall_mem_append, List.forall_mem_cons]
  refine ⟨⟨⟨⟨hcall, hempty, ?_, by simp⟩, ?_⟩, hempty, by simp⟩, ?_⟩
  · split_ifs
    · exact hread
    · exact hwrite
  · split_ifs <;> simp [hbody]
  · split_ifs <;> simp [hnone, hheading, hempty]

theorem isPlain_linesAfter : ∀ line ∈ linesAfter, IsPlain line := by decide

theorem backslashes_coroutineDoc (selectorText pathText : String → String) (method : Method)
    (operations : List Operation) :
    backslashes (coroutineDoc selectorText pathText method operations) =
      (operations.map fun operation => backslashes (selectorText operation.selector) +
        backslashes (pathText operation.path)).sum := by
  have hplain (lines : List String) (h : ∀ line ∈ lines, IsPlain line) :
      (lines.map backslashes).sum = 0 := by
    rw [List.map_congr_left fun line hline => backslashes_of_isPlain (h line hline)]
    simp
  have hoperation (operation : Operation) :
      backslashes (operationLine selectorText pathText method operation) =
        backslashes (selectorText operation.selector) +
          backslashes (pathText operation.path) := by
    have hstar : backslashes "* ``" = 0 := backslashes_of_isPlain (by decide)
    have hdash : backslashes "`` -- ``" = 0 := backslashes_of_isPlain (by decide)
    have hspace : backslashes " " = 0 := backslashes_of_isPlain (by decide)
    have hend : backslashes "``" = 0 := backslashes_of_isPlain (by decide)
    have hmethod := backslashes_of_isPlain (isPlain_upperName method)
    unfold operationLine
    simp only [backslashes_append]
    omega
  have hoperations := congrArg List.sum
    (List.map_congr_left (l := operations) fun operation _ => hoperation operation)
  have hlast : backslashes "\n        " = 0 := backslashes_of_isPlain (by decide)
  rw [coroutineDoc, backslashes_append, hlast, backslashes_trim,
    backslashes_docBlock (by decide), List.map_append, List.map_append, List.sum_append,
    List.sum_append, hplain _ isPlain_linesBefore, hplain _ isPlain_linesAfter, List.map_map,
    Nat.zero_add, Nat.add_zero]
  exact hoperations

/-- Documentation that is put together from escaped texts is that of the texts, escaped. -/
theorem coroutineDoc_docText (method : Method) (operations : List Operation) :
    coroutineDoc docText docText method operations =
      docText (coroutineDoc id id method operations) := by
  have hplain (lines : List String) (h : ∀ line ∈ lines, IsPlain line) :
      lines = lines.map docText :=
    (List.map_id lines).symm.trans (List.map_congr_left fun line hline =>
      (docText_of_isPlain (h line hline)).symm)
  have hoperation (operation : Operation) : operationLine docText docText method operation =
      docText (operationLine id id method operation) := by
    have hseam : ∀ c ∈ ("`` -- ``" ++ (method.upperName ++ (" " ++
        (operation.path ++ "``")))).toList.head?, c ≠ '"' := by
      simp [String.toList_append]
    unfold operationLine
    simp only [id_eq, String.append_assoc]
    rw [docText_plain_append (by decide), docText_append hseam, docText_plain_append (by decide),
      docText_plain_append (isPlain_upperName method), docText_plain_append (by decide),
      docText_append_plain (by decide)]
  have hlines : linesBefore method operations ++
      operations.map (operationLine docText docText method) ++ linesAfter =
        (linesBefore method operations ++ operations.map (operationLine id id method) ++
          linesAfter).map docText := by
    rw [List.map_append, List.map_append, List.map_map, ← hplain _ isPlain_linesBefore,
      ← hplain _ isPlain_linesAfter]
    exact congrArg (fun lines => linesBefore method operations ++ lines ++ linesAfter)
      (List.map_congr_left fun operation _ => hoperation operation)
  rw [coroutineDoc, hlines, docBlock_map_docText (by decide), trim_docText, coroutineDoc,
    docText_append_plain (by decide)]

/-- The documentation is the plain one, escaped, exactly if no selector needs an escape. -/
theorem coroutineDoc_eq_docText_iff (method : Method) (operations : List Operation) :
    coroutineDoc id docText method operations = docText (coroutineDoc id id method operations) ↔
      ∀ operation ∈ operations, docText operation.selector = operation.selector := by
  rw [← coroutineDoc_docText]
  constructor
  · intro hsame
    have hcount := congrArg backslashes hsame
    rw [backslashes_coroutineDoc, backslashes_coroutineDoc] at hcount
    intro operation hoperation
    by_contra hselector
    -- the escaped documentation would have the backslashes that this selector lacks
    refine hcount.not_lt (List.sum_lt_sum _ _ (fun operation _ => ?_)
      ⟨operation, hoperation, ?_⟩)
    · exact Nat.add_le_add_right (backslashes_docText operation.selector) _
    · refine Nat.add_lt_add_right ?_ _
      by_contra hle
      exact hselector (docText_of_backslashes (Nat.le_of_not_lt hle))
  · intro hselectors
    have hlines : operations.map (operationLine id docText method) =
        operations.map (operationLine docText docText method) :=
      List.map_congr_left fun operation hoperation => by
        rw [operationLine, operationLine, hselectors operation hoperation, id]
    rw [coroutineDoc, coroutineDoc, hlines]

theorem wellEscaped_coroutineDoc_iff (method : Method) (operations : List Operation) :
    WellEscaped (coroutineDoc id docText method operations) ↔
      ∀ operation ∈ operations, WellEscaped operation.selector := by
  have hoperation (operation : Operation) :
      WellEscaped (operationLine id docText method operation) ↔
        WellEscaped operation.selector := by
    have hseam : ∃ c ∈ ("`` -- ``" ++ (method.upperName ++ (" " ++
        (docText operation.path ++ "``")))).toList.head?, c ≠ '\\' ∧ c ≠ '"' :=
      ⟨'`', by simp [String.toList_append], by decide⟩
    unfold operationLine
    simp only [id_eq, String.append_assoc]
    rw [wellEscaped_plain_append (by decide), wellEscaped_append_iff hseam,
      wellEscaped_plain_append (by decide), wellEscaped_plain_append (isPlain_upperName method),
      wellEscaped_plain_append (by decide), wellEscaped_append_plain (by decide)]
    exact and_iff_left (wellEscaped_docText _)
  have hbefore : ∀ line ∈ linesBefore method operations, WellEscaped line :=
    fun line hline => wellEscaped_of_isPlain (isPlain_linesBefore line hline)
  have hafter : ∀ line ∈ linesAfter, WellEscaped line :=
    fun line hline => wellEscaped_of_isPlain (isPlain_linesAfter line hline)
  rw [coroutineDoc, wellEscaped_append_plain (by decide), wellEscaped_trim,
    wellEscaped_docBlock (by decide), List.forall_mem_append, List.forall_mem_append,
    List.forall_mem_map]
  simp only [hoperation, and_iff_left hafter, and_iff_right hbefore]

def coroutineOpening (method : Method) : String :=
  "\n    async def " ++ method.name ++
    (if method.hasBody then
      "(\n        self, selector: str, parameters: Sequence[str] = (), " ++
        "body: Optional[str] = None\n    ) -> Any:\n"
    else "(self, selector: str, parameters: Sequence[str] = ()) -> Any:\n") ++ "        "

def coroutineClosing (method : Method) : String :=
  "        return await _dispatch(\n            " ++ (Literal.text method.name).render ++
    ", _" ++ method.upperName ++ "_HANDLERS, self, selector, parameters, " ++
    (if method.hasBody then "body" else "None") ++ "\n        )\n"

/-- A coroutine is written as its opening, its documentation between quotes, and its code. -/
theorem renderCoroutine_of_ok {byPath : Bool} {view : MethodView}
    (h : MethodView.of method operations byPath = .ok view) :
    view.renderCoroutine = coroutineOpening method ++ ("\"\"\"" ++
      (coroutineDoc id docText method operations ++ ("\"\"\"\n" ++ coroutineClosing method))) := by
  simp only [MethodView.of, bind_eq_ok, pure_eq_ok] at h
  obtain ⟨table, -, rfl⟩ := h
  have hopen : "        \"\"\"" = "        " ++ "\"\"\"" := by decide
  have hclose : "\n        \"\"\"\n" = "\n        " ++ "\"\"\"\n" := by decide
  unfold MethodView.renderCoroutine coroutineOpening coroutineClosing coroutineDoc
  rw [← methodDoc_eq]
  simp only [hopen, hclose, String.append_assoc]

theorem coroutine_standsIn {collection : Collection} {modules : Modules} {byPath : Bool}
    {document : Document} {text : String}
    (h : renderGeneric collection modules byPath document = .ok text)
    (hmem : (method, operations) ∈ collection) :
    StandsIn (coroutineOpening method ++ ("\"\"\"" ++
      (coroutineDoc id docText method operations ++ ("\"\"\"\n" ++ coroutineClosing method))))
      text := by
  obtain ⟨-, views, version, types, hviews, -, -, rfl⟩ := renderGeneric_eq_ok.mp h
  obtain ⟨view, hview, hof⟩ := exists_right_of_mem (mapM_eq_ok.mp hviews) hmem
  rw [← renderCoroutine_of_ok hof]
  exact (standsIn_join (List.mem_map_of_mem hview)).after _

/-- The quotes that close the documentation of a coroutine are its own exactly if it is well
escaped. -/
theorem readLiteral?_coroutineDoc_iff (method : Method) (operations : List Operation) :
    (∃ read, readLiteral? (coroutineDoc id docText method operations ++
        ("\"\"\"\n" ++ coroutineClosing method)).toList =
      some (read, ("\n" ++ coroutineClosing method).toList)) ↔
      WellEscaped (coroutineDoc id docText method operations) := by
  constructor
  · rintro ⟨read, hread⟩
    rw [toList_quoted] at hread
    exact wellEscaped_of_readLiteral? hread
  · exact fun h => ⟨_, readLiteral?_indented h _⟩

/-- In a rendered module the documentation of each coroutine stands between quotes. Those that
close it are its own exactly if it is well escaped, and that is if the selectors are; and it is the
plain documentation, escaped, exactly if no selector has a backslash or three quotes in a row. -/
theorem coroutine_docs_iff {collection : Collection} {modules : Modules} {byPath : Bool}
    {document : Document} {text : String}
    (h : renderGeneric collection modules byPath document = .ok text) :
    ∀ method operations, (method, operations) ∈ collection →
      StandsIn (coroutineOpening method ++ ("\"\"\"" ++
        (coroutineDoc id docText method operations ++
          ("\"\"\"\n" ++ coroutineClosing method)))) text ∧
      ((∃ read, readLiteral? (coroutineDoc id docText method operations ++
          ("\"\"\"\n" ++ coroutineClosing method)).toList =
        some (read, ("\n" ++ coroutineClosing method).toList)) ↔
        WellEscaped (coroutineDoc id docText method operations)) ∧
      (WellEscaped (coroutineDoc id docText method operations) ↔
        ∀ operation ∈ operations, WellEscaped operation.selector) ∧
      (coroutineDoc id docText method operations =
          docText (coroutineDoc id id method operations) ↔
        ∀ operation ∈ operations, '\\' ∉ operation.selector.toList ∧
          ¬['"', '"', '"'] <:+: operation.selector.toList) := by
  intro method operations hmem
  refine ⟨coroutine_standsIn h hmem, readLiteral?_coroutineDoc_iff method operations,
    wellEscaped_coroutineDoc_iff method operations, ?_⟩
  rw [coroutineDoc_eq_docText_iff]
  exact forall₂_congr fun operation _ => docText_eq_self_iff operation.selector

theorem coroutine_docs_iff_buckets :
    ∃ text, renderGeneric bucketCollection ⟨"runtime", "types"⟩ true bucketDocument = .ok text ∧
      ∀ method operations, (method, operations) ∈ bucketCollection →
        StandsIn (coroutineOpening method ++ ("\"\"\"" ++
          (coroutineDoc id docText method operations ++
            ("\"\"\"\n" ++ coroutineClosing method)))) text ∧
        coroutineDoc id docText method operations =
          docText (coroutineDoc id id method operations) := by
  obtain ⟨text, htext⟩ := renderGeneric_buckets
  refine ⟨text, htext, fun method operations hmem => ?_⟩
  have hselectors : ∀ entry ∈ bucketCollection, ∀ operation ∈ entry.2,
      '\\' ∉ operation.selector.toList ∧
        ¬['"', '"', '"'] <:+: operation.selector.toList := by decide +kernel
  obtain ⟨hstands, -, -, hplain⟩ := coroutine_docs_iff htext method operations hmem
  exact ⟨hstands, hplain.mpr (hselectors _ hmem)⟩

/-- A path with three quotes in its last segment, which is the selector of its operation. -/
def quotedPaths : Document := .object [
  (.text "openapi", .text "3.0.0"),
  (.text "info", .object [(.text "title", .text "DSH"), (.text "version", .text "1")]),
  (.text "paths", .object [
    (.text "/allocation/\x7btenant\x7d/a\"\"\"b", .object [(.text "get", .object [
      (.text "operationId", .text "get_a"),
      (.text "parameters", .array [pathParameter "tenant"]),
      (.text "responses", .object [
        (.text "200", .object [(.text "description", .text "ok")])])])])])]

def quotedSelector : Operation :=
  sampleOperation .get "/allocation/\x7btenant\x7d/a\"\"\"b"
    [.literal "allocation", .placeholder "tenant", .literal "a\"\"\"b"] "get_a" "a\"\"\"b"

def quotedCollection : Collection :=
  [(.get, [quotedSelector]), (.delete, []), (.post, []), (.put, [])]

theorem collect_quotedPaths : collect quotedPaths "ChildList" = .ok quotedCollection := by
  have hreads : collectMethod quotedPaths "ChildList" .get = .ok [quotedSelector] :=
    collectMethod_of_ordered [quotedSelector] (by decide +kernel) (by decide +kernel)
      (by decide +kernel)
  refine collect_of_methods ?_ ?_ hreads ?_ ?_ ?_
  all_goals decide +kernel

/-- The documentation of the coroutine is not closed by its own quotes. -/
theorem coroutine_doc_closed_in_selector :
    ∃ text, (Generation.generic quotedPaths {}).result = .ok text ∧
      collect quotedPaths ({} : Settings).idCollectionSchema = .ok quotedCollection ∧
      StandsIn (coroutineOpening .get ++ ("\"\"\"" ++
        (coroutineDoc id docText .get [quotedSelector] ++
          ("\"\"\"\n" ++ coroutineClosing .get)))) text ∧
      ¬WellEscaped (coroutineDoc id docText .get [quotedSelector]) ∧
      ∀ read, readLiteral? (coroutineDoc id docText .get [quotedSelector] ++
          ("\"\"\"\n" ++ coroutineClosing .get)).toList ≠
        some (read, ("\n" ++ coroutineClosing .get).toList) := by
  have hrender : ∃ text, renderGeneric quotedCollection ({} : Settings).modules true
      quotedPaths = .ok text :=
    ⟨_, eq_ok_value _ (by decide +kernel)⟩
  obtain ⟨text, htext⟩ := hrender
  have hgeneric : (Generation.generic quotedPaths {}).result = .ok text := by
    rw [Generation.result_generic, bind_eq_ok]
    exact ⟨quotedCollection, collect_quotedPaths, htext⟩
  have hselector : ¬WellEscaped quotedSelector.selector := by
    rintro ⟨-, hquotes⟩
    exact hquotes (by decide +kernel)
  have hescaped : ¬WellEscaped (coroutineDoc id docText .get [quotedSelector]) := by
    rw [wellEscaped_coroutineDoc_iff]
    exact fun h => hselector (h quotedSelector List.mem_cons_self)
  refine ⟨text, hgeneric, collect_quotedPaths, coroutine_standsIn htext List.mem_cons_self,
    hescaped, fun read hread => hescaped ?_⟩
  exact (readLiteral?_coroutineDoc_iff _ _).mp ⟨read, hread⟩

end ClientGen.Client
