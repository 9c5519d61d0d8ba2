import ClientGen.Proofs.Client.Docstrings
import ClientGen.Proofs.Client.Signatures

/-!
The documentation of wrapped methods. Its lines are put together from escaped and from plain pieces,
and the whole reads as if it had been put together first and then escaped once.
-/
namespace ClientGen.Client

open Operation Outcome Text

variable {operation : Operation} {view : WrappedView} {names : List String}

/-- The documentation lines for the arguments of a method, with its texts written in a given way. -/
def argumentLinesWith (written : String → String) (operation : Operation) (names : List String) :
    List String :=
  if operation.parameters.isEmpty && operation.body.isNone then []
  else
    ["", "Args:"] ++
      ((names.zip operation.parameters).map fun (name, parameter) =>
        "    " ++ name ++ ": " ++ written
          ((descriptionLine? parameter.description).getD parameter.type.expression)) ++
      operation.body.toList.map fun body =>
        "    body: Request body, " ++ written body.expression ++ "."

/-- The documentation lines of a method, with its texts written in a given way. -/
def docLinesWith (written : String → String) (operation : Operation) (names : List String) :
    List String :=
  [written (docTitle operation), ""] ++
    (match descriptionLine? operation.description with
      | some line => [written line, ""]
      | none => []) ++
    ["``" ++ operation.method.upperName ++ " " ++ written operation.path ++ "``"] ++
    (if operation.kind == .allocation then []
     else
      ["", "Only available when the ``" ++ operation.kind.name ++ "`` feature is enabled."]) ++
    argumentLinesWith written operation names ++
    (if operation.okResponse.kind == .nothing then []
     else ["", "Returns:", "    " ++ written operation.okResponse.expression])

theorem docLines_eq (operation : Operation) (names : List String) :
    docLines operation names = docLinesWith docText operation names := rfl

/-- The documentation of a method before anything in it is escaped. -/
def plainDoc (operation : Operation) (names : List String) : String :=
  docBlock (docLinesWith id operation names) "        "

theorem isPlain_argumentName (name : String) : IsPlain (argumentName name) := by
  intro c hc
  have hchar := isArgumentChar_of_mem_argumentName name c hc
  constructor <;> rintro rfl <;> revert hchar <;> decide

/-- A line for an argument is escaped as a whole: nothing but its text needs an escape. -/
theorem argumentLinesWith_docText (hnames : ∀ name ∈ names, IsPlain name) :
    argumentLinesWith docText operation names =
      (argumentLinesWith id operation names).map docText := by
  have hempty : docText "" = "" := docText_of_isPlain (by decide)
  have hheading : docText "Args:" = "Args:" := docText_of_isPlain (by decide)
  have hargument (pair : String × Parameter) (hpair : pair ∈ names.zip operation.parameters)
      (text : String) :
      docText ("    " ++ pair.1 ++ ": " ++ text) = "    " ++ pair.1 ++ ": " ++ docText text := by
    have hname := hnames pair.1 (List.of_mem_zip hpair).1
    exact docText_plain_append (((by decide : IsPlain "    ").append hname).append (by decide))
  have hbody (text : String) : docText ("    body: Request body, " ++ text ++ ".") =
      "    body: Request body, " ++ docText text ++ "." := by
    rw [docText_append_plain (by decide), docText_plain_append (by decide)]
  unfold argumentLinesWith
  simp only [apply_ite (List.map docText), List.map_append, List.map_cons, List.map_nil,
    List.map_map, Function.comp_def, id_eq, hempty, hheading, hbody]
  rw [List.map_congr_left fun pair hpair => (hargument pair hpair _)]

theorem isPlain_upperName (method : Method) : IsPlain method.upperName := by
  cases method <;> decide

theorem docLinesWith_docText (hnames : ∀ name ∈ names, IsPlain name) :
    docLinesWith docText operation names = (docLinesWith id operation names).map docText := by
  have hempty : docText "" = "" := docText_of_isPlain (by decide)
  have hpath : docText ("``" ++ operation.method.upperName ++ " " ++ operation.path ++ "``") =
      "``" ++ operation.method.upperName ++ " " ++ docText operation.path ++ "``" := by
    have hmethod := isPlain_upperName operation.method
    rw [docText_append_plain (by decide), docText_plain_append
      (((by decide : IsPlain "``").append hmethod).append (by decide))]
  have hkind : docText ("Only available when the ``" ++ operation.kind.name ++
      "`` feature is enabled.") =
        "Only available when the ``" ++ operation.kind.name ++ "`` feature is enabled." := by
    have hname : IsPlain operation.kind.name := by cases operation.kind <;> decide
    exact docText_of_isPlain
      (((by decide : IsPlain "Only available when the ``").append hname).append (by decide))
  have hheading : docText "Returns:" = "Returns:" := docText_of_isPlain (by decide)
  have hreturns : docText ("    " ++ operation.okResponse.expression) =
      "    " ++ docText operation.okResponse.expression := docText_plain_append (by decide)
  unfold docLinesWith
  rw [argumentLinesWith_docText hnames]
  cases descriptionLine? operation.description <;>
    simp only [List.map_append, List.map_cons, List.map_nil, apply_ite (List.map docText), id_eq,
      hempty, hpath, hkind, hheading, hreturns]

theorem isEmpty_docText (line : String) : (docText line).isEmpty = line.isEmpty := by
  rw [Bool.eq_iff_iff, String.isEmpty_iff, String.isEmpty_iff]
  constructor <;> intro h
  · rw [← reading_docText line, h]
    rfl
  · rw [h]
    rfl

theorem intercalate_map_docText (lines : List String) :
    "\n".intercalate (lines.map docText) = docText ("\n".intercalate lines) := by
  induction lines with
  | nil => rfl
  | cons line rest ih =>
    cases rest with
    | nil => simp
    | cons next rest =>
      have hseam : ∀ c ∈ ("\n" ++ "\n".intercalate (next :: rest)).toList.head?, c ≠ '"' := by
        simp [String.toList_append]
      rw [List.map_cons] at ih
      rw [List.map_cons, List.map_cons, String.intercalate_cons_cons, ih,
        String.intercalate_cons_cons, String.append_assoc, String.append_assoc,
        docText_append hseam, docText_plain_append (by decide)]

/-- Lines can be escaped before they are indented and joined or after. -/
theorem docBlock_map_docText {indent : String} (hindent : IsPlain indent) (lines : List String) :
    docBlock (lines.map docText) indent = docText (docBlock lines indent) := by
  have hline : ∀ line : String,
      (if (docText line).isEmpty then "" else indent ++ docText line) =
        docText (if line.isEmpty then "" else indent ++ line) := by
    intro line
    rw [isEmpty_docText, apply_ite docText, docText_plain_append hindent]
    rfl
  rw [docBlock, docBlock, ← intercalate_map_docText, List.map_map, List.map_map]
  exact congrArg _ (List.map_congr_left fun line _ => hline line)

/-- The documentation of a method is the plain one, trimmed and escaped once. -/
theorem docSource_of_ok (h : WrappedView.of operation = .ok view) :
    ∃ names, argumentNames operation = .ok names ∧
      view.docSource = docText (trim (plainDoc operation names) ++ "\n        ") := by
  simp only [WrappedView.of, bind_eq_ok, pure_eq_ok] at h
  obtain ⟨names, hnames, rfl⟩ := h
  refine ⟨names, hnames, ?_⟩
  have hplain : ∀ name ∈ names, IsPlain name := by
    rw [← (argumentNames_eq_ok.mp hnames).1, List.forall_mem_map]
    exact fun parameter _ => isPlain_argumentName parameter.name
  dsimp only [WrappedView.docSource]
  rw [docLines_eq, docLinesWith_docText hplain, docBlock_map_docText (by decide), trim_docText,
    docText_append_plain (by decide), plainDoc]

/-- What stands between the quotes of a method ends with the indentation of the quotes, so what is
read from there ends at them. -/
theorem readLiteral?_docSource (h : WellEscaped view.docSource) :
    readLiteral? (view.docSource ++ ("\"\"\"\n" ++ view.closing)).toList =
      some ((reading view.docSource).toList, ("\n" ++ view.closing).toList) :=
  readLiteral?_indented h view.closing

/-- Every text reads back from what documentation writes for it. What stands between the quotes of
a method is well escaped and reads as the plain documentation, trimmed, with the end of its last
line, and a reader that starts behind the opening quotes stops at the closing ones. -/
theorem documentation_reads :
    (∀ text, reading (docText text) = text ∧ WellEscaped (docText text)) ∧
    ∀ operation view, WrappedView.of operation = .ok view →
      ∃ names, argumentNames operation = .ok names ∧
        view.render = view.opening ++ ("\"\"\"" ++ (view.docSource ++ ("\"\"\"\n" ++
          view.closing))) ∧
        WellEscaped view.docSource ∧
        reading view.docSource = trim (plainDoc operation names) ++ "\n        " ∧
        readLiteral? (view.docSource ++ ("\"\"\"\n" ++ view.closing)).toList =
          some ((trim (plainDoc operation names) ++ "\n        ").toList,
            ("\n" ++ view.closing).toList) := by
  refine ⟨fun text => ⟨reading_docText text, wellEscaped_docText text⟩, fun operation view h => ?_⟩
  obtain ⟨names, hnames, hsource⟩ := docSource_of_ok h
  have hescaped : WellEscaped view.docSource := hsource ▸ wellEscaped_docText _
  have hreading : reading view.docSource = trim (plainDoc operation names) ++ "\n        " := by
    rw [hsource, reading_docText]
  refine ⟨names, hnames, view.render_eq, hescaped, hreading, ?_⟩
  rw [← hreading]
  exact readLiteral?_docSource hescaped

/-- An operation with quotes and backslashes wherever a document can have them. -/
def quotedRead : Operation :=
  { sampleOperation .get "/allocation/\x7btenant\x7d/bucket/\"\"\"\\"
      [.literal "allocation", .placeholder "tenant", .literal "bucket", .literal "\"\"\"\\"]
      "get_bucket" "bucket-\"\"\"\\" with
    description := some "Reads \"\"\"quoted\"\"\" buckets \\"
    parameters := [⟨"bucketName", ⟨.schema, some "Name\"\"\"\""⟩, none⟩,
      ⟨"order", ⟨.plain, none⟩, some "\\\"\"\"\\\\"⟩] }

def quotedMethod : WrappedView := value (WrappedView.of quotedRead) (by decide +kernel)

theorem documentation_reads_quoted :
    WrappedView.of quotedRead = .ok quotedMethod ∧
    ∃ names, argumentNames quotedRead = .ok names ∧
      quotedMethod.render = quotedMethod.opening ++ ("\"\"\"" ++ (quotedMethod.docSource ++
        ("\"\"\"\n" ++ quotedMethod.closing))) ∧
      WellEscaped quotedMethod.docSource ∧
      reading quotedMethod.docSource = trim (plainDoc quotedRead names) ++ "\n        " ∧
      readLiteral? (quotedMethod.docSource ++ ("\"\"\"\n" ++ quotedMethod.closing)).toList =
        some ((trim (plainDoc quotedRead names) ++ "\n        ").toList,
          ("\n" ++ quotedMethod.closing).toList) :=
  ⟨eq_ok_value _ _, documentation_reads.2 _ _ (eq_ok_value _ _)⟩

end ClientGen.Client
