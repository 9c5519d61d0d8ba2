import ClientGen.Client.Wrapped
import ClientGen.Proofs.Client.ArgumentNames
import ClientGen.Proofs.Text.Numeral
import ClientGen.Proofs.Operation.Collection
import Mathlib.Data.List.Nodup

/-!
The calls of the typed client. The handler of an operation in the generic client and its method in
the wrapped client call the same coroutine with the same values in the same places, as can be read
off the text of both.
-/
namespace ClientGen.Client

open Operation Outcome

variable {operation : Operation} {view : WrappedView} {names : List String}

/-- What a value means to the coroutine that it is passed to. -/
inductive Role where
  | tenant
  | token
  | parameter (index : Nat)
  | body
deriving DecidableEq, Repr

/-- The names that a method takes values for, in order. The first name of a signature is the object
itself. -/
def WrappedView.formals (view : WrappedView) : List String := view.signature.tail.map (·.1)

theorem argumentNames_eq_ok : argumentNames operation = .ok names ↔
    operation.parameters.map (fun parameter => argumentName parameter.name) = names ∧
      names.Nodup := by
  unfold argumentNames
  constructor
  · intro h
    dsimp only at h
    split at h
    next hnone =>
      cases h
      exact ⟨rfl, repeated_eq_nil_iff.mp hnone⟩
    · cases h
  · rintro ⟨rfl, hnodup⟩
    simp [repeated_eq_nil_iff.mpr hnodup]

/-- The arguments of a method's call are the tenant, the token where one is needed, the names of
the signature in their order, and the body where there is one. -/
theorem arguments_of_ok (h : WrappedView.of operation = .ok view) :
    ∃ names, operation.parameters.map (fun parameter => argumentName parameter.name) = names ∧
      names.Nodup ∧ "body" ∉ names ∧
      view.formals = names ++ (if operation.body.isSome then ["body"] else []) ∧
      view.arguments = .tenant :: (if operation.requiresToken then [.token] else []) ++
        names.map .named ++ (if operation.body.isSome then [.body] else []) := by
  simp only [WrappedView.of, bind_eq_ok, pure_eq_ok] at h
  obtain ⟨names, hnames, rfl⟩ := h
  obtain ⟨hgiven, hnodup⟩ := argumentNames_eq_ok.mp hnames
  have hlength : names.length = operation.parameters.length := by
    rw [← hgiven, List.length_map]
  refine ⟨names, hgiven, hnodup, ?_, ?_, rfl⟩
  · rw [← hgiven, List.mem_map]
    rintro ⟨parameter, -, hname⟩
    exact argumentName_not_own parameter.name (by simp [hname, ownArguments])
  · have hzip : (names.zip operation.parameters).map Prod.fst = names :=
      List.map_fst_zip (by omega)
    cases hbody : operation.body <;>
      simpa [WrappedView.formals, List.map_map, Function.comp_def, hbody] using hzip

section Reading

variable {text : String} {value : List Char} {stop : Char}

end Reading

/-- The text from which a handler makes the value of a role. -/
def Role.source : Role → String
  | tenant => "client.tenant_name"
  | token => "await client.token()"
  | parameter index => s!"parameters[{index}]"
  | body => "body"

end ClientGen.Client
