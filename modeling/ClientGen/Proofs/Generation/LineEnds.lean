import ClientGen.Proofs.Generation.Stages
import ClientGen.Proofs.Outcome

/-!
Generated texts end in a line feed, in every last branch of what renders them.
-/
namespace ClientGen

open Outcome

/-- Whether a text ends in a line feed. -/
def EndsLine (text : String) : Prop := text.toList.getLast? = some '\n'

instance (text : String) : Decidable (EndsLine text) := inferInstanceAs (Decidable (_ = _))

theorem EndsLine.after {text : String} (h : EndsLine text) (start : String) :
    EndsLine (start ++ text) := by
  unfold EndsLine at h ⊢
  rw [String.toList_append, List.getLast?_append, h]
  rfl

theorem EndsLine.join {start : String} (h : EndsLine start) {parts : List String}
    (hparts : ∀ part ∈ parts, EndsLine part) : EndsLine (start ++ String.join parts) := by
  induction parts generalizing start with
  | nil => simpa using h
  | cons part parts ih =>
    obtain ⟨hpart, hrest⟩ := List.forall_mem_cons.mp hparts
    rw [String.join_cons, ← String.append_assoc]
    exact ih (hpart.after start) hrest

namespace Client

theorem endsLine_renderCoroutine (view : MethodView) : EndsLine view.renderCoroutine := by
  unfold MethodView.renderCoroutine
  exact EndsLine.after (by decide) _

theorem endsLine_genericDispatch : EndsLine genericDispatch := by
  unfold genericDispatch
  exact EndsLine.after (by decide) _

theorem endsLine_renderGeneric {collection : Collection} {modules : Modules} {byPath : Bool}
    {document : Document} {text : String}
    (h : renderGeneric collection modules byPath document = .ok text) : EndsLine text := by
  unfold renderGeneric at h
  split at h
  · simp only [bind_eq_ok, pure_eq_ok] at h
    obtain ⟨views, -, version, -, types, -, rfl⟩ := h
    refine (endsLine_genericDispatch.after _).join fun part hpart => ?_
    obtain ⟨view, -, rfl⟩ := List.mem_map.mp hpart
    exact endsLine_renderCoroutine view
  · cases h

theorem endsLine_renderMethod (view : WrappedView) : EndsLine view.render := by
  unfold WrappedView.render
  split
  · exact EndsLine.after (EndsLine.after (by decide) _) _
  · rw [String.append_empty]
    exact EndsLine.after (by decide) _

theorem endsLine_renderWrapped {operations : List Operation} {modules : Modules}
    {document : Document} {text : String}
    (h : renderWrapped operations modules document = .ok text) : EndsLine text := by
  unfold renderWrapped at h
  split at h
  · simp only [bind_eq_ok, pure_eq_ok] at h
    obtain ⟨version, -, types, -, views, -, rfl⟩ := h
    split
    · exact EndsLine.after (by decide) _
    · refine EndsLine.join ?_ (by simp [endsLine_renderMethod])
      exact EndsLine.after (by decide) _
  · cases h

end Client

namespace Generation

theorem endsLine_documentText {document : Document} {text : String}
    (h : documentText document = .ok text) : EndsLine text := by
  unfold documentText Json.write? at h
  cases hvalue : Json.valueText? 0 document with
  | none => simp [hvalue] at h
  | some value =>
    simp only [hvalue, Option.map_some, Except.ok.injEq] at h
    rw [← h]
    exact EndsLine.after (by decide) value

theorem endsLine_generic {document : Document} {settings : Settings} {text : String}
    (h : (generic document settings).result = .ok text) : EndsLine text := by
  rw [result_generic] at h
  obtain ⟨collection, -, h⟩ := bind_eq_ok.mp h
  exact Client.endsLine_renderGeneric h

theorem endsLine_wrapped {document : Document} {settings : Settings} {text : String}
    (h : (wrapped document settings).result = .ok text) : EndsLine text := by
  rw [result_wrapped] at h
  obtain ⟨collection, -, h⟩ := bind_eq_ok.mp h
  exact Client.endsLine_renderWrapped h

end Generation

end ClientGen
