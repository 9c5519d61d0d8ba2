import ClientGen.Generation

/-!
What the stages of a generation give, whatever they tell on the way.
-/
namespace ClientGen

namespace Progress

theorem result_mapM_loop {α β : Type} (step : α → Progress β) (as : List α) (done : List β) :
    (List.mapM.loop step as done).result =
      List.mapM.loop (fun a => (step a).result) as done := by
  induction as generalizing done with
  | nil => rfl
  | cons a as ih =>
    simp only [List.mapM.loop, result_bind]
    congr 1
    funext b
    exact ih (b :: done)

@[simp] theorem result_mapM {α β : Type} (step : α → Progress β) (as : List α) :
    (as.mapM step).result = as.mapM fun a => (step a).result :=
  result_mapM_loop step as []

end Progress

namespace Generation

variable (document : Document) (idCollection : String) (settings : Settings)

theorem result_collectMethod (method : Method) :
    (collectMethod document idCollection method).result =
      (Operation.collectMethod document idCollection method).map fun operations =>
        (method, operations) := by
  simp only [collectMethod, Operation.collectMethod, Progress.result_bind,
    Progress.result_ofResult, Progress.result_sayAll, Progress.result_say,
    Progress.result_pure]
  cases hraws : Operation.rawOf document method with
  | error failure => rfl
  | ok raws =>
    simp only [Bind.bind, Except.bind]
    split
    · rfl
    next operations _ =>
      cases Operation.assignSelectors method operations <;> rfl

theorem result_collect :
    (collect document idCollection).result = Operation.collect document idCollection := by
  simp only [collect, Operation.collect, Progress.result_bind, Progress.result_ofResult,
    Progress.result_mapM, result_collectMethod]
  rfl

/-- The generic module is the text rendered for the collected operations. -/
theorem result_generic :
    (generic document settings).result =
      Operation.collect document settings.idCollectionSchema >>= fun collection =>
        Client.renderGeneric collection settings.modules settings.pathAliases document := by
  simp only [generic, Progress.result_bind, result_collect, Progress.result_ofResult,
    Progress.result_say, Progress.result_pure]
  congr 1
  funext collection
  cases Client.renderGeneric collection settings.modules settings.pathAliases document <;> rfl

/-- The wrapped module is the text rendered for all collected operations in one order. -/
theorem result_wrapped :
    (wrapped document settings).result =
      Operation.collect document settings.idCollectionSchema >>= fun collection =>
        Client.renderWrapped (Operation.sort collection.operations) settings.modules
          document := by
  simp only [wrapped, Progress.result_bind, result_collect, Progress.result_ofResult,
    Progress.result_say, Progress.result_pure]
  congr 1
  funext collection
  cases Client.renderWrapped (Operation.sort collection.operations) settings.modules document <;>
    rfl

end Generation

end ClientGen
