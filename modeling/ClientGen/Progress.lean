import ClientGen.Failure

/-!
Work that tells about its progress: lines for whoever watches, and a result. The lines of what was
done before a failure stay.
-/
namespace ClientGen

/-- The lines that some work has told, and how it ended. -/
structure Progress (α : Type) where
  lines : List String
  result : Except Failure α

namespace Progress

variable {α β : Type}

def ofResult (result : Except Failure α) : Progress α := ⟨[], result⟩

def say (line : String) : Progress Unit := ⟨[line], .ok ()⟩

def sayAll (lines : List String) : Progress Unit := ⟨lines, .ok ()⟩

def andThen (first : Progress α) (second : α → Progress β) : Progress β :=
  match first.result with
  | .ok value => ⟨first.lines ++ (second value).lines, (second value).result⟩
  | .error failure => ⟨first.lines, .error failure⟩

instance : Monad Progress where
  pure value := ⟨[], .ok value⟩
  bind := andThen

@[simp] theorem result_bind (first : Progress α) (second : α → Progress β) :
    (first >>= second).result = first.result >>= fun value => (second value).result := by
  simp only [Bind.bind, andThen, Except.bind]
  cases first.result <;> rfl

@[simp] theorem result_pure (value : α) : (pure value : Progress α).result = .ok value := rfl

@[simp] theorem result_ofResult (result : Except Failure α) : (ofResult result).result = result :=
  rfl

@[simp] theorem result_say (line : String) : (say line).result = .ok () := rfl

@[simp] theorem result_sayAll (lines : List String) : (sayAll lines).result = .ok () := rfl

end Progress

end ClientGen
