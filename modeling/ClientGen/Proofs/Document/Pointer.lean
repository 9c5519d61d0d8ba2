import ClientGen.Document.Pointer
import ClientGen.Proofs.Document.Keys
import ClientGen.Proofs.Outcome
import ClientGen.Proofs.Text.Numeral
import ClientGen.Proofs.Text.Pieces

/-!
Pointers as ways through a document. A reference is resolved by walking from the whole document into
its parts, one for each token; and every place below the whole is what some reference leads to,
whatever texts the keys on the way are.
-/
namespace ClientGen

/-- The value under a name is that of the first member whose key is the name. -/
def Members.Binds (members : Members) (name : String) (value : Document) : Prop :=
  ∃ before after, members = before ++ (.text name, value) :: after ∧
    ∀ member ∈ before, member.1 ≠ .text name

theorem Members.get?_eq_some_iff_binds {members : Members} {name : String} {value : Document} :
    Members.get? members name = some value ↔ Binds members name value := by
  simp only [Members.get?, Members.find?, Option.map_eq_some_iff, List.find?_eq_some_iff_append,
    Scalar.same_text_iff, Bool.not_eq_true', ← Bool.not_eq_true]
  constructor
  · rintro ⟨⟨key, found⟩, ⟨rfl, before, after, rfl, hfirst⟩, rfl⟩
    exact ⟨before, after, rfl, hfirst⟩
  · rintro ⟨before, after, rfl, hfirst⟩
    exact ⟨_, ⟨rfl, before, after, rfl, hfirst⟩, rfl⟩

namespace Pointer

open Outcome

variable {document whole value : Document} {reference : String} {tokens : List (List Char)}

/-- The tokens of a reference as they stand between its slashes. -/
def rawTokens (reference : String) : List (List Char) := (reference.toList.drop 2).splitOn '/'

/-- What a token leads to: the value of the member whose key it writes, or the item at the number
that it is read as, counted from the start or, below zero, from the end. -/
inductive Applies (whole : Document) (token : List Char) (value : Document) : Prop
  | member {members : Members} (object : whole.untie = .object members)
      (binds : members.Binds (.ofList (unescape token)) value)
  | fromStart {items : List Document} {place : Nat} (array : whole.untie = .array items)
      (reads : Text.integer? (.ofList (unescape token)) = some (place : Int))
      (found : items[place]? = some value)
  | fromEnd {items : List Document} {place : Nat} (array : whole.untie = .array items)
      (reads : Text.integer? (.ofList (unescape token)) = some (-(place + 1 : Nat) : Int))
      (found : items.reverse[place]? = some value)

/-- What tokens lead to, one after another. -/
inductive Walks : Document → List (List Char) → Document → Prop
  | here (document : Document) : Walks document [] document
  | into {whole part value : Document} {token : List Char} {rest : List (List Char)}
      (applies : Applies whole token part) (walks : Walks part rest value) :
      Walks whole (token :: rest) value

theorem itemAt?_ofNat (items : List Document) (place : Nat) :
    itemAt? items (place : Int) = items[place]? := by
  simp [itemAt?]

theorem itemAt?_neg (items : List Document) (place : Nat) :
    itemAt? items (-(place + 1 : Nat) : Int) = items.reverse[place]? := by
  have hneg : ¬ (0 : Int) ≤ -(place + 1 : Nat) := by omega
  have hplace : (- -((place + 1 : Nat) : Int)).toNat = place + 1 := by omega
  rw [itemAt?, if_neg hneg, hplace]
  by_cases hlength : place + 1 ≤ items.length
  · rw [if_pos hlength, List.getElem?_reverse hlength, Nat.sub_add_eq, Nat.sub_right_comm]
  · rw [if_neg hlength, List.getElem?_eq_none]
    simpa [Nat.lt_succ_iff] using hlength

theorem step_eq_ok_iff {token : List Char} :
    step reference (.ofList (unescape token)) whole = .ok value ↔ Applies whole token value := by
  constructor
  · intro h
    unfold step at h
    split at h
    next members hmembers =>
      split at h
      next found hfound =>
        cases h
        exact .member hmembers (Members.get?_eq_some_iff_binds.mp hfound)
      · cases h
    next items hitems =>
      split at h
      next found hfound =>
        cases h
        obtain ⟨index, hindex, hitem⟩ := Option.bind_eq_some_iff.mp hfound
        cases index with
        | ofNat place => exact .fromStart hitems hindex (itemAt?_ofNat items place ▸ hitem)
        | negSucc place => exact .fromEnd hitems hindex (itemAt?_neg items place ▸ hitem)
      · cases h
    · cases h
  · rintro (⟨hmembers, hbinds⟩ | ⟨hitems, hreads, hfound⟩ | ⟨hitems, hreads, hfound⟩)
    · simp [step, hmembers, Members.get?_eq_some_iff_binds.mpr hbinds]
    · simp [step, hitems, hreads, itemAt?_ofNat, hfound]
    · simp only [step, hitems, hreads, Option.bind_eq_bind, Option.bind_some, itemAt?_neg, hfound]

/-- Why a token leads to no part of a value: an object has no member of the key, no item of an array
is at the place, or the value is neither. -/
inductive Refuses (reference : String) (whole : Document) (token : List Char) :
    ReferenceFault → Prop
  | missingKey {members : Members} (object : whole.untie = .object members)
      (missing : ∀ value, ¬ members.Binds (.ofList (unescape token)) value) :
      Refuses reference whole token (.missingKey reference (.ofList (unescape token)))
  | badIndex {items : List Document} (array : whole.untie = .array items)
      (missing : ∀ value, ¬ Applies whole token value) :
      Refuses reference whole token (.badIndex reference (.ofList (unescape token)))
  | noContainer (object : ∀ members, whole.untie ≠ .object members)
      (array : ∀ items, whole.untie ≠ .array items) :
      Refuses reference whole token (.noContainer reference whole.untie.typeName)

theorem step_eq_error_iff {token : List Char} {fault : ReferenceFault} :
    step reference (.ofList (unescape token)) whole = .error fault ↔
      Refuses reference whole token fault := by
  constructor
  · intro h
    have hnone (value : Document) : ¬ Applies whole token value := by
      intro happlies
      cases h.symm.trans (step_eq_ok_iff.mpr happlies)
    unfold step at h
    split at h
    next members hmembers =>
      split at h
      · cases h
      · cases h
        exact .missingKey hmembers fun value hbinds => hnone value (.member hmembers hbinds)
    next items hitems =>
      split at h
      · cases h
      · cases h
        exact .badIndex hitems hnone
    next hobject harray =>
      cases h
      exact .noContainer hobject harray
  · rintro (⟨hmembers, hmissing⟩ | ⟨hitems, hmissing⟩ | ⟨hobject, harray⟩)
    · simp only [step, hmembers]
      split
      next found hfound => exact absurd (Members.get?_eq_some_iff_binds.mp hfound) (hmissing found)
      · rfl
    · simp only [step, hitems]
      split
      next found hfound =>
        have hstep : step reference (.ofList (unescape token)) whole = .ok found := by
          simp only [step, hitems, hfound]
        exact absurd (step_eq_ok_iff.mp hstep) (hmissing found)
      · rfl
    · unfold step
      split
      next members hmembers => exact absurd hmembers (hobject members)
      next items hitems => exact absurd hitems (harray items)
      · rfl

theorem foldlM_step_eq_ok_iff (reference : String) :
    (tokens.map fun token => String.ofList (unescape token)).foldlM
      (fun value token => step reference token value) document = .ok value ↔
    Walks document tokens value := by
  induction tokens generalizing document with
  | nil =>
    rw [List.map_nil, List.foldlM_nil, pure_eq_ok]
    constructor
    · rintro rfl
      exact .here document
    · rintro ⟨⟩
      rfl
  | cons token rest ih =>
    simp only [List.map_cons, List.foldlM_cons, bind_eq_ok, step_eq_ok_iff, ih]
    constructor
    · rintro ⟨part, happlies, hwalks⟩
      exact .into happlies hwalks
    · rintro (_ | ⟨happlies, hwalks⟩)
      exact ⟨_, happlies, hwalks⟩

/-- A walk fails at the first token that leads nowhere. -/
theorem foldlM_step_eq_error_iff {fault : ReferenceFault} :
    (tokens.map fun token => String.ofList (unescape token)).foldlM
      (fun value token => step reference token value) document = .error fault ↔
    ∃ before token after whole, tokens = before ++ token :: after ∧
      Walks document before whole ∧ Refuses reference whole token fault := by
  induction tokens generalizing document with
  | nil =>
    rw [List.map_nil, List.foldlM_nil]
    simp [pure, Except.pure]
  | cons token rest ih =>
    simp only [List.map_cons, List.foldlM_cons, bind_eq_error, step_eq_error_iff, step_eq_ok_iff,
      ih]
    constructor
    · rintro (hrefuses | ⟨part, happlies, before, other, after, whole, rfl, hwalks, hrefuses⟩)
      · exact ⟨[], token, rest, document, rfl, .here document, hrefuses⟩
      · exact ⟨token :: before, other, after, whole, rfl, .into happlies hwalks, hrefuses⟩
    · rintro ⟨before, other, after, whole, heq, hwalks, hrefuses⟩
      cases hwalks with
      | here =>
        obtain ⟨rfl, rfl⟩ := List.cons.inj heq
        exact .inl hrefuses
      | into happlies hwalks =>
        obtain ⟨rfl, rfl⟩ := List.cons.inj heq
        exact .inr ⟨_, happlies, _, other, after, whole, rfl, hwalks, hrefuses⟩

theorem tokens?_eq (reference : String) : tokens? reference =
    if Text.startsWith reference "#/" then
      some ((rawTokens reference).map fun token => .ofList (unescape token))
    else none := by
  unfold tokens? Text.dropStart? Text.startsWith
  split
  · rw [Option.map_some, String.toList_ofList]
    rfl
  · rfl

/-- A reference is resolved by walking along its tokens. -/
theorem resolve_eq_ok_iff : resolve reference document = .ok value ↔
    Text.startsWith reference "#/" = true ∧ Walks document (rawTokens reference) value := by
  rw [resolve, tokens?_eq]
  by_cases hstart : Text.startsWith reference "#/" = true
  · simp only [hstart, if_true, foldlM_step_eq_ok_iff, true_and]
  · simp [hstart]

theorem resolve_eq_error_iff {fault : ReferenceFault} :
    resolve reference document = .error fault ↔
      (Text.startsWith reference "#/" = false ∧ fault = .external reference) ∨
      (Text.startsWith reference "#/" = true ∧ ∃ before token after whole,
        rawTokens reference = before ++ token :: after ∧ Walks document before whole ∧
          Refuses reference whole token fault) := by
  rw [resolve, tokens?_eq]
  cases Text.startsWith reference "#/" with
  | true => simp [foldlM_step_eq_error_iff]
  | false => simp [eq_comm]

/-! The places of a document, and the references that write them. -/

/-- The way from a collection to one of its parts: the key of a member or the index of an item. -/
inductive Part where
  | key (name : String)
  | index (place : Nat)
deriving DecidableEq, Repr

/-- The token that writes a part: a key with its tildes and slashes escaped, an index in decimal. -/
def Part.token : Part → List Char
  | key name => escape name.toList
  | index place => Nat.toDigits 10 place

/-- The reference that writes the parts on the way to a place. -/
def write (parts : List Part) : String :=
  "#/" ++ "/".intercalate (parts.map fun part => .ofList part.token)

/-- What a part of a value is. -/
inductive Part.Leads (whole : Document) : Part → Document → Prop
  | key {members : Members} {name : String} {value : Document}
      (object : whole.untie = .object members) (binds : members.Binds name value) :
      Leads whole (.key name) value
  | index {items : List Document} {place : Nat} {value : Document}
      (array : whole.untie = .array items) (found : items[place]? = some value) :
      Leads whole (.index place) value

/-- What stands at a place of a document, given by the parts on the way to it. -/
inductive Stands : Document → List Part → Document → Prop
  | whole (document : Document) : Stands document [] document
  | inside {whole part value : Document} {first : Part} {rest : List Part}
      (leads : first.Leads whole part) (stands : Stands part rest value) :
      Stands whole (first :: rest) value

variable {part : Part} {parts : List Part}

theorem slash_not_mem_escape (cs : List Char) : '/' ∉ escape cs := by
  induction cs with
  | nil => exact List.not_mem_nil
  | cons c rest ih =>
    unfold escape
    split_ifs with htilde hslash
    · simpa using ih
    · simpa using ih
    · rw [List.mem_cons, not_or]
      exact ⟨fun h => hslash (beq_iff_eq.mpr h.symm), ih⟩

theorem Part.slash_not_mem_token (part : Part) : '/' ∉ part.token := by
  cases part with
  | key name => exact slash_not_mem_escape _
  | index place =>
    intro h
    simpa using Text.isDigit_of_mem_toDigits h

/-- A text without tildes stands for itself. -/
theorem unescape_of_not_mem {cs : List Char} (h : '~' ∉ cs) : unescape cs = cs := by
  fun_induction unescape cs with
  | case1 => simp at h
  | case2 => simp at h
  | case3 c rest _ _ ih => rw [ih fun hmem => h (List.mem_cons_of_mem _ hmem)]
  | case4 => rfl

theorem unescape_toDigits (n : Nat) : unescape (Nat.toDigits 10 n) = Nat.toDigits 10 n := by
  refine unescape_of_not_mem fun h => ?_
  simpa using Text.isDigit_of_mem_toDigits h

theorem Part.Leads.applies (h : part.Leads whole value) : Applies whole part.token value := by
  cases h with
  | key object binds =>
    refine .member object ?_
    rwa [token, unescape_escape, String.ofList_toList]
  | index array found =>
    refine .fromStart array ?_ found
    rw [token, unescape_toDigits, Text.integer?_toDigits]

theorem Stands.walks (h : Stands document parts value) :
    Walks document (parts.map Part.token) value := by
  induction h with
  | whole document => exact .here document
  | inside leads _ ih => exact .into leads.applies ih

theorem toList_write (parts : List Part) :
    (write parts).toList = '#' :: '/' :: ['/'].intercalate (parts.map Part.token) := by
  simp [write, String.toList_intercalate, Function.comp_def]

theorem rawTokens_write (inside : parts ≠ []) : rawTokens (write parts) = parts.map Part.token := by
  rw [rawTokens, toList_write]
  refine Text.splitOn_eq_iff.mpr ⟨by simpa using inside, ?_, rfl⟩
  intro token htoken
  obtain ⟨part, -, rfl⟩ := List.mem_map.mp htoken
  exact part.slash_not_mem_token

theorem startsWith_write (parts : List Part) : Text.startsWith (write parts) "#/" = true := by
  rw [Text.startsWith, toList_write]
  simp

/-- What stands at a place of a document, other than the whole, is what the reference leads to that
writes the place. -/
theorem resolve_write (stands : Stands document parts value) (inside : parts ≠ []) :
    resolve (write parts) document = .ok value := by
  rw [resolve_eq_ok_iff, rawTokens_write inside]
  exact ⟨startsWith_write parts, stands.walks⟩

/-- A document with keys that look like an escape, like two tokens and like none. -/
def oddKeys : Document := .object [
  (.text "a/b", .array [.null, .object [(.text "~01", .object [(.text "", .text "found")])]])]

theorem resolve_write_oddKeys :
    Stands oddKeys [.key "a/b", .index 1, .key "~01", .key ""] (.text "found") ∧
    write [.key "a/b", .index 1, .key "~01", .key ""] = "#/a~1b/1/~001/" ∧
    resolve (write [.key "a/b", .index 1, .key "~01", .key ""]) oddKeys = .ok (.text "found") := by
  have hfirst {name : String} {value : Document} : Members.Binds [(.text name, value)] name value :=
    ⟨[], [], rfl, by simp⟩
  have hstands : Stands oddKeys [.key "a/b", .index 1, .key "~01", .key ""] (.text "found") :=
    .inside (.key rfl hfirst) (.inside (.index rfl rfl)
      (.inside (.key rfl hfirst) (.inside (.key rfl hfirst) (.whole _))))
  exact ⟨hstands, by decide +kernel, resolve_write hstands (by simp)⟩

end Pointer

end ClientGen
