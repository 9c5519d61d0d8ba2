import ClientGen.Proofs.Document.Pointer

/-!
Which references are pointers of RFC 6901. More references resolve than these: an index may have a
sign, blanks and underscores, digits of any script and leading zeros, a negative one counts from the
end, and a tilde may stand alone. Those that resolve and are pointers of the standard are exactly
the ones that write the place of the value to which they lead.
-/
namespace ClientGen.Pointer

variable {document whole value : Document} {reference : String} {tokens : List (List Char)}

/-- Every tilde of a text is followed by the zero or the one of an escape. -/
def Escaped (cs : List Char) : Prop :=
  ∀ before after, cs = before ++ '~' :: after → after.head? = some '0' ∨ after.head? = some '1'

/-- A reference that RFC 6901 allows for a document: its tildes are escapes, and each token that the
walk applies to an array is the numeral of an index below the length. -/
structure Conforms (document : Document) (reference : String) : Prop where
  escaped : Escaped reference.toList
  indices : ∀ before token after whole items, rawTokens reference = before ++ token :: after →
    Walks document before whole → whole.untie = .array items →
    Text.IsNumeral token ∧ Nat.ofDigitChars 10 token 0 < items.length

theorem escaped_nil : Escaped [] := by
  rintro before after h
  simp at h

theorem escaped_cons_iff {c : Char} {cs : List Char} : Escaped (c :: cs) ↔
    (c = '~' → cs.head? = some '0' ∨ cs.head? = some '1') ∧ Escaped cs := by
  constructor
  · intro h
    refine ⟨?_, ?_⟩
    · rintro rfl
      exact h [] cs rfl
    · rintro before after rfl
      exact h (c :: before) after rfl
  · rintro ⟨hc, hcs⟩ before after heq
    cases before with
    | nil =>
      obtain ⟨rfl, rfl⟩ := List.cons.inj heq
      exact hc rfl
    | cons first before => exact hcs before after (List.cons.inj heq).2

theorem escaped_append_slash_iff {cs rest : List Char} :
    Escaped (cs ++ '/' :: rest) ↔ Escaped cs ∧ Escaped rest := by
  induction cs with
  | nil => simp [escaped_cons_iff, escaped_nil]
  | cons c cs ih =>
    rw [List.cons_append, escaped_cons_iff, escaped_cons_iff, ih, and_assoc]
    cases cs <;> simp

theorem escaped_intercalate_iff :
    Escaped (['/'].intercalate tokens) ↔ ∀ token ∈ tokens, Escaped token := by
  induction tokens with
  | nil => simp [escaped_nil]
  | cons token rest ih =>
    cases rest with
    | nil => simp
    | cons next rest =>
      rw [List.intercalate_cons_cons, List.append_assoc, List.singleton_append,
        escaped_append_slash_iff, ih, List.forall_mem_cons (a := token)]

theorem toList_eq_of_startsWith (h : Text.startsWith reference "#/" = true) :
    reference.toList = '#' :: '/' :: ['/'].intercalate (rawTokens reference) := by
  obtain ⟨rest, hrest⟩ := List.isPrefixOf_iff_prefix.mp h
  have hcs : '#' :: '/' :: rest = reference.toList := hrest
  rw [rawTokens, List.intercalate_splitOn, ← hcs]
  rfl

theorem escaped_iff (h : Text.startsWith reference "#/" = true) :
    Escaped reference.toList ↔ ∀ token ∈ rawTokens reference, Escaped token := by
  rw [toList_eq_of_startsWith h, ← escaped_intercalate_iff]
  simp [escaped_cons_iff]

theorem escaped_escape (cs : List Char) : Escaped (escape cs) := by
  induction cs with
  | nil => exact escaped_nil
  | cons c rest ih =>
    unfold escape
    split_ifs with htilde hslash
    · simpa [escaped_cons_iff] using ih
    · simpa [escaped_cons_iff] using ih
    · exact escaped_cons_iff.mpr ⟨fun h => absurd (beq_iff_eq.mpr h) htilde, ih⟩

/-- An escaped token writes the key that it is read as. -/
theorem escape_unescape {token : List Char} (escaped : Escaped token) (slash : '/' ∉ token) :
    escape (unescape token) = token := by
  fun_induction unescape token with
  | case1 rest ih =>
    simp only [escaped_cons_iff] at escaped
    simp_all [escape]
  | case2 rest ih =>
    simp only [escaped_cons_iff] at escaped
    simp_all [escape]
  | case3 c rest hone hzero ih =>
    obtain ⟨hc, hrest⟩ := escaped_cons_iff.mp escaped
    have htilde : c ≠ '~' := by
      rintro rfl
      rcases hc rfl with hhead | hhead
      · obtain ⟨tail, rfl⟩ := List.head?_eq_some_iff.mp hhead
        exact hzero tail rfl rfl
      · obtain ⟨tail, rfl⟩ := List.head?_eq_some_iff.mp hhead
        exact hone tail rfl rfl
    rw [List.mem_cons, not_or] at slash
    simp [escape, htilde, Ne.symm slash.1, ih hrest slash.2]
  | case4 => rfl

theorem escaped_of_not_mem {cs : List Char} (h : '~' ∉ cs) : Escaped cs := by
  rintro before after rfl
  simp at h

theorem Part.escaped_token (part : Part) : Escaped part.token := by
  cases part with
  | key name => exact escaped_escape _
  | index place => exact escaped_of_not_mem fun h => by simpa using Text.isDigit_of_mem_toDigits h

/-- A numeral that leads to a part of a value is the index of the part. -/
theorem Applies.index {token : List Char} {items : List Document} (h : Applies whole token value)
    (array : whole.untie = .array items) (numeral : Text.IsNumeral token) :
    ∃ place : Nat, items[place]? = some value ∧ Nat.toDigits 10 place = token := by
  have hself : unescape token = token :=
    unescape_of_not_mem fun htilde => by simpa using numeral.digits _ htilde
  have hreads := Text.integer?_of_digits numeral.digits numeral.ne_nil
  cases h with
  | member object => simp [array] at object
  | fromStart array' reads found =>
    cases array.symm.trans array'
    rw [hself, hreads, Option.some.injEq, Int.natCast_inj] at reads
    exact ⟨_, found, reads ▸ numeral.toDigits_eq⟩
  | fromEnd array' reads found =>
    rw [hself, hreads, Option.some.injEq] at reads
    omega

/-- A token that conforms and leads to a part of a value writes the way to that part. -/
theorem Applies.exists_leads {token : List Char} (h : Applies whole token value)
    (escaped : Escaped token) (slash : '/' ∉ token)
    (numeral : ∀ items, whole.untie = .array items → Text.IsNumeral token) :
    ∃ part : Part, part.Leads whole value ∧ part.token = token := by
  have harray {items : List Document} (array : whole.untie = .array items) :
      ∃ part : Part, part.Leads whole value ∧ part.token = token := by
    obtain ⟨place, hfound, hplace⟩ := h.index array (numeral items array)
    exact ⟨.index place, .index array hfound, hplace⟩
  cases h with
  | member object binds =>
    refine ⟨.key (.ofList (unescape token)), .key object binds, ?_⟩
    rw [Part.token, String.toList_ofList, escape_unescape escaped slash]
  | fromStart array => exact harray array
  | fromEnd array => exact harray array

theorem Walks.exists_stands (h : Walks document tokens value)
    (escaped : ∀ token ∈ tokens, Escaped token) (slash : ∀ token ∈ tokens, '/' ∉ token)
    (numeral : ∀ before token after whole items, tokens = before ++ token :: after →
      Walks document before whole → whole.untie = .array items → Text.IsNumeral token) :
    ∃ parts, Stands document parts value ∧ parts.map Part.token = tokens := by
  induction h with
  | here document => exact ⟨[], .whole document, rfl⟩
  | @into whole next value token rest applies walks ih =>
    obtain ⟨hescaped, hescaped'⟩ := List.forall_mem_cons.mp escaped
    obtain ⟨hslash, hslash'⟩ := List.forall_mem_cons.mp slash
    obtain ⟨part, hleads, htoken⟩ := applies.exists_leads hescaped hslash fun items =>
      numeral [] token rest whole items rfl (.here whole)
    obtain ⟨parts, hstands, htokens⟩ := ih hescaped' hslash' fun before other after inner items
      heq hwalks => numeral (token :: before) other after inner items (by rw [heq]; rfl)
        (.into applies hwalks)
    exact ⟨part :: parts, .inside hleads hstands, by rw [List.map_cons, htoken, htokens]⟩

theorem Walks.unique {other : Document} (h : Walks document tokens value)
    (h' : Walks document tokens other) : value = other := by
  rw [← foldlM_step_eq_ok_iff ""] at h h'
  exact Except.ok.inj (h.symm.trans h')

/-- On the way to a place each part leads from what stands at the parts before it. -/
theorem Stands.exists_leads {before after : List Part} {part : Part}
    (h : Stands document (before ++ part :: after) value) :
    ∃ whole next, Stands document before whole ∧ part.Leads whole next := by
  induction before generalizing document with
  | nil =>
    cases h with
    | inside leads _ => exact ⟨_, _, .whole _, leads⟩
  | cons first before ih =>
    cases h with
    | inside leads stands =>
      obtain ⟨whole, next, hstands, hleads⟩ := ih stands
      exact ⟨whole, next, .inside leads hstands, hleads⟩

theorem Stands.conforms {parts : List Part} (h : Stands document parts value)
    (inside : parts ≠ []) : Conforms document (write parts) := by
  refine ⟨(escaped_iff (startsWith_write parts)).mpr ?_, ?_⟩
  · rw [rawTokens_write inside]
    intro token htoken
    obtain ⟨part, -, rfl⟩ := List.mem_map.mp htoken
    exact part.escaped_token
  · intro before token after whole items htokens hwalks hitems
    rw [rawTokens_write inside, List.map_eq_append_iff] at htokens
    obtain ⟨earlier, later, rfl, rfl, hlater⟩ := htokens
    obtain ⟨part, later, rfl, rfl, rfl⟩ := List.map_eq_cons_iff.mp hlater
    obtain ⟨whole', next, hstands, hleads⟩ := h.exists_leads
    cases hwalks.unique hstands.walks
    cases hleads with
    | key object => simp [hitems] at object
    | index array found =>
      cases hitems.symm.trans array
      refine ⟨Text.isNumeral_toDigits _, ?_⟩
      rw [Part.token, Nat.ofDigitChars_ten_toDigits]
      exact (List.getElem?_eq_some_iff.mp found).1

/-- A reference that resolves conforms exactly when it writes the place to whose value it leads. -/
theorem conforms_iff (h : resolve reference document = .ok value) : Conforms document reference ↔
    ∃ parts, parts ≠ [] ∧ Stands document parts value ∧ reference = write parts := by
  obtain ⟨hstart, hwalks⟩ := resolve_eq_ok_iff.mp h
  constructor
  · rintro ⟨hescaped, hindices⟩
    obtain ⟨parts, hstands, htokens⟩ := hwalks.exists_stands ((escaped_iff hstart).mp hescaped)
      (fun token htoken => Text.not_mem_of_mem_splitOn htoken)
      fun before token after whole items heq hbefore hitems =>
        (hindices before token after whole items heq hbefore hitems).1
    refine ⟨parts, ?_, hstands, String.toList_injective ?_⟩
    · rintro rfl
      exact List.splitOn_ne_nil '/' _ htokens.symm
    · rw [toList_eq_of_startsWith hstart, toList_write, htokens]
  · rintro ⟨parts, hinside, hstands, rfl⟩
    exact hstands.conforms hinside

/-- What references resolve, and to what: one that starts within the document resolves exactly when
its tokens lead through the document, and fails otherwise at the first token that leads nowhere; it
conforms exactly when it is what is written for the place of its value. -/
theorem resolves_exactly (document : Document) (reference : String) :
    (∀ value, resolve reference document = .ok value ↔
      Text.startsWith reference "#/" = true ∧ Walks document (rawTokens reference) value) ∧
    (∀ fault, resolve reference document = .error fault ↔
      (Text.startsWith reference "#/" = false ∧ fault = .external reference) ∨
      (Text.startsWith reference "#/" = true ∧ ∃ before token after whole,
        rawTokens reference = before ++ token :: after ∧ Walks document before whole ∧
          Refuses reference whole token fault)) ∧
    ∀ value, resolve reference document = .ok value → (Conforms document reference ↔
      ∃ parts, parts ≠ [] ∧ Stands document parts value ∧ reference = write parts) :=
  ⟨fun _ => resolve_eq_ok_iff, fun _ => resolve_eq_error_iff, fun _ => conforms_iff⟩

def tags : Document := .object [(.text "tags", .array [.text "bucket", .text "task"])]

theorem resolve_tags : resolve "#/tags/-1" tags = .ok (.text "task") := by decide +kernel

theorem resolves_exactly_tags :
    resolve "#/tags/-1" tags = .ok (.text "task") ∧
    (Conforms tags "#/tags/-1" ↔
      ∃ parts, parts ≠ [] ∧ Stands tags parts (.text "task") ∧ "#/tags/-1" = write parts) :=
  ⟨resolve_tags, (resolves_exactly tags "#/tags/-1").2.2 _ resolve_tags⟩

/-- An index below zero is no numeral, but it resolves, to an item counted from the end. -/
theorem resolves_without_conforming :
    resolve "#/tags/-1" tags = .ok (.text "task") ∧ ¬ Conforms tags "#/tags/-1" := by
  refine ⟨resolve_tags, fun h => ?_⟩
  have hwalks : Walks tags ["tags".toList] (.array [.text "bucket", .text "task"]) :=
    .into (.member rfl ⟨[], [], by decide +kernel, by simp⟩) (.here _)
  obtain ⟨hnumeral, -⟩ :=
    h.indices ["tags".toList] "-1".toList [] _ _ (by decide +kernel) hwalks rfl
  have hdigit := hnumeral.digits '-' (by decide)
  simp at hdigit

end ClientGen.Pointer
