import ClientGen.Client.Docstring
import ClientGen.Proofs.Text.Pieces
import ClientGen.Proofs.Text.Trimming

/-!
Text within triple quotes. Escaped text reads as the text itself and never closes the quotes, and
escaping keeps the layout: indentation, line ends and trimming can come before it or after it.
-/
namespace ClientGen.Client

open Text

variable {cs out rest before after : List Char} {c : Char} {s t : String}

/-- A character of a literal as it is read: one that stands for itself, or one behind a
backslash. -/
inductive Piece where
  | plain (c : Char)
  | escaped (c : Char)
deriving DecidableEq, Repr

def Piece.char : Piece → Char
  | plain c | escaped c => c

/-- What the characters of a literal are read as. A backslash escapes a backslash or a quote, and
before anything else it stands for itself. -/
def pieces : List Char → List Piece
  | '\\' :: '\\' :: rest => .escaped '\\' :: pieces rest
  | '\\' :: '"' :: rest => .escaped '"' :: pieces rest
  | c :: rest => .plain c :: pieces rest
  | [] => []

def reading (source : String) : String := .ofList ((pieces source.toList).map Piece.char)

/-- Source that a literal can hold: each backslash belongs to an escape, and no three quotes that
stand for themselves follow each other. -/
structure WellEscaped (source : String) : Prop where
  backslash : .plain '\\' ∉ pieces source.toList
  quotes : ¬[.plain '"', .plain '"', .plain '"'] <:+: pieces source.toList

/-- Reads a literal behind its opening quotes up to the first three quotes that stand for
themselves: its text and what follows. A backslash must belong to an escape. -/
def readLiteral? : List Char → Option (List Char × List Char)
  | '"' :: '"' :: '"' :: rest => some ([], rest)
  | '\\' :: '\\' :: rest => (readLiteral? rest).map fun read => ('\\' :: read.1, read.2)
  | '\\' :: '"' :: rest => (readLiteral? rest).map fun read => ('"' :: read.1, read.2)
  | '\\' :: _ => none
  | c :: rest => (readLiteral? rest).map fun read => (c :: read.1, read.2)
  | [] => none

/-- How escaping writes characters: a backslash is doubled, three quotes get a backslash each, and
any other character stays as it is. -/
inductive Escapes : List Char → List Char → Prop where
  | nil : Escapes [] []
  | backslash {cs out : List Char} (rest : Escapes cs out) :
    Escapes ('\\' :: cs) ('\\' :: '\\' :: out)
  | quotes {cs out : List Char} (rest : Escapes cs out) :
    Escapes ('"' :: '"' :: '"' :: cs) ('\\' :: '"' :: '\\' :: '"' :: '\\' :: '"' :: out)
  | other {c : Char} {cs out : List Char} (hbackslash : c ≠ '\\')
    (htriple : ∀ later, c = '"' → cs ≠ '"' :: '"' :: later) (rest : Escapes cs out) :
    Escapes (c :: cs) (c :: out)

theorem escapes_escapeDoc (cs : List Char) : Escapes cs (escapeDoc cs) := by
  fun_induction escapeDoc cs with
  | case1 rest ih => exact .backslash ih
  | case2 rest ih => exact .quotes ih
  | case3 c rest hbackslash htriple ih => exact .other hbackslash htriple ih
  | case4 => exact .nil

/-- Escaping is the only way to write characters by these rules. -/
theorem escapes_iff : Escapes cs out ↔ out = escapeDoc cs := by
  constructor
  · intro h
    induction h with
    | nil => rfl
    | backslash _ ih =>
      rw [ih]
      rfl
    | quotes _ ih =>
      rw [ih]
      rfl
    | other hbackslash htriple _ ih =>
      rw [ih, escapeDoc]
      · exact hbackslash
      · exact htriple
  · rintro rfl
    exact escapes_escapeDoc cs

theorem pieces_backslash (rest : List Char) :
    pieces ('\\' :: '\\' :: rest) = .escaped '\\' :: pieces rest := rfl

theorem pieces_quote (rest : List Char) :
    pieces ('\\' :: '"' :: rest) = .escaped '"' :: pieces rest := rfl

theorem pieces_cons (h : c ≠ '\\') : pieces (c :: rest) = .plain c :: pieces rest := by
  rw [pieces]
  · rintro _ rfl
    exact absurd rfl h
  · rintro _ rfl
    exact absurd rfl h

theorem pieces_eq_plain_cons {later : List Piece} (h : pieces cs = .plain c :: later) :
    ∃ rest, cs = c :: rest ∧ pieces rest = later := by
  fun_cases pieces cs with
  | case1 rest =>
    rw [pieces_backslash] at h
    cases h
  | case2 rest =>
    rw [pieces_quote] at h
    cases h
  | case3 d rest hbackslash hquote =>
    rw [pieces] at h
    · obtain ⟨hsame, hlater⟩ := List.cons.inj h
      exact ⟨rest, by rw [Piece.plain.inj hsame], hlater⟩
    · exact hbackslash
    · exact hquote
  | case4 => cases h

theorem Escapes.reads (h : Escapes cs out) : (pieces out).map Piece.char = cs := by
  induction h with
  | nil => rfl
  | backslash _ ih => rw [pieces_backslash, List.map_cons, ih, Piece.char]
  | quotes _ ih =>
    rw [pieces_quote, pieces_quote, pieces_quote, List.map_cons, List.map_cons, List.map_cons, ih,
      Piece.char]
  | other hbackslash _ _ ih => rw [pieces_cons hbackslash, List.map_cons, ih, Piece.char]

theorem Escapes.backslash_not_mem (h : Escapes cs out) : .plain '\\' ∉ pieces out := by
  induction h with
  | nil => exact List.not_mem_nil
  | backslash _ ih => simpa [pieces_backslash] using ih
  | quotes _ ih => simpa [pieces_quote] using ih
  | other hbackslash _ _ ih =>
    rw [pieces_cons hbackslash, List.mem_cons, not_or]
    exact ⟨fun h => hbackslash (Piece.plain.inj h).symm, ih⟩

/-- A character that stands for itself in escaped text is one of the text. -/
theorem Escapes.eq_cons {later : List Piece} (h : Escapes cs out)
    (hout : pieces out = .plain c :: later) :
    ∃ rest out', cs = c :: rest ∧ later = pieces out' ∧ Escapes rest out' := by
  cases h with
  | nil => cases hout
  | backslash => cases hout
  | quotes => cases hout
  | other hbackslash _ hrest =>
    rw [pieces_cons hbackslash] at hout
    obtain ⟨hsame, rfl⟩ := List.cons.inj hout
    cases hsame
    exact ⟨_, _, rfl, rfl, hrest⟩

/-- Three quotes that follow each other are escaped, so no three of them stand for themselves. -/
theorem Escapes.three_quotes_escaped (h : Escapes cs out) :
    ¬[.plain '"', .plain '"', .plain '"'] <:+: pieces out := by
  induction h with
  | nil => simp [pieces]
  | backslash _ ih => simpa [pieces_backslash, List.infix_cons_iff] using ih
  | quotes _ ih => simpa [pieces_quote, List.infix_cons_iff] using ih
  | other hbackslash htriple hrest ih =>
    rw [pieces_cons hbackslash, List.infix_cons_iff, List.cons_prefix_cons]
    rintro (⟨hquote, later, hlater⟩ | hlater)
    · cases hquote
      obtain ⟨rest', _, rfl, hrest', hescapes⟩ := hrest.eq_cons hlater.symm
      obtain ⟨rest'', _, rfl, -, -⟩ := hescapes.eq_cons hrest'.symm
      exact htriple rest'' rfl rfl
    · exact ih hlater

theorem reading_docText (s : String) : reading (docText s) = s := by
  rw [reading, docText, String.toList_ofList, (escapes_escapeDoc _).reads, String.ofList_toList]

example : docText "a\"\"\"b\"\\" = "a\\\"\\\"\\\"b\"\\\\" := by decide +kernel

theorem wellEscaped_docText (s : String) : WellEscaped (docText s) := by
  constructor
  · rw [docText, String.toList_ofList]
    exact (escapes_escapeDoc _).backslash_not_mem
  · rw [docText, String.toList_ofList]
    exact (escapes_escapeDoc _).three_quotes_escaped

def IsPlain (s : String) : Prop := ∀ c ∈ s.toList, c ≠ '\\' ∧ c ≠ '"'

instance (s : String) : Decidable (IsPlain s) :=
  List.decidableBAll (fun c => c ≠ '\\' ∧ c ≠ '"') s.toList

theorem IsPlain.append (hs : IsPlain s) (ht : IsPlain t) : IsPlain (s ++ t) := by
  intro c hc
  rw [String.toList_append, List.mem_append] at hc
  exact hc.elim (hs c) (ht c)

theorem Escapes.plain_append (h : Escapes cs out) (hplain : ∀ c ∈ before, c ≠ '\\' ∧ c ≠ '"') :
    Escapes (before ++ cs) (before ++ out) := by
  induction before with
  | nil => exact h
  | cons c before ih =>
    obtain ⟨hc, hbefore⟩ := List.forall_mem_cons.mp hplain
    exact .other hc.1 (fun _ hquote => absurd hquote hc.2) (ih hbefore)

/-- Pieces are escaped one by one unless the later one starts with a quote. -/
theorem Escapes.append (h : Escapes cs out) (hlater : Escapes rest after)
    (hseam : ∀ c ∈ rest.head?, c ≠ '"') : Escapes (cs ++ rest) (out ++ after) := by
  induction h with
  | nil => exact hlater
  | backslash _ ih => exact .backslash ih
  | quotes _ ih => exact .quotes ih
  | @other c cs out hbackslash htriple _ ih =>
    refine .other hbackslash (fun later hquote hquotes => ?_) ih
    rw [List.append_eq] at hquotes
    -- three quotes at the seam would end in the later piece
    rcases cs with _ | ⟨d, _ | ⟨e, cs⟩⟩
    · rw [List.nil_append] at hquotes
      exact hseam '"' (by simp [hquotes]) rfl
    · simp only [List.cons_append, List.nil_append, List.cons.injEq] at hquotes
      exact hseam '"' (by simp [hquotes.2]) rfl
    · simp only [List.cons_append, List.cons.injEq] at hquotes
      exact htriple cs hquote (by rw [hquotes.1, hquotes.2.1])

theorem escapeDoc_append_of_plain (h : ∀ c ∈ before, c ≠ '\\' ∧ c ≠ '"') :
    escapeDoc (before ++ rest) = before ++ escapeDoc rest :=
  (escapes_iff.mp ((escapes_escapeDoc rest).plain_append h)).symm

theorem escapeDoc_of_plain (h : ∀ c ∈ cs, c ≠ '\\' ∧ c ≠ '"') : escapeDoc cs = cs := by
  have hescaped : escapeDoc (cs ++ []) = cs ++ escapeDoc [] := escapeDoc_append_of_plain h
  rwa [List.append_nil, escapeDoc, List.append_nil] at hescaped

theorem escapeDoc_append (h : ∀ c ∈ rest.head?, c ≠ '"') :
    escapeDoc (cs ++ rest) = escapeDoc cs ++ escapeDoc rest :=
  (escapes_iff.mp ((escapes_escapeDoc cs).append (escapes_escapeDoc rest) h)).symm

theorem docText_of_isPlain (h : IsPlain s) : docText s = s := by
  rw [docText, escapeDoc_of_plain h, String.ofList_toList]

theorem docText_append (h : ∀ c ∈ t.toList.head?, c ≠ '"') :
    docText (s ++ t) = docText s ++ docText t := by
  rw [docText, String.toList_append, escapeDoc_append h, String.ofList_append]
  rfl

theorem docText_plain_append (h : IsPlain s) : docText (s ++ t) = s ++ docText t := by
  rw [docText, String.toList_append, escapeDoc_append_of_plain h, String.ofList_append,
    String.ofList_toList]
  rfl

theorem docText_append_plain (h : IsPlain t) : docText (s ++ t) = docText s ++ t := by
  rw [docText_append fun c hc => (h c (List.mem_of_mem_head? hc)).2, docText_of_isPlain h]

/-- Escaping keeps the first character or puts a backslash before it, and keeps the last one. -/
theorem Escapes.head? (h : Escapes cs out) (hc : c ∈ out.head?) : c = '\\' ∨ c ∈ cs.head? := by
  cases h with
  | nil => exact .inr hc
  | backslash => exact .inl (Option.some.inj hc).symm
  | quotes => exact .inl (Option.some.inj hc).symm
  | other => exact .inr hc

theorem Escapes.getLast? (h : Escapes cs out) : out.getLast? = cs.getLast? := by
  induction h with
  | nil => rfl
  | backslash _ ih => simp [List.getLast?_cons, ih]
  | quotes _ ih => simp [List.getLast?_cons, ih]
  | other _ _ _ ih => rw [List.getLast?_cons, List.getLast?_cons, ih]

theorem plain_of_isBlank (h : isBlank c = true) : c ≠ '\\' ∧ c ≠ '"' := by
  constructor
  · rintro rfl
    simp [isBlank] at h
  · rintro rfl
    simp [isBlank] at h

/-- Text can be trimmed before it is escaped or after. -/
theorem trim_docText (s : String) : trim (docText s) = docText (trim s) := by
  obtain ⟨⟨before, after, hs, hbefore, hafter⟩, hhead, hlast⟩ :
    Trims isBlank s.toList (trimChars s.toList) := trims_iff.mpr rfl
  have hplain : ∀ c ∈ after, c ≠ '\\' ∧ c ≠ '"' := fun c hc => plain_of_isBlank (hafter c hc)
  have hescaped : escapeDoc s.toList = before ++ escapeDoc (trimChars s.toList) ++ after := by
    conv_lhs => rw [hs]
    rw [List.append_assoc, escapeDoc_append_of_plain fun c hc => plain_of_isBlank (hbefore c hc),
      escapeDoc_append fun c hc => (hplain c (List.mem_of_mem_head? hc)).2,
      escapeDoc_of_plain hplain, List.append_assoc]
  have htrim : trimChars (escapeDoc s.toList) = escapeDoc (trimChars s.toList) := by
    refine trims_iff.mp ⟨⟨before, after, hescaped, hbefore, hafter⟩, ?_, ?_⟩ <;> intro c hc
    · rcases (escapes_escapeDoc _).head? hc with rfl | hc
      · rfl
      · exact hhead c hc
    · rw [(escapes_escapeDoc _).getLast?] at hc
      exact hlast c hc
  rw [trim, docText, docText, trim, String.toList_ofList, String.toList_ofList, htrim]

theorem readLiteral?_cons (hbackslash : c ≠ '\\') (hopen : c = '"' → ¬['"', '"'] <+: rest) :
    readLiteral? (c :: rest) = (readLiteral? rest).map fun read => (c :: read.1, read.2) := by
  rw [readLiteral?]
  · rintro later rfl rfl
    exact hopen rfl ⟨later, rfl⟩
  · rintro later rfl
    exact absurd rfl hbackslash
  · rintro later rfl
    exact absurd rfl hbackslash
  · rintro rfl
    exact absurd rfl hbackslash

/-- A literal ends at its closing quotes and nowhere before. -/
theorem readLiteral?_of_wellEscaped {source : String} (h : WellEscaped source)
    (hlast : ∀ c ∈ source.toList.getLast?, c ≠ '"') (after : List Char) :
    readLiteral? (source.toList ++ '"' :: '"' :: '"' :: after) =
      some ((reading source).toList, after) := by
  obtain ⟨hbackslash, hquotes⟩ := h
  rw [reading, String.toList_ofList]
  generalize source.toList = cs at hbackslash hquotes hlast ⊢
  have hlater {piece : Piece} {rest : List Piece} {quotes : List Piece}
      (h : ¬quotes <:+: piece :: rest) : ¬quotes <:+: rest :=
    fun hwithin => h (hwithin.trans (List.suffix_cons piece rest).isInfix)
  have hend {c : Char} {rest : List Char} (h : ∀ x ∈ (c :: rest).getLast?, x ≠ '"') :
      ∀ x ∈ rest.getLast?, x ≠ '"' := by
    intro x hx
    exact h x (by rw [List.getLast?_cons, Option.mem_def.mp hx]; rfl)
  fun_induction pieces cs with
  | case1 rest ih =>
    rw [List.cons_append, List.cons_append, readLiteral?,
      ih (fun h => hbackslash (List.mem_cons_of_mem _ h)) (hlater hquotes) (hend (hend hlast))]
    rfl
  | case2 rest ih =>
    rw [List.cons_append, List.cons_append, readLiteral?,
      ih (fun h => hbackslash (List.mem_cons_of_mem _ h)) (hlater hquotes) (hend (hend hlast))]
    rfl
  | case3 c rest _ _ ih =>
    rw [List.mem_cons, not_or] at hbackslash
    rw [List.cons_append, readLiteral?_cons, ih hbackslash.2 (hlater hquotes) (hend hlast)]
    · rfl
    · rintro rfl
      exact hbackslash.1 rfl
    · -- two more quotes would be the source's own, or the source would end with one
      rintro rfl hopen
      rcases rest with _ | ⟨d, _ | ⟨e, rest⟩⟩
      · exact hlast '"' rfl rfl
      · simp only [List.cons_append, List.nil_append, List.cons_prefix_cons] at hopen
        exact hlast d rfl hopen.1.symm
      · simp only [List.cons_append, List.cons_prefix_cons] at hopen
        obtain ⟨rfl, rfl, -⟩ := hopen
        refine hquotes ⟨[], pieces rest, ?_⟩
        rw [pieces_cons (by decide), pieces_cons (by decide)]
        rfl
  | case4 => rfl

theorem length_le_of_readLiteral? {read : List Char × List Char} (h : readLiteral? cs = some read) :
    read.2.length + 3 ≤ cs.length := by
  fun_induction readLiteral? cs generalizing read with
  | case1 rest =>
    cases h
    simp
  | case2 rest ih =>
    obtain ⟨later, hlater, rfl⟩ := Option.map_eq_some_iff.mp h
    have hle := ih hlater
    simp only [List.length_cons]
    omega
  | case3 rest ih =>
    obtain ⟨later, hlater, rfl⟩ := Option.map_eq_some_iff.mp h
    have hle := ih hlater
    simp only [List.length_cons]
    omega
  | case4 => cases h
  | case5 c rest _ _ _ _ ih =>
    obtain ⟨later, hlater, rfl⟩ := Option.map_eq_some_iff.mp h
    have hle := ih hlater
    simp only [List.length_cons]
    omega
  | case6 => cases h

theorem exists_read_of_map {d : Char} {read : List Char}
    (h : (readLiteral? cs).map (fun read => (d :: read.1, read.2)) = some (read, after)) :
    ∃ read, readLiteral? cs = some (read, after) := by
  obtain ⟨⟨first, later⟩, hfirst, hsame⟩ := Option.map_eq_some_iff.mp h
  have hlater : later = after := (Prod.mk.inj hsame).2
  exact ⟨first, by rw [hfirst, hlater]⟩

/-- Source that is read up to the quotes behind it is well escaped. -/
theorem wellEscaped_of_readLiteral? {source : String} {read : List Char}
    (h : readLiteral? (source.toList ++ '"' :: '"' :: '"' :: after) = some (read, after)) :
    WellEscaped source := by
  suffices hpieces : ∀ cs, (∃ read,
      readLiteral? (cs ++ '"' :: '"' :: '"' :: after) = some (read, after)) →
        .plain '\\' ∉ pieces cs ∧ ¬[.plain '"', .plain '"', .plain '"'] <:+: pieces cs by
    have hsource := hpieces source.toList ⟨read, h⟩
    exact ⟨hsource.1, hsource.2⟩
  clear h read
  intro cs
  fun_induction pieces cs with
  | case1 rest ih =>
    rintro ⟨read, h⟩
    have hrest := ih (exists_read_of_map h)
    simpa [List.infix_cons_iff] using hrest
  | case2 rest ih =>
    rintro ⟨read, h⟩
    have hrest := ih (exists_read_of_map h)
    simpa [List.infix_cons_iff] using hrest
  | case3 c rest hbackslash hquote ih =>
    rintro ⟨read, h⟩
    have hc : c ≠ '\\' := by
      rintro rfl
      cases rest with
      | nil =>
        -- the backslash takes one of the closing quotes, so two are left before what follows
        obtain ⟨later, hlater⟩ := exists_read_of_map h
        have hle := length_le_of_readLiteral? hlater
        simp only [List.length_cons] at hle
        omega
      | cons d rest =>
        have hnone : readLiteral? ('\\' :: d :: (rest ++ '"' :: '"' :: '"' :: after)) = none := by
          rw [readLiteral?]
          · rintro later hsame
            exact hbackslash rest rfl (by rw [(List.cons.inj hsame).1])
          · rintro later hsame
            exact hquote rest rfl (by rw [(List.cons.inj hsame).1])
        cases hnone.symm.trans h
    have hopen : c = '"' → ¬['"', '"'] <+: rest ++ '"' :: '"' :: '"' :: after := by
      -- the literal would end here, with the closing quotes behind it
      rintro rfl ⟨later, hlater⟩
      rw [List.cons_append, ← hlater] at h
      have hend : later = after := (Prod.mk.inj (Option.some.inj h)).2
      have hlength := congrArg List.length hlater
      simp only [hend, List.length_append, List.length_cons, List.length_nil] at hlength
      omega
    rw [List.cons_append, readLiteral?_cons hc hopen] at h
    obtain ⟨hrest, hquotes⟩ := ih (exists_read_of_map h)
    constructor
    · rw [List.mem_cons, not_or]
      exact ⟨fun hsame => hc (Piece.plain.inj hsame).symm, hrest⟩
    · rw [List.infix_cons_iff, not_or, List.cons_prefix_cons]
      refine ⟨?_, hquotes⟩
      rintro ⟨hsame, later, hlater⟩
      obtain ⟨second, rfl, hsecond⟩ := pieces_eq_plain_cons hlater.symm
      obtain ⟨third, rfl, -⟩ := pieces_eq_plain_cons hsecond
      exact hopen (Piece.plain.inj hsame).symm ⟨_, rfl⟩
  | case4 => simp

theorem toList_quoted (source closing : String) :
    (source ++ ("\"\"\"\n" ++ closing)).toList =
      source.toList ++ '"' :: '"' :: '"' :: ("\n" ++ closing).toList := by
  have hquotes : "\"\"\"\n".toList = '"' :: '"' :: '"' :: "\n".toList := by decide
  rw [String.toList_append, String.toList_append, hquotes, String.toList_append]
  rfl

/-- Source that ends with the indentation of the closing quotes is read up to these. -/
theorem readLiteral?_indented {doc : String} (h : WellEscaped (doc ++ "\n        "))
    (closing : String) :
    readLiteral? (doc ++ "\n        " ++ ("\"\"\"\n" ++ closing)).toList =
      some ((reading (doc ++ "\n        ")).toList, ("\n" ++ closing).toList) := by
  have hlast : ∀ c ∈ (doc ++ "\n        ").toList.getLast?, c ≠ '"' := by
    rw [String.toList_append, List.getLast?_append_of_ne_nil _ (by simp)]
    simp
  rw [toList_quoted]
  exact readLiteral?_of_wellEscaped h hlast _

end ClientGen.Client
