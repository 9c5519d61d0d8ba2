import ClientGen.Proofs.Client.Docstrings
import Mathlib.Algebra.GroupWithZero.Nat

/-!
Documentation that is put together from parts. Between characters that need no escape each part is
well escaped on its own, and by the backslashes that escaping adds a part that it changes is known.
-/
namespace ClientGen.Client

open Text

variable {cs out rest before : List Char} {c : Char} {s t : String}

theorem pieces_append (h : ∀ c ∈ rest.head?, c ≠ '\\' ∧ c ≠ '"') :
    pieces (cs ++ rest) = pieces cs ++ pieces rest := by
  fun_induction pieces cs with
  | case1 cs ih => rw [List.cons_append, List.cons_append, pieces_backslash, ih, List.cons_append]
  | case2 cs ih => rw [List.cons_append, List.cons_append, pieces_quote, ih, List.cons_append]
  | case3 c cs hbackslash hquote ih =>
    rw [List.cons_append, List.cons_append, pieces, ih]
    -- an escape would have its backslash here and its other character behind the seam
    · rintro later rfl hseam
      cases cs with
      | nil => exact (h '\\' (by rw [List.nil_append] at hseam; rw [hseam]; rfl)).1 rfl
      | cons d cs => exact hbackslash cs rfl (by rw [(List.cons.inj hseam).1])
    · rintro later rfl hseam
      cases cs with
      | nil => exact (h '"' (by rw [List.nil_append] at hseam; rw [hseam]; rfl)).2 rfl
      | cons d cs => exact hquote cs rfl (by rw [(List.cons.inj hseam).1])
  | case4 => rfl

theorem pieces_plain_append (h : ∀ c ∈ before, c ≠ '\\' ∧ c ≠ '"') :
    pieces (before ++ rest) = before.map .plain ++ pieces rest := by
  induction before with
  | nil => rfl
  | cons c before ih =>
    obtain ⟨hc, hbefore⟩ := List.forall_mem_cons.mp h
    rw [List.cons_append, pieces_cons hc.1, ih hbefore, List.map_cons, List.cons_append]

theorem quotes_infix_cons_iff {later : List Piece} (h : c ≠ '"') :
    [.plain '"', .plain '"', .plain '"'] <:+: .plain c :: later ↔
      [Piece.plain '"', .plain '"', .plain '"'] <:+: later := by
  rw [List.infix_cons_iff, List.cons_prefix_cons, or_iff_right]
  rintro ⟨hsame, -⟩
  exact h (Piece.plain.inj hsame).symm

/-- Before a character that needs no escape a text is well escaped on its own. -/
theorem wellEscaped_append_iff (h : ∃ c ∈ t.toList.head?, c ≠ '\\' ∧ c ≠ '"') :
    WellEscaped (s ++ t) ↔ WellEscaped s ∧ WellEscaped t := by
  obtain ⟨c, hhead, hc⟩ := h
  obtain ⟨cs, ht⟩ : ∃ cs, t.toList = c :: cs := by
    cases hcs : t.toList with
    | nil => simp [hcs] at hhead
    | cons d cs => exact ⟨cs, by simpa [hcs] using hhead⟩
  have hpieces : pieces t.toList = .plain c :: pieces cs := by rw [ht, pieces_cons hc.1]
  have hjoined : pieces (s ++ t).toList = pieces s.toList ++ .plain c :: pieces cs := by
    rw [String.toList_append, pieces_append (by simpa [ht] using hc), hpieces]
  have hbackslash : .plain '\\' ∈ pieces (s ++ t).toList ↔
      .plain '\\' ∈ pieces s.toList ∨ .plain '\\' ∈ pieces t.toList := by
    rw [hjoined, List.mem_append, hpieces]
  have hquotes : [.plain '"', .plain '"', .plain '"'] <:+: pieces (s ++ t).toList ↔
      [.plain '"', .plain '"', .plain '"'] <:+: pieces s.toList ∨
      [.plain '"', .plain '"', .plain '"'] <:+: pieces t.toList := by
    rw [hjoined, infix_append_cons_iff (by simpa using hc.2), hpieces, quotes_infix_cons_iff hc.2]
  constructor
  · rintro ⟨hb, hq⟩
    rw [hbackslash, not_or] at hb
    rw [hquotes, not_or] at hq
    exact ⟨⟨hb.1, hq.1⟩, ⟨hb.2, hq.2⟩⟩
  · rintro ⟨⟨hb, hq⟩, ⟨hb', hq'⟩⟩
    exact ⟨hbackslash.not.mpr (not_or.mpr ⟨hb, hb'⟩), hquotes.not.mpr (not_or.mpr ⟨hq, hq'⟩)⟩

theorem wellEscaped_of_isPlain (h : IsPlain s) : WellEscaped s :=
  docText_of_isPlain h ▸ wellEscaped_docText s

theorem wellEscaped_plain_append (h : IsPlain s) : WellEscaped (s ++ t) ↔ WellEscaped t := by
  have hpieces : pieces (s ++ t).toList = s.toList.map .plain ++ pieces t.toList := by
    rw [String.toList_append, pieces_plain_append h]
  have hbackslash : .plain '\\' ∈ pieces (s ++ t).toList ↔ .plain '\\' ∈ pieces t.toList := by
    rw [hpieces, List.mem_append, or_iff_right]
    intro hmem
    obtain ⟨c, hc, hsame⟩ := List.mem_map.mp hmem
    exact (h c hc).1 (Piece.plain.inj hsame)
  have hquotes : [.plain '"', .plain '"', .plain '"'] <:+: pieces (s ++ t).toList ↔
      [.plain '"', .plain '"', .plain '"'] <:+: pieces t.toList := by
    rw [hpieces]
    unfold IsPlain at h
    generalize s.toList = cs at h
    induction cs with
    | nil => rfl
    | cons c cs ih =>
      obtain ⟨hc, hcs⟩ := List.forall_mem_cons.mp h
      rw [List.map_cons, List.cons_append, quotes_infix_cons_iff hc.2, ih hcs]
  exact ⟨fun ⟨hb, hq⟩ => ⟨hbackslash.not.mp hb, hquotes.not.mp hq⟩,
    fun ⟨hb, hq⟩ => ⟨hbackslash.not.mpr hb, hquotes.not.mpr hq⟩⟩

theorem wellEscaped_append_plain (h : IsPlain t) : WellEscaped (s ++ t) ↔ WellEscaped s := by
  by_cases hempty : t.toList = []
  · rw [String.toList_eq_nil_iff.mp hempty, String.append_empty]
  · have hhead := List.head_mem hempty
    rw [wellEscaped_append_iff ⟨_, List.head_mem_head? hempty, h _ hhead⟩]
    exact and_iff_left (wellEscaped_of_isPlain h)

def backslashes (s : String) : Nat := s.toList.count '\\'

theorem backslashes_append (s t : String) :
    backslashes (s ++ t) = backslashes s + backslashes t := by
  rw [backslashes, String.toList_append, List.count_append]
  rfl

theorem backslashes_of_isPlain (h : IsPlain s) : backslashes s = 0 :=
  List.count_eq_zero.mpr fun hmem => (h _ hmem).1 rfl

theorem Escapes.count_le (h : Escapes cs out) : cs.count '\\' ≤ out.count '\\' := by
  induction h with
  | nil => exact le_rfl
  | backslash _ ih => simpa using Nat.le_succ_of_le ih
  | quotes _ ih =>
    simp
    omega
  | other hbackslash _ _ ih => simpa [List.count_cons, hbackslash] using ih

/-- Escaping adds backslashes to every text that it changes. -/
theorem Escapes.eq_of_count_le (h : Escapes cs out) (hcount : out.count '\\' ≤ cs.count '\\') :
    out = cs := by
  induction h with
  | nil => rfl
  | backslash hrest ih =>
    have hle := hrest.count_le
    simp at hcount
    omega
  | quotes hrest ih =>
    have hle := hrest.count_le
    simp at hcount
    omega
  | other hbackslash _ _ ih =>
    rw [ih (by simpa [List.count_cons, hbackslash] using hcount)]

theorem backslashes_docText (s : String) : backslashes s ≤ backslashes (docText s) := by
  rw [backslashes, backslashes, docText, String.toList_ofList]
  exact (escapes_escapeDoc _).count_le

theorem docText_of_backslashes (h : backslashes (docText s) ≤ backslashes s) : docText s = s := by
  rw [backslashes, backslashes, docText, String.toList_ofList] at h
  rw [docText, (escapes_escapeDoc _).eq_of_count_le h, String.ofList_toList]

theorem Escapes.eq_iff (h : Escapes cs out) :
    out = cs ↔ '\\' ∉ cs ∧ ¬['"', '"', '"'] <:+: cs := by
  induction h with
  | nil => simp
  | backslash hrest _ =>
    refine iff_of_false (fun hsame => ?_) (by simp)
    have hle := hrest.count_le
    have hcount := congrArg (List.count '\\') hsame
    simp only [List.count_cons_self] at hcount
    omega
  | @quotes cs out =>
    refine iff_of_false (fun hsame => ?_) (fun h => h.2 ⟨[], cs, rfl⟩)
    cases hsame
  | @other c cs out hbackslash htriple _ ih =>
    have hopen : ¬['"', '"', '"'] <+: c :: cs := by
      rw [List.cons_prefix_cons]
      rintro ⟨hquote, later, hlater⟩
      exact htriple later hquote.symm hlater.symm
    rw [List.cons_eq_cons, ih, List.mem_cons, not_or, List.infix_cons_iff, not_or]
    simp [hopen, Ne.symm hbackslash]

/-- The texts that need no escape: those without a backslash and without three quotes in a row. -/
theorem docText_eq_self_iff (s : String) :
    docText s = s ↔ '\\' ∉ s.toList ∧ ¬['"', '"', '"'] <:+: s.toList := by
  rw [← (escapes_escapeDoc s.toList).eq_iff, docText, ← String.toList_inj, String.toList_ofList]

theorem eq_append_trim (s : String) :
    ∃ before after, s = before ++ trim s ++ after ∧ IsPlain before ∧ IsPlain after := by
  obtain ⟨⟨before, after, hs, hbefore, hafter⟩, -, -⟩ :
    Trims isBlank s.toList (trimChars s.toList) := trims_iff.mpr rfl
  have hplain : ∀ cs : List Char, (∀ c ∈ cs, isBlank c = true) → IsPlain (.ofList cs) :=
    fun cs h c hc => plain_of_isBlank (h c (by simpa using hc))
  refine ⟨.ofList before, .ofList after, ?_, hplain before hbefore, hplain after hafter⟩
  rw [trim, ← String.ofList_append, ← String.ofList_append, ← hs, String.ofList_toList]

theorem backslashes_trim (s : String) : backslashes (trim s) = backslashes s := by
  obtain ⟨before, after, hs, hbefore, hafter⟩ := eq_append_trim s
  conv_rhs => rw [hs]
  rw [backslashes_append, backslashes_append, backslashes_of_isPlain hbefore,
    backslashes_of_isPlain hafter, Nat.zero_add, Nat.add_zero]

theorem wellEscaped_trim (s : String) : WellEscaped (trim s) ↔ WellEscaped s := by
  obtain ⟨before, after, hs, hbefore, hafter⟩ := eq_append_trim s
  conv_rhs => rw [hs]
  rw [wellEscaped_append_plain hafter, wellEscaped_plain_append hbefore]

theorem backslashes_lines (lines : List String) :
    backslashes ("\n".intercalate lines) = (lines.map backslashes).sum := by
  have hbreak : backslashes "\n" = 0 := backslashes_of_isPlain (by decide)
  induction lines with
  | nil => rfl
  | cons line rest ih =>
    cases rest with
    | nil => simp
    | cons next rest =>
      rw [String.intercalate_cons_cons, backslashes_append, backslashes_append, hbreak, ih,
        Nat.add_zero]
      exact List.sum_cons.symm

theorem wellEscaped_lines (lines : List String) :
    WellEscaped ("\n".intercalate lines) ↔ ∀ line ∈ lines, WellEscaped line := by
  induction lines with
  | nil => exact iff_of_true (wellEscaped_of_isPlain (s := "") (by decide)) (by simp)
  | cons line rest ih =>
    cases rest with
    | nil => simp
    | cons next rest =>
      have hseam : ∃ c ∈ ("\n" ++ "\n".intercalate (next :: rest)).toList.head?,
          c ≠ '\\' ∧ c ≠ '"' := ⟨'\n', by simp [String.toList_append], by decide⟩
      rw [String.intercalate_cons_cons, String.append_assoc, wellEscaped_append_iff hseam,
        wellEscaped_plain_append (by decide), ih]
      exact List.forall_mem_cons.symm

theorem backslashes_docBlock {indent : String} (hindent : IsPlain indent) (lines : List String) :
    backslashes (docBlock lines indent) = (lines.map backslashes).sum := by
  have hline (line : String) :
      backslashes (if line.isEmpty then "" else indent ++ line) = backslashes line := by
    split_ifs with hempty
    · rw [String.isEmpty_iff.mp hempty]
    · rw [backslashes_append, backslashes_of_isPlain hindent, Nat.zero_add]
  rw [docBlock, backslashes_lines, List.map_map]
  exact congrArg List.sum (List.map_congr_left fun line _ => hline line)

theorem wellEscaped_docBlock {indent : String} (hindent : IsPlain indent) (lines : List String) :
    WellEscaped (docBlock lines indent) ↔ ∀ line ∈ lines, WellEscaped line := by
  have hline (line : String) :
      WellEscaped (if line.isEmpty then "" else indent ++ line) ↔ WellEscaped line := by
    split_ifs with hempty
    · rw [String.isEmpty_iff.mp hempty]
    · rw [wellEscaped_plain_append hindent]
  rw [docBlock, wellEscaped_lines, List.forall_mem_map]
  exact forall₂_congr fun line _ => hline line

end ClientGen.Client
