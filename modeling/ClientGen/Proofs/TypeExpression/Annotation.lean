import ClientGen.Proofs.TypeExpression.Grammar
import ClientGen.Proofs.TypeExpression.Layout

/-!
Annotations: the type texts that a signature expects, which are names, lists and text-keyed maps.
Each is accepted as a type expression. More is accepted, and what an accepted text may not have to
be an annotation is stated exactly.
-/
namespace ClientGen.TypeExpression

open Scan

/-- The expressions of annotations: a name, `list[T]` and `dict[str, T]`. -/
inductive IsAnnotation : TypeExpression → Prop
  | name (text : String) : IsAnnotation (.name text)
  | list {item : TypeExpression} (inner : IsAnnotation item) :
      IsAnnotation (.subscript (.name "list") item)
  | dict {value : TypeExpression} (inner : IsAnnotation value) :
      IsAnnotation (.subscript (.name "dict") (.tuple [.name "str", value]))

/-- The texts of annotations. Blanks may stand between the pieces, and each name may be written by
any word that has it as its normal form. -/
inductive Annotation : List Char → TypeExpression → Prop
  | name {word : List Char} {text : String} (writes : Writes word text) :
      Annotation word (.name text)
  | list {word inside gap₁ gap₂ gap₃ : List Char} {item : TypeExpression}
      (writes : Writes word "list") (before : Gaps gap₁) (start : Gaps gap₂)
      (inner : Annotation inside item) (stop : Gaps gap₃) :
      Annotation (word ++ (gap₁ ++ '[' :: (gap₂ ++ (inside ++ (gap₃ ++ [']'])))))
        (.subscript (.name "list") item)
  | dict {word key inside gap₁ gap₂ gap₃ gap₄ gap₅ : List Char} {value : TypeExpression}
      (writes : Writes word "dict") (before : Gaps gap₁) (start : Gaps gap₂)
      (keyed : Writes key "str") (middle : Gaps gap₃) (next : Gaps gap₄)
      (inner : Annotation inside value) (stop : Gaps gap₅) :
      Annotation (word ++ (gap₁ ++ '[' :: (gap₂ ++ (key ++ (gap₃ ++ ',' :: (gap₄ ++ (inside ++
        (gap₅ ++ [']']))))))))
        (.subscript (.name "dict") (.tuple [.name "str", value]))

variable {c : Char} {word rest gap cs : List Char} {tokens tail : List Token}
  {expression : TypeExpression}

/-! Annotations are accepted. -/

/-- An annotation lays out pieces that spell its expression, whatever stands behind it. -/
theorem Annotation.spells (h : Annotation cs expression) : ∃ tokens,
    Spells tokens (.single expression) ∧ ∀ rest tail, (∀ c ∈ rest.head?, isNameChar c = false) →
      Layout rest tail → Layout (cs ++ rest) (tokens ++ tail) := by
  induction h with
  | name writes => exact ⟨_, .name _, fun rest tail stop htail => .word writes stop htail⟩
  | @list word inside gap₁ gap₂ gap₃ item writes before start _ stop ih =>
    obtain ⟨tokens, hspells, hlayout⟩ := ih
    refine ⟨_, .subscript (.name "list") (.alone hspells), fun rest tail _ htail => ?_⟩
    have hclosed : Layout (gap₃ ++ ']' :: rest) (.closing true :: tail) :=
      stop.layout (.mark rfl htail)
    have hinside := hlayout _ _ (stop.head (by simp [isNameChar])) hclosed
    have hopened : Layout (gap₁ ++ '[' :: (gap₂ ++ (inside ++ (gap₃ ++ ']' :: rest))))
        (.opening true :: (tokens ++ .closing true :: tail)) :=
      before.layout (.mark rfl (start.layout hinside))
    have hword := Layout.word writes (before.head (by simp [isNameChar])) hopened
    simpa using hword
  | @dict word key inside gap₁ gap₂ gap₃ gap₄ gap₅ value writes before start keyed middle next _
      stop ih =>
    obtain ⟨tokens, hspells, hlayout⟩ := ih
    have hitems : Spells ([] ++ ([.name "str"] ++ [.comma])) (.items ([] ++ [.name "str"])) :=
      .item .nothing (.name "str")
    refine ⟨_, .subscript (.name "dict") (.listed hitems (by simp) hspells),
      fun rest tail _ htail => ?_⟩
    have hclosed : Layout (gap₅ ++ ']' :: rest) (.closing true :: tail) :=
      stop.layout (.mark rfl htail)
    have hinside := hlayout _ _ (stop.head (by simp [isNameChar])) hclosed
    have hcomma : Layout (gap₃ ++ ',' :: (gap₄ ++ (inside ++ (gap₅ ++ ']' :: rest))))
        (.comma :: (tokens ++ .closing true :: tail)) :=
      middle.layout (.mark rfl (next.layout hinside))
    have hkey := Layout.word keyed (middle.head (by simp [isNameChar])) hcomma
    have hopened : Layout (gap₁ ++ '[' :: (gap₂ ++ (key ++ (gap₃ ++ ',' :: (gap₄ ++ (inside ++
        (gap₅ ++ ']' :: rest))))))) (.opening true :: .name "str" :: .comma ::
          (tokens ++ .closing true :: tail)) :=
      before.layout (.mark rfl (start.layout hkey))
    have hword := Layout.word writes (before.head (by simp [isNameChar])) hopened
    simpa using hword

theorem Annotation.head (h : Annotation cs expression) : ∀ c ∈ cs.head?, isNameChar c = true := by
  have hword : ∀ {word rest : List Char} {text : String}, Writes word text →
      ∀ c ∈ (word ++ rest).head?, isNameChar c = true := by
    intro word rest text writes c hc
    refine writes.isNameChar c ?_
    cases word with
    | nil => exact absurd rfl writes.ne_nil
    | cons d word =>
      cases hc
      exact List.mem_cons_self
  cases h with
  | name writes => exact fun c hc => writes.isNameChar c (List.mem_of_mem_head? hc)
  | list writes => exact hword writes
  | dict writes => exact hword writes

theorem Annotation.not_gap (h : Annotation cs expression) : ∀ c ∈ cs.head?, isGap c = false :=
  fun c hc => not_isGap_of_nameChar (h.head c hc)

theorem Annotation.layout (h : Annotation cs expression) : ∃ tokens, Layout cs tokens ∧
    Spells tokens (.single expression) := by
  obtain ⟨tokens, hspells, hlayout⟩ := h.spells
  exact ⟨tokens, by simpa using hlayout [] [] (by simp) .nil, hspells⟩

theorem typeNames_eq_ok_iff {s : String} {names : List String} :
    typeNames s = .ok names ↔ ∃ expression, parse? s = some expression ∧
      names = expression.importedNames := by
  unfold typeNames
  cases hparse : TypeExpression.parse? s with
  | none => simp
  | some expression => simp [eq_comm]

theorem parse?_eq (s : String) : parse? s = (scan? s.toList).bind ofTokens? := rfl

theorem Annotation.parse? {s : String} (h : Annotation s.toList expression) :
    parse? s = some expression := by
  obtain ⟨tokens, hlayout, hspells⟩ := h.layout
  rw [parse?_eq, (scan?_iff hlayout.not_breaking h.not_gap).mpr hlayout, Option.bind_some,
    ofTokens?_eq_some_iff]
  exact ⟨tokens, [], by simp, by simp, .alone hspells⟩

/-! What an accepted text may not have. -/

namespace Spells

/-- A run without opening round brackets and without a comma before a closing bracket. -/
structure Square (tokens : List Token) : Prop where
  square : .opening false ∉ tokens
  items : ¬ [.comma, .closing true] <:+: tokens

theorem Square.of_part {inside : List Token} (h : Square tokens) (hpart : inside <:+: tokens) :
    Square inside :=
  ⟨fun hmem => h.square (hpart.subset hmem), fun hitems => h.items (hitems.trans hpart)⟩

theorem eq_name {text : String} (h : Spells tokens (.single (.name text)))
    (hsquare : Square tokens) : tokens = [.name text] := by
  cases h with
  | name => rfl
  | grouped => exact absurd List.mem_cons_self hsquare.square

theorem eq_subscript {value index : TypeExpression}
    (h : Spells tokens (.single (.subscript value index))) (hsquare : Square tokens) :
    ∃ before inside, tokens = before ++ .opening true :: (inside ++ [.closing true]) ∧
      Spells before (.single value) ∧ Spells inside (.content index) := by
  cases h with
  | subscript outer inner => exact ⟨_, _, rfl, outer, inner⟩
  | grouped => exact absurd List.mem_cons_self hsquare.square

theorem eq_items {items : List TypeExpression}
    (h : Spells tokens (.items (items ++ [expression]))) :
    ∃ before last, tokens = before ++ (last ++ [.comma]) ∧ Spells before (.items items) ∧
      Spells last (.single expression) := by
  generalize hphrase : Phrase.items (items ++ [expression]) = phrase at h
  cases h with
  | nothing => simp at hphrase
  | item init next =>
    simp only [Phrase.items.injEq, List.append_singleton_inj] at hphrase
    obtain ⟨rfl, rfl⟩ := hphrase
    exact ⟨_, _, rfl, init, next⟩
  | _ => cases hphrase

/-- What stands in the brackets of a map: the two parts and the comma between them. -/
theorem eq_pair {first second : TypeExpression}
    (h : Spells tokens (.content (.tuple [first, second])))
    (hsquare : Square (tokens ++ [.closing true])) : ∃ before last,
      tokens = before ++ .comma :: last ∧ Spells before (.single first) ∧
        Spells last (.single second) := by
  generalize hphrase : Phrase.content (.tuple [first, second]) = phrase at h
  cases h with
  | alone only =>
    cases hphrase
    cases only with
    | grouped => exact absurd List.mem_cons_self hsquare.square
  | closed all =>
    cases hphrase
    have hall : Spells _ (.items ([first] ++ [second])) := all
    obtain ⟨before, last, rfl, -, -⟩ := eq_items hall
    exact absurd ⟨before ++ last, [], by simp⟩ hsquare.items
  | @listed before last items expression init _ next =>
    simp only [Phrase.content.injEq, tuple.injEq] at hphrase
    have hitems : [first] ++ [second] = items ++ [expression] := hphrase
    obtain ⟨rfl, hlast⟩ := List.append_inj' hitems rfl
    cases hlast
    have hinit : Spells before (.items ([] ++ [first])) := init
    obtain ⟨before, last, rfl, hnone, hfirst⟩ := eq_items hinit
    rw [hnone.eq_nil_of_items]
    exact ⟨_, _, by simp, hfirst, next⟩
  | _ => cases hphrase

end Spells

/-- The text of pieces that spell the expression of an annotation is one, when no piece is out of
place. -/
theorem annotation_of_spells (h : IsAnnotation expression)
    (hspells : Spells tokens (.single expression)) (hsquare : Spells.Square tokens)
    (hlayout : Layout cs (tokens ++ tail)) :
    ∃ gap body rest, cs = gap ++ (body ++ rest) ∧ Gaps gap ∧ Annotation body expression ∧
      Layout rest tail := by
  -- along the tree of the annotation: a subscript is cut at its brackets, a map also at its comma
  induction h generalizing tokens tail cs with
  | name text =>
    rw [hspells.eq_name hsquare] at hlayout
    obtain ⟨gap, word, rest, rfl, hgap, hwrites, hrest⟩ := hlayout.uncons_name
    exact ⟨gap, word, rest, rfl, hgap, .name hwrites, hrest⟩
  | @list item inner ih =>
    obtain ⟨before, inside, rfl, hlist, hinside⟩ := hspells.eq_subscript hsquare
    rw [hlist.eq_name (hsquare.of_part (List.prefix_append _ _).isInfix)] at hlayout
    have hitem : Spells inside (.single item) := by
      cases hinside with
      | alone only => exact only
      | _ => cases inner
    have hpart : inside <:+: before ++ .opening true :: (inside ++ [.closing true]) :=
      ⟨before ++ [.opening true], [.closing true], by simp⟩
    simp only [List.cons_append, List.append_assoc] at hlayout
    obtain ⟨gap, word, _, rfl, hgap, hwrites, hlayout⟩ := hlayout.uncons_name
    obtain ⟨gap₁, _, rfl, hgap₁, hlayout⟩ := hlayout.uncons_mark rfl
    obtain ⟨gap₂, body, _, rfl, hgap₂, hbody, hlayout⟩ := ih hitem (hsquare.of_part hpart) hlayout
    obtain ⟨gap₃, rest, rfl, hgap₃, hrest⟩ := hlayout.uncons_mark rfl
    exact ⟨gap, _, rest, by simp [markChar], hgap, .list hwrites hgap₁ hgap₂ hbody hgap₃, hrest⟩
  | @dict value inner ih =>
    obtain ⟨before, inside, rfl, hdict, hinside⟩ := hspells.eq_subscript hsquare
    rw [hdict.eq_name (hsquare.of_part (List.prefix_append _ _).isInfix)] at hlayout
    have hpart : inside ++ [.closing true] <:+:
        before ++ .opening true :: (inside ++ [.closing true]) :=
      ⟨before ++ [.opening true], [], by simp⟩
    obtain ⟨key, last, rfl, hkey, hvalue⟩ := hinside.eq_pair (hsquare.of_part hpart)
    have hsquare' := hsquare.of_part hpart
    have hfirst : Spells.Square key :=
      hsquare'.of_part ⟨[], .comma :: (last ++ [.closing true]), by simp⟩
    rw [hkey.eq_name hfirst] at hlayout
    have hlast : Spells.Square last := hsquare'.of_part ⟨key ++ [.comma], [.closing true], by simp⟩
    simp only [List.cons_append, List.append_assoc] at hlayout
    obtain ⟨gap, word, _, rfl, hgap, hwrites, hlayout⟩ := hlayout.uncons_name
    obtain ⟨gap₁, _, rfl, hgap₁, hlayout⟩ := hlayout.uncons_mark rfl
    obtain ⟨gap₂, key, _, rfl, hgap₂, hkeyed, hlayout⟩ := hlayout.uncons_name
    obtain ⟨gap₃, _, rfl, hgap₃, hlayout⟩ := hlayout.uncons_mark rfl
    obtain ⟨gap₄, body, _, rfl, hgap₄, hbody, hlayout⟩ := ih hvalue hlast hlayout
    obtain ⟨gap₅, rest, rfl, hgap₅, hrest⟩ := hlayout.uncons_mark rfl
    exact ⟨gap, _, rest, by simp [markChar], hgap,
      .dict hwrites hgap₁ hgap₂ hkeyed hgap₃ hgap₄ hbody hgap₅, hrest⟩

/-- A text on one line of code, without blanks at its ends, in which no round bracket is opened and
no comma stands before a closing bracket. -/
structure IsPlain (cs : List Char) : Prop where
  line : ∀ c ∈ cs, c ∉ breakingChars
  start : ∀ c ∈ cs.head?, isGap c = false
  stop : ∀ c ∈ cs.getLast?, isGap c = false
  square : '(' ∉ cs
  items : ∀ before gap after, cs = before ++ ',' :: (gap ++ ']' :: after) → ¬ Gaps gap

theorem IsPlain.square_of_layout (h : IsPlain cs) (hlayout : Layout cs tokens) :
    Spells.Square tokens := by
  constructor
  · intro hmem
    obtain ⟨before, after, rfl⟩ := List.append_of_mem hmem
    obtain ⟨start, _, rfl, hrest⟩ := hlayout.uncons_append
    obtain ⟨gap, rest, rfl, -, -⟩ := hrest.uncons_mark rfl
    exact h.square (by simp [markChar])
  · rintro ⟨before, after, rfl⟩
    rw [List.append_assoc] at hlayout
    obtain ⟨start, _, rfl, hrest⟩ := hlayout.uncons_append
    obtain ⟨gap, _, rfl, -, hrest⟩ := hrest.uncons_mark rfl
    obtain ⟨gap', rest, rfl, hgap', -⟩ := hrest.uncons_mark rfl
    exact h.items (start ++ gap) gap' rest (by simp [markChar]) hgap'

/-- A plain text that is accepted is an annotation if it writes the expression of one. -/
theorem annotation_of_parse? {s : String} (h : parse? s = some expression)
    (hform : IsAnnotation expression) (plain : IsPlain s.toList) :
    Annotation s.toList expression := by
  rw [parse?_eq, Option.bind_eq_some_iff] at h
  obtain ⟨tokens, hscan, htokens⟩ := h
  have hlayout := (scan?_iff plain.line plain.start).mp hscan
  obtain ⟨line, ends, rfl, hends, hspells⟩ := ofTokens?_eq_some_iff.mp htokens
  have hnone : ends = [] := by
    refine List.eq_nil_iff_forall_not_mem.mpr fun token hmem => ?_
    exact hlayout.lineEnd_not_mem (List.mem_append_right _ (hends token hmem ▸ hmem))
  subst hnone
  have hsingle : Spells line (.single expression) := by
    cases hspells with
    | alone only => exact only
    | _ => cases hform
  have hsquare := plain.square_of_layout hlayout
  rw [List.append_nil] at hsquare
  obtain ⟨gap, body, rest, hcs, hgap, hbody, hrest⟩ :=
    annotation_of_spells hform hsingle hsquare hlayout
  -- the annotation is the whole text, for no blank stands at its ends
  have hstart : gap = [] := by
    cases gap with
    | nil => rfl
    | cons c gap =>
      have hc := plain.start c (by simp [hcs])
      rw [hgap c List.mem_cons_self] at hc
      cases hc
  have hstop : rest = [] := by
    rcases List.eq_nil_or_concat rest with hnil | ⟨init, c, rfl⟩
    · exact hnil
    · have hc := plain.stop c (by simp [hcs])
      rw [hrest.gaps_of_nil c (by simp)] at hc
      cases hc
  rw [hcs, hstart, hstop]
  simpa using hbody

/-! What annotations have. -/

theorem Annotation.form (h : Annotation cs expression) : IsAnnotation expression := by
  induction h with
  | name => exact .name _
  | list _ _ _ _ _ ih => exact .list ih
  | dict _ _ _ _ _ _ _ _ ih => exact .dict ih

theorem Annotation.no_round (h : Annotation cs expression) : '(' ∉ cs := by
  have hword : ∀ {word : List Char} {text : String}, Writes word text → '(' ∉ word :=
    fun writes hmem => absurd (writes.isNameChar _ hmem) (by decide)
  have hgap : ∀ {gap : List Char}, Gaps gap → '(' ∉ gap :=
    fun h hmem => absurd (h _ hmem) (by decide)
  induction h with
  | name writes => exact hword writes
  | list writes before start _ stop ih =>
    simp [hword writes, hgap before, hgap start, ih, hgap stop]
  | dict writes before start keyed middle next _ stop ih =>
    simp [hword writes, hgap before, hgap start, hword keyed, hgap middle, hgap next, ih, hgap stop]

theorem Annotation.stop (h : Annotation cs expression) : ∀ c ∈ cs.getLast?, isGap c = false := by
  cases h with
  | name writes =>
    exact fun c hc => not_isGap_of_nameChar (writes.isNameChar c (List.mem_of_getLast? hc))
  | _ => simp [List.getLast?_cons, isGap]

def separators : List Char := ['[', ']', ',']

theorem not_mem_separators (h : isNameChar c = true) : c ∉ separators := by
  intro hmem
  simp only [separators, List.mem_cons, List.not_mem_nil, or_false] at hmem
  rcases hmem with rfl | rfl | rfl <;> cases h

/-- Whether a comma stands before a closing bracket, blanks apart. `after` tells whether one stands
before the text. -/
def closesComma (after : Bool) : List Char → Bool
  | [] => false
  | c :: rest => after && c == ']' || closesComma (c == ',' || after && isGap c) rest

theorem closesComma_gaps {after : Bool} (h : Gaps gap) :
    closesComma after (gap ++ rest) = closesComma after rest := by
  induction gap with
  | nil => rfl
  | cons c gap ih =>
    obtain ⟨hc, hgap⟩ := List.forall_mem_cons.mp h
    have hclosing : (c == ']') = false := by rcases isGap_iff.mp hc with rfl | rfl | rfl <;> rfl
    have hcomma : (c == ',') = false := by rcases isGap_iff.mp hc with rfl | rfl | rfl <;> rfl
    simp [closesComma, hclosing, hcomma, hc, ih hgap]

theorem closesComma_word {after : Bool} {text : String} (writes : Writes word text) :
    closesComma after (word ++ rest) = closesComma false rest := by
  have hchars := writes.isNameChar
  have hsome := writes.ne_nil
  clear writes
  induction word generalizing after with
  | nil => exact absurd rfl hsome
  | cons c word ih =>
    obtain ⟨hc, hword⟩ := List.forall_mem_cons.mp hchars
    have hother := not_mem_separators hc
    simp only [separators, List.mem_cons, List.not_mem_nil, or_false, not_or] at hother
    obtain ⟨-, hclosing, hcomma⟩ := hother
    have hgap := not_isGap_of_nameChar hc
    rcases eq_or_ne word [] with rfl | hne
    · simp [closesComma, beq_false_of_ne hclosing, beq_false_of_ne hcomma, hgap]
    · simp [closesComma, beq_false_of_ne hclosing, beq_false_of_ne hcomma, hgap, ih hword hne]

theorem Annotation.closesComma (h : Annotation cs expression) (after : Bool) (rest : List Char) :
    closesComma after (cs ++ rest) = TypeExpression.closesComma false rest := by
  induction h generalizing after rest with
  | name writes => exact closesComma_word writes
  | list writes before start _ stop ih =>
    simp [closesComma_word writes, closesComma_gaps before, closesComma_gaps start, ih,
      closesComma_gaps stop, TypeExpression.closesComma, isGap]
  | dict writes before start keyed middle next _ stop ih =>
    simp [closesComma_word writes, closesComma_gaps before, closesComma_gaps start,
      closesComma_word keyed, closesComma_gaps middle, closesComma_gaps next, ih,
      closesComma_gaps stop, TypeExpression.closesComma, isGap]

theorem closesComma_of_comma {after : Bool} {before : List Char} (h : Gaps gap) :
    closesComma after (before ++ ',' :: (gap ++ ']' :: rest)) = true := by
  induction before generalizing after with
  | nil => simp [closesComma, closesComma_gaps h]
  | cons c before ih => simp [closesComma, ih]

/-- An annotation stands on one line of code, with nothing out of place. -/
theorem Annotation.isPlain (h : Annotation cs expression) : IsPlain cs where
  line := by
    obtain ⟨tokens, hlayout, -⟩ := h.layout
    exact hlayout.not_breaking
  start := h.not_gap
  stop := h.stop
  square := h.no_round
  items := by
    rintro before gap after rfl hgap
    have hnone := h.closesComma false []
    rw [List.append_nil, closesComma_of_comma hgap] at hnone
    cases hnone

/-- Whether all commas stand within brackets, where `depth` brackets are open before the text. -/
def commasEnclosed (depth : Nat) : List Char → Bool
  | [] => true
  | '[' :: rest => commasEnclosed (depth + 1) rest
  | ']' :: rest => commasEnclosed (depth - 1) rest
  | ',' :: rest => depth != 0 && commasEnclosed depth rest
  | _ :: rest => commasEnclosed depth rest

theorem commasEnclosed_append {depth : Nat} (h : ∀ c ∈ cs, c ∉ separators) :
    commasEnclosed depth (cs ++ rest) = commasEnclosed depth rest := by
  induction cs with
  | nil => rfl
  | cons c cs ih =>
    obtain ⟨hc, hcs⟩ := List.forall_mem_cons.mp h
    simp only [separators, List.mem_cons, List.not_mem_nil, or_false, not_or] at hc
    obtain ⟨hopening, hclosing, hcomma⟩ := hc
    rw [List.cons_append, commasEnclosed, ih hcs]
    all_goals simpa

theorem commasEnclosed_gaps {depth : Nat} (h : Gaps gap) :
    commasEnclosed depth (gap ++ rest) = commasEnclosed depth rest := by
  refine commasEnclosed_append fun c hc => ?_
  rcases isGap_iff.mp (h c hc) with rfl | rfl | rfl <;> decide

theorem commasEnclosed_word {depth : Nat} {text : String} (writes : Writes word text) :
    commasEnclosed depth (word ++ rest) = commasEnclosed depth rest :=
  commasEnclosed_append fun c hc => not_mem_separators (writes.isNameChar c hc)

theorem Annotation.commasEnclosed (h : Annotation cs expression) (depth : Nat) (rest : List Char) :
    commasEnclosed depth (cs ++ rest) = TypeExpression.commasEnclosed depth rest := by
  induction h generalizing depth rest with
  | name writes => exact commasEnclosed_word writes
  | list writes before start _ stop ih =>
    simp [commasEnclosed_word writes, commasEnclosed_gaps before, commasEnclosed_gaps start, ih,
      commasEnclosed_gaps stop, TypeExpression.commasEnclosed]
  | dict writes before start keyed middle next _ stop ih =>
    simp [commasEnclosed_word writes, commasEnclosed_gaps before, commasEnclosed_gaps start, ih,
      commasEnclosed_word keyed, commasEnclosed_gaps middle, commasEnclosed_gaps next,
      commasEnclosed_gaps stop, TypeExpression.commasEnclosed]

/-- A text is accepted if its pieces spell an expression, with nothing but line ends behind it. It
is an annotation exactly if the expression is that of one and the text is plain, and then its commas
stand within brackets. -/
theorem annotation_iff_of_accepted {s : String} {names : List String}
    (h : typeNames s = .ok names) : ∃ expression,
      (∃ line ends, scan? s.toList = some (line ++ ends) ∧ (∀ token ∈ ends, token = .lineEnd) ∧
        Spells line (.content expression)) ∧
      names = expression.importedNames ∧
      ((∃ annotated, Annotation s.toList annotated) ↔
        IsAnnotation expression ∧ IsPlain s.toList) ∧
      ((∃ annotated, Annotation s.toList annotated) → commasEnclosed 0 s.toList = true) := by
  obtain ⟨expression, hparse, rfl⟩ := typeNames_eq_ok_iff.mp h
  have hown : ∀ {annotated}, Annotation s.toList annotated → annotated = expression := by
    intro annotated hannotated
    rw [hannotated.parse?] at hparse
    exact Option.some.inj hparse
  refine ⟨expression, ?_, rfl, ⟨?_, ?_⟩, ?_⟩
  · rw [parse?_eq, Option.bind_eq_some_iff] at hparse
    obtain ⟨tokens, hscan, htokens⟩ := hparse
    obtain ⟨line, ends, rfl, hends, hspells⟩ := ofTokens?_eq_some_iff.mp htokens
    exact ⟨line, ends, hscan, hends, hspells⟩
  · rintro ⟨annotated, hannotated⟩
    cases hown hannotated
    exact ⟨hannotated.form, hannotated.isPlain⟩
  · rintro ⟨hform, hplain⟩
    exact ⟨expression, annotation_of_parse? hparse hform hplain⟩
  · rintro ⟨annotated, hannotated⟩
    simpa [TypeExpression.commasEnclosed] using hannotated.commasEnclosed 0 []

theorem accepted_map_annotation : typeNames "dict[str, list[Task]]" = .ok ["Task"] ∧
    ∃ expression, ["Task"] = importedNames expression ∧
      ((∃ annotated, Annotation "dict[str, list[Task]]".toList annotated) ↔
        IsAnnotation expression ∧ IsPlain "dict[str, list[Task]]".toList) := by
  have haccepted : typeNames "dict[str, list[Task]]" = .ok ["Task"] := by decide +kernel
  obtain ⟨expression, -, hnames, hiff, -⟩ := annotation_iff_of_accepted haccepted
  exact ⟨haccepted, expression, hnames, hiff⟩

/-- Two names with a comma between them are accepted, and are no annotation. -/
theorem accepted_pair_not_annotation : typeNames "Bucket, Task" = .ok ["Bucket", "Task"] ∧
    ¬ ∃ annotated, Annotation "Bucket, Task".toList annotated := by
  refine ⟨by decide +kernel, ?_⟩
  rintro ⟨annotated, hannotated⟩
  have hcommas := hannotated.commasEnclosed 0 []
  simp [TypeExpression.commasEnclosed] at hcommas

end ClientGen.TypeExpression
