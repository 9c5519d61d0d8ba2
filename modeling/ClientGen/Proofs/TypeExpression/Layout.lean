import ClientGen.Proofs.TypeExpression
import ClientGen.Proofs.Text.Pieces

/-!
How pieces are laid out in a text. On a line without comment, backslash and leading blank the
scanner gives exactly the pieces that the text lays out: names, single marks, and blanks anywhere
between them.
-/
namespace ClientGen.TypeExpression

open Scan

def isGap (c : Char) : Bool := c == ' ' || c == '\t' || c == '\x0c'

def mark? : Char → Option Token
  | ',' => some .comma
  | '(' => some (.opening false)
  | '[' => some (.opening true)
  | ')' => some (.closing false)
  | ']' => some (.closing true)
  | _ => none

/-- The characters after which a text does not go on as one line of code. -/
def breakingChars : List Char := ['#', '\\', '\n', '\r']

/-- A word that writes a name: an identifier that is not reserved, whose normal form is the name. -/
structure Writes (word : List Char) (name : String) : Prop where
  identifier : Text.isIdentifierChars word = true
  free : Text.isKeyword (.ofList word) = false
  normal : Text.normalize (.ofList word) = name

/-- The pieces that a text lays out. A name is as long as it can be. -/
inductive Layout : List Char → List Token → Prop
  | nil : Layout [] []
  | gap {c : Char} {rest : List Char} {tokens : List Token} (gap : isGap c = true)
      (tail : Layout rest tokens) : Layout (c :: rest) tokens
  | mark {c : Char} {token : Token} {rest : List Char} {tokens : List Token}
      (mark : mark? c = some token) (tail : Layout rest tokens) :
      Layout (c :: rest) (token :: tokens)
  | word {word rest : List Char} {name : String} {tokens : List Token} (writes : Writes word name)
      (stop : ∀ c ∈ rest.head?, isNameChar c = false) (tail : Layout rest tokens) :
      Layout (word ++ rest) (.name name :: tokens)

variable {c : Char} {word rest cs : List Char} {tokens : List Token} {token : Token} {name : String}

theorem isNameChar_of_starts (h : Text.startsIdentifier c = true) : isNameChar c = true := by
  unfold Text.startsIdentifier at h
  unfold isNameChar Char.isAlphanum
  split at h <;> grind

theorem isNameChar_of_continues (h : Text.continuesIdentifier c = true) : isNameChar c = true := by
  unfold Text.continuesIdentifier at h
  unfold isNameChar
  split at h <;> grind

theorem Writes.isNameChar (h : Writes word name) : ∀ c ∈ word, isNameChar c = true := by
  have hidentifier := h.identifier
  cases word with
  | nil => simp
  | cons c rest =>
    simp only [Text.isIdentifierChars, Bool.and_eq_true, List.all_eq_true] at hidentifier
    refine List.forall_mem_cons.mpr ⟨isNameChar_of_starts hidentifier.1, fun d hd => ?_⟩
    exact isNameChar_of_continues (hidentifier.2 d hd)

theorem Writes.ne_nil (h : Writes word name) : word ≠ [] := by
  rintro rfl
  exact absurd h.identifier (by decide)

theorem isGap_iff : isGap c = true ↔ c = ' ' ∨ c = '\t' ∨ c = '\x0c' := by
  simp [isGap, or_assoc]

theorem mark?_eq_some (h : mark? c = some token) : c = ',' ∧ token = .comma ∨
    c = '(' ∧ token = .opening false ∨ c = '[' ∧ token = .opening true ∨
    c = ')' ∧ token = .closing false ∨ c = ']' ∧ token = .closing true := by
  unfold mark? at h
  split at h <;> simp_all

theorem not_isNameChar_of_gap (h : isGap c = true) : isNameChar c = false := by
  rcases isGap_iff.mp h with rfl | rfl | rfl <;> decide

theorem not_isGap_of_nameChar (h : isNameChar c = true) : isGap c = false := by
  cases hgap : isGap c with
  | false => rfl
  | true =>
    rw [not_isNameChar_of_gap hgap] at h
    cases h

theorem not_isNameChar_of_mark (h : mark? c = some token) : isNameChar c = false := by
  rcases mark?_eq_some h with ⟨rfl, -⟩ | ⟨rfl, -⟩ | ⟨rfl, -⟩ | ⟨rfl, -⟩ | ⟨rfl, -⟩ <;> decide

namespace Layout

theorem nil_iff : Layout [] tokens ↔ tokens = [] := by
  constructor
  · intro h
    generalize hcs : [] = cs at h
    cases h with
    | nil => rfl
    | word writes _ _ => exact absurd (List.append_eq_nil_iff.mp hcs.symm).1 writes.ne_nil
    | _ => cases hcs
  · rintro rfl
    exact .nil

theorem cons_iff (hc : isNameChar c = false) : Layout (c :: rest) tokens ↔
    isGap c = true ∧ Layout rest tokens ∨
      ∃ token tail, mark? c = some token ∧ Layout rest tail ∧ tokens = token :: tail := by
  constructor
  · intro h
    generalize hcs : c :: rest = cs at h
    cases h with
    | nil => cases hcs
    | gap hgap tail =>
      cases hcs
      exact .inl ⟨hgap, tail⟩
    | mark hmark tail =>
      cases hcs
      exact .inr ⟨_, _, hmark, tail, rfl⟩
    | @word word _ _ _ writes =>
      cases word with
      | nil => exact absurd rfl writes.ne_nil
      | cons d word =>
        cases hcs
        rw [writes.isNameChar c List.mem_cons_self] at hc
        cases hc
  · rintro (⟨hgap, tail⟩ | ⟨token, tail, hmark, htail, rfl⟩)
    · exact .gap hgap tail
    · exact .mark hmark htail

/-- A run of name characters that ends is laid out as one name. -/
theorem word_iff (hword : ∀ c ∈ word, isNameChar c = true) (hsome : word ≠ [])
    (stop : ∀ c ∈ rest.head?, isNameChar c = false) : Layout (word ++ rest) tokens ↔
      ∃ name tail, Writes word name ∧ Layout rest tail ∧ tokens = .name name :: tail := by
  constructor
  · intro h
    generalize hcs : word ++ rest = cs at h
    obtain ⟨d, word', rfl⟩ := List.exists_cons_of_ne_nil hsome
    have hd : isNameChar d = true := hword d List.mem_cons_self
    cases h with
    | nil => cases hcs
    | gap hgap _ =>
      cases hcs
      rw [not_isNameChar_of_gap hgap] at hd
      cases hd
    | mark hmark _ =>
      cases hcs
      rw [not_isNameChar_of_mark hmark] at hd
      cases hd
    | word writes stop' tail =>
      -- both words are the longest run of name characters
      obtain ⟨rfl, rfl⟩ := Text.append_inj_of_stop hword writes.isNameChar stop stop' hcs
      exact ⟨_, _, writes, tail, rfl⟩
  · rintro ⟨name, tail, writes, htail, rfl⟩
    exact .word writes stop htail

/-- The characters of a text that is laid out are those of names, blanks and marks. -/
theorem mem_cases (h : Layout cs tokens) :
    ∀ c ∈ cs, isNameChar c = true ∨ isGap c = true ∨ (mark? c).isSome = true := by
  induction h with
  | nil => simp
  | gap hgap _ ih => exact List.forall_mem_cons.mpr ⟨.inr (.inl hgap), ih⟩
  | mark hmark _ ih => exact List.forall_mem_cons.mpr ⟨.inr (.inr (by simp [hmark])), ih⟩
  | word writes _ _ ih =>
    exact List.forall_mem_append.mpr ⟨fun c hc => .inl (writes.isNameChar c hc), ih⟩

theorem ne_zero (h : Layout cs tokens) : ∀ c ∈ cs, c.toNat ≠ 0 := by
  intro c hc hzero
  have hcases := h.mem_cases c hc
  rw [← Char.ofNat_toNat c, hzero] at hcases
  revert hcases
  decide

theorem not_breaking (h : Layout cs tokens) : ∀ c ∈ cs, c ∉ breakingChars := by
  intro c hc hbreaking
  have hcases := h.mem_cases c hc
  simp only [breakingChars, List.mem_cons, List.not_mem_nil, or_false] at hbreaking
  rcases hbreaking with rfl | rfl | rfl | rfl <;> revert hcases <;> decide

end Layout

/-! What the scanner reads within a line. -/

/-- The state within a line, after the characters of a name. -/
def within (level : Nat) (word : List Char) : Scan := ⟨level, word, none, false, .none⟩

theorem name?_nil {level : Nat} : (within level []).name? = some [] := rfl

theorem name?_eq_some_iff {level : Nat} (hsome : word ≠ []) :
    (within level word).name? = some tokens ↔
      ∃ name, Writes word.reverse name ∧ tokens = [.name name] := by
  have hempty : word.isEmpty = false := by simpa using hsome
  simp only [within, Scan.name?, hempty, Bool.false_eq_true, if_false, Text.isIdentifier,
    String.toList_ofList]
  constructor
  · intro h
    split at h
    next hfree =>
      simp only [Bool.and_eq_true, Bool.not_eq_true'] at hfree
      cases h
      exact ⟨_, ⟨hfree.1, hfree.2, rfl⟩, rfl⟩
    · cases h
  · rintro ⟨name, ⟨hidentifier, hfree, rfl⟩, rfl⟩
    simp [hidentifier, hfree]

theorem stepWithin_nameChar {level : Nat} (hc : isNameChar c = true) :
    (within level word).stepWithin c = some (within level (c :: word), []) := by
  simp [within, stepWithin, hc]

theorem stepWithin_gap {level : Nat} (hc : isGap c = true) :
    (within level word).stepWithin c =
      (within level word).name?.map fun names => (within level [], names) := by
  rcases isGap_iff.mp hc with rfl | rfl | rfl <;>
    cases hname : (within level word).name? <;> simp_all [within, stepWithin, isNameChar]

/-- How many brackets are open behind a piece. -/
def levelAfter (level : Nat) : Token → Nat
  | .opening _ => level + 1
  | .closing _ => level - 1
  | _ => level

theorem stepWithin_mark {level : Nat} (hc : mark? c = some token) :
    (within level word).stepWithin c = (within level word).name?.map fun names =>
      (within (levelAfter level token) [], names ++ [token]) := by
  rcases mark?_eq_some hc with ⟨rfl, rfl⟩ | ⟨rfl, rfl⟩ | ⟨rfl, rfl⟩ | ⟨rfl, rfl⟩ | ⟨rfl, rfl⟩ <;>
    cases hname : (within level word).name? <;>
    simp_all [within, stepWithin, isNameChar, levelAfter]

theorem stepWithin_other {level : Nat} (hname : isNameChar c = false) (hgap : isGap c = false)
    (hmark : mark? c = none) (hline : c ∉ breakingChars) :
    (within level word).stepWithin c = none := by
  refine stepWithin_foreign ⟨hname, fun hmem => ?_⟩
  simp only [List.mem_cons, List.not_mem_nil, or_false] at hmem
  rcases hmem with rfl | rfl | rfl | rfl | rfl | rfl | rfl | rfl | rfl | rfl | rfl | rfl <;>
    simp_all [isGap, mark?, breakingChars]

theorem scanFrom?_cons {level : Nat} : scanFrom? (within level word) (c :: rest) =
    ((within level word).stepWithin c).bind fun result =>
      (scanFrom? result.1 rest).map (result.2 ++ ·) := by
  have hcode : InCode (within level word) := ⟨rfl, by simp [within]⟩
  have hstep : (within level word).step c = (within level word).stepWithin c :=
    step_of_inCode hcode c
  rw [scanFrom?, hstep]
  cases (within level word).stepWithin c with
  | none => rfl
  | some result => cases hrest : scanFrom? result.1 rest <;> simp [hrest]

/-- What stands behind a name that has been read is no part of it. -/
theorem scanFrom?_behind {level : Nat} (stop : ∀ c ∈ cs.head?, isNameChar c = false)
    (hline : ∀ c ∈ cs.head?, c ∉ breakingChars) :
    scanFrom? (within level word) cs = (within level word).name?.bind fun names =>
      (scanFrom? (within level []) cs).map (names ++ ·) := by
  cases cs with
  | nil =>
    have hend : ∀ word, scanFrom? (within level word) [] = (within level word).name? := fun _ => rfl
    rw [hend, hend, name?_nil]
    cases (within level word).name? <;> simp
  | cons c rest =>
    have hname : isNameChar c = false := stop c rfl
    rw [scanFrom?_cons, scanFrom?_cons]
    cases hgap : isGap c with
    | true =>
      rw [stepWithin_gap hgap, stepWithin_gap hgap, name?_nil]
      cases (within level word).name? <;> simp
    | false =>
      cases hmark : mark? c with
      | some token =>
        rw [stepWithin_mark hmark, stepWithin_mark hmark, name?_nil]
        cases (within level word).name? with
        | none => rfl
        | some names =>
          simp only [Option.map_some, Option.bind_some, Option.map_map]
          refine congrArg (fun f => Option.map f _) (funext fun tokens => ?_)
          simp
      | none =>
        have hother : ∀ word, (within level word).stepWithin c = none :=
          fun _ => stepWithin_other hname hgap hmark (hline c rfl)
        rw [hother, hother]
        cases (within level word).name? <;> rfl

/-- Within a line, the scanner gives the pieces that the line lays out. -/
theorem scanFrom?_iff {level : Nat} (hline : ∀ c ∈ cs, c ∉ breakingChars)
    (hword : ∀ c ∈ word, isNameChar c = true) :
    scanFrom? (within level word) cs = some tokens ↔ Layout (word.reverse ++ cs) tokens := by
  -- the word read so far stands in front of the rest of the text
  induction cs generalizing level word tokens with
  | nil =>
    have hend : scanFrom? (within level word) [] = (within level word).name? := rfl
    rw [hend]
    by_cases hsome : word = []
    · subst hsome
      rw [name?_nil, Option.some.injEq, List.reverse_nil, List.append_nil, Layout.nil_iff, eq_comm]
    · rw [name?_eq_some_iff hsome, Layout.word_iff (by simpa using hword) (by simpa using hsome)
        (by simp)]
      simp only [Layout.nil_iff]
      exact ⟨fun ⟨text, hwrites, h⟩ => ⟨text, [], hwrites, rfl, h⟩,
        fun ⟨text, _, hwrites, htail, h⟩ => ⟨text, hwrites, htail ▸ h⟩⟩
  | cons c rest ih =>
    obtain ⟨hc, hrest⟩ := List.forall_mem_cons.mp hline
    cases hname : isNameChar c with
    | true =>
      have hnext : ∀ d ∈ c :: word, isNameChar d = true := List.forall_mem_cons.mpr ⟨hname, hword⟩
      have hsame : word.reverse ++ c :: rest = (c :: word).reverse ++ rest := by simp
      have hscan : scanFrom? (within level (c :: word)) rest = some tokens ↔
          Layout ((c :: word).reverse ++ rest) tokens := ih hrest hnext
      rw [scanFrom?_cons, stepWithin_nameChar hname, hsame, ← hscan]
      simp
    | false =>
      have hfree : ∀ tokens, scanFrom? (within level []) (c :: rest) = some tokens ↔
          Layout (c :: rest) tokens := by
        intro tokens
        have htail : ∀ level tokens, scanFrom? (within level []) rest = some tokens ↔
            Layout rest tokens := fun _ _ => ih hrest (by simp)
        rw [scanFrom?_cons, Layout.cons_iff hname]
        cases hgap : isGap c with
        | true =>
          have hmark : mark? c = none := by
            rcases isGap_iff.mp hgap with rfl | rfl | rfl <;> rfl
          rw [stepWithin_gap hgap, name?_nil]
          simp [hmark, htail]
        | false =>
          cases hmark : mark? c with
          | some token =>
            rw [stepWithin_mark hmark, name?_nil]
            simp [htail, eq_comm (a := tokens)]
          | none =>
            rw [stepWithin_other hname hgap hmark hc]
            simp
      by_cases hsome : word = []
      · subst hsome
        exact hfree tokens
      · have hstop : ∀ d ∈ (c :: rest).head?, isNameChar d = false := by simpa using hname
        rw [scanFrom?_behind hstop (by simpa using hc),
          Layout.word_iff (by simpa using hword) (by simpa using hsome) hstop]
        simp only [Option.bind_eq_some_iff, Option.map_eq_some_iff, name?_eq_some_iff hsome, hfree]
        constructor
        · rintro ⟨_, ⟨text, hwrites, rfl⟩, tail, htail, rfl⟩
          exact ⟨text, tail, hwrites, htail, rfl⟩
        · rintro ⟨text, tail, hwrites, htail, rfl⟩
          exact ⟨_, ⟨text, hwrites, rfl⟩, tail, htail, rfl⟩

theorem unifyLineEnds_of_plain (hline : ∀ c ∈ cs, c ∉ breakingChars) :
    Text.unifyLineEnds cs = cs := by
  induction cs with
  | nil => rfl
  | cons c rest ih =>
    obtain ⟨hc, hrest⟩ := List.forall_mem_cons.mp hline
    have hreturn : c ≠ '\r' := by
      rintro rfl
      exact hc (by decide)
    rw [Text.unifyLineEnds.eq_def]
    split <;> simp_all

/-- The first character is read as one within the line, when it is no blank. -/
theorem scanFrom?_start (hline : ∀ c ∈ cs.head?, c ∉ breakingChars)
    (hbegin : ∀ c ∈ cs.head?, isGap c = false) :
    scanFrom? .start cs = scanFrom? (within 0 []) cs := by
  cases cs with
  | nil => rfl
  | cons c rest =>
    have hc : c ∉ breakingChars := hline c rfl
    have hgap : isGap c = false := hbegin c rfl
    have hstep : Scan.start.step c = (within 0 []).stepWithin c := by
      rw [step_of_inCode inCode_start]
      simp only [breakingChars, List.mem_cons, List.not_mem_nil, or_false, not_or] at hc
      simp only [isGap, Bool.or_eq_false_iff, beq_eq_false_iff_ne] at hgap
      simp [Scan.start, stepMargin, isIndented, hc, hgap, stepWithin, within]
    have hstep' : (within 0 []).step c = (within 0 []).stepWithin c :=
      step_of_inCode ⟨rfl, by simp [within]⟩ c
    rw [scanFrom?, scanFrom?, hstep, hstep']

/-- The pieces of a line of code are those that it lays out. -/
theorem scan?_iff (hline : ∀ c ∈ cs, c ∉ breakingChars) (hbegin : ∀ c ∈ cs.head?, isGap c = false) :
    scan? cs = some tokens ↔ Layout cs tokens := by
  have hhead : ∀ c ∈ cs.head?, c ∉ breakingChars := fun c hc => hline c (List.mem_of_mem_head? hc)
  have hscan : scanFrom? .start (Text.unifyLineEnds cs) = some tokens ↔ Layout cs tokens := by
    rw [unifyLineEnds_of_plain hline, scanFrom?_start hhead hbegin]
    exact scanFrom?_iff hline (by simp)
  unfold scan?
  split
  next hzero =>
    obtain ⟨c, hc, hzero⟩ := List.any_eq_true.mp hzero
    simp only [reduceCtorEq, false_iff]
    intro h
    exact h.ne_zero c hc (by simpa using hzero)
  · exact hscan

/-! Where the pieces stand in the text. -/

/-- Blanks between two pieces. -/
def Gaps (cs : List Char) : Prop := ∀ c ∈ cs, isGap c = true

variable {gap : List Char} {tail : List Token}

theorem Gaps.nil : Gaps [] := by simp [Gaps]

theorem Gaps.head (h : Gaps gap) (stop : ∀ c ∈ rest.head?, isNameChar c = false) :
    ∀ c ∈ (gap ++ rest).head?, isNameChar c = false := by
  cases gap with
  | nil => exact stop
  | cons c gap =>
    intro d hd
    cases hd
    exact not_isNameChar_of_gap (h c List.mem_cons_self)

theorem Gaps.layout (h : Gaps gap) (behind : Layout rest tokens) : Layout (gap ++ rest) tokens := by
  induction gap with
  | nil => exact behind
  | cons c gap ih =>
    obtain ⟨hc, hgap⟩ := List.forall_mem_cons.mp h
    exact .gap hc (ih hgap)

/-- A text that begins with a piece, behind any blanks. -/
theorem Layout.uncons (h : Layout cs (token :: tail)) : ∃ gap piece rest,
    cs = gap ++ (piece ++ rest) ∧ Gaps gap ∧ Layout rest tail ∧
      ((∃ c, piece = [c] ∧ mark? c = some token) ∨
        ∃ text, token = .name text ∧ Writes piece text) := by
  generalize htokens : token :: tail = tokens at h
  induction h with
  | nil => cases htokens
  | @gap c rest tokens hgap _ ih =>
    obtain ⟨gap, piece, rest, rfl, hgaps, hrest, hpiece⟩ := ih htokens
    exact ⟨c :: gap, piece, rest, rfl, List.forall_mem_cons.mpr ⟨hgap, hgaps⟩, hrest, hpiece⟩
  | mark hmark htail =>
    cases htokens
    exact ⟨[], [_], _, rfl, .nil, htail, .inl ⟨_, rfl, hmark⟩⟩
  | word writes _ htail =>
    cases htokens
    exact ⟨[], _, _, rfl, .nil, htail, .inr ⟨_, rfl, writes⟩⟩

theorem Layout.uncons_name {text : String} (h : Layout cs (.name text :: tail)) :
    ∃ gap word rest, cs = gap ++ (word ++ rest) ∧ Gaps gap ∧ Writes word text ∧
      Layout rest tail := by
  obtain ⟨gap, piece, rest, rfl, hgap, hrest, ⟨c, -, hmark⟩ | ⟨_, htext, hwrites⟩⟩ := h.uncons
  · rcases mark?_eq_some hmark with ⟨-, h⟩ | ⟨-, h⟩ | ⟨-, h⟩ | ⟨-, h⟩ | ⟨-, h⟩ <;> cases h
  · cases htext
    exact ⟨gap, piece, rest, rfl, hgap, hwrites, hrest⟩

def markChar : Token → Char
  | .comma => ','
  | .opening false => '('
  | .opening true => '['
  | .closing false => ')'
  | .closing true => ']'
  | .name _ | .lineEnd => '\n'

theorem Layout.uncons_mark (h : Layout cs (token :: tail))
    (hmark : mark? (markChar token) = some token) :
    ∃ gap rest, cs = gap ++ markChar token :: rest ∧ Gaps gap ∧ Layout rest tail := by
  obtain ⟨gap, piece, rest, rfl, hgap, hrest, ⟨c, rfl, hc⟩ | ⟨_, htext, -⟩⟩ := h.uncons
  · rcases mark?_eq_some hc with ⟨rfl, rfl⟩ | ⟨rfl, rfl⟩ | ⟨rfl, rfl⟩ | ⟨rfl, rfl⟩ | ⟨rfl, rfl⟩ <;>
      exact ⟨gap, rest, rfl, hgap, hrest⟩
  · subst htext
    simp [markChar, mark?] at hmark

theorem Layout.uncons_append {before : List Token} (h : Layout cs (before ++ tail)) :
    ∃ start rest, cs = start ++ rest ∧ Layout rest tail := by
  induction before generalizing cs with
  | nil => exact ⟨[], cs, rfl, h⟩
  | cons token before ih =>
    obtain ⟨gap, piece, rest, rfl, -, hrest, -⟩ := h.uncons
    obtain ⟨start, rest, rfl, htail⟩ := ih hrest
    exact ⟨gap ++ (piece ++ start), rest, by simp, htail⟩

theorem Layout.gaps_of_nil (h : Layout cs []) : Gaps cs := by
  generalize htokens : [] = tokens at h
  induction h with
  | nil => exact .nil
  | gap hgap _ ih => exact List.forall_mem_cons.mpr ⟨hgap, ih htokens⟩
  | _ => cases htokens

theorem Layout.lineEnd_not_mem (h : Layout cs tokens) : .lineEnd ∉ tokens := by
  induction h with
  | nil => simp
  | gap _ _ ih => exact ih
  | mark hmark _ ih =>
    rcases mark?_eq_some hmark with ⟨-, rfl⟩ | ⟨-, rfl⟩ | ⟨-, rfl⟩ | ⟨-, rfl⟩ | ⟨-, rfl⟩ <;>
      simpa using ih
  | word _ _ _ ih => simpa using ih

end ClientGen.TypeExpression
