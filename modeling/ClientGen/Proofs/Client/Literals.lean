import ClientGen.Proofs.Client.Comments
import ClientGen.Proofs.Document.Json.Scalars

/-!
The literals of generated code, read back. A reader of the grammar that these follow is given, and
it reads from what is written for a value that value again, with lists as tuples.
-/
namespace ClientGen

namespace Literal

open Text

def isGap (c : Char) : Bool := c == ' ' || c == '\t' || c == '\x0c'

def skipGaps (cs : List Char) : List Char := cs.dropWhile isGap

/-- Whether a character belongs to the word or number that it stands in. -/
def isWordChar (c : Char) : Bool := c.isAlphanum || c == '_' || 128 ≤ c.toNat

def escapedChar? : Char → Option Char
  | '"' => some '"'
  | '\\' => some '\\'
  | 'n' => some '\n'
  | 'r' => some '\r'
  | 't' => some '\t'
  | 'b' => some (.ofNat 8)
  | 'f' => some (.ofNat 12)
  | _ => none

/-- The character whose number four hexadecimal digits write. -/
def numberedChar? (digits : List Char) : Option Char := do
  let values ← digits.mapM hexDigit?
  if Json.isSurrogate (ofDigits 16 values) then none else some (.ofNat (ofDigits 16 values))

/-- Reads a text behind its opening quote. It ends at the next quote that is not escaped and has no
line break. -/
def readText? : List Char → Option (List Char × List Char)
  | '"' :: rest => some ([], rest)
  | '\\' :: 'u' :: a :: b :: c :: d :: rest => do
    let char ← numberedChar? [a, b, c, d]
    (readText? rest).map fun read => (char :: read.1, read.2)
  | '\\' :: letter :: rest => do
    let char ← escapedChar? letter
    (readText? rest).map fun read => (char :: read.1, read.2)
  | c :: rest =>
    if c == '\\' || endsLine c then none
    else (readText? rest).map fun read => (c :: read.1, read.2)
  | [] => none

/-- The number that a word of digits writes. It starts with no zero unless it has no other digit. -/
def natural? (word : List Char) : Option Nat :=
  if !word.isEmpty && word.all Char.isDigit && (word.head? != some '0' || word.all (· == '0')) then
    some (Nat.ofDigitChars 10 word 0)
  else none

def ofWord? (word : List Char) : Option Literal :=
  if word = "None".toList then some nothing
  else if word = "True".toList then some (truth true)
  else if word = "False".toList then some (truth false)
  else (natural? word).map fun n : Nat => whole n

mutual

/-- Reads a literal at the start of a text. Parentheses around a single one do not make a tuple. -/
def readValue? : (fuel : Nat) → List Char → Option (Literal × List Char)
  | 0, _ => none
  | fuel + 1, cs =>
    match skipGaps cs with
    | '"' :: rest => (readText? rest).map fun read => (text (.ofList read.1), read.2)
    | '-' :: rest =>
      let number := skipGaps rest
      (natural? (number.takeWhile isWordChar)).map fun n : Nat =>
        (whole (-n), number.dropWhile isWordChar)
    | '(' :: rest =>
      match skipGaps rest with
      | ')' :: rest => some (tuple [], rest)
      | rest => do
        let (item, rest) ← readValue? fuel rest
        match skipGaps rest with
        | ')' :: rest => some (item, rest)
        | ',' :: rest => (readItems? fuel rest).map fun read => (tuple (item :: read.1), read.2)
        | _ => none
    | rest => (ofWord? (rest.takeWhile isWordChar)).map fun value =>
        (value, rest.dropWhile isWordChar)

/-- Reads the items of a tuple behind a comma, up to its closing parenthesis. -/
def readItems? : (fuel : Nat) → List Char → Option (List Literal × List Char)
  | 0, _ => none
  | fuel + 1, cs =>
    match skipGaps cs with
    | ')' :: rest => some ([], rest)
    | rest => do
      let (item, rest) ← readValue? fuel rest
      match skipGaps rest with
      | ')' :: rest => some ([item], rest)
      | ',' :: rest => (readItems? fuel rest).map fun read => (item :: read.1, read.2)
      | _ => none

end

/-- The literal that a text is. Each step of reading takes a character at least. -/
def read? (s : String) : Option Literal :=
  match readValue? (s.toList.length + 1) s.toList with
  | some (value, rest) => if skipGaps rest = [] then some value else none
  | none => none

variable {rest : List Char} {fuel : Nat}

theorem numberedChar?_hexDigits {c : Char} (control : c.toNat < 32) :
    numberedChar? (hexDigits 4 c.toNat) = some c := by
  have hdigit (m : Nat) : hexDigit? (hexChar (m % 16)) = some (m % 16) :=
    Json.hexDigit?_hexChar (Nat.mod_lt _ (by decide))
  have hvalue : ofDigits 16 [c.toNat / 16 / 16 / 16 % 16, c.toNat / 16 / 16 % 16,
      c.toNat / 16 % 16, c.toNat % 16] = c.toNat := by
    simp only [ofDigits, List.foldl_cons, List.foldl_nil]
    omega
  have hwhole : Json.isSurrogate c.toNat = false := by
    simp [Json.isSurrogate]
    omega
  simp [numberedChar?, hexDigits, hdigit, hvalue, hwhole]

theorem readText?_escape {letter c : Char} (h : escapedChar? letter = some c) (rest : List Char) :
    readText? ('\\' :: letter :: rest) =
      (readText? rest).map fun read => (c :: read.1, read.2) := by
  rw [readText?, h]
  · rfl
  · rintro _ _ _ _ _ rfl
    cases h

theorem readText?_number {c : Char} (control : c.toNat < 32) (rest : List Char) :
    readText? ('\\' :: 'u' :: (hexDigits 4 c.toNat ++ rest)) =
      (readText? rest).map fun read => (c :: read.1, read.2) := by
  have hchar := numberedChar?_hexDigits control
  simp only [hexDigits, List.nil_append, List.cons_append] at hchar ⊢
  rw [readText?, hchar]
  rfl

theorem readText?_plain {c : Char} (hquote : c ≠ '"') (hbackslash : c ≠ '\\')
    (hline : endsLine c = false) (rest : List Char) :
    readText? (c :: rest) = (readText? rest).map fun read => (c :: read.1, read.2) := by
  rw [readText?]
  · simp [hbackslash, hline]
  · exact hquote
  · rintro _ _ _ _ _ rfl
    exact absurd rfl hbackslash
  · rintro _ _ rfl
    exact absurd rfl hbackslash

theorem readText?_escapeChar (c : Char) (rest : List Char) :
    readText? (escapeChar c ++ rest) =
      (readText? rest).map fun read => (c :: read.1, read.2) := by
  have hcode {n : Nat} (h : (c.toNat == n) = true) : Char.ofNat n = c := by
    rw [← beq_iff_eq.mp h, Char.ofNat_toNat]
  unfold escapeChar
  split_ifs with hquote hnewline hreturn htab hback hform hcontrol
  · refine readText?_escape ?_ rest
    simp only [Bool.or_eq_true, beq_iff_eq] at hquote
    rcases hquote with rfl | rfl <;> rfl
  · rw [beq_iff_eq.mp hnewline]
    exact readText?_escape rfl rest
  · rw [beq_iff_eq.mp hreturn]
    exact readText?_escape rfl rest
  · rw [beq_iff_eq.mp htab]
    exact readText?_escape rfl rest
  · have hescape : escapedChar? 'b' = some c := congrArg some (hcode hback)
    exact readText?_escape hescape rest
  · have hescape : escapedChar? 'f' = some c := congrArg some (hcode hform)
    exact readText?_escape hescape rest
  · exact readText?_number hcontrol rest
  · have hline : endsLine c = false := by
      simp only [endsLine, hnewline, hreturn, Bool.or_self]
    simp only [Bool.or_eq_true, beq_iff_eq, not_or] at hquote
    exact readText?_plain hquote.1 hquote.2 hline rest

theorem readText?_escapeChars (cs rest : List Char) :
    readText? (escapeChars cs ++ '"' :: rest) = some (cs, rest) := by
  induction cs with
  | nil => rfl
  | cons c cs ih =>
    have hchars : escapeChars (c :: cs) = escapeChar c ++ escapeChars cs := by
      rw [escapeChars, List.flatMap_cons, escapeChars]
    rw [hchars, List.append_assoc, readText?_escapeChar, ih]
    rfl

theorem natural?_toDigits (n : Nat) : natural? (Nat.toDigits 10 n) = some n := by
  have hdigits : (Nat.toDigits 10 n).all Char.isDigit = true :=
    List.all_eq_true.mpr fun c hc => isDigit_of_mem_toDigits hc
  have hnumeral := isNumeral_toDigits n
  have hvalue := Nat.ofDigitChars_ten_toDigits (n := n)
  unfold natural?
  generalize Nat.toDigits 10 n = digits at hdigits hnumeral hvalue ⊢
  rw [hdigits, hvalue]
  cases hnumeral with
  | zero => rfl
  | positive _ significant _ => simp [significant]

theorem isWordChar_of_isDigit {c : Char} (h : c.isDigit = true) : isWordChar c = true := by
  simp [isWordChar, Char.isAlphanum, h]

/-- What stands behind a literal: nothing, or a character that is in no word. -/
def Stops (rest : List Char) : Prop := ∀ c ∈ rest.head?, isWordChar c = false

theorem takeWhile_word {word : List Char} (hword : ∀ c ∈ word, isWordChar c = true)
    (stops : Stops rest) :
    (word ++ rest).takeWhile isWordChar = word ∧ (word ++ rest).dropWhile isWordChar = rest := by
  rw [List.takeWhile_append_of_pos hword, List.dropWhile_append_of_pos hword]
  cases rest with
  | nil => simp
  | cons c rest =>
    have hc : isWordChar c = false := stops c rfl
    simp [hc]

/-- A text that is read as a literal wherever it stands in a written one. -/
structure ReadsBack (cs : List Char) (value : Literal) : Prop where
  start : ∃ c tail, cs = c :: tail ∧ isGap c = false ∧ c ≠ ')'
  read : ∀ {fuel : Nat} {rest : List Char}, cs.length ≤ fuel → Stops rest →
    readValue? fuel (cs ++ rest) = some (value, rest)

theorem skipGaps_cons {c : Char} (h : isGap c = false) (cs : List Char) :
    skipGaps (c :: cs) = c :: cs := by
  simp [skipGaps, h]

theorem readsBack_word {c : Char} {tail : List Char} {value : Literal}
    (hword : (c :: tail).all isWordChar = true) (hvalue : ofWord? (c :: tail) = some value) :
    ReadsBack (c :: tail) value := by
  rw [List.all_eq_true] at hword
  have hc : isWordChar c = true := hword c List.mem_cons_self
  have hother {d : Char} (h : isWordChar d = false) : c ≠ d := by
    rintro rfl
    simp [h] at hc
  have hgap : isGap c = false := by
    simp [isGap, hother (d := ' ') (by decide), hother (d := '\t') (by decide),
      hother (d := '\x0c') (by decide)]
  refine ⟨⟨c, tail, rfl, hgap, hother (by decide)⟩, fun {fuel rest} hfuel stops => ?_⟩
  obtain ⟨fuel, rfl⟩ := Nat.exists_eq_add_one_of_ne_zero (Nat.ne_zero_of_lt hfuel)
  obtain ⟨htake, hdrop⟩ := takeWhile_word hword stops
  rw [readValue?]
  rw [List.cons_append] at htake hdrop ⊢
  rw [skipGaps_cons hgap]
  split
  next heq => exact absurd (List.cons.inj heq).1 (hother (by decide))
  next heq => exact absurd (List.cons.inj heq).1 (hother (by decide))
  next heq => exact absurd (List.cons.inj heq).1 (hother (by decide))
  next => rw [htake, hdrop, hvalue]; rfl

theorem readsBack_nothing : ReadsBack "None".toList nothing :=
  readsBack_word (c := 'N') (by decide) rfl

theorem readsBack_truth (value : Bool) :
    ReadsBack (if value then "True" else "False").toList (truth value) := by
  cases value with
  | true => exact readsBack_word (c := 'T') (by decide) rfl
  | false => exact readsBack_word (c := 'F') (by decide) rfl

theorem ofWord?_toDigits (n : Nat) : ofWord? (Nat.toDigits 10 n) = some (whole n) := by
  have hletter (word : List Char) (h : ∃ c ∈ word, c.isDigit = false) :
      Nat.toDigits 10 n ≠ word := by
    rintro rfl
    obtain ⟨c, hc, hother⟩ := h
    have hdigit := isDigit_of_mem_toDigits hc
    simp [hother] at hdigit
  rw [ofWord?, if_neg (hletter _ ⟨'N', by decide⟩), if_neg (hletter _ ⟨'T', by decide⟩),
    if_neg (hletter _ ⟨'F', by decide⟩), natural?_toDigits]
  rfl

theorem readsBack_whole (n : Int) : ReadsBack (toString n).toList (whole n) := by
  have hdigits (m : Nat) : ∀ c ∈ Nat.toDigits 10 m, isWordChar c = true :=
    fun c hc => isWordChar_of_isDigit (isDigit_of_mem_toDigits hc)
  rw [Json.toList_toString, Json.intChars]
  split
  next hpos =>
    have hvalue := ofWord?_toDigits n.toNat
    rw [Int.toNat_of_nonneg hpos] at hvalue
    have hword := hdigits n.toNat
    cases hchars : Nat.toDigits 10 n.toNat with
    | nil => exact absurd hchars Nat.toDigits_ne_nil
    | cons c tail =>
      rw [hchars] at hvalue hword
      exact readsBack_word (List.all_eq_true.mpr hword) hvalue
  next hneg =>
    refine ⟨⟨'-', _, rfl, by decide⟩, fun {fuel rest} hfuel stops => ?_⟩
    obtain ⟨fuel, rfl⟩ := Nat.exists_eq_add_one_of_ne_zero (Nat.ne_zero_of_lt hfuel)
    obtain ⟨htake, hdrop⟩ := takeWhile_word (hdigits (-n).toNat) stops
    have hvalue : -((-n).toNat : Int) = n := by omega
    obtain ⟨c, digits, hchars, hdigit⟩ := Json.toDigits_head (-n).toNat
    have hgap : isGap c = false := by
      by_contra hgap
      simp only [isGap, Bool.not_eq_false, Bool.or_eq_true, beq_iff_eq] at hgap
      rcases hgap with (rfl | rfl) | rfl <;> cases hdigit
    have hskip : skipGaps (Nat.toDigits 10 (-n).toNat ++ rest) =
        Nat.toDigits 10 (-n).toNat ++ rest := by
      rw [hchars]
      exact skipGaps_cons hgap _
    rw [List.cons_append, readValue?, skipGaps_cons (by decide)]
    simp only [hskip, htake, hdrop, natural?_toDigits, Option.map_some, hvalue]

theorem readsBack_text (s : String) : ReadsBack (quote s).toList (text s) := by
  rw [quote, String.toList_ofList]
  refine ⟨⟨'"', _, rfl, by decide⟩, fun {fuel rest} hfuel _ => ?_⟩
  obtain ⟨fuel, rfl⟩ := Nat.exists_eq_add_one_of_ne_zero (Nat.ne_zero_of_lt hfuel)
  have hread := readText?_escapeChars s.toList rest
  rw [List.cons_append, List.cons_append, List.append_assoc, List.singleton_append, readValue?,
    skipGaps_cons (by decide)]
  simp only [hread, Option.map_some, String.ofList_toList]

theorem readItems?_last {cs after : List Char} {item : Literal}
    (hstart : ∃ c tail, skipGaps cs = c :: tail ∧ c ≠ ')')
    (hitem : readValue? fuel (skipGaps cs) = some (item, ')' :: after)) :
    readItems? (fuel + 1) cs = some ([item], after) := by
  obtain ⟨c, tail, hcs, hc⟩ := hstart
  have hclose : skipGaps (')' :: after) = ')' :: after := skipGaps_cons (by decide) after
  rw [hcs] at hitem
  rw [readItems?, hcs]
  split
  next heq => exact absurd (List.cons.inj heq).1 hc
  next => simp only [hitem, Option.bind_eq_bind, Option.bind_some, hclose]

theorem readItems?_more {cs after last : List Char} {item : Literal} {items : List Literal}
    (hstart : ∃ c tail, skipGaps cs = c :: tail ∧ c ≠ ')')
    (hitem : readValue? fuel (skipGaps cs) = some (item, ',' :: after))
    (hmore : readItems? fuel after = some (items, last)) :
    readItems? (fuel + 1) cs = some (item :: items, last) := by
  obtain ⟨c, tail, hcs, hc⟩ := hstart
  have hcomma : skipGaps (',' :: after) = ',' :: after := skipGaps_cons (by decide) after
  rw [hcs] at hitem
  rw [readItems?, hcs]
  split
  next heq => exact absurd (List.cons.inj heq).1 hc
  next => simp only [hitem, Option.bind_eq_bind, Option.bind_some, hcomma, hmore, Option.map_some]

theorem stops_cons {c : Char} (h : isWordChar c = false) (rest : List Char) :
    Stops (c :: rest) := by
  rintro d ⟨⟩
  exact h

/-- Items are read back from their texts, from behind one comma up to the closing parenthesis. -/
theorem readItems?_intercalate {texts : List (List Char)} {items : List Literal}
    (h : List.Forall₂ ReadsBack texts items) (hne : texts ≠ [])
    (hfuel : ([',', ' '].intercalate texts).length < fuel) (rest : List Char) :
    readItems? fuel (' ' :: ([',', ' '].intercalate texts ++ ')' :: rest)) =
      some (items, rest) := by
  induction h generalizing fuel with
  | nil => exact absurd rfl hne
  | @cons chars item texts items head tail ih =>
    obtain ⟨fuel, rfl⟩ := Nat.exists_eq_add_one_of_ne_zero (Nat.ne_zero_of_lt hfuel)
    obtain ⟨c, later, hchars, hgap, hc⟩ := head.start
    have hskip (after : List Char) : skipGaps (' ' :: (chars ++ after)) = chars ++ after := by
      have hspace : skipGaps (' ' :: (chars ++ after)) = skipGaps (chars ++ after) := rfl
      rw [hspace, hchars]
      exact skipGaps_cons hgap _
    have hstart (after : List Char) :
        ∃ d tail, skipGaps (' ' :: (chars ++ after)) = d :: tail ∧ d ≠ ')' :=
      ⟨c, later ++ after, by rw [hskip, hchars]; rfl, hc⟩
    cases tail with
    | nil =>
      rw [List.intercalate_singleton] at hfuel ⊢
      refine readItems?_last (hstart _) ?_
      rw [hskip]
      exact head.read (Nat.le_of_lt_succ hfuel) (stops_cons (by decide) rest)
    | @cons next item' texts items hnext htail =>
      rw [List.intercalate_cons_cons, List.length_append, List.length_append] at hfuel
      simp only [List.length_cons, List.length_nil] at hfuel
      have hless : ([',', ' '].intercalate (next :: texts)).length < fuel := by omega
      have hmore := ih (by simp) hless
      rw [List.intercalate_cons_cons, List.append_assoc, List.append_assoc]
      refine readItems?_more (hstart _) ?_ hmore
      rw [hskip]
      exact head.read (by omega) (stops_cons (by decide) _)

theorem toList_renderTuple (texts : List String) : (renderTuple texts).toList =
    '(' :: ([',', ' '].intercalate (texts.map String.toList) ++
      (if texts.length = 1 then [',', ')'] else [')'])) := by
  unfold renderTuple
  split
  next => simp
  next hmany =>
    have hlength : texts.length ≠ 1 := by
      rw [Ne, List.length_eq_one_iff]
      rintro ⟨item, rfl⟩
      exact hmany item rfl
    rw [if_neg hlength]
    simp [String.toList_intercalate]

theorem readValue?_tuple {cs after last : List Char} {item : Literal} {items : List Literal}
    (hstart : ∃ c tail, cs = c :: tail ∧ isGap c = false ∧ c ≠ ')')
    (hitem : readValue? fuel cs = some (item, ',' :: after))
    (hmore : readItems? fuel after = some (items, last)) :
    readValue? (fuel + 1) ('(' :: cs) = some (tuple (item :: items), last) := by
  obtain ⟨c, tail, rfl, hgap, hc⟩ := hstart
  have hcomma : skipGaps (',' :: after) = ',' :: after := skipGaps_cons (by decide) after
  have hopen : skipGaps ('(' :: c :: tail) = '(' :: c :: tail := skipGaps_cons (by decide) _
  rw [readValue?, hopen]
  simp only [skipGaps_cons hgap]
  split
  next heq => exact absurd (List.cons.inj heq).1 hc
  next => simp only [hitem, Option.bind_eq_bind, Option.bind_some, hcomma, hmore, Option.map_some]

theorem readsBack_tuple {texts : List String} {items : List Literal}
    (h : List.Forall₂ ReadsBack (texts.map String.toList) items) :
    ReadsBack (renderTuple texts).toList (tuple items) := by
  rw [toList_renderTuple]
  refine ⟨⟨'(', _, rfl, by decide⟩, fun {fuel rest} hfuel stops => ?_⟩
  obtain ⟨fuel, rfl⟩ := Nat.exists_eq_add_one_of_ne_zero (Nat.ne_zero_of_lt hfuel)
  -- no item, one item with a comma behind it, or a first item and those behind its comma
  rcases texts with _ | ⟨text, _ | ⟨next, texts⟩⟩
  · cases h
    rfl
  · cases h with
    | cons head tail =>
      cases tail
      obtain ⟨c, later, hchars, hstart⟩ := head.start
      simp only [List.map_cons, List.map_nil, List.intercalate_singleton, if_true, List.length_cons,
        List.length_append, List.length_nil] at hfuel
      obtain ⟨fuel, rfl⟩ : ∃ paid, fuel = paid + 1 := ⟨fuel - 1, by omega⟩
      have hpaid : text.toList.length ≤ fuel + 1 := by omega
      have hitem := head.read hpaid
        (stops_cons (by decide : isWordChar ',' = false) (')' :: rest))
      have htuple := readValue?_tuple ⟨c, later ++ ',' :: ')' :: rest, by rw [hchars]; rfl, hstart⟩
        hitem rfl
      simpa using htuple
  · cases h with
    | cons head tail =>
      obtain ⟨c, later, hchars, hstart⟩ := head.start
      simp only [List.map_cons] at hfuel tail ⊢
      rw [List.intercalate_cons_cons] at hfuel ⊢
      simp only [List.length_cons, List.length_append, List.length_nil] at hfuel
      have hpaid : text.toList.length ≤ fuel := by omega
      have hless : ([',', ' '].intercalate
          (next.toList :: texts.map String.toList)).length < fuel := by omega
      have hitems := readItems?_intercalate tail (by simp) hless rest
      have hitem := head.read hpaid
        (stops_cons (by decide : isWordChar ',' = false) (' ' ::
          ([',', ' '].intercalate (next.toList :: texts.map String.toList) ++ ')' :: rest)))
      have htuple := readValue?_tuple ⟨c, later ++ _, by rw [hchars]; rfl, hstart⟩ hitem hitems
      simpa using htuple

mutual

theorem readsBack_render : ∀ value : Literal, ReadsBack value.render.toList value
  | nothing => readsBack_nothing
  | truth value => readsBack_truth value
  | whole value => readsBack_whole value
  | text value => readsBack_text value
  | tuple items => readsBack_tuple (readsBack_renderItems items)

theorem readsBack_renderItems : ∀ items : List Literal,
    List.Forall₂ ReadsBack ((renderItems items).map String.toList) items
  | [] => .nil
  | item :: items => .cons (readsBack_render item) (readsBack_renderItems items)

end

theorem read?_render (value : Literal) : read? value.render = some value := by
  have hend : Stops [] := by
    rintro c ⟨⟩
  have hread := (readsBack_render value).read (Nat.le_succ value.render.toList.length) hend
  rw [List.append_nil] at hread
  rw [read?, hread]
  rfl

theorem render_injective : Function.Injective render := by
  intro first second hsame
  have hread := congrArg read? hsame
  rw [read?_render, read?_render] at hread
  exact Option.some.inj hread

example : (read? "( (1), -20 ,\"a,)\\u0009\" )").map render = some "(1, -20, \"a,)\\t\")" := by
  decide +kernel

theorem endsLine_of_mem_escapeChar {c d : Char} (h : d ∈ escapeChar c) : endsLine d = false := by
  have hhex : ∀ n < 16, endsLine (hexChar n) = false := by decide
  unfold escapeChar at h
  split_ifs at h with hquote hnewline hreturn htab hback hform hcontrol
  · have hplain : c = '"' ∨ c = '\\' := by simpa using hquote
    rcases List.mem_pair.mp h with rfl | rfl
    · rfl
    · rcases hplain with rfl | rfl <;> rfl
  · rcases List.mem_pair.mp h with rfl | rfl <;> rfl
  · rcases List.mem_pair.mp h with rfl | rfl <;> rfl
  · rcases List.mem_pair.mp h with rfl | rfl <;> rfl
  · rcases List.mem_pair.mp h with rfl | rfl <;> rfl
  · rcases List.mem_pair.mp h with rfl | rfl <;> rfl
  · simp only [hexDigits, List.nil_append, List.cons_append, List.mem_cons, List.not_mem_nil,
      or_false] at h
    rcases h with rfl | rfl | rfl | rfl | rfl | rfl
    · rfl
    · rfl
    all_goals exact hhex _ (Nat.mod_lt _ (by decide))
  · rw [List.mem_singleton.mp h]
    simp only [endsLine, hnewline, hreturn, Bool.or_self]

theorem onOneLine_quote (s : String) : OnOneLine (quote s) := by
  intro c hc
  have hparts : c = '"' ∨ ∃ d ∈ s.toList, c ∈ escapeChar d := by
    simpa [quote, escapeChars, or_comm, or_assoc] using hc
  rcases hparts with rfl | ⟨d, -, hd⟩
  · rfl
  · exact endsLine_of_mem_escapeChar hd

theorem onOneLine_toString (n : Int) : OnOneLine (toString n) := by
  have hdigit {c : Char} (h : c.isDigit = true) : endsLine c = false := by
    by_contra hline
    simp only [endsLine, Bool.not_eq_false, Bool.or_eq_true, beq_iff_eq] at hline
    rcases hline with rfl | rfl <;> cases h
  intro c hc
  rw [Json.toList_toString, Json.intChars] at hc
  split at hc
  · exact hdigit (isDigit_of_mem_toDigits hc)
  · rcases List.mem_cons.mp hc with rfl | hc
    · rfl
    · exact hdigit (isDigit_of_mem_toDigits hc)

theorem onOneLine_renderTuple {texts : List String} (h : ∀ text ∈ texts, OnOneLine text) :
    OnOneLine (renderTuple texts) := by
  intro c hc
  rw [toList_renderTuple, List.mem_cons, List.mem_append] at hc
  rcases hc with rfl | hitems | hend
  · rfl
  · rcases mem_intercalate hitems with hseparator | ⟨part, hpart, hc⟩
    · rcases List.mem_pair.mp hseparator with rfl | rfl <;> rfl
    · obtain ⟨text, htext, rfl⟩ := List.mem_map.mp hpart
      exact h text htext c hc
  · split at hend
    · rcases List.mem_pair.mp hend with rfl | rfl <;> rfl
    · rw [List.mem_singleton.mp hend]
      rfl

mutual

theorem onOneLine_render : ∀ value : Literal, OnOneLine value.render
  | nothing => by decide
  | truth true => by decide
  | truth false => by decide
  | whole value => onOneLine_toString value
  | text value => onOneLine_quote value
  | tuple items => onOneLine_renderTuple (onOneLine_renderItems items)

theorem onOneLine_renderItems : ∀ items : List Literal, ∀ text ∈ renderItems items, OnOneLine text
  | [] => fun _ htext => by cases htext
  | item :: items => fun text htext => by
    rcases List.mem_cons.mp htext with rfl | hlater
    · exact onOneLine_render item
    · exact onOneLine_renderItems items text hlater

end

mutual

/-- The document that a literal is written for, with a list for each tuple. -/
def document : Literal → Document
  | nothing => .null
  | truth value => .bool value
  | whole value => .int value
  | text value => .text value
  | tuple items => .array (documents items)

def documents : List Literal → List Document
  | [] => []
  | item :: items => item.document :: documents items

end

mutual

theorem document_of_ofDocument? : ∀ {value : Document} {literal : Literal},
    ofDocument? value = some literal → literal.document = value
  | .scalar .null, _, h => by
    cases h
    rfl
  | .scalar (.bool value), _, h => by
    cases h
    rfl
  | .scalar (.int value), _, h => by
    cases h
    rfl
  | .scalar (.text value), _, h => by
    cases h
    rfl
  | .array items, _, h => by
    obtain ⟨literals, hliterals, rfl⟩ := Option.map_eq_some_iff.mp h
    exact congrArg Document.array (documents_of_ofItems? hliterals)

theorem documents_of_ofItems? : ∀ {items : List Document} {literals : List Literal},
    ofItems? items = some literals → documents literals = items
  | [], _, h => by
    cases h
    rfl
  | item :: items, _, h => by
    simp only [ofItems?, Option.bind_eq_bind, Option.bind_eq_some_iff, Option.pure_def,
      Option.some.injEq] at h
    obtain ⟨literal, hliteral, literals, hliterals, rfl⟩ := h
    rw [documents, document_of_ofDocument? hliteral, documents_of_ofItems? hliterals]

end

end Literal

namespace Client

open Operation Outcome Text

variable {collection : Collection} {modules : Modules} {byPath : Bool} {document : Document}
  {text : String} {method : Method} {operations : List Operation}

def dispatchText (method : Method) (table : List (String × String)) : String :=
  "_" ++ method.upperName ++ "_HANDLERS: dict[str, Handler] = \x7b\n" ++
    String.join (table.map fun (key, handler) =>
      "    " ++ (Literal.text key).render ++ ": " ++ handler ++ ",\n") ++ "\x7d\n"

theorem dispatchText_standsIn (h : renderGeneric collection modules byPath document = .ok text)
    (hmem : (method, operations) ∈ collection) :
    ∃ table, dispatchKeys method operations byPath = .ok table ∧
      StandsIn (dispatchText method table) text := by
  obtain ⟨-, views, version, types, hviews, -, -, rfl⟩ := renderGeneric_eq_ok.mp h
  obtain ⟨view, hview, hof⟩ := exists_right_of_mem (mapM_eq_ok.mp hviews) hmem
  simp only [MethodView.of, bind_eq_ok, pure_eq_ok] at hof
  obtain ⟨table, htable, hof⟩ := hof
  have hmethod : StandsIn (dispatchText method table) view.render := by
    have hopen : "\n\n_" = "\n\n" ++ "_" := by decide
    have hclose : "\x7d\n\n" = "\x7d\n" ++ "\n" := by decide
    have htable (rest : String) : StandsIn (dispatchText method table)
        ("_" ++ (method.upperName ++ ("_HANDLERS: dict[str, Handler] = \x7b\n" ++
          (String.join (table.map fun (key, handler) =>
            "    " ++ ((Literal.text key).render ++ (": " ++ (handler ++ ",\n")))) ++
              ("\x7d\n" ++ rest))))) :=
      ⟨"", rest, by simp only [dispatchText, String.append_assoc, String.empty_append]⟩
    rw [← hof]
    unfold MethodView.render
    simp only [hopen, hclose, String.append_assoc]
    exact (((((htable _).after _).after _).after _).after _).after _
  have hmethods := hmethod.trans (standsIn_join (List.mem_map_of_mem hview))
  rw [String.append_assoc, String.append_assoc]
  exact ⟨table, htable, hmethods.trans ((standsIn_append _ _).after _)⟩

/-- Every literal is written on one line and is read back, and what is written for a document that
has a literal is read back as the document. So different literals are written differently, and the
keys of a dispatch table are. -/
theorem literals_read_back :
    (∀ value : Literal, OnOneLine value.render ∧ Literal.read? value.render = some value) ∧
    (∀ (value : Document) (literal : Literal), Literal.ofDocument? value = some literal →
      (Literal.read? literal.render).map Literal.document = some value) ∧
    Function.Injective Literal.render ∧
    ∀ collection modules byPath document text,
      renderGeneric collection modules byPath document = .ok text →
        ∀ method operations, (method, operations) ∈ collection →
          ∃ table, dispatchKeys method operations byPath = .ok table ∧
            StandsIn (dispatchText method table) text ∧
            (table.map fun entry => (Literal.text entry.1).render).Nodup := by
  refine ⟨fun value => ⟨value.onOneLine_render, value.read?_render⟩, ?_,
    Literal.render_injective, ?_⟩
  · intro value literal h
    rw [Literal.read?_render, Option.map_some, Literal.document_of_ofDocument? h]
  · intro collection modules byPath document text h method operations hmem
    obtain ⟨table, htable, hstands⟩ := dispatchText_standsIn h hmem
    have hkeys : (table.map (·.1)).Nodup := (dispatches_of_ok htable).keys_nodup
    have hwritten : Function.Injective fun key => (Literal.text key).render :=
      fun first second hsame => Literal.text.inj (Literal.render_injective hsame)
    have hnodup := hkeys.map hwritten
    rw [List.map_map] at hnodup
    exact ⟨table, htable, hstands, hnodup⟩

/-- Values of every kind, one within another. -/
def nestedValues : Document := .array [
  .null, .bool true, .int (-20), .array [.text "\"a\",\n(\\"], .array []]

theorem literals_read_back_nested :
    (∃ literal, Literal.ofDocument? nestedValues = some literal ∧
      (Literal.read? literal.render).map Literal.document = some nestedValues) ∧
    ∃ text, renderGeneric bucketCollection ⟨"runtime", "types"⟩ true bucketDocument = .ok text ∧
      ∀ method operations, (method, operations) ∈ bucketCollection →
        ∃ table, dispatchKeys method operations true = .ok table ∧
          StandsIn (dispatchText method table) text ∧
          (table.map fun entry => (Literal.text entry.1).render).Nodup := by
  obtain ⟨-, hdocuments, -, htables⟩ := literals_read_back
  obtain ⟨text, htext⟩ := renderGeneric_buckets
  exact ⟨⟨_, rfl, hdocuments _ _ rfl⟩, text, htext, htables _ _ _ _ _ htext⟩

end Client

end ClientGen
