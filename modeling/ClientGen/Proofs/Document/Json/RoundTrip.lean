import ClientGen.Proofs.Document.Json.Scalars
import ClientGen.Proofs.Document.Reordering
import ClientGen.Source

/-!
Written documents are read back as they were. The proof follows the printer: the text of a value is
read wherever a line break or a comma stands after it, and a container hands that down to its items
and members.
-/
namespace ClientGen

open Outcome

/-- The documents that JSON text carries without loss: scalars other than real numbers, times and
bytes, and containers of such documents whose members have different texts as keys. -/
inductive Portable : Document → Prop
  | null : Portable .null
  | bool (value : Bool) : Portable (.bool value)
  | int (value : Int) : Portable (.int value)
  | text (value : String) : Portable (.text value)
  | array {items : List Document} (items_portable : ∀ item ∈ items, Portable item) :
      Portable (.array items)
  | object {members : Members} (named : ∀ member ∈ members, ∃ name, member.1 = .text name)
      (once : (members.map (·.1)).Nodup) (values : ∀ member ∈ members, Portable member.2) :
      Portable (.object members)

namespace Json

variable {rest : List Char}

/-- A text that is read as a document wherever it stands in a written one. -/
structure ReadsBack (cs : List Char) (document : Document) : Prop where
  start : ∃ c tail, cs = c :: tail ∧ c.toNat < 128 ∧ Text.isBlank c = false ∧ c ≠ ']'
  read : ∀ {fuel : Nat} {rest : List Char}, cs.length ≤ fuel → Stops rest →
    readValue fuel (cs ++ rest) = .ok (document, rest)

theorem isSpace_eq_false {c : Char} (h : Text.isBlank c = false) : isSpace c = false := by
  by_contra hspace
  simp only [isSpace, Bool.not_eq_false, Bool.or_eq_true, beq_iff_eq] at hspace
  rcases hspace with ((rfl | rfl) | rfl) | rfl <;> cases h

theorem skipSpace_cons {c : Char} (h : Text.isBlank c = false) (cs : List Char) :
    skipSpace (c :: cs) = c :: cs := by
  simp [skipSpace, isSpace_eq_false h]

theorem skipSpace_newline (depth : Nat) {c : Char} (h : Text.isBlank c = false)
    (cs : List Char) :
    skipSpace ((newline depth).toList ++ c :: cs) = c :: cs := by
  have hblank : ∀ d ∈ (newline depth).toList, isSpace d = true := by
    simp [newline, isSpace]
  rw [skipSpace, List.dropWhile_append_of_pos hblank]
  exact skipSpace_cons h cs

theorem stops_newline (depth : Nat) (cs : List Char) : Stops ((newline depth).toList ++ cs) := by
  rw [newline, String.toList_ofList, List.cons_append]
  exact .newline _

theorem readsBack_of_readScalar? {c : Char} {tail : List Char} {value : Scalar}
    (hc : c.toNat < 128 ∧ Text.isBlank c = false ∧ c ∉ [']', '"', '\x7b', '['])
    (h : ∀ {rest}, Stops rest → readScalar? (c :: tail ++ rest) = some (value, rest)) :
    ReadsBack (c :: tail) (.scalar value) := by
  obtain ⟨hascii, hspace, hother⟩ := hc
  simp only [List.mem_cons, List.not_mem_nil, or_false, not_or] at hother
  refine ⟨⟨c, tail, rfl, hascii, hspace, hother.1⟩, ?_⟩
  intro fuel rest hfuel stops
  cases fuel with
  | zero => cases hfuel
  | succ fuel =>
    have hread := h stops
    rw [List.cons_append] at hread ⊢
    rw [readValue, hread]
    all_goals simp [hother]

theorem readsBack_null : ReadsBack "null".toList .null :=
  readsBack_of_readScalar? (by decide) fun _ => rfl

theorem readsBack_bool (value : Bool) :
    ReadsBack (if value then "true" else "false").toList (.bool value) := by
  cases value with
  | true => exact readsBack_of_readScalar? (by decide) fun _ => rfl
  | false => exact readsBack_of_readScalar? (by decide) fun _ => rfl

/-- A digit or a minus is a first character that no other value has. -/
theorem intChars_start (n : Int) : ∃ c tail, intChars n = c :: tail ∧
    c.toNat < 128 ∧ Text.isBlank c = false ∧ c ∉ [']', '"', '\x7b', '['] := by
  unfold intChars
  split
  · obtain ⟨digit, digits, hdigits, hdigit⟩ := toDigits_head n.toNat
    have hother {c : Char} (hc : c.isDigit = false) : digit ≠ c := by
      rintro rfl
      simp [hc] at hdigit
    have hcode : 48 ≤ digit.toNat ∧ digit.toNat ≤ 57 := by
      simp only [Char.isDigit, Bool.and_eq_true, decide_eq_true_eq] at hdigit
      exact hdigit
    refine ⟨digit, digits, hdigits, by omega, ?_, by simp [hother]⟩
    simp [Text.isBlank]
    omega
  · exact ⟨'-', _, rfl, by decide⟩

theorem readsBack_int (n : Int) : ReadsBack (toString n).toList (.int n) := by
  rw [toList_toString]
  obtain ⟨c, tail, hchars, hstart⟩ := intChars_start n
  rw [hchars]
  refine readsBack_of_readScalar? hstart fun stops => ?_
  rw [← hchars]
  exact readScalar?_intChars n stops

theorem readsBack_text (s : String) : ReadsBack (Text.quote s).toList (.text s) := by
  rw [Text.quote, String.toList_ofList]
  refine ⟨⟨'"', _, rfl, by decide⟩, ?_⟩
  intro fuel rest hfuel _
  cases fuel with
  | zero => cases hfuel
  | succ fuel =>
    rw [List.cons_append, List.cons_append, List.append_assoc, List.singleton_append, readValue,
      readString_quoted]
    change Except.ok (Document.text (.ofList s.toList), rest) = _
    rw [String.ofList_toList]

/-- What stands between two items or members at a depth. -/
def separator (depth : Nat) : List Char := ',' :: (newline depth).toList

theorem toList_bracketed (opening closing : String) (depth : Nat) {texts : List String}
    (h : texts ≠ []) : (bracketed opening closing depth texts).toList =
      opening.toList ++ ((newline (depth + 1)).toList ++
        ((separator (depth + 1)).intercalate (texts.map String.toList) ++
          ((newline depth).toList ++ closing.toList))) := by
  cases texts with
  | nil => exact absurd rfl h
  | cons text texts =>
    simp [bracketed, String.toList_intercalate, separator]

variable {depth fuel : Nat} {text next : List Char} {texts : List (List Char)}

theorem intercalate_append (depth : Nat) (text next : List Char) (texts : List (List Char))
    (after : List Char) : (separator depth).intercalate (text :: next :: texts) ++ after =
      text ++ ',' :: ((newline depth).toList ++
        ((separator depth).intercalate (next :: texts) ++ after)) := by
  rw [List.intercalate_cons_cons, separator]
  simp only [List.append_assoc, List.cons_append]

/-- One step of fuel pays for one text and the comma after it. -/
theorem length_of_intercalate
    (h : ((separator depth).intercalate (text :: next :: texts)).length < fuel + 1) :
    text.length ≤ fuel ∧ ((separator depth).intercalate (next :: texts)).length < fuel := by
  rw [List.intercalate_cons_cons, List.length_append, List.length_append] at h
  have hcomma : 0 < (separator depth).length := Nat.succ_pos _
  omega

theorem readItems_last {fuel : Nat} {cs rest after : List Char} {item : Document}
    (hitem : readValue fuel cs = .ok (item, rest)) (hend : skipSpace rest = ']' :: after) :
    readItems (fuel + 1) cs = .ok ([item], after) := by
  rw [readItems, bind_eq_ok]
  refine ⟨_, hitem, ?_⟩
  simp only [hend]
  rfl

theorem readItems_more {fuel : Nat} {cs rest after last : List Char} {item : Document}
    {items : List Document} (hitem : readValue fuel cs = .ok (item, rest))
    (hcomma : skipSpace rest = ',' :: after)
    (hmore : readItems fuel (skipSpace after) = .ok (items, last)) :
    readItems (fuel + 1) cs = .ok (item :: items, last) := by
  rw [readItems, bind_eq_ok]
  refine ⟨_, hitem, ?_⟩
  simp only [hcomma]
  exact bind_eq_ok.mpr ⟨_, hmore, rfl⟩

/-- The first character of several texts is that of the first one. -/
theorem intercalate_cons_start (separator : List Char) (c : Char) (text : List Char)
    (texts : List (List Char)) :
    ∃ tail, separator.intercalate ((c :: text) :: texts) = c :: tail := by
  cases texts with
  | nil => exact ⟨text, by rw [List.intercalate_singleton]⟩
  | cons next texts =>
    exact ⟨_, by rw [List.intercalate_cons_cons, List.append_assoc, List.cons_append]⟩

/-- The items of an array are read back from their texts, up to the bracket after them. -/
theorem readItems_intercalate (depth outer : Nat) {texts : List (List Char)}
    {items : List Document} (h : List.Forall₂ ReadsBack texts items) (some : texts ≠ [])
    {fuel : Nat} (hfuel : ((separator depth).intercalate texts).length < fuel) (rest : List Char) :
    readItems fuel ((separator depth).intercalate texts ++
      ((newline outer).toList ++ ']' :: rest)) = .ok (items, rest) := by
  induction h generalizing fuel with
  | nil => exact absurd rfl some
  | @cons text item texts items head tail ih =>
    cases fuel with
    | zero => cases hfuel
    | succ fuel =>
      cases tail with
      | nil =>
        rw [List.intercalate_singleton] at hfuel ⊢
        exact readItems_last (head.read (Nat.le_of_lt_succ hfuel) (stops_newline outer _))
          (skipSpace_newline outer rfl rest)
      | @cons next item' texts items hnext tail =>
        obtain ⟨hitem, hless⟩ := length_of_intercalate hfuel
        have hmore := ih (by simp) hless
        obtain ⟨c, later, rfl, -, hspace, -⟩ := hnext.start
        obtain ⟨tail', hstart⟩ := intercalate_cons_start (separator depth) c later texts
        rw [intercalate_append]
        refine readItems_more (head.read hitem (.comma _)) (skipSpace_cons rfl _) ?_
        rw [hstart] at hmore ⊢
        rw [List.cons_append, skipSpace_newline depth hspace]
        exact hmore

def memberChars (name : String) (value : List Char) : List Char :=
  '"' :: (Text.escapeChars name.toList ++ '"' :: ':' :: ' ' :: value)

/-- The text of a member whose key is a text and whose value is read back. -/
inductive MemberReadsBack : List Char → Scalar × Document → Prop
  | intro {name : String} {chars : List Char} {value : Document} (reads : ReadsBack chars value) :
      MemberReadsBack (memberChars name chars) (.text name, value)

variable {fuel : Nat} {members : Members} {name : String} {value : Document}
  {chars after last : List Char}

theorem readMembers_memberChars (reads : ReadsBack chars value) (hfuel : chars.length ≤ fuel)
    (stops : Stops rest) :
    readMembers (fuel + 1) members (memberChars name chars ++ rest) =
      match skipSpace rest with
      | '\x7d' :: rest => .ok (Members.put members name value, rest)
      | ',' :: rest => readMembers fuel (Members.put members name value) (skipSpace rest)
      | rest => .error ⟨.comma, rest.length⟩ := by
  obtain ⟨c, tail, hchars, -, hspace, -⟩ := reads.start
  have hvalue : readValue fuel (skipSpace (' ' :: (chars ++ rest))) = .ok (value, rest) := by
    have hskip : skipSpace (' ' :: (chars ++ rest)) = chars ++ rest := by
      subst hchars
      exact skipSpace_cons hspace _
    rw [hskip]
    exact reads.read hfuel stops
  have hcolon : skipSpace (':' :: ' ' :: (chars ++ rest)) = ':' :: ' ' :: (chars ++ rest) := rfl
  simp only [memberChars, List.cons_append, List.append_assoc]
  rw [readMembers, readString_quoted]
  simp only [Bind.bind, Except.bind, hcolon, hvalue, String.ofList_toList]
  rfl

theorem readMembers_last (reads : ReadsBack chars value) (hfuel : chars.length ≤ fuel)
    (stops : Stops rest) (hend : skipSpace rest = '\x7d' :: after) :
    readMembers (fuel + 1) members (memberChars name chars ++ rest) =
      .ok (Members.put members name value, after) := by
  rw [readMembers_memberChars reads hfuel stops, hend]
  rfl

theorem readMembers_more (reads : ReadsBack chars value) (hfuel : chars.length ≤ fuel)
    (stops : Stops rest) (hcomma : skipSpace rest = ',' :: after) {all : Members}
    (hmore : readMembers fuel (Members.put members name value) (skipSpace after) =
      .ok (all, last)) :
    readMembers (fuel + 1) members (memberChars name chars ++ rest) = .ok (all, last) := by
  rw [readMembers_memberChars reads hfuel stops, hcomma]
  exact hmore

/-- The members of an object are read back from their texts, up to the brace after them. Each comes
after those before, since its name is new. -/
theorem readMembers_intercalate (depth outer : Nat) {texts : List (List Char)} {members : Members}
    (h : List.Forall₂ MemberReadsBack texts members) (some : texts ≠ []) {before : Members}
    (once : ((before ++ members).map (·.1)).Nodup) {fuel : Nat}
    (hfuel : ((separator depth).intercalate texts).length < fuel) (rest : List Char) :
    readMembers fuel before ((separator depth).intercalate texts ++
      ((newline outer).toList ++ '\x7d' :: rest)) = .ok (before ++ members, rest) := by
  -- The members put so far grow by the one that is read, so the induction is for any of them.
  induction h generalizing fuel before with
  | nil => exact absurd rfl some
  | @cons text member texts members head tail ih =>
    obtain @⟨name, chars, value, reads⟩ := head
    have hfresh : .text name ∉ before.map (·.1) := by
      rw [List.map_append, List.map_cons] at once
      exact fun hmem => (List.nodup_append.mp once).2.2 _ hmem _ List.mem_cons_self rfl
    have hput (later : Members) : before ++ (.text name, value) :: later =
        Members.put before name value ++ later := by
      rw [Members.put_of_fresh hfresh value, List.append_cons]
    rw [hput] at once ⊢
    have hchars : chars.length ≤ (memberChars name chars).length := by
      simp [memberChars]
      omega
    cases fuel with
    | zero => cases hfuel
    | succ fuel =>
      cases tail with
      | nil =>
        rw [List.intercalate_singleton] at hfuel ⊢
        rw [List.append_nil]
        exact readMembers_last reads (by omega) (stops_newline outer _)
          (skipSpace_newline outer rfl rest)
      | @cons next member' texts members hnext tail =>
        obtain ⟨hmember, hless⟩ := length_of_intercalate hfuel
        have hmore := ih (by simp) once hless
        obtain @⟨name', chars', value', -⟩ := hnext
        obtain ⟨tail', hstart⟩ := intercalate_cons_start (separator depth) '"'
          (Text.escapeChars name'.toList ++ '"' :: ':' :: ' ' :: chars') texts
        rw [← memberChars] at hstart
        rw [intercalate_append]
        refine readMembers_more reads (by omega) (.comma _) (skipSpace_cons rfl _) ?_
        rw [hstart, List.cons_append] at hmore ⊢
        rw [skipSpace_newline depth rfl]
        exact hmore

theorem readValue_array {c : Char} {cs tail : List Char} {items : List Document}
    (hstart : skipSpace cs = c :: tail) (some : c ≠ ']')
    (hitems : readItems fuel (c :: tail) = .ok (items, rest)) :
    readValue (fuel + 1) ('[' :: cs) = .ok (.array items, rest) := by
  rw [readValue, hstart]
  split
  next heq => exact absurd (List.cons.inj heq).1 some
  · rw [hitems]
    rfl

theorem readValue_object {c : Char} {cs tail : List Char} {members : Members}
    (hstart : skipSpace cs = c :: tail) (some : c ≠ '\x7d')
    (hmembers : readMembers fuel [] (c :: tail) = .ok (members, rest)) :
    readValue (fuel + 1) ('\x7b' :: cs) = .ok (.object members, rest) := by
  rw [readValue, hstart]
  split
  next heq => exact absurd (List.cons.inj heq).1 some
  · rw [hmembers]
    rfl

theorem readsBack_bracketed (opening closing : Char) (depth : Nat) {texts : List String}
    {document : Document} (hopening : opening ∈ ['[', '\x7b'])
    (empty : texts = [] → ∀ fuel rest,
      readValue (fuel + 1) (opening :: closing :: rest) = .ok (document, rest))
    (filled : texts ≠ [] → ∀ fuel rest,
      ((separator (depth + 1)).intercalate (texts.map String.toList)).length < fuel →
      readValue (fuel + 1) (opening :: ((newline (depth + 1)).toList ++
        ((separator (depth + 1)).intercalate (texts.map String.toList) ++
          ((newline depth).toList ++ closing :: rest)))) = .ok (document, rest)) :
    ReadsBack (bracketed (.singleton opening) (.singleton closing) depth texts).toList
      document := by
  have hstart : opening.toNat < 128 ∧ Text.isBlank opening = false ∧ opening ≠ ']' := by
    simp only [List.mem_cons, List.not_mem_nil, or_false] at hopening
    rcases hopening with rfl | rfl <;> decide
  by_cases hnone : texts = []
  · subst hnone
    have hchars : (bracketed (.singleton opening) (.singleton closing) depth []).toList =
        [opening, closing] := by
      simp [bracketed]
    rw [hchars]
    refine ⟨⟨opening, _, rfl, hstart⟩, fun {fuel rest} hfuel _ => ?_⟩
    cases fuel with
    | zero => cases hfuel
    | succ fuel => exact empty rfl fuel rest
  · rw [toList_bracketed _ _ _ hnone, String.toList_singleton, String.toList_singleton]
    refine ⟨⟨opening, _, rfl, hstart⟩, fun {fuel rest} hfuel _ => ?_⟩
    cases fuel with
    | zero => simp at hfuel
    | succ fuel =>
      have hread := filled hnone fuel rest (by simp at hfuel; omega)
      simpa using hread

theorem readsBack_array (depth : Nat) {texts : List String} {items : List Document}
    (h : List.Forall₂ ReadsBack (texts.map String.toList) items) :
    ReadsBack (bracketed "[" "]" depth texts).toList (.array items) := by
  refine readsBack_bracketed '[' ']' depth (by decide) ?_ ?_
  · rintro rfl fuel rest
    cases h
    rfl
  · intro hsome fuel rest hfuel
    have hitems := readItems_intercalate (depth + 1) depth h (by simpa using hsome) hfuel rest
    cases texts with
    | nil => exact absurd rfl hsome
    | cons text texts =>
      cases h with
      | cons head _ =>
        obtain ⟨c, tail, hchars, -, hspace, hother⟩ := head.start
        obtain ⟨tail', hstart⟩ := intercalate_cons_start (separator (depth + 1)) c tail
          (texts.map String.toList)
        rw [List.map_cons, hchars, hstart, List.cons_append] at hitems ⊢
        exact readValue_array (skipSpace_newline _ hspace _) hother hitems

theorem readsBack_object (depth : Nat) {texts : List String} {members : Members}
    (h : List.Forall₂ MemberReadsBack (texts.map String.toList) members)
    (once : (members.map (·.1)).Nodup) :
    ReadsBack (bracketed "\x7b" "\x7d" depth texts).toList (.object members) := by
  refine readsBack_bracketed '\x7b' '\x7d' depth (by decide) ?_ ?_
  · rintro rfl fuel rest
    cases h
    rfl
  · intro hsome fuel rest hfuel
    have hnone : ((([] : Members) ++ members).map (·.1)).Nodup := once
    have hmembers := readMembers_intercalate (depth + 1) depth h (by simpa using hsome) hnone
      hfuel rest
    cases texts with
    | nil => exact absurd rfl hsome
    | cons text texts =>
      generalize hchars : List.map String.toList (text :: texts) = chars at *
      cases h with
      | nil => cases hchars
      | @cons first member chars members head _ =>
        obtain @⟨name, value, _, -⟩ := head
        obtain ⟨tail', hstart⟩ := intercalate_cons_start (separator (depth + 1)) '"'
          (Text.escapeChars name.toList ++ '"' :: ':' :: ' ' :: value) chars
        rw [← memberChars] at hstart
        rw [hstart, List.cons_append] at hmembers ⊢
        exact readValue_object (skipSpace_newline _ rfl _) (by decide) hmembers

theorem exists_itemTexts {depth : Nat} {items : List Document}
    (h : ∀ item ∈ items, ∃ text, valueText? depth item = some text ∧ ReadsBack text.toList item) :
    ∃ texts, itemTexts? depth items = some texts ∧
      List.Forall₂ ReadsBack (texts.map String.toList) items := by
  induction items with
  | nil => exact ⟨[], rfl, .nil⟩
  | cons item items ih =>
    obtain ⟨⟨text, htext, hread⟩, hrest⟩ := List.forall_mem_cons.mp h
    obtain ⟨texts, htexts, hreads⟩ := ih hrest
    exact ⟨text :: texts, by simp [itemTexts?, htext, htexts], .cons hread hreads⟩

theorem exists_memberTexts {depth : Nat} {members : Members}
    (named : ∀ member ∈ members, ∃ name, member.1 = .text name)
    (h : ∀ member ∈ members, ∃ text, valueText? depth member.2 = some text ∧
      ReadsBack text.toList member.2) :
    ∃ texts, memberTexts? depth members = some texts ∧
      List.Forall₂ MemberReadsBack (texts.map String.toList) members := by
  induction members with
  | nil => exact ⟨[], rfl, .nil⟩
  | cons member members ih =>
    obtain ⟨key, value⟩ := member
    obtain ⟨⟨name, rfl⟩, hnames⟩ := List.forall_mem_cons.mp named
    obtain ⟨⟨text, htext, hread⟩, hrest⟩ := List.forall_mem_cons.mp h
    obtain ⟨texts, htexts, hreads⟩ := ih hnames hrest
    have hchars : (Text.quote name ++ ": " ++ text).toList = memberChars name text.toList := by
      simp [Text.quote, memberChars]
    refine ⟨(Text.quote name ++ ": " ++ text) :: texts, ?_, ?_⟩
    · simp [memberTexts?, keyText?, htext, htexts]
    · rw [List.map_cons, hchars]
      exact .cons (.intro hread) hreads

/-- Every portable document has a text, at every depth, that is read back as it. -/
theorem exists_valueText {document : Document} (h : Portable document) (depth : Nat) :
    ∃ text, valueText? depth document = some text ∧ ReadsBack text.toList document := by
  induction h generalizing depth with
  | null => exact ⟨_, rfl, readsBack_null⟩
  | bool value => exact ⟨_, rfl, readsBack_bool value⟩
  | int value => exact ⟨_, rfl, readsBack_int value⟩
  | text value => exact ⟨_, rfl, readsBack_text value⟩
  | array _ ih =>
    obtain ⟨texts, htexts, hreads⟩ := exists_itemTexts fun item hmem => ih item hmem (depth + 1)
    exact ⟨_, by rw [valueText?, htexts]; rfl, readsBack_array depth hreads⟩
  | object named once _ ih =>
    obtain ⟨texts, htexts, hreads⟩ := exists_memberTexts named fun member hmem =>
      ih member hmem (depth + 1)
    exact ⟨_, by rw [valueText?, htexts]; rfl, readsBack_object depth hreads once⟩

/-- A written portable document is no blank text and is read back as it was. -/
theorem exists_write {document : Document} (h : Portable document) :
    ∃ text, write? document = some text ∧ read text = .ok document ∧
      ∃ c ∈ text.toList, Text.isBlank c = false := by
  obtain ⟨text, htext, hreads⟩ := exists_valueText h 0
  obtain ⟨c, tail, hchars, hascii, hblank, -⟩ := hreads.start
  refine ⟨text ++ "\n", by rw [write?, htext]; rfl, ?_, c, by simp [hchars], hblank⟩
  have hvalue : readValue (2 * (text.toList ++ ['\n']).length + 2) (text.toList ++ ['\n']) =
      .ok (document, ['\n']) := by
    refine hreads.read ?_ (.newline [])
    rw [List.length_append]
    omega
  have hmark : (c.toNat == 0xFEFF) = false := by
    rw [beq_eq_false_iff_ne]
    omega
  have hskip : skipSpace (text.toList ++ ['\n']) = text.toList ++ ['\n'] := by
    rw [hchars]
    exact skipSpace_cons hblank _
  have hhead : (text.toList ++ ['\n']).head? = some c := by
    rw [hchars]
    rfl
  have hend : "\n".toList = ['\n'] := rfl
  rw [read, String.toList_append, hend, readChars, hhead, hskip, hvalue]
  simp only [Option.any_some, hmark]
  rfl

end Json

theorem Text.mem_dropWhile_isBlank {c : Char} {cs : List Char} (h : c ∈ cs)
    (hblank : isBlank c = false) : c ∈ cs.dropWhile isBlank := by
  rw [← List.takeWhile_append_dropWhile (p := isBlank) (l := cs), List.mem_append] at h
  rcases h with hstart | hrest
  · simp [List.all_eq_true.mp List.all_takeWhile c hstart] at hblank
  · exact hrest

theorem Text.isEmpty_trim {text : String} (h : ∃ c ∈ text.toList, isBlank c = false) :
    (trim text).isEmpty = false := by
  obtain ⟨c, hmem, hblank⟩ := h
  have hkept : c ∈ (trim text).toList := by
    rw [trim, String.toList_ofList, trimChars, trimEnd, List.mem_reverse]
    refine mem_dropWhile_isBlank (List.mem_reverse.mpr ?_) hblank
    exact mem_dropWhile_isBlank hmem hblank
  rw [← Bool.not_eq_true, String.isEmpty_iff]
  intro hempty
  simp [hempty] at hkept

/-- A document that is written loads back as it was, members in their order, whether its text is
said to be JSON or of no known notation; so does a source with this text. -/
theorem Source.loads_written {document : Document} (portable : Portable document)
    (object : document.isObject = true) :
    ∃ written, Json.write? document = some written ∧ ∀ hint, hint ≠ .yaml →
      parse written hint = .ok (.tree document) ∧
      ∀ world source, text world source = .ok (written, hint) →
        loadDraft world source = .ok (.tree document) := by
  obtain ⟨written, hwrite, hread, hsome⟩ := Json.exists_write portable
  refine ⟨written, hwrite, fun hint json => ?_⟩
  have hparse : parse written hint = .ok (.tree document) := by
    simp [parse, json, hread, requireObject, Draft.document, object]
  refine ⟨hparse, fun world source hsource => ?_⟩
  rw [loadDraft, bind_eq_ok]
  refine ⟨_, hsource, ?_⟩
  simp only [Text.isEmpty_trim hsome]
  exact hparse

/-- A limit with a control character in its description, a value below zero and no tags. -/
def keptDocument : Document := .object [
  (.text "openapi", .text "3.0"),
  (.text "limit", .object [
    (.text "description", .text "per\x01 \"tenant\"\n"),
    (.text "values", .array [.int (-40), .null]), (.text "tags", .object [])])]

theorem portable_keptDocument : Portable keptDocument := by
  have hvalues : Portable (.array [.int (-40), .null]) :=
    .array (by simp [Portable.int, Portable.null])
  have htags : Portable (.object []) := .object (by simp) List.nodup_nil (by simp)
  have hlimit : Portable (.object [
      (.text "description", .text "per\x01 \"tenant\"\n"),
      (.text "values", .array [.int (-40), .null]), (.text "tags", .object [])]) :=
    .object (by simp) (by decide) (by simp [Portable.text, hvalues, htags])
  exact .object (by simp) (by decide) (by simp [Portable.text, hlimit])

theorem Source.loads_written_kept :
    ∃ written, Json.write? keptDocument = some written ∧
      parse written .unknown = .ok (.tree keptDocument) ∧
      parse written .json = .ok (.tree keptDocument) := by
  obtain ⟨written, hwrite, hloads⟩ := loads_written portable_keptDocument rfl
  exact ⟨written, hwrite, (hloads .unknown (by decide)).1, (hloads .json (by decide)).1⟩

end ClientGen
