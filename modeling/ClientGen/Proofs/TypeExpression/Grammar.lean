import ClientGen.TypeExpression
import Mathlib.Data.List.Basic

/-!
The grammar of type expressions. The reader of pieces accepts exactly the runs of pieces that the
grammar derives, with any line ends behind them, and gives the expression that the run spells.
-/
namespace ClientGen.TypeExpression

/-- What a run of pieces can be: an expression that needs no brackets around it, expressions with a
comma behind each, or what a pair of brackets may enclose. -/
inductive Phrase where
  | single (expression : TypeExpression)
  | items (expressions : List TypeExpression)
  | content (expression : TypeExpression)

/-- The runs of pieces that spell a phrase. -/
inductive Spells : List Token → Phrase → Prop
  | name (text : String) : Spells [.name text] (.single (.name text))
  | subscript {before inside : List Token} {value index : TypeExpression}
      (outer : Spells before (.single value)) (inner : Spells inside (.content index)) :
      Spells (before ++ .opening true :: (inside ++ [.closing true]))
        (.single (.subscript value index))
  | grouped {inside : List Token} {expression : TypeExpression}
      (inner : Spells inside (.content expression)) :
      Spells (.opening false :: (inside ++ [.closing false])) (.single expression)
  | unit : Spells [.opening false, .closing false] (.single (.tuple []))
  | nothing : Spells [] (.items [])
  | item {before last : List Token} {items : List TypeExpression} {expression : TypeExpression}
      (init : Spells before (.items items)) (next : Spells last (.single expression)) :
      Spells (before ++ (last ++ [.comma])) (.items (items ++ [expression]))
  | alone {tokens : List Token} {expression : TypeExpression}
      (only : Spells tokens (.single expression)) : Spells tokens (.content expression)
  | closed {tokens : List Token} {items : List TypeExpression}
      (all : Spells tokens (.items items)) (some : items ≠ []) :
      Spells tokens (.content (.tuple items))
  | listed {before last : List Token} {items : List TypeExpression} {expression : TypeExpression}
      (init : Spells before (.items items)) (some : items ≠ [])
      (next : Spells last (.single expression)) :
      Spells (before ++ last) (.content (.tuple (items ++ [expression])))

variable {tokens before : List Token} {token : Token} {expression : TypeExpression}

/-! Reading a run of pieces that spells a phrase. -/

namespace Reading

/-- The state with an expression taken where none stood. -/
def taking (reading : Reading) (expression : TypeExpression) : Reading :=
  { reading with group := { reading.group with current := some expression } }

theorem take?_of_free {reading : Reading} (free : reading.group.current = none) :
    reading.take? expression = some (reading.taking expression) := by
  simp [take?, free, taking]

/-- What reading the pieces of a phrase does, from any state in which an expression may begin. -/
def Takes (tokens : List Token) : Phrase → Prop
  | .single expression => ∀ reading : Reading, reading.ended = false →
      reading.group.current = none →
      tokens.foldlM step reading = some (reading.taking expression)
  | .items items => ∀ reading : Reading, reading.ended = false → reading.group.current = none →
      tokens.foldlM step reading = some { reading with
        group := { reading.group with done := reading.group.done ++ items } }
  | .content expression => ∀ reading : Reading, reading.ended = false →
      reading.group.current = none → reading.group.done = [] →
      ∃ group : Group, group.value = reading.group.value ∧ group.content? = some expression ∧
        tokens.foldlM step reading = some { reading with group }

/-- The pieces of a phrase are read as that phrase. -/
theorem takes_of_spells {phrase : Phrase} (h : Spells tokens phrase) : Takes tokens phrase := by
  induction h with
  | name text =>
    intro reading hended hfree
    simp [step, hended, take?_of_free hfree]
  | @subscript before inside value index _ _ ihvalue ihindex =>
    intro reading hended hfree
    obtain ⟨group, hvalue, hcontent, hinside⟩ := ihindex
      { reading with group := .opened (some value), around := reading.group :: reading.around }
      hended rfl rfl
    have hopened : step (reading.taking value) (.opening true) = some { reading with
        group := .opened (some value), around := reading.group :: reading.around } := by
      simp [step, taking, hended, ← hfree]
    rw [List.foldlM_append, ihvalue reading hended hfree, Option.bind_eq_bind, Option.bind_some,
      List.foldlM_cons, hopened, Option.bind_eq_bind, Option.bind_some, List.foldlM_append, hinside]
    simp [step, hended, Group.close?, hvalue, Group.opened, hcontent, take?, hfree, taking]
  | @grouped inside expression _ ih =>
    intro reading hended hfree
    obtain ⟨group, hvalue, hcontent, hinside⟩ := ih
      { reading with group := .opened none, around := reading.group :: reading.around }
      hended rfl rfl
    have hopened : step reading (.opening false) = some { reading with
        group := .opened none, around := reading.group :: reading.around } := by
      simp [step, hended, hfree]
    rw [List.foldlM_cons, hopened, Option.bind_eq_bind, Option.bind_some, List.foldlM_append,
      hinside]
    simp [step, hended, Group.close?, hvalue, Group.opened, hcontent, take?, hfree, taking]
  | unit =>
    intro reading hended hfree
    simp [step, hended, hfree, Group.close?, Group.opened, Group.content?, take?, taking]
  | nothing =>
    intro reading _ _
    simp
  | @item before last items expression _ _ ihinit ihnext =>
    intro reading hended hfree
    rw [List.foldlM_append, ihinit reading hended hfree, Option.bind_eq_bind, Option.bind_some,
      List.foldlM_append, ihnext _ (by exact hended) (by exact hfree)]
    simp [step, hended, taking, ← hfree]
  | alone _ ih =>
    intro reading hended hfree hdone
    refine ⟨(reading.taking _).group, rfl, ?_, ih reading hended hfree⟩
    simp [taking, Group.content?, hdone]
  | @closed tokens items _ hsome ih =>
    intro reading hended hfree hdone
    refine ⟨⟨reading.group.value, items, none⟩, rfl, ?_, ?_⟩
    · cases items with
      | nil => exact absurd rfl hsome
      | cons first rest => simp [Group.content?]
    · rw [ih reading hended hfree]
      simp [hdone, ← hfree]
  | @listed before last items expression _ hsome _ ihinit ihnext =>
    intro reading hended hfree hdone
    refine ⟨⟨reading.group.value, items, some expression⟩, rfl, ?_, ?_⟩
    · cases items with
      | nil => exact absurd rfl hsome
      | cons first rest => rfl
    · rw [List.foldlM_append, ihinit reading hended hfree, Option.bind_eq_bind, Option.bind_some,
        ihnext _ (by exact hended) (by exact hfree)]
      simp [taking, hdone]

end Reading

/-! What a state has read. -/

theorem Spells.eq_nil_of_items (h : Spells tokens (.items [])) : tokens = [] := by
  generalize hphrase : Phrase.items [] = phrase at h
  cases h with
  | nothing => rfl
  | item => simp at hphrase
  | _ => cases hphrase

/-- The pieces of a group so far: those of the expressions before the last comma, and those of the
one after it, if it stands. -/
inductive Group.Read (group : Group) : List Token → Prop
  | free {init : List Token} (done : Spells init (.items group.done))
      (free : group.current = none) : Read group init
  | taken {init last : List Token} {expression : TypeExpression}
      (done : Spells init (.items group.done)) (taken : group.current = some expression)
      (next : Spells last (.single expression)) : Read group (init ++ last)

namespace Group

theorem read_opened (value : Option TypeExpression) : (opened value).Read [] := .free .nothing rfl

theorem Read.eq_nil {group : Group} (h : group.Read tokens) (hcontent : group.content? = none) :
    tokens = [] := by
  unfold content? at hcontent
  split at hcontent
  next hdone =>
    cases h with
    | free done _ =>
      rw [hdone] at done
      exact done.eq_nil_of_items
    | taken _ taken _ =>
      rw [hcontent] at taken
      cases taken
  · cases hcontent

theorem Read.content {group : Group} (h : group.Read tokens)
    (hcontent : group.content? = some expression) : Spells tokens (.content expression) := by
  unfold content? at hcontent
  cases h with
  | free done free =>
    rw [free] at hcontent
    split at hcontent
    · cases hcontent
    next hdone =>
      cases hcontent
      rw [Option.toList_none, List.append_nil]
      exact .closed done hdone
  | taken done taken next =>
    rw [taken] at hcontent
    split at hcontent
    next hdone =>
      cases hcontent
      rw [hdone] at done
      rw [done.eq_nil_of_items]
      exact .alone next
    next hdone =>
      cases hcontent
      exact .listed done hdone next

end Group

/-- The pieces of an innermost group and of the groups around it, each up to its opening bracket. -/
inductive Stacked : Group → List Group → List Token → Prop
  | outermost {group : Group} {inside : List Token} (plain : group.value = none)
      (read : group.Read inside) : Stacked group [] inside
  | round {group outer : Group} {around : List Group} {before inside : List Token}
      (below : Stacked outer around before) (free : outer.current = none)
      (plain : group.value = none) (read : group.Read inside) :
      Stacked group (outer :: around) (before ++ .opening false :: inside)
  | square {group outer : Group} {around : List Group} {before last inside : List Token}
      {value : TypeExpression} (below : Stacked outer around before) (free : outer.current = none)
      (subscripted : group.value = some value) (spelled : Spells last (.single value))
      (read : group.Read inside) :
      Stacked group (outer :: around) (before ++ (last ++ .opening true :: inside))

namespace Stacked

variable {group group' : Group} {around : List Group} {more : List Token}

theorem extend (h : Stacked group around tokens) (value : group'.value = group.value)
    (read : ∀ inside, group.Read inside → group'.Read (inside ++ more)) :
    Stacked group' around (tokens ++ more) := by
  cases h with
  | outermost plain inside => exact .outermost (value.trans plain) (read _ inside)
  | round below free plain inside =>
    rw [List.append_assoc, List.cons_append]
    exact .round below free (value.trans plain) (read _ inside)
  | square below free subscripted spelled inside =>
    rw [List.append_assoc, List.append_assoc, List.cons_append]
    exact .square below free (value.trans subscripted) spelled (read _ inside)

theorem take (h : Stacked group around tokens) (free : group.current = none)
    (next : Spells more (.single expression)) :
    Stacked { group with current := some expression } around (tokens ++ more) := by
  refine h.extend rfl fun inside hinside => ?_
  cases hinside with
  | free init _ => exact .taken init rfl next
  | taken _ taken _ =>
    rw [free] at taken
    cases taken

/-- Where an expression stands after the last comma, it is spelled by the last pieces. -/
theorem split (h : Stacked group around tokens) (taken : group.current = some expression) :
    ∃ init last, tokens = init ++ last ∧
      Stacked { group with current := none } around init ∧ Spells last (.single expression) := by
  have hread : ∀ inside, group.Read inside → ∃ init last, inside = init ++ last ∧
      ({ group with current := none } : Group).Read init ∧ Spells last (.single expression) := by
    intro inside hinside
    cases hinside with
    | free _ free =>
      rw [free] at taken
      cases taken
    | taken done taken' next =>
      cases taken.symm.trans taken'
      exact ⟨_, _, rfl, .free done rfl, next⟩
  cases h with
  | outermost plain read =>
    obtain ⟨init, last, rfl, hinit, hlast⟩ := hread _ read
    exact ⟨init, last, rfl, .outermost plain hinit, hlast⟩
  | round below free plain read =>
    obtain ⟨init, last, rfl, hinit, hlast⟩ := hread _ read
    refine ⟨_, last, ?_, .round below free plain hinit, hlast⟩
    simp
  | square below free subscripted spelled read =>
    obtain ⟨init, last, rfl, hinit, hlast⟩ := hread _ read
    refine ⟨_, last, ?_, .square below free subscripted spelled hinit, hlast⟩
    simp

theorem comma (h : Stacked group around tokens) (taken : group.current = some expression) :
    Stacked { group with done := group.done ++ [expression], current := none } around
      (tokens ++ [.comma]) := by
  obtain ⟨init, last, rfl, hinit, hlast⟩ := h.split taken
  rw [List.append_assoc]
  refine hinit.extend rfl fun inside hinside => ?_
  cases hinside with
  | free done _ => exact .free (.item done hlast) rfl
  | taken _ taken _ => cases taken

/-- A closing bracket gives an expression to the group around it. -/
theorem close {outer : Group} {square : Bool} (h : Stacked group (outer :: around) tokens)
    (hclose : group.close? square = some expression) :
    Stacked { outer with current := some expression } around (tokens ++ [.closing square]) := by
  cases h with
  | @round _ _ _ before inside below free plain read =>
    cases square with
    | true => simp [Group.close?, plain] at hclose
    | false =>
      simp only [Group.close?, plain, Option.some.injEq] at hclose
      rw [List.append_assoc, List.cons_append]
      refine below.take free ?_
      cases hcontent : group.content? with
      | some content =>
        rw [hcontent, Option.getD_some] at hclose
        subst hclose
        exact .grouped (read.content hcontent)
      | none =>
        rw [hcontent, Option.getD_none] at hclose
        subst hclose
        rw [read.eq_nil hcontent]
        exact .unit
  | @square _ _ _ before last inside value below free subscripted spelled read =>
    cases square with
    | false => simp [Group.close?, subscripted] at hclose
    | true =>
      simp only [Group.close?, subscripted, Option.map_eq_some_iff] at hclose
      obtain ⟨index, hcontent, rfl⟩ := hclose
      rw [List.append_assoc, List.append_assoc, List.cons_append]
      exact below.take free (.subscript spelled (read.content hcontent))

end Stacked

/-! Reading gives what the pieces spell. -/

namespace Reading

theorem take?_eq_some {reading next : Reading} (h : reading.take? expression = some next) :
    reading.group.current = none ∧ next = reading.taking expression := by
  unfold take? at h
  split at h
  next hfree =>
    cases h
    exact ⟨hfree, rfl⟩
  · cases h

/-- What a piece before the end of the line adds to what has been read. -/
theorem stacked_of_step {reading next : Reading}
    (h : Stacked reading.group reading.around tokens) (hended : reading.ended = false)
    (hstep : reading.step token = some next) (hend : token ≠ .lineEnd) :
    Stacked next.group next.around (tokens ++ [token]) ∧ next.ended = false := by
  unfold step at hstep
  rw [hended, if_neg Bool.false_ne_true] at hstep
  cases token with
  | name text =>
    obtain ⟨hfree, rfl⟩ := take?_eq_some hstep
    exact ⟨h.take hfree (.name text), hended⟩
  | opening square =>
    cases square with
    | false =>
      dsimp only at hstep
      split at hstep
      next hfree =>
        cases hstep
        exact ⟨.round h hfree rfl (Group.read_opened none), rfl⟩
      · cases hstep
    | true =>
      dsimp only at hstep
      split at hstep
      next value hvalue =>
        cases hstep
        -- the expression before the bracket leaves its group as the value of the new one
        obtain ⟨init, last, rfl, hinit, hlast⟩ := h.split hvalue
        rw [List.append_assoc]
        exact ⟨.square hinit rfl rfl hlast (Group.read_opened _), rfl⟩
      · cases hstep
  | closing square =>
    dsimp only at hstep
    split at hstep
    next outer around haround =>
      obtain ⟨expression, hclose, htake⟩ := Option.bind_eq_some_iff.mp hstep
      obtain ⟨-, rfl⟩ := take?_eq_some htake
      rw [haround] at h
      exact ⟨h.close hclose, rfl⟩
    · cases hstep
  | comma =>
    dsimp only at hstep
    split at hstep
    next expression hexpression =>
      cases hstep
      exact ⟨h.comma hexpression, rfl⟩
    · cases hstep
  | lineEnd => exact absurd rfl hend

theorem lineEnds_of_ended {reading next : Reading} (hended : reading.ended = true)
    (h : tokens.foldlM step reading = some next) :
    (∀ token ∈ tokens, token = .lineEnd) ∧ next = reading := by
  induction tokens with
  | nil =>
    cases h
    exact ⟨by simp, rfl⟩
  | cons token rest ih =>
    rw [List.foldlM_cons] at h
    obtain ⟨reading', hstep, hrest⟩ := Option.bind_eq_some_iff.mp h
    unfold step at hstep
    rw [hended, if_pos rfl] at hstep
    split at hstep
    next htoken =>
      cases hstep
      obtain ⟨hends, rfl⟩ := ih hrest
      exact ⟨List.forall_mem_cons.mpr ⟨by simpa using htoken, hends⟩, rfl⟩
    · cases hstep

/-- A run of pieces is read up to the end of the line, and only line ends stand behind it. -/
theorem stacked_of_foldlM {reading next : Reading}
    (h : Stacked reading.group reading.around before) (hended : reading.ended = false)
    (hread : tokens.foldlM step reading = some next) : ∃ line ends, tokens = line ++ ends ∧
      (∀ token ∈ ends, token = .lineEnd) ∧ Stacked next.group next.around (before ++ line) := by
  induction tokens generalizing reading before with
  | nil =>
    cases hread
    exact ⟨[], [], rfl, by simp, by simpa using h⟩
  | cons token rest ih =>
    rw [List.foldlM_cons] at hread
    obtain ⟨reading', hstep, hrest⟩ := Option.bind_eq_some_iff.mp hread
    by_cases hend : token = .lineEnd
    · subst hend
      have hreading : reading' = { reading with ended := true } := by
        simpa [step, hended, eq_comm] using hstep
      subst hreading
      obtain ⟨hends, rfl⟩ := lineEnds_of_ended rfl hrest
      exact ⟨[], _, rfl, List.forall_mem_cons.mpr ⟨rfl, hends⟩, by simpa using h⟩
    · obtain ⟨h', hended'⟩ := stacked_of_step h hended hstep hend
      obtain ⟨line, ends, rfl, hends, hstacked⟩ := ih h' hended' hrest
      exact ⟨token :: line, ends, rfl, hends, by simpa using hstacked⟩

theorem foldlM_lineEnds {reading : Reading} (ends : List Token)
    (hends : ∀ token ∈ ends, token = .lineEnd) (hended : reading.ended = true) :
    ends.foldlM step reading = some reading := by
  induction ends with
  | nil => rfl
  | cons token rest ih =>
    obtain ⟨rfl, hrest⟩ := List.forall_mem_cons.mp hends
    simp [step, hended, ih hrest]

end Reading

def ofTokens? (tokens : List Token) : Option TypeExpression :=
  (tokens.foldlM Reading.step .start).bind Reading.finish?

/-- The accepted runs of pieces are those that spell the content of a pair of brackets, with any
line ends behind. -/
theorem ofTokens?_eq_some_iff : ofTokens? tokens = some expression ↔
    ∃ line ends, tokens = line ++ ends ∧ (∀ token ∈ ends, token = .lineEnd) ∧
      Spells line (.content expression) := by
  constructor
  · intro h
    obtain ⟨reading, hread, hfinish⟩ := Option.bind_eq_some_iff.mp h
    have hstart : Stacked Reading.start.group Reading.start.around [] :=
      .outermost rfl (Group.read_opened none)
    obtain ⟨line, ends, rfl, hends, hstacked⟩ := Reading.stacked_of_foldlM hstart rfl hread
    refine ⟨line, ends, rfl, hends, ?_⟩
    unfold Reading.finish? at hfinish
    split at hfinish
    next haround =>
      rw [haround] at hstacked
      cases hstacked with
      | outermost _ read => exact read.content hfinish
    · cases hfinish
  · rintro ⟨line, ends, rfl, hends, hspells⟩
    obtain ⟨group, -, hcontent, hline⟩ := Reading.takes_of_spells hspells .start rfl rfl rfl
    rw [ofTokens?, List.foldlM_append, hline, Option.bind_eq_bind, Option.bind_some]
    cases ends with
    | nil => exact hcontent
    | cons token rest =>
      obtain ⟨rfl, hrest⟩ := List.forall_mem_cons.mp hends
      rw [List.foldlM_cons]
      simp only [Reading.step, Reading.start, Bool.false_eq_true, if_false, Option.bind_eq_bind,
        Option.bind_some]
      rw [Reading.foldlM_lineEnds rest hrest rfl]
      exact hcontent

end ClientGen.TypeExpression
