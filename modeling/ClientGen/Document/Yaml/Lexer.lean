import ClientGen.Document.Yaml.Token

/-!
The tokens of a YAML text in order. Indentation opens and closes block collections, and a colon
turns what stands before it on its line into a key, so the tokens for a key are put in afterwards.
-/
namespace ClientGen.Yaml

/-- A place where a key may have started: the number of its first token, and whether the
indentation allows nothing else. -/
structure PossibleKey where
  token : Nat
  required : Bool
  index : Nat
  line : Nat
  column : Nat

/-- The state of the lexer: the length of the text, the place, the tokens so far, the depth of flow
collections, the columns of the open block collections, whether a key may start here, and the
possible keys by depth. -/
structure Lexer where
  length : Nat
  cursor : Cursor
  tokens : Array Token
  flow : Nat
  indent : Int
  indents : List Int
  keyAllowed : Bool
  keys : List (Nat × PossibleKey)

namespace Lexer

def start (cs : List Char) : Lexer := ⟨cs.length, .start cs, #[], 0, -1, [], true, []⟩

def push (lexer : Lexer) (token : Token) : Lexer := { lexer with tokens := lexer.tokens.push token }

def pushTo (lexer : Lexer) (read : Token × Cursor) : Lexer :=
  { lexer with tokens := lexer.tokens.push read.1, cursor := read.2 }

/-- Whether the place is outside of flow collections. -/
def inBlock (lexer : Lexer) : Bool := lexer.flow == 0

/-- Skips the byte order mark, spaces, comments and line breaks. After a line break outside of flow
collections a key may start. -/
def skipBlank : (fuel : Nat) → Lexer → Lexer
  | 0, lexer => lexer
  | fuel + 1, lexer =>
    let cursor := lexer.cursor.skipSpaces
    let cursor := if cursor.peek == '#' then cursor.skipWhile (!isLineEnd ·) else cursor
    match cursor.lineBreak? with
    | some (_, cursor) =>
      skipBlank fuel { lexer with cursor, keyAllowed := lexer.keyAllowed || lexer.inBlock }
    | none => { lexer with cursor }

/-- Whether a possible key can no longer be one: keys end on their line and are not long. -/
def isStale (lexer : Lexer) (key : PossibleKey) : Bool :=
  key.line != lexer.cursor.line || key.index + 1024 < lexer.cursor.index

/-- Drops the possible keys that can no longer be keys. -/
def dropStale (lexer : Lexer) : Except Fault Lexer :=
  if lexer.keys.any fun key => lexer.isStale key.2 && key.2.required then .error .malformed
  else .ok { lexer with keys := lexer.keys.filter fun key => !lexer.isStale key.2 }

/-- Drops the possible key of the current depth, which must not be a required one. -/
def dropKey (lexer : Lexer) : Except Fault Lexer :=
  match lexer.keys.lookup lexer.flow with
  | none => .ok lexer
  | some key =>
    if key.required then .error .malformed
    else .ok { lexer with keys := lexer.keys.filter fun key => key.1 != lexer.flow }

/-- Remembers the place as one where a key may start, if one may. -/
def saveKey (lexer : Lexer) : Except Fault Lexer := do
  if !lexer.keyAllowed then return lexer
  else
    let lexer ← lexer.dropKey
    let key : PossibleKey := {
      token := lexer.tokens.size
      required := lexer.inBlock && lexer.indent == lexer.cursor.column
      index := lexer.cursor.index
      line := lexer.cursor.line
      column := lexer.cursor.column }
    return { lexer with keys := (lexer.flow, key) :: lexer.keys }

/-- Closes the block collections that are indented by more than a column. -/
def unwind (column : Int) : (fuel : Nat) → Lexer → Lexer
  | 0, lexer => lexer
  | fuel + 1, lexer =>
    if lexer.inBlock && column < lexer.indent then
      match lexer.indents with
      | indent :: indents =>
        unwind column fuel { lexer.push .blockEnd with indent, indents }
      | [] => lexer
    else lexer

/-- Closes the block collections that are indented by more than a column. -/
def unwindTo (lexer : Lexer) (column : Int) : Lexer := unwind column lexer.indents.length lexer

/-- Opens a block collection at a column, unless one is open there, with the token at a place among
the tokens. -/
def openBlock (lexer : Lexer) (token : Token) (column place : Nat) : Lexer :=
  if lexer.inBlock && lexer.indent < column then
    { lexer with
      indents := lexer.indent :: lexer.indents
      indent := column
      tokens := lexer.tokens.insertIdxIfInBounds place token }
  else lexer

def endStream (lexer : Lexer) : Except Fault Lexer := do
  return (← (lexer.unwindTo (-1)).dropKey).push .streamEnd

def readDirectiveToken (lexer : Lexer) : Except Fault Lexer := do
  let lexer ← (lexer.unwindTo (-1)).dropKey
  return { lexer.pushTo (← readDirective lexer.cursor) with keyAllowed := false }

def documentMark (lexer : Lexer) (token : Token) : Except Fault Lexer := do
  let lexer ← (lexer.unwindTo (-1)).dropKey
  return { lexer.pushTo (token, lexer.cursor.skip 3) with keyAllowed := false }

def openFlow (lexer : Lexer) (token : Token) : Except Fault Lexer := do
  let lexer ← lexer.saveKey
  return { lexer.pushTo (token, lexer.cursor.next) with flow := lexer.flow + 1, keyAllowed := true }

def closeFlow (lexer : Lexer) (token : Token) : Except Fault Lexer := do
  if lexer.inBlock then .error .malformed
  else
    let lexer ← lexer.dropKey
    return { lexer.pushTo (token, lexer.cursor.next) with
      flow := lexer.flow - 1, keyAllowed := false }

def flowEntry (lexer : Lexer) : Except Fault Lexer := do
  let lexer ← { lexer with keyAllowed := true }.dropKey
  return lexer.pushTo (.flowEntry, lexer.cursor.next)

def blockEntry (lexer : Lexer) : Except Fault Lexer := do
  if lexer.inBlock && !lexer.keyAllowed then .error .malformed
  else
    let lexer := lexer.openBlock .blockSequence lexer.cursor.column lexer.tokens.size
    let lexer ← { lexer with keyAllowed := true }.dropKey
    return lexer.pushTo (.blockEntry, lexer.cursor.next)

def explicitKey (lexer : Lexer) : Except Fault Lexer := do
  if lexer.inBlock && !lexer.keyAllowed then .error .malformed
  else
    let lexer := lexer.openBlock .blockMapping lexer.cursor.column lexer.tokens.size
    let lexer ← { lexer with keyAllowed := lexer.inBlock }.dropKey
    return lexer.pushTo (.key, lexer.cursor.next)

/-- A colon before a value. What stands before it on its line becomes its key. -/
def value (lexer : Lexer) : Except Fault Lexer := do
  match lexer.keys.lookup lexer.flow with
  | some key =>
    let lexer := { lexer with
      keys := lexer.keys.filter fun key => key.1 != lexer.flow
      tokens := lexer.tokens.insertIdxIfInBounds key.token .key }
    let lexer := lexer.openBlock .blockMapping key.column key.token
    return { lexer.pushTo (.value, lexer.cursor.next) with keyAllowed := false }
  | none =>
    if lexer.inBlock && !lexer.keyAllowed then .error .malformed
    else
      let lexer := lexer.openBlock .blockMapping lexer.cursor.column lexer.tokens.size
      let lexer ← { lexer with keyAllowed := lexer.inBlock }.dropKey
      return lexer.pushTo (.value, lexer.cursor.next)

/-- A token that may start a key and before which none may start. -/
def keyToken (lexer : Lexer) (read : Cursor → Except Fault (Token × Cursor)) :
    Except Fault Lexer := do
  let lexer ← lexer.saveKey
  return { lexer.pushTo (← read lexer.cursor) with keyAllowed := false }

def blockScalar (lexer : Lexer) (folded : Bool) : Except Fault Lexer := do
  let lexer ← { lexer with keyAllowed := true }.dropKey
  return lexer.pushTo (← readBlockScalar folded lexer.indent lexer.cursor)

def quotedScalar (lexer : Lexer) (double : Bool) : Except Fault Lexer :=
  lexer.keyToken fun cursor => do
    let (cs, cursor) ← readQuoted double (lexer.length + 1) cursor.next
    return (.scalar (.ofList cs) false, cursor)

/-- A plain scalar. After one that ends with its line a key may start. -/
def plainScalar (lexer : Lexer) : Except Fault Lexer := do
  let lexer ← lexer.saveKey
  let ((cs, ended), cursor) :=
    readPlain (!lexer.inBlock) lexer.indent (lexer.length + 1) [] false lexer.cursor
  return { lexer.pushTo (.scalar (.ofList cs) true, cursor) with keyAllowed := ended }

def atPlain (lexer : Lexer) : Bool :=
  let c := lexer.cursor.peek
  !(isBlankOrEnd c || "-?:,[]\x7b\x7d#&*!|>'\"%@`".toList.contains c) ||
    (!isBlankOrEnd (lexer.cursor.peekAt 1) &&
      (c == '-' || (lexer.inBlock && (c == '?' || c == ':'))))

def readToken (lexer : Lexer) : Except Fault Lexer :=
  let c := lexer.cursor.peek
  let blankNext := isBlankOrEnd (lexer.cursor.peekAt 1)
  let lineStart := lexer.cursor.column == 0
  if c.toNat == 0 then lexer.endStream
  else if c == '%' && lineStart then lexer.readDirectiveToken
  else if lineStart && lexer.cursor.atMark '-' then lexer.documentMark .documentStart
  else if lineStart && lexer.cursor.atMark '.' then lexer.documentMark .documentEnd
  else if c == '[' then lexer.openFlow .openSequence
  else if c == '\x7b' then lexer.openFlow .openMapping
  else if c == ']' then lexer.closeFlow .closeSequence
  else if c == '\x7d' then lexer.closeFlow .closeMapping
  else if c == ',' then lexer.flowEntry
  else if c == '-' && blankNext then lexer.blockEntry
  else if c == '?' && (!lexer.inBlock || blankNext) then lexer.explicitKey
  else if c == ':' && (!lexer.inBlock || blankNext) then lexer.value
  else if c == '*' then
    lexer.keyToken fun cursor => do
      let (name, cursor) ← readName cursor
      return (.alias name, cursor)
  else if c == '&' then
    lexer.keyToken fun cursor => do
      let (name, cursor) ← readName cursor
      return (.anchor name, cursor)
  else if c == '!' then lexer.keyToken readTag
  else if c == '|' && lexer.inBlock then lexer.blockScalar false
  else if c == '>' && lexer.inBlock then lexer.blockScalar true
  else if c == '\'' then lexer.quotedScalar false
  else if c == '"' then lexer.quotedScalar true
  else if lexer.atPlain then lexer.plainScalar
  else .error .malformed

/-- Skips what separates tokens, closes what the indentation closes, and reads the next token. -/
def step (lexer : Lexer) : Except Fault Lexer := do
  let lexer ← (skipBlank (lexer.length + 1) lexer).dropStale
  (lexer.unwindTo lexer.cursor.column).readToken

/-- Reads tokens up to the end of the text or a place that cannot be read. -/
def run : (fuel : Nat) → Lexer → List Token
  | 0, lexer => (lexer.push (.broken .malformed)).tokens.toList
  | fuel + 1, lexer =>
    match lexer.step with
    | .error fault => (lexer.push (.broken fault)).tokens.toList
    | .ok lexer =>
      if lexer.tokens.back? == some .streamEnd then lexer.tokens.toList else run fuel lexer

end Lexer

def isReadable (c : Char) : Bool :=
  let n := c.toNat
  n == 9 || n == 10 || n == 13 || (0x20 ≤ n && n ≤ 0x7E) || n == 0x85 ||
    (0xA0 ≤ n && n ≤ 0xD7FF) || (0xE000 ≤ n && n ≤ 0xFFFD) || 0x10000 ≤ n

def tokens (cs : List Char) : List Token :=
  if cs.all isReadable then
    let lexer := Lexer.start cs
    let cursor :=
      if lexer.cursor.peek.toNat == 0xFEFF then lexer.cursor.next else lexer.cursor
    Lexer.run (lexer.length + 2) { lexer with cursor }
  else [.broken .malformed]

end ClientGen.Yaml
