import ClientGen.Document.Yaml.Cursor
import ClientGen.Text.Hex

/-!
The tokens of YAML text and the reading of those that are more than one character: directives,
anchors, tags and scalars.
-/
namespace ClientGen.Yaml

/-- A token. `broken` stands where the text cannot be read any further. -/
inductive Token where
  | streamEnd
  | version (major : Nat)
  | tagHandle (handle start : String)
  | reserved
  | documentStart
  | documentEnd
  | blockSequence
  | blockMapping
  | blockEnd
  | openSequence
  | closeSequence
  | openMapping
  | closeMapping
  | blockEntry
  | flowEntry
  | key
  | value
  | alias (name : String)
  | anchor (name : String)
  | tag (handle : Option String) (suffix : String)
  | scalar (text : String) (plain : Bool)
  | broken (fault : Fault)
deriving DecidableEq, Repr

/-- Accepts only a place whose character is of a class. -/
def expect (cursor : Cursor) (p : Char → Bool) : Except Fault Unit :=
  if p cursor.peek then .ok () else .error .malformed

def Cursor.skipSpaces (cursor : Cursor) : Cursor := cursor.skipWhile (· == ' ')

/-- Skips spaces, a comment and the end of the line, which nothing else may precede. -/
def restOfLine (cursor : Cursor) : Except Fault Cursor := do
  let cursor := cursor.skipSpaces
  let cursor := if cursor.peek == '#' then cursor.skipWhile (!isLineEnd ·) else cursor
  expect cursor isLineEnd
  return (cursor.lineBreak?.map (·.2)).getD cursor

/-! ### Anchors and tags -/

/-- Reads the name of an anchor or alias after its sign. -/
def readName (cursor : Cursor) : Except Fault (String × Cursor) := do
  let (name, cursor) := cursor.next.span isWordChar
  if name.isEmpty then .error .malformed
  else
    expect cursor fun c => isBlankOrEnd c || "?:,]\x7d%@`".toList.contains c
    return (.ofList name, cursor)

def isTagChar (c : Char) : Bool :=
  isWordChar c || ";/?:@&=+$,.!~*'()[]".toList.contains c

def ofUtf8? : List Nat → Option (List Char)
  | [] => some []
  | a :: rest =>
    if a < 0x80 then (ofUtf8? rest).map (Char.ofNat a :: ·)
    else
      let tail (b : Nat) : Option Nat := if 0x80 ≤ b && b < 0xC0 then some (b - 0x80) else none
      match rest with
      | b :: rest =>
        if 0xC2 ≤ a && a < 0xE0 then do
          return Char.ofNat ((a - 0xC0) * 64 + (← tail b)) :: (← ofUtf8? rest)
        else
          match rest with
          | c :: rest =>
            if 0xE0 ≤ a && a < 0xF0 then do
              let code := (a - 0xE0) * 4096 + (← tail b) * 64 + (← tail c)
              if code < 0x800 || (0xD800 ≤ code && code < 0xE000) then none
              else return Char.ofNat code :: (← ofUtf8? rest)
            else
              match rest with
              | d :: rest =>
                if 0xF0 ≤ a && a < 0xF5 then do
                  let code := (a - 0xF0) * 262144 + (← tail b) * 4096 + (← tail c) * 64 + (← tail d)
                  if code < 0x10000 || 0x10FFFF < code then none
                  else return Char.ofNat code :: (← ofUtf8? rest)
                else none
              | [] => none
          | [] => none
      | [] => none

/-- Reads bytes that are written as percent signs with two hexadecimal digits. -/
def readBytes : (fuel : Nat) → Cursor → Except Fault (List Nat × Cursor)
  | 0, cursor => .ok ([], cursor)
  | fuel + 1, cursor =>
    if cursor.peek != '%' then .ok ([], cursor)
    else
      match Text.hexDigit? (cursor.peekAt 1), Text.hexDigit? (cursor.peekAt 2) with
      | some high, some low => do
        let (bytes, cursor) ← readBytes fuel (cursor.skip 3)
        return ((high * 16 + low) :: bytes, cursor)
      | _, _ => .error .malformed

def readTagChars : (fuel : Nat) → Cursor → Except Fault (List Char × Cursor)
  | 0, cursor => .ok ([], cursor)
  | fuel + 1, cursor => do
    let (run, cursor) := cursor.span isTagChar
    if cursor.peek == '%' then
      let (bytes, cursor) ← readBytes cursor.rest.length cursor
      match ofUtf8? bytes with
      | none => .error .malformed
      | some cs =>
        let (rest, cursor) ← readTagChars fuel cursor
        return (run ++ cs ++ rest, cursor)
    else return (run, cursor)

def readTagSuffix (cursor : Cursor) : Except Fault (String × Cursor) := do
  let (cs, after) ← readTagChars (cursor.rest.length + 1) cursor
  if after.index == cursor.index then .error .malformed else return (.ofList cs, after)

/-- Reads the handle of a tag: one exclamation mark, or two with a word between. -/
def readHandle (cursor : Cursor) : Except Fault (String × Cursor) := do
  expect cursor (· == '!')
  if cursor.peekAt 1 == ' ' then return ("!", cursor.next)
  else
    let (word, after) := cursor.next.span isWordChar
    if after.peek == '!' then return (.ofList ('!' :: word ++ ['!']), after.next)
    else .error .malformed

/-- Whether a second exclamation mark follows before a space or the end of the line. -/
def hasHandle : List Char → Bool
  | [] => false
  | c :: rest => if isSpaceOrEnd c then false else c == '!' || hasHandle rest

def readTag (cursor : Cursor) : Except Fault (Token × Cursor) := do
  let c := cursor.peekAt 1
  let (token, cursor) ←
    if c == '<' then do
      let (suffix, cursor) ← readTagSuffix (cursor.skip 2)
      expect cursor (· == '>')
      pure (Token.tag none suffix, cursor.next)
    else if isBlankOrEnd c then pure (Token.tag none "!", cursor.next)
    else do
      let (handle, cursor) ←
        if hasHandle (cursor.rest.drop 1) then readHandle cursor
        else pure ("!", cursor.next)
      let (suffix, cursor) ← readTagSuffix cursor
      pure (Token.tag (some handle) suffix, cursor)
  expect cursor isSpaceOrEnd
  return (token, cursor)

/-! ### Directives -/

def readNumber (cursor : Cursor) : Except Fault (Nat × Cursor) :=
  let (digits, cursor) := cursor.span Char.isDigit
  if digits.isEmpty then .error .malformed
  else .ok (Text.ofDigits 10 (digits.map fun c => c.toNat - 48), cursor)

def readDirective (cursor : Cursor) : Except Fault (Token × Cursor) := do
  let (name, cursor) := cursor.next.span isWordChar
  if name.isEmpty then .error .malformed
  else
    expect cursor isSpaceOrEnd
    let (token, cursor) ←
      if name == "YAML".toList then do
        let (major, cursor) ← readNumber cursor.skipSpaces
        expect cursor (· == '.')
        let (_, cursor) ← readNumber cursor.next
        expect cursor isSpaceOrEnd
        pure (Token.version major, cursor)
      else if name == "TAG".toList then do
        let (handle, cursor) ← readHandle cursor.skipSpaces
        expect cursor (· == ' ')
        let (start, cursor) ← readTagSuffix cursor.skipSpaces
        expect cursor isSpaceOrEnd
        pure (Token.tagHandle handle start, cursor)
      else pure (Token.reserved, cursor.skipWhile (!isLineEnd ·))
    return (token, ← restOfLine cursor)

/-! ### Block scalars -/

/-- What happens to the line breaks at the end of a block scalar. -/
inductive Chomping where
  | clip
  | strip
  | keep
deriving DecidableEq, Repr

def chomping? : Char → Option Chomping
  | '+' => some .keep
  | '-' => some .strip
  | _ => none

/-- The width that a digit asks for. Zero is none. -/
def readWidth (cursor : Cursor) : Except Fault (Option Nat × Cursor) :=
  let c := cursor.peek
  if !c.isDigit then .ok (none, cursor)
  else if c == '0' then .error .malformed
  else .ok (some (c.toNat - 48), cursor.next)

/-- Reads the indicators after the sign of a block scalar, in either order. -/
def readIndicators (cursor : Cursor) : Except Fault ((Chomping × Option Nat) × Cursor) := do
  let (indicators, cursor) ←
    match chomping? cursor.peek with
    | some chomping => do
      let (width, cursor) ← readWidth cursor.next
      pure ((chomping, width), cursor)
    | none => do
      let (width, cursor) ← readWidth cursor
      match width, chomping? cursor.peek with
      | some width, some chomping => pure ((chomping, some width), cursor.next)
      | width, _ => pure ((Chomping.clip, width), cursor)
  expect cursor isSpaceOrEnd
  return (indicators, cursor)

def skipIndent (column : Nat) : (fuel : Nat) → Cursor → Cursor
  | 0, cursor => cursor
  | fuel + 1, cursor =>
    if cursor.column < column && cursor.peek == ' ' then skipIndent column fuel cursor.next
    else cursor

/-- The empty lines before a line of a block scalar, where lines start at a column. -/
def blockBreaks (column : Nat) : (fuel : Nat) → Cursor → List Char × Cursor
  | 0, cursor => ([], cursor)
  | fuel + 1, cursor =>
    let cursor := skipIndent column cursor.rest.length cursor
    match cursor.lineBreak? with
    | some (c, cursor) =>
      let (breaks, cursor) := blockBreaks column fuel cursor
      (c :: breaks, cursor)
    | none => ([], cursor)

/-- The empty lines at the start of a block scalar, and the greatest column among its first
spaces. -/
def blockIndent (greatest : Nat) : (fuel : Nat) → Cursor → (List Char × Nat) × Cursor
  | 0, cursor => (([], greatest), cursor)
  | fuel + 1, cursor =>
    if cursor.peek == ' ' then
      let cursor := cursor.next
      blockIndent (max greatest cursor.column) fuel cursor
    else
      match cursor.lineBreak? with
      | some (c, cursor) =>
        let ((breaks, greatest), cursor) := blockIndent greatest fuel cursor
        ((c :: breaks, greatest), cursor)
      | none => (([], greatest), cursor)

/-- A block scalar so far: its text, the break after its last line, and the empty lines after
that. -/
structure BlockText where
  text : List Char
  lineBreak : List Char
  breaks : List Char

/-- Reads the lines of a block scalar that start at a column. In a folded scalar a single break
between two lines that start with no blank becomes a space. -/
def readBlockLines (folded : Bool) (column : Nat) :
    (fuel : Nat) → BlockText → Cursor → BlockText × Cursor
  | 0, block, cursor => (block, cursor)
  | fuel + 1, block, cursor =>
    if cursor.column != column || cursor.peek.toNat == 0 then (block, cursor)
    else
      let isBlank (c : Char) : Bool := c == ' ' || c == '\t'
      let indented := isBlank cursor.peek
      let (line, cursor) := cursor.span (!isLineEnd ·)
      let (lineBreak, cursor) := match cursor.lineBreak? with
        | some (c, cursor) => ([c], cursor)
        | none => ([], cursor)
      let (breaks, cursor) := blockBreaks column (cursor.rest.length + 1) cursor
      let text := block.text ++ block.breaks ++ line
      if cursor.column == column && cursor.peek.toNat != 0 then
        let joined :=
          if folded && lineBreak == ['\n'] && !indented && !isBlank cursor.peek then
            if breaks.isEmpty then text ++ [' '] else text
          else text ++ lineBreak
        readBlockLines folded column fuel ⟨joined, lineBreak, breaks⟩ cursor
      else (⟨text, lineBreak, breaks⟩, cursor)

/-- Reads a block scalar. Its lines are indented by more than `indent`. -/
def readBlockScalar (folded : Bool) (indent : Int) (cursor : Cursor) :
    Except Fault (Token × Cursor) := do
  let ((chomping, width), cursor) ← readIndicators cursor.next
  let cursor ← restOfLine cursor
  let least := max 1 (indent + 1).toNat
  let (breaks, column, cursor) :=
    match width with
    | none =>
      let ((breaks, greatest), cursor) := blockIndent 0 (cursor.rest.length + 1) cursor
      (breaks, max least greatest, cursor)
    | some width =>
      let column := least + width - 1
      let (breaks, cursor) := blockBreaks column (cursor.rest.length + 1) cursor
      (breaks, column, cursor)
  let (block, cursor) :=
    readBlockLines folded column (cursor.rest.length + 1) ⟨[], [], breaks⟩ cursor
  let text := match chomping with
    | .strip => block.text
    | .clip => block.text ++ block.lineBreak
    | .keep => block.text ++ block.lineBreak ++ block.breaks
  return (.scalar (.ofList text) false, cursor)

/-! ### Quoted scalars -/

def simpleEscape? : Char → Option Nat
  | '0' => some 0
  | 'a' => some 7
  | 'b' => some 8
  | 't' => some 9
  | '\t' => some 9
  | 'n' => some 10
  | 'v' => some 11
  | 'f' => some 12
  | 'r' => some 13
  | 'e' => some 27
  | ' ' => some 32
  | '"' => some 34
  | '\\' => some 92
  | '/' => some 47
  | 'N' => some 0x85
  | '_' => some 0xA0
  | 'L' => some 0x2028
  | 'P' => some 0x2029
  | _ => none

/-- How many hexadecimal digits follow the letter of a numeric escape. -/
def escapeWidth? : Char → Option Nat
  | 'x' => some 2
  | 'u' => some 4
  | 'U' => some 8
  | _ => none

/-- The breaks of empty lines within a quoted scalar, in which no document may start or end. -/
def quotedBreaks : (fuel : Nat) → Cursor → Except Fault (List Char × Cursor)
  | 0, cursor => .ok ([], cursor)
  | fuel + 1, cursor =>
    if cursor.atDocumentMark then .error .malformed
    else
      let cursor := cursor.skipWhile fun c => c == ' ' || c == '\t'
      match cursor.lineBreak? with
      | some (c, cursor) => do
        let (breaks, cursor) ← quotedBreaks fuel cursor
        return (c :: breaks, cursor)
      | none => .ok ([], cursor)

/-- What a line break and the empty lines after it become: a space for a single line feed. -/
def foldBreaks (lineBreak : Char) (breaks : List Char) : List Char :=
  if lineBreak != '\n' then lineBreak :: breaks
  else if breaks.isEmpty then [' '] else breaks

/-- The number that `width` hexadecimal digits write, and the place after them. -/
def readHex? (width : Nat) (cursor : Cursor) : Option (Nat × Cursor) := do
  let digits ← (cursor.rest.take width).mapM Text.hexDigit?
  if digits.length < width then none else some (Text.ofDigits 16 digits, cursor.skip width)

/-- The second half of a surrogate pair, written as an escape of four digits. -/
def lowSurrogate? (cursor : Cursor) : Option (Nat × Cursor) :=
  if cursor.peek == '\\' && cursor.peekAt 1 == 'u' then
    (readHex? 4 (cursor.skip 2)).filter fun low => 0xDC00 ≤ low.1 && low.1 < 0xE000
  else none

/-- The character of a numeric escape of `width` digits. Two escapes of a surrogate pair are one
character; half a pair is none. -/
def readEscape (width : Nat) (cursor : Cursor) : Except Fault (Char × Cursor) :=
  match readHex? width cursor with
  | none => .error .malformed
  | some (code, cursor) =>
    if 0x10FFFF < code then .error .impossible
    else if 0xD800 ≤ code && code < 0xDC00 then
      match lowSurrogate? cursor with
      | some (low, cursor) =>
        .ok (Char.ofNat (0x10000 + (code - 0xD800) * 0x400 + (low - 0xDC00)), cursor)
      | none => .ok ('\uFFFD', cursor)
    else .ok (if 0xDC00 ≤ code && code < 0xE000 then '\uFFFD' else Char.ofNat code, cursor)

def readQuoted (double : Bool) : (fuel : Nat) → Cursor → Except Fault (List Char × Cursor)
  | 0, _ => .error .malformed
  | fuel + 1, cursor =>
    let c := cursor.peek
    let go (cs : List Char) (cursor : Cursor) : Except Fault (List Char × Cursor) := do
      let (rest, cursor) ← readQuoted double fuel cursor
      return (cs ++ rest, cursor)
    if c == ' ' || c == '\t' then
      let (blanks, cursor) := cursor.span fun c => c == ' ' || c == '\t'
      if cursor.peek.toNat == 0 then .error .malformed
      else if isBreak cursor.peek then go [] cursor
      else go blanks cursor
    else
      match cursor.lineBreak? with
      | some (lineBreak, cursor) => do
        let (breaks, cursor) ← quotedBreaks (cursor.rest.length + 1) cursor
        go (foldBreaks lineBreak breaks) cursor
      | none =>
        if c.toNat == 0 then .error .malformed
        else if !double && c == '\'' then
          if cursor.peekAt 1 == '\'' then go ['\''] (cursor.skip 2)
          else .ok ([], cursor.next)
        else if double && c == '"' then .ok ([], cursor.next)
        else if double && c == '\\' then
          let cursor := cursor.next
          match simpleEscape? cursor.peek, escapeWidth? cursor.peek, cursor.lineBreak? with
          | some code, _, _ => go [Char.ofNat code] cursor.next
          | _, some width, _ => do
            let (c, cursor) ← readEscape width cursor.next
            go [c] cursor
          | _, _, some (_, cursor) => do
            let (breaks, cursor) ← quotedBreaks (cursor.rest.length + 1) cursor
            go breaks cursor
          | _, _, _ => .error .malformed
        else go [c] cursor.next

/-! ### Plain scalars -/

/-- Whether a colon before these characters ends a plain scalar. -/
def endsKey (flow : Bool) (rest : List Char) : Bool :=
  let c := (rest.head?).getD '\x00'
  isBlankOrEnd c || (flow && ",[]\x7b\x7d".toList.contains c)

/-- How many characters of a plain scalar stand before the next blank or indicator. -/
def plainLength (flow : Bool) : List Char → Nat
  | [] => 0
  | c :: rest =>
    if isBlankOrEnd c || (c == ':' && endsKey flow rest) ||
        (flow && ",?[]\x7b\x7d".toList.contains c) then 0
    else plainLength flow rest + 1

/-- The breaks of empty lines within a plain scalar, or none before the start or end of a
document. -/
def plainBreaks : (fuel : Nat) → Cursor → Option (List Char) × Cursor
  | 0, cursor => (some [], cursor)
  | fuel + 1, cursor =>
    if cursor.peek == ' ' then plainBreaks fuel cursor.next
    else
      match cursor.lineBreak? with
      | none => (some [], cursor)
      | some (c, cursor) =>
        if cursor.atDocumentMark then (none, cursor)
        else
          let (breaks, cursor) := plainBreaks fuel cursor
          (breaks.map (c :: ·), cursor)

/-- What may stand between two parts of a plain scalar, whether a line ended there, and the place
after it. -/
def plainSpace (cursor : Cursor) : (List Char × Bool) × Cursor :=
  let (spaces, cursor) := cursor.span (· == ' ')
  match cursor.lineBreak? with
  | none => ((spaces, false), cursor)
  | some (lineBreak, cursor) =>
    if cursor.atDocumentMark then (([], true), cursor)
    else
      match plainBreaks (cursor.rest.length + 1) cursor with
      | (none, cursor) => (([], true), cursor)
      | (some breaks, cursor) => ((foldBreaks lineBreak breaks, true), cursor)

/-- Reads the parts of a plain scalar, given the space before the next one. Tells whether a line
ended after the last part. -/
def readPlain (flow : Bool) (indent : Int) :
    (fuel : Nat) → (space : List Char) → (ended : Bool) → Cursor → (List Char × Bool) × Cursor
  | 0, _, ended, cursor => (([], ended), cursor)
  | fuel + 1, space, ended, cursor =>
    let length := if cursor.peek == '#' then 0 else plainLength flow cursor.rest
    if length == 0 then (([], ended), cursor)
    else
      let part := space ++ cursor.rest.take length
      let ((space, ended), cursor) := plainSpace (cursor.skip length)
      if space.isEmpty || cursor.peek == '#' || (!flow && (cursor.column : Int) ≤ indent) then
        ((part, ended), cursor)
      else
        let ((rest, ended), cursor) := readPlain flow indent fuel space ended cursor
        ((part ++ rest, ended), cursor)

end ClientGen.Yaml
