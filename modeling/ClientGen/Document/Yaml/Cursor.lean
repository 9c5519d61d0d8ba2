/-!
A place in a text, with the line and column that indentation depends on. The character after the
last one is NUL, which no readable text holds.
-/
namespace ClientGen.Yaml

/-- What stops the reading of a text: it is not in the notation, or it names a value that does not
exist, such as a thirteenth month. -/
inductive Fault where
  | malformed
  | impossible
deriving DecidableEq, Repr

def isBreak (c : Char) : Bool :=
  c == '\n' || c == '\r' || c.toNat == 0x85 || c.toNat == 0x2028 || c.toNat == 0x2029

def isLineEnd (c : Char) : Bool := c.toNat == 0 || isBreak c

def isSpaceOrEnd (c : Char) : Bool := c == ' ' || isLineEnd c

def isBlankOrEnd (c : Char) : Bool := c == '\t' || isSpaceOrEnd c

/-- Letters and digits of ASCII, hyphen and underscore. -/
def isWordChar (c : Char) : Bool := c.isAlphanum || c == '-' || c == '_'

structure Cursor where
  rest : List Char
  index : Nat
  line : Nat
  column : Nat

namespace Cursor

def start (cs : List Char) : Cursor := ⟨cs, 0, 0, 0⟩

/-- The character `ahead` places on. -/
def peekAt (cursor : Cursor) (ahead : Nat) : Char := (cursor.rest[ahead]?).getD '\x00'

def peek (cursor : Cursor) : Char := cursor.peekAt 0

def next (cursor : Cursor) : Cursor :=
  match cursor.rest with
  | [] => cursor
  | c :: rest =>
    if isBreak c && !(c == '\r' && rest.head? == some '\n') then
      ⟨rest, cursor.index + 1, cursor.line + 1, 0⟩
    else
      ⟨rest, cursor.index + 1, cursor.line,
        if c.toNat == 0xFEFF then cursor.column else cursor.column + 1⟩

/-- The place after `count` characters. -/
def skip (cursor : Cursor) : (count : Nat) → Cursor
  | 0 => cursor
  | count + 1 => cursor.next.skip count

/-- The longest run of characters of a class, and the place after it. -/
def span (cursor : Cursor) (p : Char → Bool) : List Char × Cursor :=
  let run := cursor.rest.takeWhile p
  (run, cursor.skip run.length)

def skipWhile (cursor : Cursor) (p : Char → Bool) : Cursor := (cursor.span p).2

/-- The line break at the place, as it counts in a text, and the place after it. -/
def lineBreak? (cursor : Cursor) : Option (Char × Cursor) :=
  let c := cursor.peek
  if !isBreak c then none
  else if c == '\r' && cursor.peekAt 1 == '\n' then some ('\n', cursor.skip 2)
  else if c.toNat == 0x2028 || c.toNat == 0x2029 then some (c, cursor.next)
  else some ('\n', cursor.next)

def atMark (cursor : Cursor) (mark : Char) : Bool :=
  cursor.peek == mark && cursor.peekAt 1 == mark && cursor.peekAt 2 == mark &&
    isBlankOrEnd (cursor.peekAt 3)

def atDocumentMark (cursor : Cursor) : Bool := cursor.atMark '-' || cursor.atMark '.'

end Cursor

end ClientGen.Yaml
