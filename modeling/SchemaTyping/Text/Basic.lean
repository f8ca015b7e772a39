/-!
# Blanks, bytes and lines

Blanks are the characters that separate words and show nothing else: spaces of every width, tabs and the
ends of lines. A place in a text is a count of UTF-8 bytes from its start. A reader of messages wants the
line, counted from one, and the column, the number of bytes since the line began. A line ends with a line
feed, which belongs to it: the place just after a line feed is column zero of the next line.
-/

namespace SchemaTyping.Text

def isBlank (c : Char) : Bool :=
  (0x9 ≤ c.toNat && c.toNat ≤ 0xD) || c = ' ' || c.toNat = 0x85 || c.toNat = 0xA0 || c.toNat = 0x1680 ||
    (0x2000 ≤ c.toNat && c.toNat ≤ 0x200A) || c.toNat = 0x2028 || c.toNat = 0x2029 ||
    c.toNat = 0x202F || c.toNat = 0x205F || c.toNat = 0x3000

def trimBlanks (text : List Char) : List Char :=
  ((text.dropWhile isBlank).reverse.dropWhile isBlank).reverse

/-! ### Places -/

/-- A line counted from one and a column counted in bytes. -/
structure Location where
  line : Nat
  column : Nat
  deriving DecidableEq, Repr

/-- The location after walking over some characters from a given one, stopping at a byte offset. -/
def Location.advance (start : Location) : List Char → Nat → Location
  | [], _ => start
  | c :: rest, bytes =>
    if bytes = 0 then start
    else if c = '\n' then Location.advance ⟨start.line + 1, 0⟩ rest (bytes - 1)
    else if bytes < c.utf8Size then ⟨start.line, start.column + bytes⟩
    else Location.advance ⟨start.line, start.column + c.utf8Size⟩ rest (bytes - c.utf8Size)

def Location.ofOffset (text : List Char) (bytes : Nat) : Location :=
  Location.advance ⟨1, 0⟩ text bytes

def byteLength : List Char → Nat
  | [] => 0
  | c :: rest => c.utf8Size + byteLength rest

end SchemaTyping.Text
