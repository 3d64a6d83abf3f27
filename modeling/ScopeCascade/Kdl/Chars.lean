import ScopeCascade.Text.Blank

/-! The characters of KDL text, and what may stand between its items. -/
namespace ScopeCascade.Kdl

def isNewline (c : Char) : Bool :=
  Text.inRanges [(0x0A, 0x0D), (0x85, 0x85), (0x2028, 0x2029)] c.toNat

/-- White space within a line. -/
def isSpace (c : Char) : Bool :=
  Text.inRanges [(0x09, 0x09), (0x20, 0x20), (0xA0, 0xA0), (0x1680, 0x1680), (0x2000, 0x200A),
    (0x202F, 0x202F), (0x205F, 0x205F), (0x3000, 0x3000)] c.toNat

/-- Characters that may only be written as escapes: controls, marks of direction, and the byte order
mark. -/
def isDisallowed (c : Char) : Bool :=
  Text.inRanges [(0x00, 0x08), (0x0E, 0x1F), (0x200E, 0x200F), (0x202A, 0x202E), (0x2066, 0x2069),
    (0xFEFF, 0xFEFF)] c.toNat

/-- The characters of words: names and strings without quotation marks, and numbers. -/
def isWordChar (c : Char) : Bool :=
  !isSpace c && !isNewline c && !isDisallowed c && !"\\/()\x7b\x7d;[]\"#=".toList.contains c

/-- Where skipping stands: between items, in nested block comments (perhaps behind a backslash), in
a line comment, or behind a backslash, which joins the next line to this one. -/
inductive Skipping
  | items
  | block (depth : Nat) (joining : Bool)
  | line
  | joining

/-- Skips white space and comments, and with `lines` the ends of lines too. Fails in an unclosed
comment, and where a backslash does not end its line. -/
def skip (lines : Bool) : Skipping → List Char → Option (List Char)
  | .items, '/' :: '*' :: rest => skip lines (.block 0 false) rest
  | .items, '/' :: '/' :: rest => if lines then skip lines .line rest else some ('/' :: '/' :: rest)
  | .items, c :: rest =>
    if c = '\\' then skip lines .joining rest
    else if isSpace c || (lines && isNewline c) then skip lines .items rest
    else some (c :: rest)
  | .items, [] => some []
  | .block depth joining, '/' :: '*' :: rest => skip lines (.block (depth + 1) joining) rest
  | .block 0 joining, '*' :: '/' :: rest =>
    skip lines (if joining then .joining else .items) rest
  | .block (depth + 1) joining, '*' :: '/' :: rest => skip lines (.block depth joining) rest
  | .block depth joining, _ :: rest => skip lines (.block depth joining) rest
  | .block _ _, [] => none
  | .line, c :: rest => skip lines (if isNewline c then .items else .line) rest
  | .line, [] => some []
  | .joining, '/' :: '*' :: rest => skip lines (.block 0 true) rest
  | .joining, '/' :: '/' :: rest => skip lines .line rest
  | .joining, c :: rest =>
    if isSpace c then skip lines .joining rest
    else if c = '\r' ∧ rest.head? = some '\n' then skip lines .joining rest
    else if isNewline c then skip lines .items rest
    else none
  | .joining, [] => some []

/-- Whether a string may end before a text: at a mark that ends it, or before white space, a
comment, or the end of a node. -/
def mayFollowString : List Char → Bool
  | [] | '/' :: '/' :: _ | '/' :: '*' :: _ => true
  | c :: _ => "=)\x7b\x7d;\\".toList.contains c || isSpace c || isNewline c

/-- Skips what separates the items of a node. -/
def skipSpace (text : List Char) : Option (List Char) := skip false .items text

/-- Skips what separates nodes. -/
def skipLines (text : List Char) : Option (List Char) := skip true .items text

end ScopeCascade.Kdl
