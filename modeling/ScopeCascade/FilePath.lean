import ScopeCascade.Text.Lossy

/-! File paths, in which slashes separate the components. Repeated slashes and components `.` do not
count, except for one `.` at the start. -/
namespace ScopeCascade

/-- Bytes that need not be a text. -/
structure FilePath where
  bytes : List UInt8
deriving DecidableEq, Inhabited

namespace FilePath

def ofText (text : String) : FilePath := ⟨Text.bytes text.toList⟩

def text (path : FilePath) : String := String.ofList (Text.lossy path.bytes)

def isEmpty (path : FilePath) : Bool := path.bytes.isEmpty

def slash : UInt8 := 0x2F

def dot : UInt8 := 0x2E

/-- The path of something inside a directory; an absolute name stands for itself. -/
def join (path name : FilePath) : FilePath :=
  if name.bytes.head? = some slash then name
  else if path.isEmpty ∨ path.bytes.getLast? = some slash then ⟨path.bytes ++ name.bytes⟩
  else ⟨path.bytes ++ slash :: name.bytes⟩

/-- The root or the leading `.`, and what stands behind it. -/
def splitLead (bytes : List UInt8) : List UInt8 × List UInt8 :=
  match bytes with
  | [] => ([], [])
  | first :: rest =>
    if first = slash then ([slash], rest)
    else if first = dot ∧ (rest = [] ∨ rest.head? = some slash) then ([dot], rest)
    else ([], bytes)

def isIdle (piece : List UInt8) : Bool := piece = [] || piece = [dot]

/-- The pieces behind the lead, the last one that counts first. -/
def piecesBackwards (body : List UInt8) : List (List UInt8) :=
  (body.splitOn slash).reverse.dropWhile isIdle

/-- The last component, unless it is `..` or there is none. -/
def fileName? (path : FilePath) : Option FilePath :=
  match piecesBackwards (splitLead path.bytes).2 with
  | last :: _ => if last = [dot, dot] then none else some ⟨last⟩
  | [] => none

/-- The path without its last component, which the root does not have. -/
def parent? (path : FilePath) : Option FilePath :=
  let (lead, body) := splitLead path.bytes
  match piecesBackwards body with
  | _ :: before => some ⟨lead ++ [slash].intercalate (before.dropWhile isIdle).reverse⟩
  | [] => if lead = [dot] then some ⟨[]⟩ else none

end FilePath

end ScopeCascade
