/-!
# Patterns of type names

A pattern is a literal text, tied to the start or the end of a name or free to stand anywhere
in it. Its written form marks the start with `^` and the end with `$`, and puts a backslash
before parentheses; `.*` is the written form of the pattern that every name matches.
-/

namespace QueryFrame

inductive Pattern where
  | anything
  | literal (atStart : Bool) (body : List Char) (atEnd : Bool)
  deriving DecidableEq, Repr

namespace Pattern

def occurs (body : List Char) : List Char → Bool
  | [] => body.isEmpty
  | c :: rest => body.isPrefixOf (c :: rest) || occurs body rest

/-- Whether a name matches. The end of a name is the end of the whole text, also where its last
character ends a line. -/
def accepts : Pattern → List Char → Bool
  | .anything, _ => true
  | .literal true body true, name => body == name
  | .literal true body false, name => body.isPrefixOf name
  | .literal false body true, name => body.isSuffixOf name
  | .literal false body false, name => occurs body name

def isSpecial (c : Char) : Bool :=
  c == '(' || c == ')'

def writeBody (body : List Char) : List Char :=
  body.flatMap fun c => if isSpecial c then ['\\', c] else [c]

def write : Pattern → List Char
  | .anything => ".*".toList
  | .literal atStart body atEnd =>
    (if atStart then ['^'] else []) ++ writeBody body ++ (if atEnd then ['$'] else [])

/-- Reads a body up to the end of the pattern, with the mark of the end if it is there. -/
def readBody? : List Char → Option (List Char × Bool)
  | [] => some ([], false)
  | ['$'] => some ([], true)
  | '\\' :: c :: rest =>
    if isSpecial c then (readBody? rest).map fun (body, atEnd) => (c :: body, atEnd) else none
  | c :: rest =>
    if isSpecial c || c == '\\' || c == '$' then none
    else (readBody? rest).map fun (body, atEnd) => (c :: body, atEnd)

def read? : List Char → Option Pattern
  | ['.', '*'] => some .anything
  | '^' :: rest => (readBody? rest).map fun (body, atEnd) => .literal true body atEnd
  | cs => (readBody? cs).map fun (body, atEnd) => .literal false body atEnd

end Pattern

end QueryFrame
