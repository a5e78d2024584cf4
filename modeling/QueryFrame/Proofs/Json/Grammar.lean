import QueryFrame.Json.Skip

/-!
# The grammar of documents

What values and strings look like, said without a reader. A string spells a text in many ways: each
character stands for itself unless it is a quote, a backslash or a control character, and every
character may be escaped. Strings that nobody reads need not spell anything.
-/

namespace QueryFrame.Json

/-- Bytes that may stand between the parts of a document. -/
def Blanks (ws : Bytes) : Prop := ∀ b ∈ ws, b = 0x20 ∨ b = 0x09 ∨ b = 0x0A ∨ b = 0x0D

theorem Blanks.nil : Blanks [] := by
  intro b hb
  simp at hb

/-- A part of a document and the blanks around it. -/
structure Part where
  before : Bytes
  inner : Bytes
  after : Bytes
  blank_before : Blanks before
  blank_after : Blanks after

def Part.bytes (p : Part) : Bytes := p.before ++ (p.inner ++ p.after)

def Part.bare (inner : Bytes) : Part := ⟨[], inner, [], Blanks.nil, Blanks.nil⟩

def quoted (content : Bytes) : Bytes := '"'.toUInt8 :: (content ++ ['"'.toUInt8])

theorem quoted_append (content s : Bytes) :
    quoted content ++ s = '"'.toUInt8 :: (content ++ '"'.toUInt8 :: s) := by
  simp [quoted]

/-- The letters that may follow a backslash, and the characters that they stand for. -/
def letters : List (Char × Char) :=
  [('"', '"'), ('\\', '\\'), ('/', '/'), ('b', '\x08'), ('f', '\x0C'), ('n', '\n'), ('r', '\r'),
    ('t', '\t')]

def IsHex (b : UInt8) (d : Nat) : Prop :=
  d < 16 ∧ (b = d.digitChar.toUInt8 ∨ b = d.digitChar.toUpper.toUInt8)

/-- Four hexadecimal digits and their number. -/
inductive IsUnit : Bytes → Nat → Prop
  | digits {a b c d : UInt8} {x y z w : Nat} (ha : IsHex a x) (hb : IsHex b y) (hc : IsHex c z)
      (hd : IsHex d w) : IsUnit [a, b, c, d] (((x * 16 + y) * 16 + z) * 16 + w)

/-- The ways to write a character in a string. -/
inductive SpellsChar : Char → Bytes → Prop
  | plain {c : Char} (visible : 0x20 ≤ c.toNat) (quote : c ≠ '"') (backslash : c ≠ '\\') :
      SpellsChar c (String.utf8EncodeChar c)
  | letter {l c : Char} (known : (l, c) ∈ letters) : SpellsChar c ['\\'.toUInt8, l.toUInt8]
  | unit {c : Char} {u : Bytes} (h : IsUnit u c.toNat) :
      SpellsChar c ('\\'.toUInt8 :: 'u'.toUInt8 :: u)
  | pair {c : Char} {u v : Bytes} {high low : Nat} (hu : IsUnit u high) (hv : IsUnit v low)
      (hhigh : 0xD800 ≤ high ∧ high ≤ 0xDBFF) (hlow : 0xDC00 ≤ low ∧ low ≤ 0xDFFF)
      (hc : c.toNat = 0x10000 + (high - 0xD800) * 0x400 + (low - 0xDC00)) :
      SpellsChar c
        ('\\'.toUInt8 :: 'u'.toUInt8 :: (u ++ '\\'.toUInt8 :: 'u'.toUInt8 :: v))

/-- The bytes between the quotes spell the text. -/
inductive Spells : List Char → Bytes → Prop
  | nil : Spells [] []
  | cons {c : Char} {cs : List Char} {piece bytes : Bytes} (first : SpellsChar c piece)
      (further : Spells cs bytes) : Spells (c :: cs) (piece ++ bytes)

/-- The character may stand for itself in a string. -/
def isUnescaped (c : Char) : Bool := 0x20 ≤ c.toNat && c != '"' && c != '\\'

theorem spells_unescaped {cs : List Char} (h : cs.all isUnescaped) :
    Spells cs (cs.flatMap String.utf8EncodeChar) := by
  induction cs with
  | nil => exact .nil
  | cons c cs ih =>
    simp only [List.all_cons, isUnescaped, Bool.and_eq_true, decide_eq_true_eq, bne_iff_ne] at h
    obtain ⟨⟨⟨visible, quote⟩, backslash⟩, hcs⟩ := h
    exact .cons (.plain visible quote backslash) (ih hcs)

/-- The bytes between the quotes of a string that nobody reads. -/
inductive IsContent : Bytes → Prop
  | nil : IsContent []
  | plain {b : UInt8} {s : Bytes} (visible : 0x20 ≤ b) (quote : b ≠ '"'.toUInt8)
      (backslash : b ≠ '\\'.toUInt8) (further : IsContent s) : IsContent (b :: s)
  | letter {l c : Char} {s : Bytes} (known : (l, c) ∈ letters) (further : IsContent s) :
      IsContent ('\\'.toUInt8 :: l.toUInt8 :: s)
  | unit {u s : Bytes} {n : Nat} (h : IsUnit u n) (further : IsContent s) :
      IsContent ('\\'.toUInt8 :: 'u'.toUInt8 :: (u ++ s))

def IsDigit (b : UInt8) : Prop := '0'.toUInt8 ≤ b ∧ b ≤ '9'.toUInt8

structure IsDigits (ds : Bytes) : Prop where
  nonempty : ds ≠ []
  digits : ∀ b ∈ ds, IsDigit b

inductive IsFraction : Bytes → Prop
  | none : IsFraction []
  | digits {ds : Bytes} (h : IsDigits ds) : IsFraction ('.'.toUInt8 :: ds)

inductive IsExponent : Bytes → Prop
  | none : IsExponent []
  | digits {e : UInt8} {sign ds : Bytes} (mark : e = 'e'.toUInt8 ∨ e = 'E'.toUInt8)
      (hsign : sign = [] ∨ sign = ['+'.toUInt8] ∨ sign = ['-'.toUInt8]) (h : IsDigits ds) :
      IsExponent (e :: (sign ++ ds))

inductive IsNumber : Bytes → Prop
  | parts {sign whole fraction exponent : Bytes} (hsign : sign = [] ∨ sign = ['-'.toUInt8])
      (hwhole : IsDigits whole) (noLeadingZero : whole.head? = some '0'.toUInt8 →
        whole = ['0'.toUInt8])
      (hfraction : IsFraction fraction) (hexponent : IsExponent exponent) :
      IsNumber (sign ++ (whole ++ (fraction ++ exponent)))

def Bracket.opening : Bracket → UInt8
  | .list => '['.toUInt8
  | .object => '\x7b'.toUInt8

/-- What stands in front of a value in a bracket: a key and a colon in an object. -/
inductive IsFront : Bracket → Bytes → Prop
  | list : IsFront .list []
  | object {key : Part} {content : Bytes} (hkey : key.inner = quoted content)
      (h : IsContent content) : IsFront .object (key.bytes ++ [':'.toUInt8])

/-- An element of a list, or a member of an object. -/
structure Cell where
  front : Bytes
  value : Part

def Cell.bytes (c : Cell) : Bytes := c.front ++ c.value.bytes

/-- The cells of a bracket, with commas between them, and the bracket's closing byte. -/
def Bracket.bytes (bracket : Bracket) (first : Cell) (others : List Cell) : Bytes :=
  first.bytes ++ (others.flatMap (fun c => ','.toUInt8 :: c.bytes) ++ [bracket.close])

inductive IsValue : Bytes → Prop
  | null : IsValue (ascii "null")
  | true : IsValue (ascii "true")
  | false : IsValue (ascii "false")
  | string {content : Bytes} (h : IsContent content) : IsValue (quoted content)
  | number {n : Bytes} (h : IsNumber n) : IsValue n
  | empty (bracket : Bracket) {ws : Bytes} (h : Blanks ws) :
      IsValue (bracket.opening :: (ws ++ [bracket.close]))
  | filled (bracket : Bracket) {first : Cell} {others : List Cell}
      (fronts : ∀ c ∈ first :: others, IsFront bracket c.front)
      (values : ∀ c ∈ first :: others, IsValue c.value.inner) :
      IsValue (bracket.opening :: bracket.bytes first others)

end QueryFrame.Json
