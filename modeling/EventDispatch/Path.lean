import EventDispatch.Text.Escape
import EventDispatch.Text.Split

/-!
# Paths

A path is a text whose pieces lie between slashes.  The operations here look at
the text alone and ask no file system.

The names that an operating system hands over are rows of bytes without NUL, and
they need not be text.  In a path, a byte that is no part of a character stands as
NUL with the character behind it that has the byte's number.
-/

namespace EventDispatch.Path

/-- The pieces of a path between its slashes. -/
def pieces (path : String) : List (List Char) :=
  Text.split '/' path.toList

/-- The path of pieces. -/
def ofPieces (pieces : List (List Char)) : String :=
  String.ofList (Text.join '/' pieces)

/-- The path starts at the root. -/
def isAbsolute (path : String) : Bool :=
  path.toList.head? == some '/'

/-- The path ends in a slash. -/
def endsInSlash (path : String) : Bool :=
  path.toList.getLast? == some '/'

/-- A path as seen from a directory; an absolute path stays as it is. -/
def join (directory path : String) : String :=
  if isAbsolute path then path
  else if directory = "" || endsInSlash directory then directory ++ path
  else directory ++ "/" ++ path

/-- A piece that leads nowhere: an empty one or a single point. -/
def isIdle (piece : List Char) : Bool :=
  piece.isEmpty || piece == ['.']

/-- Pieces without those at the end that lead nowhere. -/
def trimEnd (pieces : List (List Char)) : List (List Char) :=
  (pieces.reverse.dropWhile isIdle).reverse

/-- The path without its last piece.  The root and the empty path have none. -/
def parent? (path : String) : Option String :=
  match pieces path with
  | [] => none
  | first :: rest =>
      let body := trimEnd rest
      let kept := trimEnd body.dropLast
      if isAbsolute path then
        if body.isEmpty then none
        else if kept.isEmpty then some "/"
        else some (ofPieces (first :: kept))
      else if body.isEmpty then
        if first.isEmpty then none else some ""
      else some (ofPieces (first :: kept))

/-! ## Paths that are not text -/

/-- A part of a path: a character, or a byte that is no part of one. -/
inductive Glyph where
  | character (c : Char)
  | stray (byte : Nat)
  deriving DecidableEq

/-- The parts of a path. -/
def glyphs : List Char → List Glyph
  | [] => []
  | [c] => [.character c]
  | mark :: c :: rest =>
      if mark = '\x00' ∧ 0x80 ≤ c.toNat ∧ c.toNat ≤ 0xFF then .stray c.toNat :: glyphs rest
      else .character mark :: glyphs (c :: rest)

/-- The path is text. -/
def isText (path : String) : Bool :=
  (glyphs path.toList).all fun glyph => glyph matches .character _

/-- The bytes that a character still lacks: how many, and the bounds of the first one. -/
structure Lack where
  count : Nat
  low : Nat
  high : Nat

/-- What a character lacks that starts with a byte; for a byte that starts none, nothing. -/
def Lack.ofByte (byte : Nat) : Lack :=
  if 0xC2 ≤ byte ∧ byte ≤ 0xDF then ⟨1, 0x80, 0xBF⟩
  else if byte = 0xE0 then ⟨2, 0xA0, 0xBF⟩
  else if byte = 0xED then ⟨2, 0x80, 0x9F⟩
  else if 0xE1 ≤ byte ∧ byte ≤ 0xEF then ⟨2, 0x80, 0xBF⟩
  else if byte = 0xF0 then ⟨3, 0x90, 0xBF⟩
  else if 0xF1 ≤ byte ∧ byte ≤ 0xF3 then ⟨3, 0x80, 0xBF⟩
  else if byte = 0xF4 then ⟨3, 0x80, 0x8F⟩
  else ⟨0, 0, 0⟩

/-- The characters that are shown: one mark stands for the bytes of an unfinished character,
or for a byte that starts none. -/
def shown : Lack → List Glyph → List Char
  | _, [] => []
  | _, .character c :: rest => c :: shown ⟨0, 0, 0⟩ rest
  | lack, .stray byte :: rest =>
      if 0 < lack.count ∧ lack.low ≤ byte ∧ byte ≤ lack.high then
        shown ⟨lack.count - 1, 0x80, 0xBF⟩ rest
      else '\uFFFD' :: shown (Lack.ofByte byte) rest

/-- The path as a text. -/
def display (path : String) : String :=
  String.ofList (shown ⟨0, 0, 0⟩ (glyphs path.toList))

/-- A part of a path as messages show it; a stray byte as its number. -/
def Glyph.quoted : Glyph → List Char
  | character c => Text.Escape.escapeChar (fun c => c == '"' || c == '\'') c
  | stray byte => '\\' :: 'x' :: (Nat.toDigits 16 byte).map Char.toUpper

/-- A path between double quotes, as messages show it. -/
def quote (path : String) : String :=
  String.ofList ('"' :: (glyphs path.toList).flatMap Glyph.quoted ++ ['"'])

end EventDispatch.Path
