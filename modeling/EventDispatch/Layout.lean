/-!
# Layout of generated text

A layout is a sequence of texts, breaks and nested blocks.  A block that fits
into the rest of the line is written flat.  One that does not is broken: a
consistent block at all of its breaks, an inconsistent one only where what
follows up to the next break does not fit.

Widths are counted in bytes.  The room on a line is measured from its indent,
but never less than a minimum, so that deep nesting stays readable.
-/

namespace EventDispatch

/-- A place where a line may end. -/
structure Break where
  /-- Blanks written where the line goes on. -/
  blanks : Nat := 0
  /-- What is added to the indent of the next line. -/
  offset : Int := 0
  /-- Written before the line ends. -/
  before : String := ""
  /-- Written at the start of the next line. -/
  after : String := ""
  /-- Written where the line goes on. -/
  flat : String := ""
  /-- The line never ends here; the break only tells where a block fits. -/
  never : Bool := false
  deriving DecidableEq

/-- How a block that does not fit is broken. -/
inductive BlockStyle where
  | consistent
  | inconsistent
  deriving DecidableEq

/-- A sequence of texts, breaks and blocks. -/
inductive Layout where
  | done
  | text (text : String) (rest : Layout)
  | line (place : Break) (rest : Layout)
  | block (style : BlockStyle) (indent : Int) (body rest : Layout)
  deriving DecidableEq

namespace Layout

/-! ## Building layouts -/

/-- One layout behind another. -/
def append : Layout → Layout → Layout
  | done, next => next
  | text s rest, next => text s (append rest next)
  | line place rest, next => line place (append rest next)
  | block style indent body rest, next => block style indent body (append rest next)

instance : Append Layout := ⟨append⟩

/-- Layouts one behind the other. -/
def concat (layouts : List Layout) : Layout :=
  layouts.foldr append done

/-- A text alone. -/
def word (s : String) : Layout := text s done

/-- A break alone. -/
def gap (place : Break) : Layout := line place done

/-- A break that no line is wide enough to pass. -/
def hard (offset : Int := 0) : Layout := gap { blanks := 65535, offset }

/-- A block that breaks at all of its breaks or at none. -/
def consistent (indent : Int) (body : List Layout) : Layout :=
  block .consistent indent (concat body) done

/-- A block that breaks where the line is full. -/
def inconsistent (indent : Int) (body : List Layout) : Layout :=
  block .inconsistent indent (concat body) done

/-! ## Widths -/

/-- The width of a layout on one line. -/
def width : Layout → Nat
  | done => 0
  | text s rest => s.utf8ByteSize + width rest
  | line place rest => place.blanks + width rest
  | block _ _ body rest => width body + width rest

/-- The width of what stands before the next break of a layout or, if it has
none outside its blocks, before the next break behind it; `beyond` is the width
from the end of the layout to that break. -/
def reach (beyond : Nat) : Layout → Nat
  | done => beyond
  | text s rest => s.utf8ByteSize + reach beyond rest
  | line _ _ => 0
  | block _ _ body rest => width body + reach beyond rest

/-! ## Writing -/

/-- The width of a line. -/
def margin : Int := 89

/-- The room that every line has, however far it is indented. -/
def leastRoom : Int := 60

/-- A text being written: what stands there, the blanks still to be written
before the next text, the room left on the line, and the indent of new lines. -/
structure Page where
  written : List Char := []
  blanks : Nat := 0
  room : Int := margin
  indent : Int := 0

namespace Page

/-- Writes a text behind the blanks that are due, using up room. -/
def put (page : Page) (s : String) : Page :=
  { page with
    written := s.toList.reverseAux (List.replicate page.blanks ' ' ++ page.written)
    blanks := 0
    room := page.room - s.utf8ByteSize }

/-- Goes on with the line at a break. -/
def carryOn (page : Page) (place : Break) : Page :=
  { page with
    written := place.flat.toList.reverseAux page.written
    blanks := page.blanks + place.blanks
    room := page.room - place.blanks - place.flat.utf8ByteSize }

/-- Ends the line at a break. -/
def endLine (page : Page) (place : Break) : Page :=
  let closed := if place.before = "" then page else page.put place.before
  let indent := page.indent + place.offset
  let opened : Page :=
    { closed with
      written := '\n' :: closed.written
      blanks := indent.toNat
      room := max (margin - indent) leastRoom }
  if place.after = "" then opened else opened.put place.after

end Page

/-- How the block around a break is written. -/
inductive Mode where
  | flat
  | broken (style : BlockStyle)
  deriving DecidableEq

/-- The line goes on at a break whose reach has the given width. -/
def goesOn (mode : Mode) (place : Break) (reached : Nat) (page : Page) : Bool :=
  place.never ||
    match mode with
    | .flat => true
    | .broken .consistent => false
    | .broken .inconsistent => place.blanks + reached ≤ page.room

/-- Writes a layout within a block written in the given mode; `beyond` is the
width from its end to the next break. -/
def write (mode : Mode) (beyond : Nat) : Layout → Page → Page
  | done, page => page
  | text s rest, page => write mode beyond rest (page.put s)
  | line place rest, page =>
      if goesOn mode place (reach beyond rest) page then
        write mode beyond rest (page.carryOn place)
      else write mode beyond rest (page.endLine place)
  | block style indent body rest, page =>
      let following := reach beyond rest
      if body.width + following > page.room then
        let inner :=
          write (.broken style) following body { page with indent := page.indent + indent }
        write mode beyond rest { inner with indent := page.indent }
      else write mode beyond rest (write .flat following body page)

/-- The text of a layout. -/
def render (layout : Layout) : String :=
  String.ofList (write (.broken .inconsistent) 0 layout {}).written.reverse

end Layout

end EventDispatch
