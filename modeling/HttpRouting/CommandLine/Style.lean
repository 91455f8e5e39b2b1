/-
Lines of styled text for a terminal.

* `Style`: colours and weights, by the codes that switch them on;
* `Line`: pieces of text, styled or not;
* `Line.render`: the text of a line, with or without the codes.
-/

namespace HttpRouting

/-- A style, by its codes. -/
structure Style where
  codes : String
deriving DecidableEq, Repr

namespace Style

/-! ### Colours and weights -/

/-- Green, for success. -/
def green : Style := ⟨"32"⟩

/-- Yellow, for names and for requests without a route. -/
def yellow : Style := ⟨"33"⟩

/-- Red, for errors. -/
def red : Style := ⟨"31"⟩

/-- Cyan, for what was chosen. -/
def cyan : Style := ⟨"36"⟩

/-- A lighter weight, for what is beside the point. -/
def dimmed : Style := ⟨"2"⟩

/-- A style in bold. -/
def bold (s : Style) : Style := ⟨"1;" ++ s.codes⟩

/-! ### Codes -/

/-- What switches a style on. -/
def opening (s : Style) : List Char :=
  '\x1b' :: '[' :: s.codes.toList ++ ['m']

/-- What switches every style off. -/
def closing : List Char :=
  ['\x1b', '[', '0', 'm']

/-- A text in which the style is switched on again wherever the text switches it off. -/
def reopen (s : Style) : List Char → List Char
  | '\x1b' :: '[' :: '0' :: 'm' :: cs => closing ++ s.opening ++ reopen s cs
  | c :: cs => c :: reopen s cs
  | [] => []

/-- A text in a style. -/
def paint (s : Style) (text : String) : String :=
  String.ofList (s.opening ++ s.reopen text.toList ++ closing)

end Style

/-! ### Lines -/

/-- A piece of text. -/
structure Piece where
  text : String
  style : Option Style := none
deriving DecidableEq, Repr

/-- A line of text. -/
abbrev Line := List Piece

namespace Line

/-- A line without style. -/
def plain (text : String) : Line := [{ text }]

/-- A piece in a style. -/
def styled (style : Style) (text : String) : Piece := { text, style := some style }

/-- The text of a line, in colours or not. -/
def render (colours : Bool) (l : Line) : String :=
  String.join (l.map fun p =>
    match p.style with
    | some style => if colours then style.paint p.text else p.text
    | none => p.text) ++ "\n"

/-- The text of lines, in colours or not. -/
def renderAll (colours : Bool) (ls : List Line) : String :=
  String.join (ls.map (render colours))

end Line

end HttpRouting
