/-
Module: Playhouse.Text.CodePoints
Purpose: Text made of arbitrary code points.
Main exports: CodePoints, CodePoints.ofList, CodePoints.ofString, CodePoints.isSurrogate,
  CodePoints.visible, codePointBound
-/

namespace Playhouse.Text

/-!
A play may print any code point, also one of the surrogates, which no `Char`
stands for.  What a performance prints is therefore kept as numbers.
-/

/-- One more than the greatest code point. -/
def codePointBound : Nat := 0x110000

/-- A text as the list of its code points. -/
abbrev CodePoints := List Nat

/-- The code points of some characters. -/
def CodePoints.ofList (text : List Char) : CodePoints :=
  text.map Char.toNat

/-- The code points of a string. -/
def CodePoints.ofString (text : String) : CodePoints :=
  CodePoints.ofList text.toList

/-- Whether a code point is a surrogate. -/
def CodePoints.isSurrogate (point : Nat) : Bool :=
  0xd800 ≤ point && point < 0xe000

/-- A text of code points as a string.  A replacement character stands for every
surrogate. -/
def CodePoints.visible (text : CodePoints) : String :=
  String.ofList <| text.map fun point =>
    if isSurrogate point then '\ufffd' else Char.ofNat point

end Playhouse.Text
