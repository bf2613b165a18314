import FieldRules.Number.Shortest

/-!
# Layouts

How an argument is set in its place of a message template: the width to which it is filled, on
which side and with what, the precision, and how a sign is shown. What is set is a text or a number,
which is a sign, a mark of its base and digits; zeros that fill a number stand before the digits.
-/

set_option autoImplicit false

namespace FieldRules.Log

/-- How an argument is set in its place. -/
structure Layout where
  left : Bool := false
  zeros : Bool := false
  plus : Bool := false
  blank : Bool := false
  alternate : Bool := false
  width : Nat := 0
  precision : Option Nat := none
deriving DecidableEq, Repr

/-- A number to be set: its sign, the mark of its base, and its digits. -/
structure Figure where
  negative : Bool
  mark : List Char := []
  digits : List Char

namespace Layout

/-- Fills characters up to the width with blanks. -/
def fill (l : Layout) (cs : List Char) : List Char :=
  let padding := List.replicate (l.width - cs.length) ' '
  if l.left then cs ++ padding else padding ++ cs

/-- Sets a text, of which at most as many characters as the precision says are kept. -/
def text (l : Layout) (cs : List Char) : List Char :=
  l.fill (match l.precision with
    | some n => cs.take n
    | none => cs)

/-- The sign that a number is shown with. -/
def sign (l : Layout) (negative : Bool) : List Char :=
  if negative then ['-'] else if l.plus then ['+'] else if l.blank then [' '] else []

/-- Sets a number. -/
def figure (l : Layout) (f : Figure) : List Char :=
  let front := l.sign f.negative ++ f.mark
  if l.zeros && !l.left then
    front ++ Binary64.zeros (l.width - front.length - f.digits.length) ++ f.digits
  else l.fill (front ++ f.digits)

end Layout

end FieldRules.Log
