/-!
# Colours

Messages have colours.  How a colour is marked in a text is the business of a library, and depends
on the terminal; the program paints through `Painter`, of which nothing is known.
-/

namespace BindingSync.Cli

/-- The colours of messages. -/
inductive Colour where
  | red | green | yellow
deriving DecidableEq, Repr

/-- A library that marks colours. -/
class Painter where
  /-- A text in a colour. -/
  paint : Colour → String → String

end BindingSync.Cli
