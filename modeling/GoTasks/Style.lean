/-!
# Styled text

A terminal shows text in a style when control sequences surround it: one for each property
of the style, colour first, and one that resets them all. Without styling a text is shown
as it is.
-/

namespace GoTasks

/-- A style, as the codes of its control sequences in order. -/
structure Style where
  codes : List Nat
  deriving DecidableEq, Repr

namespace Style

def error : Style := ⟨[31, 1]⟩

def hint : Style := ⟨[33, 1]⟩

def success : Style := ⟨[32, 1]⟩

def step : Style := ⟨[36, 1]⟩

/-- Words that stand back. -/
def faint : Style := ⟨[2]⟩

def informational : Style := ⟨[32]⟩

def warning : Style := ⟨[33]⟩

/-- The word that names the level of a message for whoever looks for a fault. -/
def debugging : Style := ⟨[34]⟩

def field : Style := ⟨[3]⟩

def sequence (code : Nat) : String :=
  "\x1b[" ++ toString code ++ "m"

/-- A text in a style, if styling is on. -/
def paint (style : Style) (styled : Bool) (text : String) : String :=
  if styled then
    String.join (style.codes.map sequence) ++ text ++ sequence 0
  else text

@[simp] theorem paint_false (style : Style) (text : String) : style.paint false text = text :=
  rfl

end Style
end GoTasks
