/-!
# Layout styles

A style fixes what one level of nesting is written as and where the opening
brace of a block goes.  Everything else about the layout follows from the
nesting alone.
-/

namespace CppModel

/-- What one level of nesting is written as. -/
inductive Indent
  | spaces (width : Nat)
  | tab
  deriving DecidableEq, Repr

namespace Indent

/-- The widest indentation by spaces; a wider one is written with this width. -/
def widest : Nat := 16

/-- The text of a single level. -/
def unit : Indent → List Char
  | spaces width => List.replicate (min width widest) ' '
  | tab => ['\t']

end Indent

/-- Where the opening brace of a block goes. -/
inductive Braces
  /-- On a line of its own, in line with the header. -/
  | nextLine
  /-- At the end of the header line. -/
  | sameLine
  deriving DecidableEq, Repr

/-- The layout conventions of a text. -/
structure Style where
  indent : Indent
  braces : Braces
  deriving DecidableEq, Repr

namespace Style

/-- Four spaces, braces on their own line: the usual layout of C++. -/
def cpp : Style := ⟨.spaces 4, .nextLine⟩

/-- Four spaces, braces on the header line. -/
def attached : Style := ⟨.spaces 4, .sameLine⟩

/-- Two spaces, braces on the header line. -/
def narrow : Style := ⟨.spaces 2, .sameLine⟩

/-- Tabs, braces on the header line. -/
def tabbed : Style := ⟨.tab, .sameLine⟩

instance : Inhabited Style := ⟨cpp⟩

/-- The text in front of a line at the given level. -/
def margin (style : Style) (level : Nat) : List Char :=
  (List.replicate level style.indent.unit).flatten

@[simp]
theorem margin_zero (style : Style) : style.margin 0 = [] :=
  rfl

theorem margin_succ (style : Style) (level : Nat) :
    style.margin (level + 1) = style.indent.unit ++ style.margin level := by
  simp [margin, List.replicate_succ]

end Style

end CppModel
