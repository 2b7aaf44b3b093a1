import CppModel.Error
import CppModel.Scope.Forest
import CppModel.Sink.Script

/-!
# Renderings

The rendering of an element is decided before anything is written: it is an
error, or a script that cannot fail as a whole.  Writing a rendering therefore
either adds text or leaves the sink as it was.

What an element looks like depends on the scopes around it and on the current
lists of the producers that initializers are taken from.  Both are given by a
context, so that the same element can be rendered before and after a change.
-/

namespace CppModel

/-- What rendering reads besides the element: the scopes, and the current list
of every producer. -/
structure Context where
  scopes : Scope.Forest
  produced : Nat → List String

namespace Context

/-- A context with scopes and without producers. -/
def ofScopes (scopes : Scope.Forest) : Context := ⟨scopes, fun _ => []⟩

end Context

/-- What rendering an element comes to: an error, or what is to be written. -/
abbrev Rendering := Except Error Script

namespace Sink

/-- Write a rendering.  An error leaves the sink as it was. -/
def write (sink : Sink) : Rendering → Sink × Except Error Unit
  | .error error => (sink, .error error)
  | .ok script => ((Script.run script sink).1, .ok ())

/-- Write renderings one after another up to the first error. -/
def writeAll (sink : Sink) : List Rendering → Sink × Except Error Unit
  | [] => (sink, .ok ())
  | rendering :: rest =>
      match sink.write rendering with
      | (next, .ok ()) => next.writeAll rest
      | (next, .error error) => (next, .error error)

/-- The texts of renderings that come before the first error, each as it reads
in the place of the sink, without the empty ones. -/
def collect (sink : Sink) : List Rendering → List String × Except Error Unit
  | [] => ([], .ok ())
  | .error error :: _ => ([], .error error)
  | .ok script :: rest =>
      let text := script.textAt sink
      let (texts, outcome) := sink.collect rest
      (if text.isEmpty then texts else text :: texts, outcome)

end Sink

namespace Rendering

/-- The scripts of renderings that all succeed, or the first error. -/
def all : List Rendering → Except Error (List Script)
  | [] => .ok []
  | rendering :: rest => do
      let script ← rendering
      let scripts ← all rest
      pure (script :: scripts)

/-- Renderings with a blank line between them. -/
def paragraphs (renderings : List Rendering) : Rendering := do
  let scripts ← all renderings
  pure (Script.paragraphs scripts)

@[simp]
theorem all_nil : all [] = .ok [] :=
  rfl

@[simp]
theorem all_error_cons (error : Error) (rest : List Rendering) :
    all (.error error :: rest) = .error error :=
  rfl

end Rendering

namespace Declarator

/-- The parts of a declaration with single spaces between them.  Empty parts
are left out. -/
def join (parts : List String) : String :=
  " ".intercalate (parts.filter (! ·.isEmpty))

/-- A keyword that is there or not. -/
def keyword (present : Bool) (word : String) : String :=
  if present then word else ""

/-- A name with its arguments. -/
def signature (name : String) (arguments : List String) : String :=
  name ++ "(" ++ ", ".intercalate arguments ++ ")"

end Declarator

end CppModel
