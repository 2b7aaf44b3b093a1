import CppModel.Proofs.Pieces.Script

/-!
# What an element contributes

Each element has a share in the header of a unit and one in its source.  The share of a
function, of a data member or of an array is what stands for it alone; the share of a class
is its frame with the labels in it, and its members and nested classes have shares of their
own.  An element that is declared only, or that is complete where it is declared, has
nothing in the source.

Which side has the body of a function, the value of a variable and the items of an array is
said here, once for each kind of element, and the lines are spelled out.  The renderings of
the elements agree.
-/

namespace CppModel

open Rendering (writes_pure writes_error writes_bind)

namespace Script

theorem writes_documented_line (documentation : Option String) (text : String) :
    Writes (ofDoc documentation ++ [.line text]) (Piece.ofDoc documentation ++ [.line text]) :=
  (writes_ofDoc documentation).append (writes_line text)

theorem writes_documented_function (documentation : Option String) (header : String)
    (content : Script) :
    Writes (ofDoc documentation ++ [.block header "" content])
      (Piece.ofDoc documentation ++ [.body header content]) :=
  (writes_ofDoc documentation).append (writes_function header content)

end Script

namespace FreeFunction

/-- The body of a `constexpr` function is in the header, and of any other one in the
source. -/
def share (function : FreeFunction) : Side → List Piece
  | .header =>
      Piece.ofDoc function.documentation ++
        if function.isConstexpr then Piece.ofBody function.header function.body
        else [.line (function.header ++ ";")]
  | .source =>
      if function.isConstexpr then []
      else Piece.ofDoc function.documentation ++ Piece.ofBody function.header function.body

theorem writes_render (function : FreeFunction) :
    Rendering.Writes function.render
      (Piece.ofDoc function.documentation ++ Piece.ofBody function.header function.body) := by
  apply writes_bind
  intro _ _
  cases function.body with
  | none => exact writes_error _ _
  | some body => exact writes_pure (Script.writes_documented_function _ _ body)

theorem writes_declaration (function : FreeFunction) :
    Rendering.Writes function.declaration (function.share .header) := by
  rw [share]
  apply writes_bind
  intro _ _
  cases function.isConstexpr with
  | true => exact function.writes_render
  | false => exact writes_pure (Script.writes_documented_line _ _)

theorem writes_definition (function : FreeFunction) :
    Rendering.Writes function.definition (function.share .source) := by
  rw [share, definition]
  cases function.isConstexpr with
  | true => exact writes_bind fun _ _ => writes_pure Script.writes_nil
  | false => exact function.writes_render

end FreeFunction

namespace Method

/-- The body of a `constexpr` method is in the header.  A method that is neither that nor
pure virtual has its body in the source, where the header of the method names the class. -/
def share (context : Context) (method : Method) : Side → List Piece
  | .header =>
      Piece.ofDoc method.documentation ++
        if method.modifiers.isConstexpr then Piece.ofBody method.header method.body
        else [.line (method.header ++ ";")]
  | .source =>
      if method.needsDefinition then
        Piece.ofDoc method.documentation ++ Piece.ofBody (method.outerHeader context) method.body
      else []

/-- What is written around the body of a method is one run of it. -/
theorem writes_around (kind : ElementKind) (method : Method) (header : String) :
    Rendering.Writes
      (method.requireBody kind >>= fun body =>
        pure (Script.ofDoc method.documentation ++ [.block header "" body]))
      (Piece.ofDoc method.documentation ++ Piece.ofBody header method.body) := by
  apply writes_bind
  intro body required
  rw [(requireBody_eq_ok_iff kind method body).mp required]
  exact writes_pure (Script.writes_documented_function _ _ body)

theorem writes_declaration (context : Context) (method : Method) :
    Rendering.Writes (method.declaration context) (method.share context .header) := by
  rw [share]
  apply writes_bind
  intro _ _
  cases method.modifiers.isConstexpr with
  | true => exact writes_bind fun _ _ => method.writes_around .method method.header
  | false => exact writes_pure (Script.writes_documented_line _ _)

theorem writes_definition (context : Context) {method : Method}
    (needed : method.needsDefinition = true) :
    Rendering.Writes (method.definition context) (method.share context .source) := by
  rw [share, if_pos needed]
  apply writes_bind
  intro _ _
  cases method.modifiers.isPureVirtual with
  | true => exact writes_error _ _
  | false => exact method.writes_around .method (method.outerHeader context)

end Method

namespace Constructor

/-- The body of a constructor is in the source. -/
def share (context : Context) (constructor : Constructor) : Side → List Piece
  | .header =>
      Piece.ofDoc constructor.documentation ++
        [.line (Declarator.signature constructor.name constructor.arguments ++ ";")]
  | .source =>
      Piece.ofDoc constructor.documentation ++
        Piece.ofBody (constructor.headerAs context (constructor.fullName context)) constructor.body

theorem writes_declaration (context : Context) (constructor : Constructor) :
    Rendering.Writes (constructor.declaration context) (constructor.share context .header) :=
  writes_bind fun _ _ => writes_pure (Script.writes_documented_line _ _)

theorem writes_definition (context : Context) (constructor : Constructor) :
    Rendering.Writes (constructor.definition context) (constructor.share context .source) :=
  writes_bind fun _ _ => constructor.toMethod.writes_around .constructor _

end Constructor

namespace MemberFunction

/-- The share of the method or the constructor. -/
def share (context : Context) : MemberFunction → Side → List Piece
  | .method content => content.share context
  | .constructor content => content.share context

theorem writes_declaration (context : Context) (function : MemberFunction) :
    Rendering.Writes (function.declaration context) (function.share context .header) := by
  cases function with
  | method content => exact content.writes_declaration context
  | constructor content => exact content.writes_declaration context

theorem writes_definition (context : Context) {function : MemberFunction}
    (needed : function.needsDefinition = true) :
    Rendering.Writes (function.definition context) (function.share context .source) := by
  cases function with
  | method content => exact Method.writes_definition context needed
  | constructor content => exact content.writes_definition context

theorem share_source_of_not_needed (context : Context) {function : MemberFunction}
    (notNeeded : function.needsDefinition = false) : function.share context .source = [] := by
  cases function with
  | method content =>
      have isDeclaredOnly : content.needsDefinition = false := notNeeded
      rw [share, Method.share, isDeclaredOnly]
      rfl
  | constructor content => cases notNeeded

end MemberFunction

namespace Variable

/-- What stands behind the name of a variable: its value, if there is one. -/
def ending : Option String → String
  | some value => " = " ++ value ++ ";"
  | none => ";"

theorem lineOf_eq (head : String) (value : Option String) :
    lineOf head value = head ++ ending value := by
  cases value with
  | none => rfl
  | some value => simp only [lineOf, ending, String.append_assoc]

/-- A member variable has its value where it is defined: in the source if it is static and
not `constexpr`, and otherwise in the header. -/
def share (context : Context) (data : Variable) : Side → List Piece
  | .header =>
      Piece.ofDoc data.documentation ++ [.line (data.memberHead ++
        if data.isStatic && !data.isConstexpr then ";" else ending data.value)]
  | .source =>
      if data.isStatic && !data.isConstexpr then
        Piece.ofDoc data.documentation ++ [.line (data.outerHead context ++ ending data.value)]
      else []

theorem lineOf_memberValue (data : Variable) :
    lineOf data.memberHead data.memberValue = data.memberHead ++
      if data.isStatic && !data.isConstexpr then ";" else ending data.value := by
  rw [lineOf_eq, memberValue, needsDefinition]
  by_cases needed : (data.isStatic && !data.isConstexpr) = true
  · rw [if_pos needed, if_pos needed, ending]
  · rw [if_neg needed, if_neg needed]

variable {context : Context} {data : Variable}

theorem writes_declaration (attached : context.scopes.isAttached data.link = true) :
    Rendering.Writes (data.declaration context) (data.share context .header) := by
  rw [declaration, if_pos attached, share, ← lineOf_memberValue]
  exact writes_bind fun _ _ => writes_pure (Script.writes_documented_line _ _)

theorem writes_definition (attached : context.scopes.isAttached data.link = true)
    (needed : data.needsDefinition = true) :
    Rendering.Writes (data.definition context) (data.share context .source) := by
  have isDefined : (data.isStatic && !data.isConstexpr) = true := needed
  rw [share, if_pos isDefined, ← lineOf_eq, definition, attached, needed]
  exact writes_bind fun _ _ => writes_pure (Script.writes_documented_line _ _)

end Variable

namespace ArrayVariable

/-- What stands behind the brackets of an array: its items, if there are any. -/
def ending : List String → String
  | [] => ";"
  | items => " = \x7b" ++ ", ".intercalate items ++ "\x7d;"

theorem initializedLine_eq (array : ArrayVariable) (head name : String) :
    array.initializedLine head name =
      head ++ " " ++ name ++ "[" ++ array.sizeText ++ "]" ++ ending array.items := by
  rw [initializedLine]
  cases array.items with
  | nil => rfl
  | cons first rest =>
      rw [ending, ← String.append_assoc, ← String.append_assoc]
      · rfl
      · exact List.cons_ne_nil first rest

/-- The number between the brackets of an array in a class: none for a static array, and
otherwise the size or the number of items. -/
def memberSize (array : ArrayVariable) : String :=
  if array.isStatic then "" else toString (array.size.getD array.items.length)

/-- A member array has its items in the source if it is static, and nowhere otherwise. -/
def share (context : Context) (array : ArrayVariable) : Side → List Piece
  | .header =>
      Piece.ofDoc array.documentation ++
        [.line (array.head ++ " " ++ array.name ++ "[" ++ array.memberSize ++ "];")]
  | .source =>
      if array.isStatic then
        Piece.ofDoc array.documentation ++
          [.line (array.outerHead ++ " " ++ array.fullName context ++ "[" ++ array.sizeText ++
            "]" ++ ending array.items)]
      else []

variable {context : Context} {array : ArrayVariable}

theorem writes_declaration (attached : context.scopes.isAttached array.link = true) :
    Rendering.Writes (array.declaration context) (array.share context .header) := by
  rw [declaration, if_pos attached]
  exact writes_bind fun _ _ => writes_pure (Script.writes_documented_line _ _)

theorem writes_definition (attached : context.scopes.isAttached array.link = true)
    (needed : array.needsDefinition = true) :
    Rendering.Writes (array.definition context) (array.share context .source) := by
  have isDefined : array.isStatic = true := needed
  rw [share, if_pos isDefined, ← initializedLine_eq, definition, attached, needed]
  exact writes_bind fun _ _ => writes_pure (Script.writes_documented_line _ _)

end ArrayVariable

namespace Enumeration

/-- An enumeration is in the header as a whole. -/
def share (enumeration : Enumeration) : Side → List Piece
  | .header =>
      Piece.ofDoc enumeration.documentation ++
        .opening enumeration.header :: .closing ";" :: enumeration.bodyLines.map .line
  | .source => []

theorem writes_declaration (enumeration : Enumeration) :
    Rendering.Writes enumeration.declaration (enumeration.share .header) :=
  writes_pure ((Script.writes_ofDoc _).append
    ((Script.writes_ofLines _).framed enumeration.header))

end Enumeration

namespace Class

/-- The labels in front of the sections of a class. -/
def labels (owner : Class) : List Piece :=
  (if !owner.parts.isStruct && owner.hasPublic then [.label "public"] else []) ++
    if !owner.parts.isStruct && owner.hasPublic && owner.hasPrivate then [.label "private"] else []

/-- A class is in the header, with its members between its braces. -/
def share (owner : Class) : Side → List Piece
  | .header =>
      Piece.ofDoc owner.parts.documentation ++
        .opening owner.parts.header :: .closing ";" :: owner.labels
  | .source => []

end Class

namespace Element

/-- What an element has on a side of a unit, as a function outside of classes, as a class,
or as a member of a class.  The members of a class are elements of their own. -/
def share (context : Context) (side : Side) : Element → List Piece
  | .function content => content.share side
  | .member content => content.share context side
  | .data content => content.share context side
  | .array content => content.share context side
  | .enumeration content => content.share side
  | .classType content => content.share side

end Element

end CppModel
