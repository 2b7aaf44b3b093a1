import CppModel.Scope.Forest
import CppModel.Text.Word

/-!
# Type names seen from a scope

Outside its class, a nested type has to be named with the classes around it.
A type text such as `const Kind&` is taken apart into an optional `const`, the
leading name, and the rest.  The name is looked up in the scopes around the
place where the type is used, and the innermost scope that declares it gives
the path in front of it.
-/

namespace CppModel

/-- A type text, split around its leading name. -/
structure TypeName where
  /-- The text `const` and a space, or nothing. -/
  constness : String
  /-- The leading name; empty if the type begins with another character. -/
  word : String
  /-- What follows the name: pointers, references, template arguments. -/
  rest : String
  deriving DecidableEq, Repr

namespace TypeName

/-- The characters of `const` and one space. -/
def constMark : List Char := "const ".toList

/-- Split the characters of a type behind its constness. -/
def ofChars (constness characters : List Char) : TypeName :=
  ⟨String.ofList constness, String.ofList (characters.takeWhile Text.isWordChar),
    String.ofList (characters.dropWhile Text.isWordChar)⟩

/-- Split a type text around its leading name. -/
def ofString (type : String) : TypeName :=
  if constMark.isPrefixOf type.toList then ofChars constMark (type.toList.drop constMark.length)
  else ofChars [] type.toList

/-- The type text with another name in place of the leading one. -/
def withWord (type : TypeName) (word : String) : String :=
  type.constness ++ word ++ type.rest

end TypeName

namespace Scope.Forest

/-- The scopes from the innermost one that declares a type outwards. -/
def declaring (forest : Forest) (link : Link) (type : String) : List (Id × Node) :=
  (forest.ancestors link).dropWhile fun (_, node) => !node.types.contains type

/-- A type text as it reads from outside all scopes: its leading name is
qualified with the scope that declares it, as seen from the link.  A text whose
leading name no scope declares is left as it is. -/
def resolveType (forest : Forest) (link : Link) (type separator : String) : String :=
  let split := TypeName.ofString type
  if split.word.isEmpty then type
  else
    match forest.declaring link split.word with
    | [] => type
    | scopes =>
        split.withWord
          (separator.intercalate ((scopes.map (·.2.name)).reverse ++ [split.word]))

end Scope.Forest

end CppModel
