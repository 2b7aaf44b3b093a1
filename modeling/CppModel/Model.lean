import CppModel.Config.Elements
import CppModel.Config.Reader
import CppModel.Toml.Syntax

/-!
# Model files

A model file is a TOML document that lists functions and classes.  Reading it
gives the configurations of the elements, and building it gives the elements
themselves in a forest of their own.
-/

namespace CppModel

open Config
open Toml (Table Value)

/-- What a model file says. -/
abbrev Model := ModelConfig

namespace Model

/-- The name of a model text that comes from no file. -/
def defaultFile : String := "model.toml"

/-- The error of a document with a fault.  The fault is told only if nothing
else in the document is wrong. -/
def malformed (file : String) (document : Table) (fault : Fault) : Error :=
  .malformed file (if (Value.checkedEntries? document).isSome then some fault else none)

/-- Read a model text.  The file is named in errors. -/
def parse (text file : String) : Except Error Model :=
  match Toml.parse? text with
  | none => .error (.malformed file none)
  | some document =>
      match ModelConfig.schema.readTable (Value.boxedEntries document) with
      | .ok model => .ok model
      | .error fault => .error (malformed file document fault)

/-- Read a model from the bytes of a file, which are missing if the file cannot
be read. -/
def ofBytes (path : String) (bytes : Option ByteArray) : Except Error Model :=
  match bytes.bind String.fromUTF8? with
  | none => .error (.unreadable path)
  | some text => parse text path

/-- The elements of a model, and the scopes that they lie in. -/
def build (model : Model) : TranslationUnit × Context :=
  let (unit, scopes) := (TranslationUnit.ofConfig model).run .empty
  (unit, .ofScopes scopes)

end Model

end CppModel
