import CppModel.Config.Records

/-!
# Summaries

What a check reports about a valid model: how many functions and classes it
has, and for every class the number of its members, indented like the nesting
of the classes.
-/

namespace CppModel.Command

open Config

/-- The ending of a noun behind a number. -/
def pluralEnding (count : Nat) (ending : String) : String :=
  if count = 1 then "" else ending

/-- A line with a number of things. -/
def countLine (count : Nat) (noun ending : String) : String :=
  "  " ++ toString count ++ " " ++ noun ++ pluralEnding count ending

/-- The line of a class at a depth. -/
def classLine (depth : Nat) (options : ClassOptions) : String :=
  let methods := options.constructors.length + options.methods.length
  let members := options.dataMembers.length + options.arrays.length
  String.ofList (List.replicate (2 * depth) ' ') ++
    (if options.isStruct then "struct " else "class ") ++ options.name ++
    " (" ++ toString methods ++ " method" ++ pluralEnding methods "s" ++
    ", " ++ toString members ++ " data member" ++ pluralEnding members "s" ++ ")"

mutual

/-- The lines of a class and of the classes inside it. -/
def classLines (depth : Nat) : ClassConfig → List String
  | ⟨options, classes⟩ => classLine depth options :: classesLines (depth + 1) classes

/-- The lines of a list of classes. -/
def classesLines (depth : Nat) : List ClassConfig → List String
  | [] => []
  | config :: rest => classLines depth config ++ classesLines depth rest

end

/-- The lines of a model. -/
def summaryLines (model : ModelConfig) : List String :=
  countLine model.functions.length "function" "s" ::
    countLine model.classes.length "class" "es" :: classesLines 2 model.classes

/-- What a check prints about a valid model. -/
def summary (path : String) (model : ModelConfig) : String :=
  "✓ " ++ path ++ " is valid\n\n" ++ "\n".intercalate (summaryLines model) ++ "\n"

end CppModel.Command
