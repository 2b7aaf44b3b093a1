import CppModel.Proofs.Rendering.Shape

/-!
# Scripts that are made from given material

The script of an element is made from lines and headers, documentation and bodies.  What is
asked of each of them makes up the material, and a script is made from it if it is put
together step by step from such parts.  Labels stand inside of blocks only.

A property of scripts that each of these steps keeps holds of all that elements write.
-/

namespace CppModel

/-- What is asked of the lines and headers, of the documentation and of the bodies that a script
is made from. -/
structure Material where
  text : String → Prop
  documentation : String → Prop
  body : Script → Prop

namespace Script

/-- The script is made from the material and stands inside of at least as many blocks as given. -/
inductive MadeOf (material : Material) : Nat → Script → Prop
  | nothing {depth : Nat} : MadeOf material depth []
  | append {depth : Nat} {first second : Script} :
      MadeOf material depth first → MadeOf material depth second →
        MadeOf material depth (first ++ second)
  | doc {depth : Nat} {text : String} :
      material.documentation text → MadeOf material depth [.doc text]
  | line {depth : Nat} {text : String} :
      material.text text → text ≠ "" → MadeOf material depth [.line text]
  | blank {depth : Nat} : MadeOf material depth [.blank]
  | label {depth : Nat} {text : String} :
      material.text text → MadeOf material (depth + 1) [.label text]
  | block {depth : Nat} {header closing : String} {inside : Script} :
      material.text header → material.text closing → MadeOf material (depth + 1) inside →
        MadeOf material depth [.block header closing inside]
  | fork {depth : Nat} {inside : Script} :
      MadeOf material depth inside → MadeOf material depth [.fork inside true]
  | body {depth : Nat} {content : Script} : material.body content → MadeOf material depth content

variable {material : Material} {depth : Nat}

theorem madeOf_ofDoc {documentation : Option String}
    (documented : ∀ given ∈ documentation, material.documentation given) :
    MadeOf material depth (ofDoc documentation) := by
  cases documentation with
  | none => exact .nothing
  | some given => exact .doc (documented given rfl)

theorem madeOf_ofLines {texts : List String}
    (lines : ∀ text ∈ texts, material.text text ∧ text ≠ "") :
    MadeOf material depth (ofLines texts) := by
  induction texts with
  | nil => exact .nothing
  | cons first rest inductionHypothesis =>
      obtain ⟨⟨ofFirst, nonempty⟩, ofRest⟩ := List.forall_mem_cons.mp lines
      exact (MadeOf.line ofFirst nonempty).append (inductionHypothesis ofRest)

section Documented

variable {documentation : Option String}
  (documented : ∀ given ∈ documentation, material.documentation given)

include documented

theorem madeOf_documented_line {text : String} (ofText : material.text text)
    (nonempty : text ≠ "") : MadeOf material depth (ofDoc documentation ++ [.line text]) :=
  (madeOf_ofDoc documented).append (.line ofText nonempty)

theorem madeOf_documented_block {header closing : String} {inside : Script}
    (ofHeader : material.text header) (ofClosing : material.text closing)
    (made : MadeOf material (depth + 1) inside) :
    MadeOf material depth (ofDoc documentation ++ [.block header closing inside]) :=
  (madeOf_ofDoc documented).append (.block ofHeader ofClosing made)

end Documented

theorem madeOf_flatten {scripts : List Script}
    (made : ∀ script ∈ scripts, script.MadeOf material depth) :
    MadeOf material depth scripts.flatten := by
  induction scripts with
  | nil => exact .nothing
  | cons first rest inductionHypothesis =>
      obtain ⟨firstMade, restMade⟩ := List.forall_mem_cons.mp made
      exact firstMade.append (inductionHypothesis restMade)

theorem madeOf_intercalate {separator : Script} {scripts : List Script}
    (separatorMade : separator.MadeOf material depth)
    (made : ∀ script ∈ scripts, script.MadeOf material depth) :
    MadeOf material depth (separator.intercalate scripts) := by
  induction scripts with
  | nil => exact .nothing
  | cons first rest inductionHypothesis =>
      obtain ⟨firstMade, restMade⟩ := List.forall_mem_cons.mp made
      cases rest with
      | nil => simpa using firstMade
      | cons second others =>
          rw [List.intercalate_cons_cons]
          exact (firstMade.append separatorMade).append (inductionHypothesis restMade)

theorem madeOf_paragraphs {scripts : List Script}
    (made : ∀ script ∈ scripts, script.MadeOf material depth) :
    MadeOf material depth (paragraphs scripts) := by
  apply madeOf_intercalate .blank
  rw [List.forall_mem_map]
  exact fun script kept => (made script (List.mem_filter.mp kept).1).fork

end Script

/-- The rendering gives a script that is made from the material, if any. -/
def Rendering.MadeOf (material : Material) (depth : Nat) (rendering : Rendering) : Prop :=
  rendering.Gives (Script.MadeOf material depth)

/-- Paragraphs are made from the material one by one. -/
theorem Rendering.madeOf_paragraphs {material : Material} {depth : Nat}
    {renderings : List Rendering}
    (made : ∀ rendering ∈ renderings, rendering.MadeOf material depth) :
    (paragraphs renderings).MadeOf material depth := by
  apply gives_bind
  intro scripts succeeded
  exact gives_pure (Script.madeOf_paragraphs (forall_mem_of_all made succeeded))

end CppModel
