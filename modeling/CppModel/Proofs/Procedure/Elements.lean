import CppModel.Proofs.Procedure.Basic
import CppModel.Proofs.Rendering.Forms

/-!
# Elements without members are written as they are rendered

An element without members of its own checks itself and then writes line by line.
Such a procedure needs no fork: everything that can go wrong is looked at before the
first line is written, and that is what makes it carry out the rendering.
-/

namespace CppModel

open Procedure Process

namespace FreeFunction

theorem carriesOut_writeOwn (function : FreeFunction) :
    CarriesOut function.writeOwn function.render := by
  apply carriesOut_require
  intro _
  cases function.body with
  | none => exact carriesOut_error _
  | some body => exact carriesOut_block _ _ _ _

theorem carriesOut_writeDeclaration (function : FreeFunction) :
    CarriesOut function.writeDeclaration function.declaration := by
  apply carriesOut_require
  intro _
  apply carriesOut_ite
  · exact function.carriesOut_writeOwn
  · exact carriesOut_line _ _

theorem carriesOut_writeDefinition (function : FreeFunction) :
    CarriesOut function.writeDefinition function.definition := by
  apply carriesOut_ite
  · exact carriesOut_require _ fun _ => carriesOut_nothing
  · exact function.carriesOut_writeOwn

end FreeFunction

namespace Method

theorem carriesOut_writeOwn (context : Context) (method : Method) :
    CarriesOut (method.writeOwn context) (method.render context) := by
  apply carriesOut_require
  intro _
  apply carriesOut_require
  intro body
  exact carriesOut_block _ _ _ _

theorem carriesOut_writeDeclaration (context : Context) (method : Method) :
    CarriesOut (method.writeDeclaration context) (method.declaration context) := by
  apply carriesOut_require
  intro _
  apply carriesOut_ite
  · exact method.carriesOut_writeOwn context
  · exact carriesOut_line _ _

theorem carriesOut_writeDefinition (context : Context) (method : Method) :
    CarriesOut (method.writeDefinition context) (method.definition context) := by
  apply carriesOut_require
  intro _
  apply carriesOut_ite
  · exact carriesOut_error _
  · exact carriesOut_require _ fun body => carriesOut_block _ _ _ _

end Method

namespace Constructor

theorem carriesOut_writeOwn (context : Context) (constructor : Constructor) :
    CarriesOut (constructor.writeOwn context) (constructor.render context) := by
  apply carriesOut_require
  intro _
  apply carriesOut_require
  intro body
  exact carriesOut_block _ _ _ _

theorem carriesOut_writeDeclaration (context : Context) (constructor : Constructor) :
    CarriesOut (constructor.writeDeclaration context) (constructor.declaration context) :=
  carriesOut_require _ fun _ => carriesOut_line _ _

theorem carriesOut_writeDefinition (context : Context) (constructor : Constructor) :
    CarriesOut (constructor.writeDefinition context) (constructor.definition context) := by
  apply carriesOut_require
  intro _
  apply carriesOut_require
  intro body
  exact carriesOut_block _ _ _ _

end Constructor

namespace MemberFunction

theorem carriesOut_writeDeclaration (context : Context) (function : MemberFunction) :
    CarriesOut (function.writeDeclaration context) (function.declaration context) := by
  cases function with
  | method content => exact content.carriesOut_writeDeclaration context
  | constructor content => exact content.carriesOut_writeDeclaration context

theorem carriesOut_writeDefinition (context : Context) (function : MemberFunction) :
    CarriesOut (function.writeDefinition context) (function.definition context) := by
  cases function with
  | method content => exact content.carriesOut_writeDefinition context
  | constructor content => exact content.carriesOut_writeDefinition context

end MemberFunction

namespace Variable

theorem carriesOut_writeOwn (data : Variable) : CarriesOut data.writeOwn data.render :=
  carriesOut_require _ fun _ => carriesOut_line _ _

theorem carriesOut_writeDeclaration (context : Context) (data : Variable) :
    CarriesOut (data.writeDeclaration context) (data.declaration context) := by
  apply carriesOut_ite
  · exact carriesOut_require _ fun _ => carriesOut_line _ _
  · exact data.carriesOut_writeOwn

theorem carriesOut_writeDefinition (context : Context) (data : Variable) :
    CarriesOut (data.writeDefinition context) (data.definition context) := by
  apply carriesOut_require
  intro _
  apply carriesOut_ite
  · exact carriesOut_line _ _
  · exact carriesOut_nothing

end Variable

namespace ArrayVariable

theorem carriesOut_writeOwn (array : ArrayVariable) : CarriesOut array.writeOwn array.render :=
  carriesOut_require _ fun _ => carriesOut_line _ _

theorem carriesOut_writeDeclaration (context : Context) (array : ArrayVariable) :
    CarriesOut (array.writeDeclaration context) (array.declaration context) := by
  apply carriesOut_ite
  · exact carriesOut_require _ fun _ => carriesOut_line _ _
  · exact array.carriesOut_writeOwn

theorem carriesOut_writeDefinition (context : Context) (array : ArrayVariable) :
    CarriesOut (array.writeDefinition context) (array.definition context) := by
  apply carriesOut_require
  intro _
  apply carriesOut_ite
  · exact carriesOut_line _ _
  · exact carriesOut_nothing

end ArrayVariable

namespace Enumeration

theorem carriesOut_writeOwn (enumeration : Enumeration) :
    CarriesOut enumeration.writeOwn enumeration.render :=
  carriesOut_block _ _ _ _

end Enumeration

end CppModel
