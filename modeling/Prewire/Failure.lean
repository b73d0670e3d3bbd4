import Prewire.Java.Code.Template
import Prewire.Types.Member

/-! Why a generation pass stops. -/
namespace Prewire

open Java Types

/-- The part of a value that no source code denotes. -/
inductive Unwritable where
  | instance (type : JavaType)
  | innerBean (beanClass : Option ClassName)
  deriving DecidableEq, Repr

def Unwritable.typeText : Unwritable → String
  | .instance type => toString type
  | .innerBean beanClass => (beanClass.map ClassName.canonicalName).getD "inner bean definition"

inductive Failure where
  /-- Several constructors or methods of a class fit the arguments equally well; an argument of
  unknown type has none. -/
  | ambiguousExecutable (owner : ClassName) (arguments : List (Option JavaType))
      (candidates : List Executable)
  | incompatibleTargetType (target : JavaType) (factory : ClassName)
  | unsupportedValue (part : Unwritable)
  /-- Holds the factory bean, or the factory method where there is no factory bean. -/
  | missingBeanClass (name : String)
  | missingInstanceCreator (beanName : String)
  | unknownType (name : ClassName)
  | conflictingPackageAccess (beanName : String) (packages : List String)
  /-- Code that a writer of its own gave for a bean does not fit its template. -/
  | template (fault : TemplateFault)
  deriving DecidableEq, Repr

namespace Failure

def message : Failure → String
  | ambiguousExecutable owner arguments candidates =>
    "ambiguous instance creator for '" ++ owner.canonicalName ++ "' with argument types ["
      ++ ", ".intercalate (arguments.map fun t => (t.map toString).getD "?") ++ "]: "
      ++ "; ".intercalate (candidates.map Executable.toText)
  | incompatibleTargetType target factory =>
    "Incompatible target type '" ++ toString target ++ "' for factory bean '"
      ++ factory.canonicalName ++ "'"
  | unsupportedValue part => "unsupported value of type '" ++ part.typeText ++ "'"
  | missingBeanClass name => "cannot determine the factory class for '" ++ name ++ "'"
  | missingInstanceCreator beanName => "no instance creator for bean '" ++ beanName ++ "'"
  | unknownType name => "unknown type '" ++ name.canonicalName ++ "'"
  | conflictingPackageAccess beanName packages =>
    "registration of '" ++ beanName ++ "' requires access to non-public elements of packages "
      ++ Text.bracketed (packages.map Text.quoted)
  | template fault => fault.message

end Failure
end Prewire
