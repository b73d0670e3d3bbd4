import Prewire.Plan.BeanPlan

/-! The package in which the registration of a bean has to be written, because elements it touches
are not public. Private members are reached by reflection and ask for no package. -/
namespace Prewire.Registration

open Java Types Beans Plan

section
variable (r : Registry)

def packagesOfClass (name : ClassName) : List String :=
  if r.isAccessible name then [] else [name.package]

def packagesOfType (type : JavaType) : List String := type.classes.flatMap (packagesOfClass r)

def packagesOfMember (declaringClass : ClassName) (visibility : Visibility) : List String :=
  (if visibility.isPublic then [] else [declaringClass.package])
    ++ packagesOfClass r declaringClass

def packagesOfCreator (creator : Creator) : List String :=
  let e := creator.executable
  packagesOfMember r e.declaringClass e.visibility
    ++ (e.returnType?.map (packagesOfType r)).getD []
    ++ e.parameterTypes.flatMap (packagesOfType r)

def packagesOfInjection (d : Dependency) : List String :=
  match d.member with
  | .field field =>
    if field.visibility.isPrivate then []
    else packagesOfMember r field.declaringClass field.visibility ++ packagesOfType r field.type
  | .method m =>
    if m.visibility.isPrivate then []
    else packagesOfMember r m.declaringClass m.visibility
      ++ m.parameterTypes.flatMap (packagesOfType r)
  | .parameter .. => []

mutual
/-- The classes that the source form of a value names. -/
def valueClasses : BeanValue → List ClassName
  | .enumConstant type _ => [type]
  | .classLiteral type => type.classes
  | .array component elements => component.classes ++ valuesClasses elements
  | .list elements | .set elements => valuesClasses elements
  | _ => []
def valuesClasses : List BeanValue → List ClassName
  | [] => []
  | v :: vs => valueClasses v ++ valuesClasses vs
end

def packagesOfSetting (p : PropertySetting) : List String :=
  (valueClasses p.value).flatMap (packagesOfClass r)

/-- The packages of all elements that are not public, in order and each once. -/
def restrictedPackages (plan : BeanPlan) : List String :=
  ((packagesOfType r plan.beanType ++ packagesOfClass r plan.userClass
    ++ (plan.creator.map (packagesOfCreator r)).getD []
    ++ plan.injections.flatMap (packagesOfInjection r)
    ++ plan.properties.flatMap (packagesOfSetting r)).mergeSort).eraseDups

/-- The package for the registration; none where any will do. -/
def hostPackage (beanName : String) (plan : BeanPlan) : Except Failure (Option String) :=
  match restrictedPackages r plan with
  | [] => .ok none
  | [package] => .ok (some package)
  | packages => .error (.conflictingPackageAccess beanName packages)

end
end Prewire.Registration
