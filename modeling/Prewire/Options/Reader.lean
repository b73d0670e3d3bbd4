import Prewire.Options.Basic
import Prewire.Json.Reader

/-! Options from configuration: an object, or the values alone in a list. What is not given keeps
its default. -/
namespace Prewire.Options

open Json

abbrev Setting := Options → Value → Option Options

def textSetting (change : Options → String → Options) : Setting :=
  fun o value => value.text?.map (change o)

def booleanSetting (change : Options → Bool → Options) : Setting :=
  fun o value => value.boolean?.map (change o)

/-- The settings by key, in the order of a list of values. -/
def settings : List (String × Setting) :=
  [("bootstrap-package", textSetting fun o v => { o with bootstrapPackage := v }),
    ("class-name", textSetting fun o v => { o with className := v }),
    ("remove-yaml-support", booleanSetting fun o v => { o with removesYaml := v }),
    ("remove-xml-support", booleanSetting fun o v => { o with removesXml := v }),
    ("remove-spel-support", booleanSetting fun o v => { o with removesSpel := v }),
    ("force-native-code-path", booleanSetting fun o v => { o with forcesNativePath := v }),
    ("detect-hibernate", booleanSetting fun o v => { o with detectsHibernate := v }),
    ("exclude-types", fun o value =>
      value.texts?.map fun names => { o with excludedTypes := inOrder names }),
    ("indent", textSetting fun o v => { o with indentUnit := v })]

/-- Takes members in order. Other keys are passed over; a setting may be given once only. -/
def takeMembers : (taken : List String) → Options → List (Option String × Value) → Option Options
  | _, o, [] => some o
  | _, _, (none, _) :: _ => none
  | taken, o, (some key, value) :: rest =>
    match settings.lookup key with
    | none => takeMembers taken o rest
    | some setting =>
      if key ∈ taken then none
      else (setting o value).bind fun o => takeMembers (key :: taken) o rest

/-- Takes values in the order of the settings; there may be fewer, but not more. -/
def takeValues : List Setting → Options → List Value → Option Options
  | _, o, [] => some o
  | [], _, _ :: _ => none
  | setting :: rest, o, value :: values => (setting o value).bind fun o => takeValues rest o values

def ofJson? : Value → Option Options
  | .object members => takeMembers [] {} members
  | .array values => takeValues (settings.map Prod.snd) {} values
  | _ => none

/-- The options that a configuration text gives, if it is one. -/
def ofText? (text : String) : Option Options := (Value.ofText? text).bind ofJson?

end Prewire.Options
