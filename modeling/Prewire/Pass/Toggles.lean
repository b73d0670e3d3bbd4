import Prewire.Java.Expression
import Prewire.Types.Known
import Prewire.Options.Basic

/-! System properties that the main class sets when it is loaded, as the options ask for. -/
namespace Prewire.Pass

open Java

def setProperty (key value : String) : Statement :=
  .expression (.staticCall Known.system "setProperty" [.string key, .string value])

def onDemand (asked : Bool) (statement : Statement) : List Statement :=
  if asked then [statement] else []

def forceNativePath : Statement :=
  .ifThen (.negate (.staticCall Known.nativeDetector "inNativeImage" []))
    [setProperty "org.graalvm.nativeimage.imagecode" "runtime"]

def disableHibernateBytecode : Statement :=
  .ifThen (.staticCall Known.classUtils "isPresent"
      [.string "org.hibernate.Session", .nullLiteral])
    [setProperty "hibernate.bytecode.provider" "none"]

def toggles (o : Options) : List Statement :=
  onDemand o.removesYaml (setProperty "spring.native.remove-yaml-support" "true")
    ++ onDemand o.removesXml (setProperty "spring.xml.ignore" "true")
    ++ onDemand o.removesSpel (setProperty "spring.spel.ignore" "true")
    ++ onDemand o.forcesNativePath forceNativePath
    ++ onDemand o.detectsHibernate disableHibernateBytecode

end Prewire.Pass
