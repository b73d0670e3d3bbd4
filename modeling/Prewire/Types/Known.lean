import Prewire.Java.JavaType

/-! The classes that the type rules and the generated code name themselves. -/
namespace Prewire.Known

open Java

def javaLang (name : String) : ClassName := .topLevelNamed "java.lang" name
def javaUtil (name : String) : ClassName := .topLevelNamed "java.util" name
def spring (package name : String) : ClassName :=
  .topLevelNamed ("org.springframework." ++ package) name

def object := javaLang "Object"
def string := javaLang "String"
def charSequence := javaLang "CharSequence"
def comparable := javaLang "Comparable"
def number := javaLang "Number"
def classOf := javaLang "Class"
def enumBase := javaLang "Enum"
def iterable := javaLang "Iterable"
def cloneable := javaLang "Cloneable"
def system := javaLang "System"
def override := javaLang "Override"
def serializable : ClassName := .topLevelNamed "java.io" "Serializable"
def reflectField : ClassName := .topLevelNamed "java.lang.reflect" "Field"
def reflectMethod : ClassName := .topLevelNamed "java.lang.reflect" "Method"

def collection := javaUtil "Collection"
def list := javaUtil "List"
def set := javaUtil "Set"
def map := javaUtil "Map"
def collections := javaUtil "Collections"
def locale := javaUtil "Locale"
def temporalUnit : ClassName := .topLevelNamed "java.time.temporal" "TemporalUnit"
def chronoUnit : ClassName := .topLevelNamed "java.time.temporal" "ChronoUnit"
def injectProvider : ClassName := .topLevelNamed "javax.inject" "Provider"

def factoryBean := spring "beans.factory" "FactoryBean"
def objectFactory := spring "beans.factory" "ObjectFactory"
def objectProvider := spring "beans.factory" "ObjectProvider"
def autowired := spring "beans.factory.annotation" "Autowired"
def runtimeBeanReference := spring "beans.factory.config" "RuntimeBeanReference"
def candidateQualifier := spring "beans.factory.support" "AutowireCandidateQualifier"
def listableBeanFactory := spring "beans.factory.support" "DefaultListableBeanFactory"
def resolvableType := spring "core" "ResolvableType"
def nativeDetector := spring "core" "NativeDetector"
def classUtils := spring "util" "ClassUtils"
def reflectionUtils := spring "util" "ReflectionUtils"
def configuration := spring "context.annotation" "Configuration"
def candidateResolver :=
  spring "context.annotation" "ContextAnnotationAutowireCandidateResolver"
def contextInitializer := spring "context" "ApplicationContextInitializer"
def applicationContext := spring "context.support" "GenericApplicationContext"
def applicationEvent := spring "context" "ApplicationEvent"
def eventListener := spring "context.event" "EventListener"
def beanRegistrar := spring "aot.beans.factory" "BeanDefinitionRegistrar"
def listenerMetadata := spring "aot.context.event" "EventListenerMetadata"
def listenerRegistrar := spring "aot.context.event" "EventListenerRegistrar"

/-- The name under which the listener registrar is a bean. -/
def listenerRegistrarBean : String := "org.springframework.aot.EventListenerRegistrar"

/-- Classes are known by canonical name, wherever their package ends. -/
def isNamed (known c : ClassName) : Bool := c.canonicalName == known.canonicalName

end Prewire.Known
