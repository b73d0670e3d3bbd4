import Prewire.Java.Code
import Prewire.Java.Literal
import Prewire.Java.Number

/-! The expressions and statements that generated code is made of, and how they are written. -/
namespace Prewire.Java

mutual
inductive Expression where
  | nullLiteral
  | boolean (value : Bool)
  | number (literal : NumberLiteral)
  | character (value : Char)
  | string (value : String)
  | classLiteral (type : JavaType)
  | typeName (type : JavaType)
  | name (identifier : String)
  /-- A field of an object, or a constant of a type. -/
  | member (receiver : Expression) (name : String)
  /-- Calls one after the other, each on what the one before returns. -/
  | chain (receiver : Expression) (calls : List Call)
  | create (type : JavaType) (arguments : List Expression)
  | createArray (component : JavaType) (elements : List Expression)
  | assign (target value : Expression)
  | negate (condition : Expression)
  | lambda (parameters : List String) (body : Expression)
  | blockLambda (parameters : List String) (body : List Statement)
  | verbatim (code : Code)

structure Call where
  method : String
  arguments : List Expression

inductive Statement where
  | comment (text : String)
  | expression (e : Expression)
  | declare (type : JavaType) (name : String) (value : Expression)
  | giveBack (value : Expression)
  /-- Returns the result of a static method, with each argument on a line of its own. -/
  | giveBackListed (type : JavaType) (method : String) (arguments : List Expression)
  | ifThen (condition : Expression) (body : List Statement)
  /-- Calls that continue on the next line, two levels deeper. -/
  | brokenChain (receiver : Expression) (calls : List Call)
end

instance : Inhabited Expression := ⟨.nullLiteral⟩

namespace Expression

def staticCall (type : ClassName) (method : String) (arguments : List Expression) : Expression :=
  .chain (.typeName (.ofClass type)) [⟨method, arguments⟩]

def call (receiver : Expression) (method : String) (arguments : List Expression) : Expression :=
  .chain receiver [⟨method, arguments⟩]

def classOf (name : ClassName) : Expression := .classLiteral (.ofClass name)

end Expression

def parameterList (parameters : List String) : Code :=
  .text ("(" ++ ", ".intercalate parameters ++ ") -> ")

mutual
def Expression.code : Expression → Code
  | .nullLiteral => .text "null"
  | .boolean value => .text (toString value)
  | .number literal => .text literal.text
  | .character value => .text (Literal.char value)
  | .string value => .text (Literal.string value)
  | .classLiteral type => .type type ++ Code.text ".class"
  | .typeName type => .type type
  | .name identifier => .text identifier
  | .member receiver name => receiver.code ++ Code.text ("." ++ name)
  | .chain receiver calls => receiver.code ++ callsCode calls
  | .create type arguments =>
    Code.text "new " ++ Code.type type ++ Code.text "(" ++ argumentsCode ", " arguments
      ++ Code.text ")"
  | .createArray component [] => Code.text "new " ++ Code.type component ++ Code.text "[] \x7b\x7d"
  | .createArray component (e :: rest) =>
    Code.text "new " ++ Code.type component ++ Code.text "[] \x7b " ++ e.code ++ restCode ", " rest
      ++ Code.text " \x7d"
  | .assign target value => target.code ++ Code.text " = " ++ value.code
  | .negate condition => Code.text "!" ++ condition.code
  | .lambda parameters body => parameterList parameters ++ body.code
  | .blockLambda parameters body =>
    parameterList parameters ++ Code.text "\x7b\n" ++ Code.indent ++ statementsCode body
      ++ Code.unindent ++ Code.text "\x7d"
  | .verbatim code => code
def callsCode : List Call → Code
  | [] => .empty
  | .mk method arguments :: rest =>
    Code.text ("." ++ method ++ "(") ++ argumentsCode ", " arguments ++ Code.text ")"
      ++ callsCode rest
def argumentsCode (separator : String) : List Expression → Code
  | [] => .empty
  | e :: rest => e.code ++ restCode separator rest
def restCode (separator : String) : List Expression → Code
  | [] => .empty
  | e :: rest => Code.text separator ++ e.code ++ restCode separator rest
def Statement.code : Statement → Code
  | .comment text => .text ("// " ++ text ++ "\n")
  | .expression e => e.code ++ Code.text ";\n"
  | .declare type name value =>
    Code.type type ++ Code.text (" " ++ name ++ " = ") ++ value.code ++ Code.text ";\n"
  | .giveBack value => Code.text "return " ++ value.code ++ Code.text ";\n"
  | .giveBackListed type method arguments =>
    Code.text "return " ++ Code.type type ++ Code.text ("." ++ method ++ "(\n") ++ Code.indent
      ++ argumentsCode ",\n" arguments ++ Code.text "\n" ++ Code.unindent ++ Code.text ");\n"
  | .ifThen condition body =>
    Code.text "if (" ++ condition.code ++ Code.text ") \x7b\n" ++ Code.indent
      ++ statementsCode body ++ Code.unindent ++ Code.text "\x7d\n"
  | .brokenChain receiver calls =>
    receiver.code ++ Code.text "\n" ++ Code.indent ++ Code.indent ++ callsCode calls
      ++ Code.text ";\n" ++ Code.unindent ++ Code.unindent
def statementsCode : List Statement → Code
  | [] => .empty
  | s :: rest => s.code ++ statementsCode rest
end

/-- A broken chain that is not finished: more calls may follow, and its levels are still open. -/
def openChainCode (receiver : Expression) (calls : List Call) : Code :=
  receiver.code ++ Code.text "\n" ++ Code.indent ++ Code.indent ++ callsCode calls

end Prewire.Java
