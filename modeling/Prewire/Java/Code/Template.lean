import Prewire.Java.Code.Outline
import Prewire.Java.Literal

/-! Format templates. A dollar sign and a letter stand for the next argument, `$>` and `$<` shift
the indentation, `$$` is a dollar sign, and all else is verbatim. An argument is never read as a
template. -/
namespace Prewire.Java

inductive Argument where
  | type (reference : JavaType)
  | text (content : String)
  | code (block : Code)
  deriving DecidableEq, Repr, Inhabited

def Argument.outline : Argument → String
  | .type reference => "Type(" ++ reference.outline ++ ")"
  | .text content => "Text(" ++ Text.quoted content ++ ")"
  | .code block => "Code(" ++ block.outline ++ ")"

/-- What may stand for an argument. -/
inductive Placeholder where
  | type | string | literal | name
  deriving DecidableEq, Repr

namespace Placeholder

def ofLetter? : Char → Option Placeholder
  | 'T' => some .type
  | 'S' => some .string
  | 'L' => some .literal
  | 'N' => some .name
  | _ => none

def letter : Placeholder → Char
  | .type => 'T' | .string => 'S' | .literal => 'L' | .name => 'N'

/-- The code that an argument contributes where the placeholder stands, if it may stand there. -/
def bind? : Placeholder → Argument → Option Code
  | .type, .type reference | .literal, .type reference => some (.type reference)
  | .string, .text content => some (.text (Literal.string content))
  | .literal, .text content | .name, .text content => some (.text content)
  | .literal, .code block => some block
  | _, _ => none

end Placeholder

/-- Why a template does not fit its arguments. -/
inductive TemplateFault where
  | danglingDollar (format : String)
  | missingArgument (format : String)
  | spareArgument (format : String)
  | unknownPlaceholder (format : String) (letter : Char)
  | wrongArgument (format : String) (placeholder : Placeholder) (argument : Argument)
  deriving DecidableEq, Repr

def TemplateFault.message : TemplateFault → String
  | danglingDollar format => "dangling '$' at the end of format template '" ++ format ++ "'"
  | missingArgument format =>
    "format template '" ++ format ++ "' has more placeholders than arguments"
  | spareArgument format =>
    "format template '" ++ format ++ "' has fewer placeholders than arguments"
  | unknownPlaceholder format letter =>
    "unknown placeholder '$" ++ letter.toString ++ "' in format template '" ++ format ++ "'"
  | wrongArgument format placeholder argument =>
    "argument " ++ argument.outline ++ " cannot be bound to '$" ++ placeholder.letter.toString
      ++ "' in format template '" ++ format ++ "'"

/-- The code after a step, with the fault that ended the step early. Code written before a fault
stays. -/
structure Filled where
  code : Code
  fault : Option TemplateFault := none
  deriving DecidableEq, Repr

namespace Template

/-- Reads the rest of a template. Verbatim text is pending until something else follows it, and is
lost when a fault comes first. -/
def fillFrom (format : String) : Code → String → List Argument → List Char → Filled
  | code, pending, arguments, [] =>
    ⟨code ++ Code.text pending, if arguments.isEmpty then none else some (.spareArgument format)⟩
  | code, _, _, ['$'] => ⟨code, some (.danglingDollar format)⟩
  | code, pending, arguments, '$' :: letter :: rest =>
    match letter with
    | '$' => fillFrom format code (pending.push '$') arguments rest
    | '>' => fillFrom format (code ++ Code.text pending ++ Code.indent) "" arguments rest
    | '<' => fillFrom format (code ++ Code.text pending ++ Code.unindent) "" arguments rest
    | letter =>
      match Placeholder.ofLetter? letter, arguments with
      | none, _ => ⟨code, some (.unknownPlaceholder format letter)⟩
      | some _, [] => ⟨code, some (.missingArgument format)⟩
      | some placeholder, argument :: arguments =>
        match placeholder.bind? argument with
        | some bound => fillFrom format (code ++ Code.text pending ++ bound) "" arguments rest
        | none => ⟨code ++ Code.text pending, some (.wrongArgument format placeholder argument)⟩
  | code, pending, arguments, c :: rest => fillFrom format code (pending.push c) arguments rest

end Template

namespace Code

def add (code : Code) (format : String) (arguments : List Argument) : Filled :=
  Template.fillFrom format code "" arguments format.toList

/-- A fragment of one template; a fault leaves none. -/
def ofTemplate (format : String) (arguments : List Argument) : Except TemplateFault Code :=
  match empty.add format arguments with
  | ⟨code, none⟩ => .ok code
  | ⟨_, some fault⟩ => .error fault

end Code

inductive CodeStep where
  | add (format : String) (arguments : List Argument)
  /-- A template that ends as a statement. -/
  | statement (format : String) (arguments : List Argument)
  /-- A template that opens a braced block. -/
  | beginBlock (format : String) (arguments : List Argument)
  | endBlock
  | indent
  | unindent
  | append (block : Code)
  deriving Repr

namespace Code

def apply (code : Code) : CodeStep → Filled
  | .add format arguments => code.add format arguments
  | .statement format arguments =>
    match code.add format arguments with
    | ⟨code, none⟩ => ⟨code ++ text ";\n", none⟩
    | faulty => faulty
  | .beginBlock format arguments =>
    match code.add format arguments with
    | ⟨code, none⟩ => ⟨code ++ text " \x7b\n" ++ indent, none⟩
    | faulty => faulty
  | .endBlock => ⟨code ++ unindent ++ text "\x7d\n", none⟩
  | .indent => ⟨code ++ indent, none⟩
  | .unindent => ⟨code ++ unindent, none⟩
  | .append block => ⟨code ++ block, none⟩

/-- Applies the steps up to the first fault. -/
def applyAll (code : Code) : List CodeStep → Filled
  | [] => ⟨code, none⟩
  | step :: steps =>
    match code.apply step with
    | ⟨code, none⟩ => code.applyAll steps
    | faulty => faulty

end Code
end Prewire.Java
