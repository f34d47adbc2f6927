import ManifestLint.Declaration
import ManifestLint.Text.Pieces

namespace ManifestLint

namespace Rule

structure Hit where
  token : Token
  message : String
  suggestion : Option String := none
deriving DecidableEq, Repr

namespace RightToLeft

def hit (t : Token) : Hit where
  token := t
  message := "right-to-left (<-) relationship"
  suggestion := some "Swap the operands and use the left-to-right (->) operator"

def hits (tokens : List Token) : List Hit :=
  (tokens.filter (·.kind == .outEdge)).map hit

end RightToLeft

namespace AutoloaderLayout

open Text

def defaultExtension : String := "pp"

/-- The end of the path of the file that the autoloader reads for a name. -/
def expectedPath (extension name : List Char) : List Char :=
  match segments name with
  | [] => []
  | [module] => module ++ "/manifests/init.".toList ++ extension
  | module :: rest => module ++ "/manifests/".toList ++ ['/'].intercalate rest ++ ['.'] ++ extension

def normalize (path : List Char) : List Char := path.map fun c ↦ if c = '\\' then '/' else c

def hit (expected : List Char) (t : Token) : Hit where
  token := t
  message := s!"{t.text} not in autoload module layout"
  suggestion := some s!"Move it to a file ending in {String.ofList expected}"

def hit? (extension path : String) (name : Token) : Option Hit :=
  let expected := expectedPath extension.toList name.text.toList
  if expected.isSuffixOf (normalize path.toList) then none else some (hit expected name)

def hits (extension path : String) (tokens : List Token) : List Hit :=
  if path.isEmpty then []
  else (Declaration.locate tokens).filterMap fun d ↦ tokens[d.name]?.bind (hit? extension path)

end AutoloaderLayout

namespace ParameterOrder

open Token

def isOpening (k : Kind) : Bool := k == .leftParen || k == .leftBracket || k == .leftBrace

def isClosing (k : Kind) : Bool := k == .rightParen || k == .rightBracket || k == .rightBrace

/-- The tokens that end a parameter: a variable before a comma or the end, but not a variable that
is itself a default. -/
def endsParameter (previous : Option Kind) (t : Token) (rest : List Token) : Bool :=
  t.kind == .variable && (rest.head?.all (·.kind == .comma)) && previous != some .equals

/-- The late parameters in the rest of a list, given the number of open brackets, whether a default
has been seen, and the kind of the token before. All brackets count alike; one that closes
nothing ends the search. -/
def lateFrom (depth : Nat) (seenDefault : Bool) (previous : Option Kind) : List Token → List Token
  | [] => []
  | t :: rest =>
    if isOpening t.kind then lateFrom (depth + 1) seenDefault (some t.kind) rest
    else if isClosing t.kind then
      match depth with
      | 0 => []
      | depth + 1 => lateFrom depth seenDefault (some t.kind) rest
    else if 0 < depth then lateFrom depth seenDefault (some t.kind) rest
    else if t.kind = .equals then lateFrom 0 true (some t.kind) rest
    else if seenDefault && endsParameter previous t rest then
      t :: lateFrom 0 seenDefault (some t.kind) rest
    else lateFrom 0 seenDefault (some t.kind) rest

def strayClose (depth : Nat) : List Token → Option Token
  | [] => none
  | t :: rest =>
    if isOpening t.kind then strayClose (depth + 1) rest
    else if isClosing t.kind then
      match depth with
      | 0 => some t
      | depth + 1 => strayClose depth rest
    else strayClose depth rest

def interior (d : Declaration) (tokens : List Token) : Option (List Token) :=
  (d.parameters tokens).map fun r ↦ Stream.significant tokens (r.1 + 1) (r.2 - 1)

def hit (t : Token) : Hit where
  token := t
  message := "optional parameter listed before required parameter"
  suggestion := some "Move required parameters before any parameter with a default value"

def hitsIn (tokens : List Token) (d : Declaration) : List Hit :=
  match interior d tokens with
  | some list => (lateFrom 0 false none list).map hit
  | none => []

def hits (tokens : List Token) : List Hit :=
  (Declaration.locate tokens).flatMap (hitsIn tokens)

def eventsIn (tokens : List Token) (d : Declaration) : List Event :=
  d.parameterEvents tokens ++
    match (interior d tokens).bind (strayClose 0) with
    | some t => [.defaultUnbalanced t.line t.column]
    | none => []

def events (tokens : List Token) : List Event :=
  (Declaration.locate tokens).flatMap (eventsIn tokens)

end ParameterOrder

namespace InheritsAcrossNamespaces

open Token Text

/-- The name `child` goes on, after `parent`, with a further segment. Separators at the start of
either name do not count. -/
def isWithin (child parent : List Char) : Bool :=
  (dropSeparators parent ++ [':', ':']).isPrefixOf (dropSeparators child)

def inheritsIndex (view : List Token) : Option Nat :=
  if Stream.kindAt view 2 = some .leftParen then
    match Delimiter.paren.matchingClose view 2 with
    | .ok close => some (close + 1)
    | .error _ => none
  else some 2

def parent? (view : List Token) : Option Token := do
  let i ← inheritsIndex view
  if Stream.kindAt view i = some .inheritsWord then view[i + 1]? else none

def hit (t : Token) : Hit where
  token := t
  message := "class inherits across namespaces"

def hitIn (tokens : List Token) (d : Declaration) : Option Hit := do
  let parent ← parent? (d.tokens tokens 0)
  let child ← tokens[d.name]?
  if isWithin child.text.toList parent.text.toList then none else some (hit parent)

def hits (tokens : List Token) : List Hit :=
  ((Declaration.locate tokens).filter (·.isClass)).filterMap (hitIn tokens)

end InheritsAcrossNamespaces

namespace NestedDeclarations

/-- A keyword that begins a declaration. `class` before a brace declares a resource instead, and
before nothing it declares nothing. -/
def hit? (t : Token) (rest : List Token) : Option Hit :=
  if t.kind = .classWord then
    match rest with
    | next :: _ =>
      if next.kind = .leftBrace then none else some ⟨t, "class defined inside a class", none⟩
    | [] => none
  else if t.kind = .defineWord then some ⟨t, "define defined inside a class", none⟩
  else none

def hitsAmong : List Token → List Hit
  | [] => []
  | t :: rest => (hit? t rest).toList ++ hitsAmong rest

/-- A keyword is reported once for every class around it. -/
def hits (tokens : List Token) : List Hit :=
  ((Declaration.locate tokens).filter (·.isClass)).flatMap fun d ↦ hitsAmong (d.tokens tokens 1)

end NestedDeclarations

namespace VariableScope

open Token Text

def builtinVariables : List String := [
  "name", "title", "module_name", "environment", "clientcert", "clientversion", "servername",
  "serverip", "serverversion", "caller_module_name"]

def occurrences : List Token → List (Token × Option Kind)
  | [] => []
  | t :: rest =>
    if t.kind = .variable then (t, rest.head?.map (·.kind)) :: occurrences rest
    else occurrences rest

def endsParameterName : Option Kind → Bool
  | some .comma | some .equals | some .rightParen => true
  | _ => false

def parameterNames (list : List Token) : List String :=
  ((occurrences list).filter fun v ↦ endsParameterName v.2).map (·.1.variableName)

def assignedNames (view : List Token) : List String :=
  ((occurrences view).filter fun v ↦ v.2 == some .equals).map (·.1.variableName)

def references (view : List Token) : List Token :=
  ((occurrences view).filter fun v ↦ v.2 != some .equals).map (·.1)

/-- A name with a namespace, or with a digit as captures have it, is never reported. -/
def isExempt (name : String) : Bool :=
  hasSeparator name.toList || name.toList.any Char.isDigit

def scope (extra : List String) (tokens : List Token) (d : Declaration) : List String :=
  let parameters := match d.parameters tokens with
    | some r => parameterNames (Stream.significant tokens r.1 r.2)
    | none => []
  builtinVariables ++ extra ++ parameters ++ assignedNames (d.tokens tokens 0)

def hit (t : Token) : Hit where
  token := t
  message := "top-scope variable being used without an explicit namespace"
  suggestion := some s!"Use $::{t.variableName} for a top-scope variable, or declare it locally"

def hitsIn (extra : List String) (tokens : List Token) (d : Declaration) : List Hit :=
  let known := scope extra tokens d
  ((references (d.tokens tokens 0)).filter fun t ↦
    !isExempt t.variableName && !known.contains t.variableName).map hit

def hits (extra : List String) (tokens : List Token) : List Hit :=
  (Declaration.locate tokens).flatMap (hitsIn extra tokens)

def events (tokens : List Token) : List Event :=
  (Declaration.locate tokens).flatMap (·.parameterEvents tokens)

end VariableScope

end Rule

end ManifestLint
