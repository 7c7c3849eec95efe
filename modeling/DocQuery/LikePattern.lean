/- Patterns with `%` for any run of characters and `_` for any one character, and the regular
   expressions that select the same texts. A backslash takes the next character as it is, and a
   backslash at the end stands for itself. -/

namespace DocQuery

/-- One part of a LIKE pattern. -/
inductive Wildcard where
  | literal (c : Char)
  | anyRun
  | anyOne
  deriving DecidableEq, Repr

namespace LikePattern

/-- The parts of a pattern, from left to right. -/
def wildcards : List Char → List Wildcard
  | [] => []
  | '\\' :: c :: rest => .literal c :: wildcards rest
  | '%' :: rest => .anyRun :: wildcards rest
  | '_' :: rest => .anyOne :: wildcards rest
  | c :: rest => .literal c :: wildcards rest

/-- The characters that mean something in a regular expression. -/
def metacharacters : List Char :=
  ['\\', '.', '+', '*', '?', '(', ')', '|', '[', ']', '{', '}', '^', '$', '#', '&', '-', '~']

/-- The expression for one character: a metacharacter stands behind a backslash. -/
def escaped (c : Char) : List Char := if metacharacters.contains c then ['\\', c] else [c]

/-- The expression for one part. -/
def Wildcard.expression : Wildcard → List Char
  | .literal c => escaped c
  | .anyRun => ['.', '*']
  | .anyOne => ['.']

/-- The pattern allows anything in front. -/
def openStart (ws : List Wildcard) : Bool := ws.head? == some .anyRun

/-- The pattern allows anything behind. -/
def openEnd (ws : List Wildcard) : Bool := ws.getLast? == some .anyRun

/-- The parts without one `%` in front and one behind; the `%` of a lone one is dropped once. -/
def core (ws : List Wildcard) : List Wildcard :=
  let rest := if openStart ws then ws.drop 1 else ws
  if openEnd ws then rest.dropLast else rest

/-- The expression for a list of parts. An expression is searched for anywhere in a text, so a
    pattern that is not open at an end is anchored there, and `%` at an end is left out. -/
def expressionOf (ws : List Wildcard) : List Char :=
  (if openStart ws then [] else ['^']) ++ (core ws).flatMap Wildcard.expression ++
    (if openEnd ws then [] else ['$'])

/-- The regular expression of a LIKE pattern. -/
def expression (pattern : String) : String :=
  String.ofList (expressionOf (wildcards pattern.toList))

end LikePattern

end DocQuery
