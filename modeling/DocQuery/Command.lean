import DocQuery.Bson.Equality
import DocQuery.Bson.Printer

/- What is sent to the document store: a search, a pipeline of stages, or a search for the
   distinct values of a field. Each command can be shown as a document and as text. -/

namespace DocQuery

/-- A command for one collection. -/
inductive Command where
  | find (collection : String) (filter options : Document)
  | aggregate (collection : String) (pipeline : List Document) (options : Document)
  | distinct (collection : String) (field : String) (filter options : Document)
  deriving Repr

namespace Command

def name : Command → String
  | .find .. => "find"
  | .aggregate .. => "aggregate"
  | .distinct .. => "distinct"

def collection : Command → String
  | .find collection _ _ => collection
  | .aggregate collection _ _ => collection
  | .distinct collection _ _ _ => collection

def options : Command → Document
  | .find _ _ options => options
  | .aggregate _ _ options => options
  | .distinct _ _ _ options => options

/-- The arguments in the order in which the command takes them. -/
def arguments : Command → List Bson
  | .find _ filter options => [.document filter, .document options]
  | .aggregate _ pipeline options => [.documents pipeline, .document options]
  | .distinct _ field filter options => [.string field, .document filter, .document options]

/-- The command as a document: its name over its arguments. -/
def toDocument (c : Command) : Document := .single c.name (.array c.arguments)

/-- The command together with the collection that it is for. -/
def envelope (c : Command) : Document :=
  (OrderedMap.single "collection" (.string c.collection)).insert "command" (.document c.toDocument)

/-- The display text of a command. -/
def text (c : Command) : String := c.toDocument.text

/-- The display text is the name over the texts of the arguments. -/
theorem text_eq (c : Command) :
    c.text =
      "\x7b \"" ++ c.name ++ "\": [" ++ ", ".intercalate (c.arguments.map Bson.text) ++ "] \x7d" := by
  have document : c.text = documentText [quotedRaw c.name ++ ": " ++
      bracketed "[" "]" (Bson.itemTexts c.arguments)] := rfl
  have opening : "\x7b \"" = "\x7b " ++ "\"" := rfl
  have list : "\": [" = "\"" ++ ": " ++ "[" := rfl
  have closing : "] \x7d" = "]" ++ " \x7d" := rfl
  rw [document, Bson.itemTexts_eq_map, opening, list, closing, documentText, bracketed, bracketed,
    quotedRaw]
  simp only [List.isEmpty_cons, Bool.false_eq_true, if_false, String.intercalate_singleton,
    String.append_assoc]

/-- Commands agree if they are of one kind and all parts do. -/
def same : Command → Command → Bool
  | .find c filter options, .find c' filter' options' =>
    c == c' && filter.same filter' && options.same options'
  | .aggregate c pipeline options, .aggregate c' pipeline' options' =>
    c == c' && sameList Document.same pipeline pipeline' && options.same options'
  | .distinct c field filter options, .distinct c' field' filter' options' =>
    c == c' && field == field' && filter.same filter' && options.same options'
  | _, _ => false

end Command

end DocQuery
