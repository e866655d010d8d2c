import LogSieve.Query.Term

/-!
# Badges

A badge shows one term of a query to a person: what kind of term it is, the term
written again as a query, a sentence about it, and a hint for its looks.
-/

namespace LogSieve.Query

/-- The looks of a badge. -/
inductive Variant where
  | standard | secondary | destructive | outline
  deriving DecidableEq

/-- The name under which a display knows a variant. -/
def Variant.name : Variant → Text
  | standard => "default".toList
  | secondary => "secondary".toList
  | destructive => "destructive".toList
  | outline => "outline".toList

/-- What a display shows of a term. -/
structure Badge where
  kind : Text
  negated : Bool
  label : Text
  description : Text
  variant : Variant
  deriving DecidableEq

/-- The name of the kind of a condition. -/
def Condition.kind : Condition → Text
  | .field .. => "field".toList
  | .range .. => "range".toList
  | .level _ => "level".toList
  | .pattern .. => "regex".toList
  | .text _ => "text".toList

/-- A condition written as a query. -/
def Condition.label : Condition → Text
  | .field key value => key ++ ':' :: value
  | .range key first last => key ++ ':' :: first ++ "..".toList ++ last
  | .level levels => "level:".toList ++ Text.joinWith [','] (levels.map Severity.name)
  | .pattern body flags => '/' :: body ++ '/' :: flags
  | .text value => '"' :: value ++ ['"']

/-- A sentence that says what a condition asks for. -/
def Condition.description : Condition → Text
  | .field key value =>
    "Field filter: ".toList ++ key ++ " contains \"".toList ++ value ++ ['"']
  | .range key first last =>
    "Range filter: ".toList ++ key ++ " between ".toList ++ first ++ " and ".toList ++ last
  | .level levels =>
    "Level filter: ".toList ++ Text.joinWith ", ".toList (levels.map Severity.name)
  | .pattern body _ => "Regex pattern: ".toList ++ body
  | .text value => "Text search: \"".toList ++ value ++ ['"']

/-- A term written as a query. -/
def Term.label (term : Term) : Text :=
  if term.negated then '-' :: term.condition.label else term.condition.label

/-- The looks of a term: a negated one stands out, the others go by their kind. -/
def Term.variant (term : Term) : Variant :=
  if term.negated then .destructive
  else match term.condition with
    | .field .. | .range .. => .standard
    | .pattern .. => .outline
    | .level _ | .text _ => .secondary

/-- The badge of a term. -/
def Term.badge (term : Term) : Badge where
  kind := term.condition.kind
  negated := term.negated
  label := term.label
  description := term.condition.description
  variant := term.variant

end LogSieve.Query

namespace LogSieve

/-- The badges of the terms of a query, in order. -/
def Query.badges (query : Query) : List Query.Badge := query.terms.map Query.Term.badge

end LogSieve
