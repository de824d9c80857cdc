import TaskEngine.Cluster.Meta
import TaskEngine.Text.Blank

/-!
# Label selectors

A selector picks objects by their labels: a label has to be there, or to have a given text. In text
form its terms stand between commas, and padding around a term does not count.
-/

namespace TaskEngine.Cluster

/-- One demand on the labels of an object. -/
inductive Term where
  /-- The label is there. -/
  | present (key : String)
  /-- The label has this text. -/
  | equals (key value : String)
  deriving DecidableEq, Repr

namespace Term

/-- The text of a term. -/
def render : Term → String
  | .present key => key
  | .equals key value => key ++ "=" ++ value

/-- The term of a text: the first equals sign divides the label from its text. -/
def read (text : String) : Term :=
  match Text.splitOnce? "=" text with
  | some (key, value) => .equals key value
  | none => .present text

/-- Whether labels meet a term. -/
def holds (labels : Option Labels) : Term → Bool
  | .present key => (labels.bind (·.get? key)).isSome
  | .equals key value => labels.bind (·.get? key) == some value

end Term

namespace Selector

/-- The text of a selector. -/
def render (terms : List Term) : String := Text.joinWith "," (terms.map Term.render)

/-- The terms of a text, without empty ones. -/
def read (text : String) : List Term :=
  (((Text.splitAll ',' text.toList).map Text.trimChars).filter fun term => !term.isEmpty).map
    fun term => Term.read (String.ofList term)

/-- Whether labels meet every term of a selector in text form. -/
def accepts (text : String) (labels : Option Labels) : Bool := (read text).all (Term.holds labels)

end Selector

end TaskEngine.Cluster
