import Formwork.Markup.Element

/-!
# The elements of a tree

A view of a markup tree as the list of its elements, in the order in which their tags are written.
An element that is there under a condition only is one of them.

* `Element.elements` — an element and all elements in it.
* `Element.values` — what an element says under the name of an attribute.
* `Element.conditionals`, `Element.texts` — the conditions and the texts right inside an element.
-/

namespace Formwork.Markup

mutual

/-- An element and the elements in it, in the order of the document. -/
def Element.elements : Element → List Element
  | .mk tag as cs => .mk tag as cs :: elementsAll cs

/-- The elements in a child. -/
def Node.elements : Node → List Element
  | .element e => e.elements
  | .text _ => []
  | .expr _ => []
  | .conditional _ body => body.elements

/-- The elements in some children. -/
def elementsAll : List Node → List Element
  | [] => []
  | c :: cs => c.elements ++ elementsAll cs

end

theorem elementsAll_eq_flatMap (cs : List Node) : elementsAll cs = cs.flatMap Node.elements := by
  induction cs with
  | nil => rfl
  | cons c cs ih => rw [elementsAll, ih, List.flatMap_cons]

namespace Element

/-- The values of the attributes with a name. -/
def values (name : String) (e : Element) : List AttrValue :=
  (e.attrs.filter (·.name = name)).map (·.value)

/-- The conditions right inside an element, with the elements that depend on them. -/
def conditionals (e : Element) : List (String × Element) :=
  e.children.filterMap fun
    | .conditional condition body => some (condition, body)
    | _ => none

/-- The texts right inside an element. -/
def texts (e : Element) : List String :=
  e.children.filterMap fun
    | .text s => some s
    | _ => none

end Element

end Formwork.Markup
