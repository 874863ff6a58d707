import Formwork.Component.Options
import Formwork.Form
import Formwork.Markup.Layout

/-!
# The page of a component

The markup that a generated component returns: a card with a heading, a group for each field and a
button. Controls read their value from `formData` at their key, and under each control the message
in `errors` at that key is shown while there is one.

* `group` — the group of one field.
* `page` — the whole.
-/

namespace Formwork.Component

open Markup

/-! ## Class names -/

def className (names : String) : Attr := attr "className" names

/-- A template literal of a script. -/
def template (text : String) : String := "\x60" ++ text ++ "\x60"

/-- An expression inside a template literal. -/
def interpolated (e : String) : String := "$" ++ braced e

/-- Class names of which one depends on an error: the border is red while there is one. -/
def withBorder (before after error : String) : String :=
  template (before ++
    interpolated (error ++ " ? \"border-red-400\" : \"border-gray-200\"") ++ after)

/-- The class names of an input. -/
def inputStyle (error : String) : String :=
  withBorder "w-full px-3 py-2 border "
    " rounded-lg focus:outline-none focus:border-blue-400 transition-colors" error

/-- The class names of a box to tick. -/
def tickBoxStyle (error : String) : String :=
  withBorder "rounded "
    " text-blue-500 focus:ring-2 focus:ring-blue-400 focus:ring-opacity-50 transition-colors" error

/-- The class names of the button, which fades while the form is submitted. -/
def buttonStyle : String :=
  template ("w-full py-2.5 px-4 border border-transparent rounded-lg text-sm font-medium " ++
    "text-white bg-blue-500 hover:bg-blue-600 focus:outline-none focus:ring-2 " ++
    "focus:ring-offset-2 focus:ring-blue-400 transition-colors " ++
    interpolated "isSubmitting ? \"opacity-70 cursor-not-allowed\" : \"\"")

/-! ## Fields -/

/-- The value of a field, as an expression. -/
def valueExpr (b : Binding) : String := Script.member "formData" b.key

/-- The message about a field, as an expression. -/
def errorExpr (b : Binding) : String := Script.member "errors" b.key

/-- The label that is shown, with a star if the field is mandatory. -/
def caption (b : Binding) : String :=
  if b.required then b.displayLabel ++ " *" else b.displayLabel

/-- The message under a control. -/
def complaint (b : Binding) : Element :=
  .mk "p" [className "mt-1 text-sm text-red-500"] [.expr (errorExpr b)]

/-- The label above a control. -/
def labelAbove (b : Binding) : Element :=
  .mk "label" [attr "htmlFor" b.key, className "block text-sm font-medium text-gray-600 mb-1"]
    [.text (caption b)]

/-- The attributes that bind a control to its key and its value. -/
def bound (b : Binding) : List Attr :=
  [attr "id" b.key, attr "name" b.key, dynamic "value" (valueExpr b),
    dynamic "onChange" "handleChange"] ++
  switch "required" b.required ++ [dynamic "className" (inputStyle (errorExpr b))]

/-- The attributes of a box to tick. -/
def tickBoxAttrs (b : Binding) : List Attr :=
  [attr "type" "checkbox", attr "name" b.key,
    dynamic "checked" (valueExpr b ++ " === " ++ Json.quote tickedValue),
    dynamic "onChange" "handleChange"] ++
  switch "required" b.required ++ [dynamic "className" (tickBoxStyle (errorExpr b))]

/-- A box to tick inside its label. -/
def tickBox (b : Binding) : Element :=
  .mk "label" [className "inline-flex items-center"] [
    .element (.mk "input" (tickBoxAttrs b) []),
    .element (.mk "span" [className "ml-2 text-sm text-gray-600"] [.text (caption b)])]

/-- The control of a field with its label. -/
def controls (b : Binding) : List Element :=
  match b.control with
  | .checkbox => [tickBox b]
  | .textArea => [labelAbove b, .mk "textarea" (bound b ++ [dynamic "rows" "4"]) []]
  | .input type => [labelAbove b, .mk "input" (attr "type" type :: bound b) []]

/-- The group of a field. -/
def group (b : Binding) : Element :=
  .mk "div" [className "mb-4"]
    ((controls b).map .element ++ [.conditional (errorExpr b) (complaint b)])

/-! ## The whole -/

/-- The heading and the line under it. -/
def header (heading subtitle : String) : Element :=
  .mk "div" [className "text-center"] [
    .element (.mk "h2" [className "text-3xl font-semibold text-gray-800"] [.text heading]),
    .element (.mk "p" [className "mt-2 text-sm text-gray-500"] [.text subtitle])]

/-- The button at the end of the form. -/
def button : Element :=
  .mk "button"
    [attr "type" "submit", dynamic "disabled" "isSubmitting", dynamic "className" buttonStyle]
    [.expr "isSubmitting ? \"Submitting...\" : \"Submit\""]

/-- The groups of the fields and the button. -/
def formElement (bs : List Binding) : Element :=
  .mk "form" [dynamic "onSubmit" "handleSubmit", className "mt-8 space-y-4"]
    (bs.map (fun b => .element (group b)) ++
      [.element (.mk "div" [className "pt-4"] [.element button])])

/-- The page of a form. -/
def page (o : Options) (f : Form) : Element :=
  .mk "div"
    [className ("min-h-screen bg-gray-50 flex items-center justify-center py-12 px-4 " ++
      "sm:px-6 lg:px-8")]
    [.element (.mk "div"
      [className "max-w-md w-full space-y-8 bg-white p-8 rounded-xl shadow-sm"]
      [.element (header f.heading o.subtitle), .element (formElement f.bindings)])]

end Formwork.Component
