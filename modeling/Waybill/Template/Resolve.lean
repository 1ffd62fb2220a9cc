import Waybill.Template

/-!
# Filling templates in

A binding gives a placeholder a value, or says that it has none. A bound value is written; without
one the default stands in; a placeholder that is bound to no value and has no default is left empty,
and one that is not bound at all is an error.

Every value, a default included, is escaped so that it fills one path segment, and refused when it
is `.` or `..`, which a path would fold away however they are escaped.

## Main definitions

* `Waybill.Binding` — a placeholder's name and the value bound to it, if any.
* `Waybill.Template.valueOf` — the value that stands in for a placeholder.
* `Waybill.Template.resolve` — the path that a template stands for under bindings.
-/

namespace Waybill

/-- A placeholder's name and the value bound to it, if any. -/
abbrev Binding := String × Option String

namespace Template

/-- The value that stands in for a placeholder: of several bindings of its name the first counts. -/
def valueOf (bindings : List Binding) (name : String) (default : Option String) :
    Except TemplateError String :=
  match bindings.find? (·.1 == name), default with
  | some (_, some value), _ => .ok value
  | _, some default => .ok default
  | some (_, none), none => .ok ""
  | none, none => .error (.unbound name)

/-- A value as it is written into the path. -/
def written (name value : String) : Except TemplateError String :=
  if isDotSegment value then .error (.dotSegment name value) else .ok (Percent.segment value)

/-- What one piece contributes to the path. -/
def fill (bindings : List Binding) : Segment → Except TemplateError String
  | .literal text => .ok text
  | .placeholder name default => do written name (← valueOf bindings name default)

/-- What pieces contribute to the path, the first error winning. -/
def fillAll (bindings : List Binding) : List Segment → Except TemplateError String
  | [] => .ok ""
  | segment :: rest =>
    match fill bindings segment with
    | .error e => .error e
    | .ok text => (fillAll bindings rest).map (text ++ ·)

/-- The path that a template stands for under bindings. -/
def resolve (t : Template) (bindings : List Binding) : Except TemplateError String :=
  fillAll bindings t.segments

end Template

end Waybill
