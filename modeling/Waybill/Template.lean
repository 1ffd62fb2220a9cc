import Waybill.Percent
import Waybill.Text.Blank

/-!
# Path templates

A template is a path with placeholders, such as `/posts/{id=2}/comments`. A placeholder is `{name}`
or `{name=default}`; the default is the literal that stands in when no value is bound.

This module holds the type of templates, their textual forms and the errors about them. Reading a
template is `Waybill.Template.parse`, filling it in is `Waybill.Template.resolve`; each has a module
of its own.

## Main definitions

* `Waybill.Segment`, `Waybill.Template` — literal text and placeholders in order, with the source.
* `Waybill.Template.placeholders`, `Waybill.Template.default?`, `Waybill.Template.raw` — views.
* `Waybill.TemplateError` — why a template is refused, or cannot be filled in.
-/

namespace Waybill

/-- One piece of a template. -/
inductive Segment where
  /-- Text that is copied as it is. -/
  | literal (text : String)
  /-- A place for a value, with the literal that stands in for a missing one. -/
  | placeholder (name : String) (default : Option String)
deriving DecidableEq, Repr

/-- A path with placeholders: the text it was read from and its pieces in order. -/
structure Template where
  source : String
  segments : List Segment
deriving DecidableEq, Repr

/-- What is wrong with a brace or with the group it opens. -/
inductive Misplaced where
  | unclosed
  | emptyName
  | invalidName
  | unmatched
deriving DecidableEq, Repr

/-- The wording of a structural fault. -/
def Misplaced.message : Misplaced → String
  | .unclosed => "unclosed `\x7b`"
  | .emptyName => "empty placeholder name"
  | .invalidName => "invalid placeholder name"
  | .unmatched => "unmatched `\x7d`"

/-- Why a template is refused, or cannot be filled in. -/
inductive TemplateError where
  /-- The brace at the given byte of the template is misplaced. -/
  | malformed (template : String) (position : Nat) (reason : Misplaced)
  /-- A default that is empty, holds a brace, or is a dot segment. -/
  | unsupportedDefault (name default : String)
  /-- A value that a path would fold away. -/
  | dotSegment (name value : String)
  /-- A placeholder with neither a value nor a default. -/
  | unbound (name : String)
deriving DecidableEq, Repr

/-- The name of an error without its details. -/
def TemplateError.name : TemplateError → String
  | .malformed _ _ _ => "Malformed"
  | .unsupportedDefault _ _ => "UnsupportedDefault"
  | .dotSegment _ _ => "DotSegment"
  | .unbound _ => "Unbound"

/-- The wording of an error. -/
def TemplateError.message : TemplateError → String
  | .malformed template position reason => s!"{reason.message} at byte {position} in `{template}`"
  | .unsupportedDefault name default =>
    s!"default `{default}` of placeholder `{name}` is not a literal"
  | .dotSegment name value => s!"value `{value}` of placeholder `{name}` is a dot segment"
  | .unbound name => s!"placeholder `{name}` has no value and no default"

namespace Segment

/-- A piece without its default. -/
def bare : Segment → Segment
  | literal text => literal text
  | placeholder name _ => placeholder name none

/-- A piece as it is written in a template without defaults. -/
def raw : Segment → String
  | literal text => text
  | placeholder name _ => "\x7b" ++ name ++ "\x7d"

/-- The name and default of a placeholder. -/
def placeholder? : Segment → Option (String × Option String)
  | literal _ => none
  | placeholder name default => some (name, default)

end Segment

/-- The texts `.` and `..`, which are steps of a path and not names in it. -/
def isDotSegment (s : String) : Bool := s == "." || s == ".."

namespace Template

/-- The placeholders with their defaults, in order. -/
def placeholders (t : Template) : List (String × Option String) :=
  t.segments.filterMap Segment.placeholder?

/-- The names of the placeholders, in order. -/
def names (t : Template) : List String := t.placeholders.map (·.1)

/-- The default of the first placeholder with the given name. -/
def default? (t : Template) (name : String) : Option String :=
  (t.placeholders.find? fun (candidate, _) => candidate == name).bind (·.2)

/-- The template as written, but without defaults. -/
def raw (t : Template) : String := String.join (t.segments.map Segment.raw)

end Template

end Waybill
