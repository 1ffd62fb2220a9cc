import Waybill.Template

/-!
# Reading templates

A template is read from left to right. Text without braces is a literal piece, as long as possible.
A `{` opens a group that ends at the next `}`; what stands between is split at its first `=` into a
name and a default, both trimmed of blanks. A `}` outside a group is an error.

The first offending brace or group decides the error. Its position counts bytes, so the scan carries
the number of bytes before it.

## Main definitions

* `Waybill.Template.Group` — a name and a default, as text.
* `Waybill.Template.group` — what stands between two braces, checked.
* `Waybill.Template.scan` — the pieces of a list of characters.
* `Waybill.Template.parse` — a text as a template.
-/

namespace Waybill.Template

/-- Characters that are no braces. -/
def isPlain (c : Char) : Bool := c != '{' && c != '}'

/-- Why a group is refused. -/
inductive GroupFault where
  | misplaced (reason : Misplaced)
  | badDefault (name default : String)
deriving DecidableEq, Repr

/-- Defaults that cannot stand in a path as they are. -/
def isBadDefault (default : List Char) : Bool :=
  default.isEmpty || default.contains '{' || isDotSegment (String.ofList default)

/-- The name and the default between two braces. A name is made of ASCII letters, digits and
underscores. -/
def group (body : List Char) : Except GroupFault Segment :=
  let name := trim (body.takeWhile (· != '='))
  let default? := match body.dropWhile (· != '=') with
    | [] => none
    | _ :: rest => some (trim rest)
  if name.isEmpty then .error (.misplaced .emptyName)
  else if !name.all Ascii.isWord then .error (.misplaced .invalidName)
  else match default? with
    | none => .ok (.placeholder (String.ofList name) none)
    | some default =>
      if isBadDefault default then
        .error (.badDefault (String.ofList name) (String.ofList default))
      else .ok (.placeholder (String.ofList name) (some (String.ofList default)))

/-- What a scan reports: a structural fault at a byte, or a bad default. -/
inductive ScanFault where
  | misplaced (position : Nat) (reason : Misplaced)
  | badDefault (name default : String)
deriving DecidableEq, Repr

/-- A group's fault, placed at the brace that opens the group. -/
def GroupFault.at (position : Nat) : GroupFault → ScanFault
  | .misplaced reason => .misplaced position reason
  | .badDefault name default => .badDefault name default

/-- The pieces of a list of characters that starts at the given byte. -/
def scan (position : Nat) (cs : List Char) : Except ScanFault (List Segment) :=
  match cs with
  | [] => .ok []
  | c :: rest =>
    if c == '}' then .error (.misplaced position .unmatched)
    else if c == '{' then
      let body := rest.takeWhile (· != '}')
      match h : rest.dropWhile (· != '}') with
      | [] => .error (.misplaced position .unclosed)
      | _ :: after =>
        match group body with
        | .error fault => .error (fault.at position)
        | .ok segment => (scan (position + Utf8.width body + 2) after).map (segment :: ·)
    else
      let text := c :: rest.takeWhile isPlain
      (scan (position + Utf8.width text) (rest.dropWhile isPlain)).map
        (.literal (String.ofList text) :: ·)
termination_by cs.length
decreasing_by
  · have := (List.dropWhile_sublist (l := rest) (· != '}')).length_le
    rw [h] at this
    simp only [List.length_cons] at this ⊢
    omega
  · have := (List.dropWhile_sublist (l := rest) isPlain).length_le
    simp only [List.length_cons]
    omega

/-- The error about a template for a fault of its scan. -/
def ScanFault.error (source : String) : ScanFault → TemplateError
  | .misplaced position reason => .malformed source position reason
  | .badDefault name default => .unsupportedDefault name default

/-- A text as a template. -/
def parse (source : String) : Except TemplateError Template :=
  match scan 0 source.toList with
  | .ok segments => .ok ⟨source, segments⟩
  | .error fault => .error (fault.error source)

end Waybill.Template
