import Waybill.Text.Ascii

/-!
# Header lists

A header list keeps its entries in the order in which their names were first written, and finds them
by name in any ASCII case. Writing a name again replaces the value in place and keeps the first
spelling, so that no two entries have the same name.

## Main definitions

* `Waybill.Headers` — names with their values, in order.
* `Waybill.Headers.value?`, `Waybill.Headers.has` — lookup.
* `Waybill.Headers.set`, `Waybill.Headers.setAll` — writing one entry, and several in order.
* `Waybill.Headers.setDefault` — writing an entry only where there is none of its name.
-/

namespace Waybill

/-- Names with their values, in order. -/
abbrev Headers := List (String × String)

/-- The name of the header that says what a body holds. -/
def contentTypeName : String := "Content-Type"

namespace Headers

/-- The value under a name. -/
def value? (headers : Headers) (name : String) : Option String :=
  (headers.find? fun (candidate, _) => Ascii.sameFold candidate name).map (·.2)

/-- Whether there is an entry of a name. -/
def has (headers : Headers) (name : String) : Bool :=
  headers.any fun (candidate, _) => Ascii.sameFold candidate name

/-- The list with a value written under a name: in place if the name is there, else at the end. -/
def set : Headers → String → String → Headers
  | [], name, value => [(name, value)]
  | (candidate, old) :: rest, name, value =>
    if Ascii.sameFold candidate name then (candidate, value) :: rest
    else (candidate, old) :: set rest name value

/-- The list with several values written in order. -/
def setAll (headers : Headers) (entries : List (String × String)) : Headers :=
  entries.foldl (fun acc (name, value) => acc.set name value) headers

/-- The list with a value written under a name unless there is one. -/
def setDefault (headers : Headers) (name value : String) : Headers :=
  if headers.has name then headers else headers ++ [(name, value)]

@[simp] theorem setAll_nil (headers : Headers) : setAll headers [] = headers := rfl

@[simp] theorem setAll_cons (headers : Headers) (name value : String)
    (entries : List (String × String)) :
    setAll headers ((name, value) :: entries) = setAll (headers.set name value) entries := rfl

theorem setAll_append (headers : Headers) (xs ys : List (String × String)) :
    setAll headers (xs ++ ys) = setAll (setAll headers xs) ys := by
  simp [setAll]

end Headers

end Waybill
