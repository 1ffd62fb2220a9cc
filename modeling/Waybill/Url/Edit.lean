import Waybill.Url.Read

/-!
# Editing URLs

Hooks may replace the path or the query of a request's URL. The new text is read as that component
alone: a `?` or `#` in it has no meaning and is escaped. The text before the component stays as it
is written, also where it would no longer be read back as the same components.

## Main definitions

* `Waybill.Url.setPath`, `Waybill.Url.setQuery`.
-/

namespace Waybill.Url

/-- A text read as a path that is no list of segments. -/
def flatPath (cs : List Char) : List Char :=
  let encode (cs : List Char) := Percent.encode Ascii.isControl (significant cs)
  match cs with
  | '/' :: rest => "%2F".toList ++ encode rest
  | _ => encode cs

/-- A text read as a path that is a list of segments. Outside the special schemes a mark that would
end the path leaves it empty. -/
def segmentedPath (site : Site) (cs : List Char) : List Char :=
  match next? cs with
  | some (c, _) =>
    if !site.kind.isSpecial && (c == '?' || c == '#') then [] else (site.readPathStart cs).1
  | none => (site.readPathStart cs).1

/-- The URL with another path. A URL whose path is no list of segments keeps it so. -/
def setPath (u : Url) (path : String) : Url :=
  let site : Site := ⟨schemeKind u.scheme, u.host == some .empty⟩
  let cs := if u.isFlat then flatPath path.toList else segmentedPath site path.toList
  { u with path := String.ofList cs }

/-- A text without the spaces at its end. -/
def withoutFinalSpaces (text : String) : String :=
  String.ofList (text.toList.reverse.dropWhile (· == ' ')).reverse

/-- The URL with another query, or without one. Spaces at the end of a path that is no list of
segments go with the query, unless a fragment follows. -/
def setQuery (u : Url) (query : Option String) : Url :=
  match query with
  | some q =>
    { u with query := some (String.ofList
        (Percent.encode (querySetOf u.scheme) (significant q.toList))) }
  | none =>
    let path :=
      if u.isFlat && u.fragment.isNone then withoutFinalSpaces u.path else u.path
    { u with query := none, path }

end Waybill.Url
