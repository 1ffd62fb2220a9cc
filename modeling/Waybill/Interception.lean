import Waybill.Pattern.Read
import Waybill.Request
import Waybill.Response
import Waybill.Text.Quoted

/-!
# Hooks

Hooks change requests before they are sent and responses before they are looked at. A hook is kept
under a key, which stands for all calls or for one URL, or under a pattern. A call is looked up with
two URLs, the one it is sent to and the one of its template; it meets the hook for all calls, the
hook of the first URL, the hook of the second URL if that is another one, and then the hooks of all
patterns that occur in the first URL, in the order of their registration.

## Main definitions

* `Waybill.HookKey`, `Waybill.LookupKeys` — where hooks are kept, and what they are looked up with.
* `Waybill.Registry`, `Waybill.Registry.matching` — hooks of one kind, and those that a call meets.
* `Waybill.Interceptors` — hooks on requests and hooks on responses.

## Main results

* `Waybill.Registry.hook?_insert` — what is found after a registration.
-/

namespace Waybill

/-- What a hook is kept under. -/
inductive HookKey where
  /-- All calls. -/
  | all
  | url (text : String)
deriving DecidableEq, Repr

namespace HookKey

/-- The word for all calls. -/
def allWord : String := "all"

/-- The key of a URL; the word for all calls is the key for all calls. -/
def ofText (text : String) : HookKey := if text == allWord then all else url text

/-- The text of a key. -/
def text : HookKey → String
  | all => allWord
  | url text => text

end HookKey

/-- The URLs that a call is looked up with. -/
structure LookupKeys where
  /-- The URL that the request is for, with its query. -/
  resolved : String
  /-- The URL of the template. -/
  raw : String
deriving DecidableEq, Repr

/-- Hooks of one kind, by key and by pattern. -/
structure Registry (α : Type) where
  exact : List (HookKey × α)
  patterns : List (Pattern × α)

namespace Registry

variable {α : Type}

/-- No hooks. -/
def empty : Registry α := ⟨[], []⟩

/-- Whether there is no hook. -/
def isEmpty (r : Registry α) : Bool := r.exact.isEmpty && r.patterns.isEmpty

/-- Entries with a hook under a key, in the place of any other. -/
def insertKey (key : HookKey) (hook : α) : List (HookKey × α) → List (HookKey × α)
  | [] => [(key, hook)]
  | (k, h) :: rest => if k = key then (key, hook) :: rest else (k, h) :: insertKey key hook rest

/-- The hook under a key among entries. -/
def findKey (key : HookKey) : List (HookKey × α) → Option α
  | [] => none
  | (k, h) :: rest => if k = key then some h else findKey key rest

/-- The registry with a hook under a key, in the place of any other. -/
def insert (r : Registry α) (key : HookKey) (hook : α) : Registry α :=
  { r with exact := insertKey key hook r.exact }

/-- The registry with one more hook under a pattern. -/
def insertPattern (r : Registry α) (pattern : Pattern) (hook : α) : Registry α :=
  { r with patterns := r.patterns ++ [(pattern, hook)] }

/-- The hook under a key. -/
def hook? (r : Registry α) (key : HookKey) : Option α := findKey key r.exact

/-- The hooks that a call meets, in order. -/
def matching (r : Registry α) (keys : LookupKeys) : List α :=
  (r.hook? .all).toList ++ (r.hook? (.url keys.resolved)).toList ++
    (if keys.raw == keys.resolved then none else r.hook? (.url keys.raw)).toList ++
    (r.patterns.filter fun (pattern, _) => pattern.occursIn keys.resolved).map (·.2)

/-- The keys in order, then the patterns between slashes. -/
def describe (r : Registry α) : List String :=
  (r.exact.map (·.1.text)).mergeSort (fun a b => !(b < a)) ++
    r.patterns.map fun (pattern, _) => "/" ++ pattern.source ++ "/"

theorem findKey_insertKey (key key' : HookKey) (hook : α) (entries : List (HookKey × α)) :
    findKey key' (insertKey key hook entries) =
      if key' = key then some hook else findKey key' entries := by
  induction entries with
  | nil => by_cases h : key = key' <;> simp [insertKey, findKey, h, eq_comm]
  | cons entry rest ih =>
    obtain ⟨k, h⟩ := entry
    by_cases hk : k = key <;> by_cases hk' : k = key' <;> by_cases hkk : key = key' <;>
      simp_all [insertKey, findKey, eq_comm]

/-- A registration is found under its own key and changes nothing under any other. -/
theorem hook?_insert (r : Registry α) (key key' : HookKey) (hook : α) :
    (r.insert key hook).hook? key' = if key' = key then some hook else r.hook? key' :=
  findKey_insertKey key key' hook r.exact

end Registry

/-- Hooks on requests and hooks on responses. -/
structure Interceptors where
  beforeSend : Registry (Request → Request)
  onResponse : Registry (Response → Response)

/-- A pattern that cannot be read makes a registration invalid. What the reader of patterns says
about the fault is not modelled: the text of the pattern stands in its place behind the colon. -/
def readPattern (source : String) : Outcome Pattern :=
  match Pattern.read source with
  | .ok pattern => .ok pattern
  | .error _ => .error (.invalidRequest ("invalid interception pattern: " ++ source))

namespace Interceptors

/-- No hooks. -/
def empty : Interceptors := ⟨.empty, .empty⟩

/-- Whether there is no hook. -/
def isEmpty (i : Interceptors) : Bool := i.beforeSend.isEmpty && i.onResponse.isEmpty

/-- A hook on requests under a key. -/
def registerBeforeSend (i : Interceptors) (key : HookKey) (hook : Request → Request) :
    Interceptors :=
  { i with beforeSend := i.beforeSend.insert key hook }

/-- A hook on responses under a key. -/
def registerOnResponse (i : Interceptors) (key : HookKey) (hook : Response → Response) :
    Interceptors :=
  { i with onResponse := i.onResponse.insert key hook }

/-- A hook on requests to the URLs in which a pattern occurs. -/
def registerBeforeSendMatching (i : Interceptors) (pattern : String) (hook : Request → Request) :
    Outcome Interceptors :=
  (readPattern pattern).map fun p => { i with beforeSend := i.beforeSend.insertPattern p hook }

/-- A hook on responses from the URLs in which a pattern occurs. -/
def registerOnResponseMatching (i : Interceptors) (pattern : String)
    (hook : Response → Response) : Outcome Interceptors :=
  (readPattern pattern).map fun p => { i with onResponse := i.onResponse.insertPattern p hook }

/-- A request after all hooks that it meets. -/
def applyBeforeSend (i : Interceptors) (keys : LookupKeys) (request : Request) : Request :=
  (i.beforeSend.matching keys).foldl (fun r hook => hook r) request

/-- A response after all hooks that it meets. -/
def applyOnResponse (i : Interceptors) (keys : LookupKeys) (response : Response) : Response :=
  (i.onResponse.matching keys).foldl (fun r hook => hook r) response

/-- Texts between quotes, in brackets. -/
def quotedList (texts : List String) : String :=
  "[" ++ ", ".intercalate (texts.map Quoted.text) ++ "]"

/-- The registry as diagnostics show it. -/
def describe (i : Interceptors) : String :=
  "Interceptors \x7b before_send: " ++ quotedList i.beforeSend.describe ++
    ", on_response: " ++ quotedList i.onResponse.describe ++ " \x7d"

end Interceptors

end Waybill
