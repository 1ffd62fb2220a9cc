import Mathlib.Data.List.Induction
import Mathlib.Data.List.Nodup
import Mathlib.Data.List.Perm.Subperm
import Waybill.Interception

/-!
# Histories of registrations

The hooks that a call meets are a function of what was registered so far. This module states that
function on the history alone, without the registry: under each key the latest registration counts,
and the patterns that occur in the URL of the call count in the order of their registration. A
registry that is built step by step agrees with it (`Registry.matching_ofEntries`).

Hooks on requests and hooks on responses are two such registries. A registration whose pattern
cannot be read is refused and belongs to neither.

## Main definitions

* `Waybill.Registry.Entry`, `Waybill.Registry.ofEntries` — the registry of a list of registrations.
* `Waybill.Registry.latest?`, `Waybill.Registry.occurring`, `Waybill.Registry.met` — the hooks that
  a call meets, read off the list of registrations.
* `Waybill.Registration`, `Waybill.Interceptors.ofHistory` — histories with hooks of both kinds.
* `Waybill.Interceptors.Reflects` — what a registry has to do with its history.

## Main results

* `Waybill.Registry.matching_ofEntries`: a registry finds the hooks that its history says.
* `Waybill.Registry.met_subperm`: a call meets each registration at most once.
* `Waybill.Interceptors.reflects_ofHistory`: every history is reflected by its registry.
-/

namespace Waybill

open List (Subperm)

namespace Registry

variable {α : Type}

/-- A registration of a hook of one kind, under a key or under a pattern. -/
inductive Entry (α : Type) where
  | exact (key : HookKey) (hook : α)
  | matching (pattern : Pattern) (hook : α)

namespace Entry

/-- The hook of a registration. -/
def hook : Entry α → α
  | exact _ hook => hook
  | matching _ hook => hook

/-- The hook of a registration under a given key. -/
def underKey? (key : HookKey) : Entry α → Option α
  | exact k hook => if k = key then some hook else none
  | matching _ _ => none

/-- The hook of a registration under a pattern that occurs in a URL. -/
def onPattern? (url : String) : Entry α → Option α
  | exact _ _ => none
  | matching pattern hook => if pattern.occursIn url then some hook else none

end Entry

/-- The registry after one more registration. -/
def add (r : Registry α) : Entry α → Registry α
  | .exact key hook => r.insert key hook
  | .matching pattern hook => r.insertPattern pattern hook

/-- The registry of registrations in their order. -/
def ofEntries (entries : List (Entry α)) : Registry α := entries.foldl add empty

/-- The hook of the latest registration under a key. -/
def latest? (key : HookKey) (entries : List (Entry α)) : Option α :=
  entries.reverse.findSome? (Entry.underKey? key)

/-- The hooks of all registrations under patterns that occur in a URL, in order. -/
def occurring (url : String) (entries : List (Entry α)) : List α :=
  entries.filterMap (Entry.onPattern? url)

/-- The keys that a call is looked up with, in order. -/
def keysOf (keys : LookupKeys) : List HookKey :=
  [.all, .url keys.resolved] ++ if keys.raw = keys.resolved then [] else [.url keys.raw]

/-- The hooks that a call meets, as the registrations say: the latest for all calls, the latest for
the URL of the call, the latest for the URL of its template if that is another one, and those of the
patterns. -/
def met (keys : LookupKeys) (entries : List (Entry α)) : List α :=
  ((keysOf keys).flatMap fun key => (latest? key entries).toList) ++ occurring keys.resolved entries

/-! ### One registration at a time -/

theorem ofEntries_concat (entries : List (Entry α)) (e : Entry α) :
    ofEntries (entries ++ [e]) = (ofEntries entries).add e := by
  simp only [ofEntries, List.foldl_append, List.foldl_cons, List.foldl_nil]

theorem latest?_concat (key : HookKey) (entries : List (Entry α)) (e : Entry α) :
    latest? key (entries ++ [e]) = (e.underKey? key).or (latest? key entries) := by
  rw [latest?, List.reverse_append, List.reverse_singleton, List.singleton_append,
    List.findSome?_cons]
  cases e.underKey? key <;> rfl

theorem occurring_concat (url : String) (entries : List (Entry α)) (e : Entry α) :
    occurring url (entries ++ [e]) = occurring url entries ++ (e.onPattern? url).toList := by
  cases h : e.onPattern? url <;> simp [occurring, List.filterMap_append, h]

theorem hook?_add (r : Registry α) (e : Entry α) (key : HookKey) :
    (r.add e).hook? key = (e.underKey? key).or (r.hook? key) := by
  cases e with
  | exact k hook =>
    by_cases h : key = k
    · simp [add, hook?_insert, Entry.underKey?, h]
    · simp [add, hook?_insert, Entry.underKey?, h, Ne.symm h]
  | matching pattern hook => rfl

theorem patterns_add (r : Registry α) (e : Entry α) (url : String) :
    ((r.add e).patterns.filter fun (pattern, _) => pattern.occursIn url).map (·.2) =
      (r.patterns.filter fun (pattern, _) => pattern.occursIn url).map (·.2) ++
        (e.onPattern? url).toList := by
  cases e with
  | exact key hook => simp [add, insert, Entry.onPattern?]
  | matching pattern hook =>
    by_cases h : pattern.occursIn url <;>
      simp [add, insertPattern, Entry.onPattern?, List.filter_append, h]

/-! ### Whole histories -/

theorem hook?_ofEntries (key : HookKey) (entries : List (Entry α)) :
    (ofEntries entries).hook? key = latest? key entries := by
  induction entries using List.reverseRecOn with
  | nil => rfl
  | append_singleton entries e ih => rw [ofEntries_concat, hook?_add, latest?_concat, ih]

theorem patterns_ofEntries (url : String) (entries : List (Entry α)) :
    ((ofEntries entries).patterns.filter fun (pattern, _) => pattern.occursIn url).map (·.2) =
      occurring url entries := by
  induction entries using List.reverseRecOn with
  | nil => rfl
  | append_singleton entries e ih => rw [ofEntries_concat, patterns_add, occurring_concat, ih]

/-- A registry finds the hooks that its history says. -/
theorem matching_ofEntries (keys : LookupKeys) (entries : List (Entry α)) :
    (ofEntries entries).matching keys = met keys entries := by
  rw [matching, met, patterns_ofEntries, hook?_ofEntries, hook?_ofEntries, hook?_ofEntries]
  by_cases h : keys.raw = keys.resolved <;> simp [keysOf, h]

theorem isEmpty_add (r : Registry α) (e : Entry α) : (r.add e).isEmpty = false := by
  cases e with
  | exact key hook =>
    have hne : (insertKey key hook r.exact).isEmpty = false := by
      cases r.exact with
      | nil => rfl
      | cons entry rest => simp only [insertKey]; split <;> rfl
    simp [add, insert, isEmpty, hne]
  | matching pattern hook => simp [add, insertPattern, isEmpty]

theorem isEmpty_ofEntries (entries : List (Entry α)) :
    (ofEntries entries).isEmpty = true ↔ entries = [] := by
  induction entries using List.reverseRecOn with
  | nil => exact iff_of_true rfl rfl
  | append_singleton entries e _ => simp [ofEntries_concat, isEmpty_add]

/-! ### No registration twice -/

/-- The hooks that keys find, each under the first entry with that key. -/
def found (keys : List HookKey) (entries : List (Entry α)) : List α :=
  keys.flatMap fun key => (entries.findSome? (Entry.underKey? key)).toList

theorem found_cons_of_notMem {keys : List HookKey} {k : HookKey} (hk : k ∉ keys) (hook : α)
    (rest : List (Entry α)) : found keys (.exact k hook :: rest) = found keys rest := by
  refine List.flatMap_congr fun key hkey => ?_
  have hne : k ≠ key := fun h => hk (h ▸ hkey)
  simp [Entry.underKey?, hne]

theorem found_cons_perm {keys : List HookKey} (hkeys : keys.Nodup) {k : HookKey} (hk : k ∈ keys)
    (hook : α) (rest : List (Entry α)) :
    (found keys (.exact k hook :: rest)).Perm (hook :: found (keys.erase k) rest) := by
  have hperm := (List.perm_cons_erase hk).flatMap_right fun key =>
    ((Entry.exact k hook :: rest).findSome? (Entry.underKey? key)).toList
  refine hperm.trans (List.Perm.of_eq ?_)
  rw [List.flatMap_cons]
  have htail := found_cons_of_notMem (hkeys.not_mem_erase (a := k)) hook rest
  simp only [found] at htail
  rw [htail]
  simp [found, Entry.underKey?]

/-- Different keys find different registrations, and none that is under a pattern. -/
theorem found_subperm (url : String) (entries : List (Entry α)) {keys : List HookKey}
    (hkeys : keys.Nodup) :
    Subperm (found keys entries ++ entries.filterMap (Entry.onPattern? url))
      (entries.map Entry.hook) := by
  induction entries generalizing keys with
  | nil => simp [found]
  | cons e rest ih =>
    cases e with
    | exact k hook =>
      by_cases hk : k ∈ keys
      · have hperm := (found_cons_perm hkeys hk hook rest).append_right
          (rest.filterMap (Entry.onPattern? url))
        exact hperm.subperm.trans ((List.subperm_cons hook).mpr (ih (hkeys.erase k)))
      · rw [found_cons_of_notMem hk]
        exact (ih hkeys).cons_right hook
    | matching pattern hook =>
      have hfound : found keys (.matching pattern hook :: rest) = found keys rest := rfl
      rw [hfound, List.filterMap_cons]
      by_cases h : pattern.occursIn url
      · simp only [Entry.onPattern?, h, if_true]
        exact List.perm_middle.subperm.trans ((List.subperm_cons hook).mpr (ih hkeys))
      · simp only [Entry.onPattern?, h]
        exact (ih hkeys).cons_right hook

theorem keysOf_nodup (keys : LookupKeys) : (keysOf keys).Nodup := by
  by_cases h : keys.raw = keys.resolved
  · simp [keysOf, h]
  · simp [keysOf, h, Ne.symm h]

/-- A call meets each registration at most once. -/
theorem met_subperm (keys : LookupKeys) (entries : List (Entry α)) :
    Subperm (met keys entries) (entries.map Entry.hook) := by
  have hreverse := found_subperm keys.resolved entries.reverse (keysOf_nodup keys)
  have hpatterns : (entries.reverse.filterMap (Entry.onPattern? keys.resolved)).Perm
      (occurring keys.resolved entries) := (List.reverse_perm entries).filterMap _
  have hhooks : (entries.reverse.map Entry.hook).Perm (entries.map Entry.hook) :=
    (List.reverse_perm entries).map _
  exact ((hpatterns.symm.append_left _).subperm.trans hreverse).trans hhooks.subperm

end Registry

/-! ### Hooks of both kinds -/

/-- A registration of a hook on requests or on responses, under a key or under the text of a
pattern. -/
inductive Registration where
  | beforeSend (key : HookKey) (hook : Request → Request)
  | onResponse (key : HookKey) (hook : Response → Response)
  | beforeSendMatching (pattern : String) (hook : Request → Request)
  | onResponseMatching (pattern : String) (hook : Response → Response)

namespace Registration

/-- The registry with a registration, unless that is refused. -/
def perform (i : Interceptors) : Registration → Outcome Interceptors
  | beforeSend key hook => .ok (i.registerBeforeSend key hook)
  | onResponse key hook => .ok (i.registerOnResponse key hook)
  | beforeSendMatching pattern hook => i.registerBeforeSendMatching pattern hook
  | onResponseMatching pattern hook => i.registerOnResponseMatching pattern hook

/-- The registry after a registration. One that is refused leaves it as it was. -/
def after (i : Interceptors) (r : Registration) : Interceptors :=
  match r.perform i with
  | .ok i => i
  | .error _ => i

/-- The pattern of a text, if it can be read. -/
def pattern? (source : String) : Option Pattern :=
  match Pattern.read source with
  | .ok pattern => some pattern
  | .error _ => none

/-- What a registration adds to the hooks on requests. -/
def onRequests? : Registration → Option (Registry.Entry (Request → Request))
  | beforeSend key hook => some (.exact key hook)
  | beforeSendMatching pattern hook => (pattern? pattern).map (.matching · hook)
  | _ => none

/-- What a registration adds to the hooks on responses. -/
def onResponses? : Registration → Option (Registry.Entry (Response → Response))
  | onResponse key hook => some (.exact key hook)
  | onResponseMatching pattern hook => (pattern? pattern).map (.matching · hook)
  | _ => none

/-- Whether a registration is for requests. -/
def isForRequests : Registration → Bool
  | beforeSend _ _ => true
  | beforeSendMatching _ _ => true
  | _ => false

/-- What a registration does: it adds its entry to the hooks of its kind, or it is refused and adds
nothing to either. -/
theorem perform_cases (i : Interceptors) (r : Registration) :
    (r.perform i = .ok ⟨(r.onRequests?.map i.beforeSend.add).getD i.beforeSend,
        (r.onResponses?.map i.onResponse.add).getD i.onResponse⟩ ∧
      ¬(r.onRequests? = none ∧ r.onResponses? = none)) ∨
    ((∃ f, r.perform i = .error f) ∧ r.onRequests? = none ∧ r.onResponses? = none) := by
  cases r with
  | beforeSend key hook => exact .inl ⟨rfl, by simp [onRequests?]⟩
  | onResponse key hook => exact .inl ⟨rfl, by simp [onResponses?]⟩
  | beforeSendMatching source hook =>
    cases h : Pattern.read source <;>
      simp [perform, onRequests?, onResponses?, pattern?, readPattern, Except.map,
        Interceptors.registerBeforeSendMatching, Registry.add, h]
  | onResponseMatching source hook =>
    cases h : Pattern.read source <;>
      simp [perform, onRequests?, onResponses?, pattern?, readPattern, Except.map,
        Interceptors.registerOnResponseMatching, Registry.add, h]

/-- A registration changes the hooks of its own kind only. -/
theorem after_eq (i : Interceptors) (r : Registration) :
    r.after i = ⟨(r.onRequests?.map i.beforeSend.add).getD i.beforeSend,
      (r.onResponses?.map i.onResponse.add).getD i.onResponse⟩ := by
  rcases perform_cases i r with ⟨h, -⟩ | ⟨⟨f, h⟩, hrequests, hresponses⟩
  · rw [after, h]
  · rw [after, h, hrequests, hresponses]
    rfl

/-- A registration is refused exactly when it has nothing to add. -/
theorem perform_error_iff (i : Interceptors) (r : Registration) :
    (∃ f, r.perform i = .error f) ↔ r.onRequests? = none ∧ r.onResponses? = none := by
  rcases perform_cases i r with ⟨h, hadds⟩ | ⟨h, hnone⟩
  · simp [h, hadds]
  · exact iff_of_true h hnone

theorem after_eq_self_of_error {i : Interceptors} {r : Registration} {f : Failure}
    (h : r.perform i = .error f) : r.after i = i := by
  rw [after, h]

end Registration

namespace Interceptors

/-- The registry that a history of registrations leads to. -/
def ofHistory (history : List Registration) : Interceptors :=
  history.foldl Registration.after .empty

theorem ofHistory_concat (history : List Registration) (r : Registration) :
    ofHistory (history ++ [r]) = r.after (ofHistory history) := by
  simp only [ofHistory, List.foldl_append, List.foldl_cons, List.foldl_nil]

theorem beforeSend_ofHistory (history : List Registration) :
    (ofHistory history).beforeSend =
      .ofEntries (history.filterMap Registration.onRequests?) := by
  induction history using List.reverseRecOn with
  | nil => rfl
  | append_singleton history r ih =>
    rw [ofHistory_concat, Registration.after_eq, ih, List.filterMap_append]
    cases h : r.onRequests? <;> simp [h, Registry.ofEntries_concat]

theorem onResponse_ofHistory (history : List Registration) :
    (ofHistory history).onResponse =
      .ofEntries (history.filterMap Registration.onResponses?) := by
  induction history using List.reverseRecOn with
  | nil => rfl
  | append_singleton history r ih =>
    rw [ofHistory_concat, Registration.after_eq, ih, List.filterMap_append]
    cases h : r.onResponses? <;> simp [h, Registry.ofEntries_concat]

/-- No hook is registered as long as every registration was refused when it was tried. -/
theorem isEmpty_ofHistory (history : List Registration) :
    (ofHistory history).isEmpty = true ↔
      ∀ earlier r later, history = earlier ++ r :: later →
        ∃ f, r.perform (ofHistory earlier) = .error f := by
  have hentries : (ofHistory history).isEmpty = true ↔
      ∀ r ∈ history, r.onRequests? = none ∧ r.onResponses? = none := by
    rw [isEmpty, beforeSend_ofHistory, onResponse_ofHistory, Bool.and_eq_true,
      Registry.isEmpty_ofEntries, Registry.isEmpty_ofEntries, List.filterMap_eq_nil_iff,
      List.filterMap_eq_nil_iff]
    exact ⟨fun h r hr => ⟨h.1 r hr, h.2 r hr⟩,
      fun h => ⟨fun r hr => (h r hr).1, fun r hr => (h r hr).2⟩⟩
  rw [hentries]
  constructor
  · rintro h earlier r later rfl
    exact (Registration.perform_error_iff _ r).mpr (h r (by simp))
  · intro h r hr
    obtain ⟨earlier, later, rfl⟩ := List.append_of_mem hr
    exact (Registration.perform_error_iff _ r).mp (h earlier r later rfl)

/-- What the registry of a history has to do with the history. -/
structure Reflects (history : List Registration) : Prop where
  /-- A request goes through the hooks that it meets according to the registrations for requests,
  in their order. -/
  requests : ∀ keys request, (ofHistory history).applyBeforeSend keys request =
    (Registry.met keys (history.filterMap Registration.onRequests?)).foldl
      (fun r hook => hook r) request
  /-- A response goes through the hooks that it meets according to the registrations for
  responses. -/
  responses : ∀ keys response, (ofHistory history).applyOnResponse keys response =
    (Registry.met keys (history.filterMap Registration.onResponses?)).foldl
      (fun r hook => hook r) response
  /-- No registration for requests is met twice. -/
  requestsOnce : ∀ keys, Subperm (Registry.met keys (history.filterMap Registration.onRequests?))
    ((history.filterMap Registration.onRequests?).map Registry.Entry.hook)
  /-- No registration for responses is met twice. -/
  responsesOnce : ∀ keys,
    Subperm (Registry.met keys (history.filterMap Registration.onResponses?))
      ((history.filterMap Registration.onResponses?).map Registry.Entry.hook)
  /-- Registrations for responses make no difference to requests. -/
  requestsApart : (ofHistory history).beforeSend =
    (ofHistory (history.filter Registration.isForRequests)).beforeSend
  /-- Registrations for requests make no difference to responses. -/
  responsesApart : (ofHistory history).onResponse =
    (ofHistory (history.filter fun r => !r.isForRequests)).onResponse
  /-- A registration whose pattern cannot be read fails as an invalid request, however the fault is
  worded, and changes nothing. -/
  refused : ∀ pattern fault, Pattern.read pattern = .error fault → ∀ r : Registration,
    ((∃ hook, r = .beforeSendMatching pattern hook) ∨
      ∃ hook, r = .onResponseMatching pattern hook) →
    (∃ wording, r.perform (ofHistory history) =
        .error (.invalidRequest ("invalid interception pattern: " ++ wording))) ∧
      ofHistory (history ++ [r]) = ofHistory history
  /-- A registration under a key takes the place of the one under this key, and of no other. -/
  requestsReplaced : ∀ key hook,
    (∀ key', (ofHistory (history ++ [.beforeSend key hook])).beforeSend.hook? key' =
      if key' = key then some hook else (ofHistory history).beforeSend.hook? key') ∧
    (ofHistory (history ++ [.beforeSend key hook])).beforeSend.patterns =
      (ofHistory history).beforeSend.patterns
  /-- The same for responses. -/
  responsesReplaced : ∀ key hook,
    (∀ key', (ofHistory (history ++ [.onResponse key hook])).onResponse.hook? key' =
      if key' = key then some hook else (ofHistory history).onResponse.hook? key') ∧
    (ofHistory (history ++ [.onResponse key hook])).onResponse.patterns =
      (ofHistory history).onResponse.patterns
  /-- The registry is empty as long as every registration was refused. -/
  empty : (ofHistory history).isEmpty = true ↔ ∀ earlier r later, history = earlier ++ r :: later →
    ∃ f, r.perform (ofHistory earlier) = .error f

/-- Every history is reflected by its registry. -/
theorem reflects_ofHistory (history : List Registration) : Reflects history where
  requests keys request := by
    rw [applyBeforeSend, beforeSend_ofHistory, Registry.matching_ofEntries]
  responses keys response := by
    rw [applyOnResponse, onResponse_ofHistory, Registry.matching_ofEntries]
  requestsOnce keys := Registry.met_subperm keys _
  responsesOnce keys := Registry.met_subperm keys _
  requestsApart := by
    rw [beforeSend_ofHistory, beforeSend_ofHistory, List.filterMap_filter]
    congr 2
    funext r
    cases r <;> rfl
  responsesApart := by
    rw [onResponse_ofHistory, onResponse_ofHistory, List.filterMap_filter]
    congr 2
    funext r
    cases r <;> rfl
  refused pattern fault hread r hr := by
    have herror : r.perform (ofHistory history) =
        .error (.invalidRequest ("invalid interception pattern: " ++ pattern)) := by
      rcases hr with ⟨hook, rfl⟩ | ⟨hook, rfl⟩
      · simp [Registration.perform, registerBeforeSendMatching, readPattern, hread, Except.map]
      · simp [Registration.perform, registerOnResponseMatching, readPattern, hread, Except.map]
    exact ⟨⟨pattern, herror⟩, by rw [ofHistory_concat, Registration.after_eq_self_of_error herror]⟩
  requestsReplaced key hook := by
    rw [ofHistory_concat]
    exact ⟨fun key' => Registry.hook?_insert _ key key' hook, rfl⟩
  responsesReplaced key hook := by
    rw [ofHistory_concat]
    exact ⟨fun key' => Registry.hook?_insert _ key key' hook, rfl⟩
  empty := isEmpty_ofHistory history

end Interceptors

end Waybill
