import Waybill.Configuration
import Waybill.Proofs.Interception.History

/-!
# Hooks that a call meets once

A hook under one of the keys that a call is looked up with stands in one place among the hooks that
the call meets, because these keys differ from each other. Without this hook the call meets the
others as before. Later registrations under other keys or under patterns do not change that.

The key of a hook for a path is the text of the endpoint of this path. That text has a colon if it
is a URL and a slash if it is none, so it is never the word for all calls. Slashes at the start of a
path are left out of the endpoint, so they make no difference to the key.

## Main definitions

* `Waybill.Registry.erase` — a registry without the hook under a key.
* `Waybill.Registry.hooksFor` — the hooks for a call, as they stand in the registry.
* `Waybill.Registry.MeetsOnce` — a call that meets the hook under a key exactly once.
* `Waybill.Configuration.HooksMeet` — hooks for a path that are met once by certain calls.

## Main results

* `Waybill.Registry.matching_eq_hooksFor`: a call meets the hooks that stand there for it.
* `Waybill.Registry.meetsOnce_of_hook?`: a hook under one of the keys of a call is met once.
* `Waybill.Interceptors.meetsOnce_registerBeforeSend`,
  `Waybill.Interceptors.meetsOnce_registerOnResponse`: registered hooks are met once.
* `Waybill.Configuration.hookKey_eq_url`: a path has the key of its endpoint.
* `Waybill.Configuration.hookKey_leadingSlashes`: slashes at the start make no difference.
* `Waybill.Configuration.hooksMeet_of_mem`: calls that are looked up with the key of a path meet its
  hooks once.
-/

namespace Waybill

namespace Registry

variable {α : Type}

/-- The registry without the hook under a key. -/
def erase (r : Registry α) (key : HookKey) : Registry α :=
  { r with exact := r.exact.filter fun (k, _) => k != key }

theorem findKey_filter (key key' : HookKey) (entries : List (HookKey × α)) :
    findKey key' (entries.filter fun (k, _) => k != key) =
      if key' = key then none else findKey key' entries := by
  induction entries with
  | nil => simp [findKey]
  | cons entry rest ih =>
    obtain ⟨k, hook⟩ := entry
    by_cases hk : k = key
    · rw [List.filter_cons_of_neg (by simp [hk]), ih, findKey]
      split
      · rfl
      · rename_i hne
        rw [if_neg (hk ▸ Ne.symm hne)]
    · rw [List.filter_cons_of_pos (by simp [hk]), findKey, findKey, ih]
      by_cases hk' : k = key'
      · rw [if_pos hk', if_pos hk', if_neg (hk' ▸ hk)]
      · rw [if_neg hk', if_neg hk']

theorem hook?_erase (r : Registry α) (key key' : HookKey) :
    (r.erase key).hook? key' = if key' = key then none else r.hook? key' :=
  findKey_filter key key' r.exact

/-- The hooks under keys, in the order of the keys. -/
def under (r : Registry α) (keys : List HookKey) : List α :=
  keys.filterMap fun key => r.exact.lookup key

/-- The hooks under patterns that occur in a URL. -/
def onPatterns (r : Registry α) (url : String) : List α :=
  (r.patterns.filter fun (pattern, _) => pattern.occursIn url).map (·.2)

/-- The hooks for a call, as they stand in the registry: those under its keys, and those under the
patterns that occur in its URL. -/
def hooksFor (r : Registry α) (keys : LookupKeys) : List α :=
  r.under (keysOf keys) ++ r.onPatterns keys.resolved

theorem findKey_eq_lookup (key : HookKey) (entries : List (HookKey × α)) :
    findKey key entries = entries.lookup key := by
  induction entries with
  | nil => rfl
  | cons entry rest ih =>
    obtain ⟨k, hook⟩ := entry
    rw [findKey, List.lookup_cons, ih]
    by_cases h : k = key
    · simp [h]
    · simp [h, beq_false_of_ne (Ne.symm h)]

theorem hook?_eq_lookup (r : Registry α) (key : HookKey) : r.hook? key = r.exact.lookup key :=
  findKey_eq_lookup key r.exact

theorem under_nil (r : Registry α) : r.under [] = [] := rfl

theorem under_cons (r : Registry α) (key : HookKey) (keys : List HookKey) :
    r.under (key :: keys) = (r.hook? key).toList ++ r.under keys := by
  rw [hook?_eq_lookup, under, List.filterMap_cons]
  cases r.exact.lookup key <;> rfl

/-- **A call meets the hooks that stand in the registry for it.** -/
theorem matching_eq_hooksFor (r : Registry α) (keys : LookupKeys) :
    r.matching keys = r.hooksFor keys := by
  by_cases h : keys.raw = keys.resolved <;>
    simp [matching, hooksFor, onPatterns, keysOf, under_cons, under_nil, h]

theorem under_append (r : Registry α) (earlier later : List HookKey) :
    r.under (earlier ++ later) = r.under earlier ++ r.under later :=
  List.filterMap_append

theorem under_erase_of_not_mem (r : Registry α) {key : HookKey} {keys : List HookKey}
    (h : key ∉ keys) : (r.erase key).under keys = r.under keys := by
  refine List.filterMap_congr fun key' hkey' => ?_
  have hne : key' ≠ key := fun heq => h (heq ▸ hkey')
  rw [← hook?_eq_lookup, ← hook?_eq_lookup, hook?_erase, if_neg hne]

/-- A call meets the hook under a key exactly once: it stands in one place among the hooks for the
call, and without it the call meets the others. -/
def MeetsOnce (r : Registry α) (key : HookKey) (hook : α) (keys : LookupKeys) : Prop :=
  ∃ before after, r.hooksFor keys = before ++ hook :: after ∧
    (r.erase key).hooksFor keys = before ++ after

/-- **A hook under one of the keys of a call is met once**, because no key is looked up twice. -/
theorem meetsOnce_of_hook? {r : Registry α} {key : HookKey} {hook : α} {keys : LookupKeys}
    (h : r.hook? key = some hook) (hkey : key ∈ keysOf keys) : r.MeetsOnce key hook keys := by
  obtain ⟨earlier, later, hkeys⟩ := List.append_of_mem hkey
  have hnodup := keysOf_nodup keys
  rw [hkeys] at hnodup
  have hearlier : key ∉ earlier := fun hmem =>
    (List.disjoint_of_nodup_append hnodup) hmem List.mem_cons_self
  have hlater : key ∉ later := (List.nodup_cons.mp hnodup.of_append_right).1
  refine ⟨r.under earlier, r.under later ++ r.onPatterns keys.resolved, ?_, ?_⟩
  · rw [hooksFor, hkeys, under_append, under_cons, h]
    simp
  · have herased : (r.erase key).hook? key = none := by rw [hook?_erase, if_pos rfl]
    have hpatterns : (r.erase key).onPatterns keys.resolved = r.onPatterns keys.resolved := rfl
    rw [hooksFor, hkeys, under_append, under_cons, herased, under_erase_of_not_mem r hearlier,
      under_erase_of_not_mem r hlater, hpatterns]
    simp

/-- Registrations under other keys or under patterns leave the hook under a key. -/
theorem hook?_foldl_add {key : HookKey} {entries : List (Entry α)}
    (h : ∀ e ∈ entries, e.underKey? key = none) (r : Registry α) :
    (entries.foldl add r).hook? key = r.hook? key := by
  induction entries generalizing r with
  | nil => rfl
  | cons e rest ih =>
    rw [List.foldl_cons, ih (fun e' he' => h e' (List.mem_cons_of_mem _ he')), hook?_add,
      h e List.mem_cons_self, Option.none_or]

/-- A hook that is registered under one of the keys of a call is met once, unless a later
registration takes its place. -/
theorem meetsOnce_foldl_add {key : HookKey} {keys : LookupKeys} (hkey : key ∈ keysOf keys)
    (r : Registry α) (hook : α) {later : List (Entry α)}
    (hlater : ∀ e ∈ later, e.underKey? key = none) :
    (later.foldl add (r.insert key hook)).MeetsOnce key hook keys := by
  refine meetsOnce_of_hook? ?_ hkey
  rw [hook?_foldl_add hlater, hook?_insert, if_pos rfl]

end Registry

namespace Interceptors

open Registration (onRequests? onResponses?)

theorem beforeSend_foldl_after (history : List Registration) (i : Interceptors) :
    (history.foldl Registration.after i).beforeSend =
      (history.filterMap onRequests?).foldl Registry.add i.beforeSend := by
  induction history generalizing i with
  | nil => rfl
  | cons r rest ih =>
    rw [List.foldl_cons, ih, Registration.after_eq, List.filterMap_cons]
    cases r.onRequests? <;> rfl

theorem onResponse_foldl_after (history : List Registration) (i : Interceptors) :
    (history.foldl Registration.after i).onResponse =
      (history.filterMap onResponses?).foldl Registry.add i.onResponse := by
  induction history generalizing i with
  | nil => rfl
  | cons r rest ih =>
    rw [List.foldl_cons, ih, Registration.after_eq, List.filterMap_cons]
    cases r.onResponses? <;> rfl

variable {key : HookKey} {keys : LookupKeys} {later : List Registration}

/-- A hook on requests that is registered under one of the keys of a call is met once. -/
theorem meetsOnce_registerBeforeSend (hkey : key ∈ Registry.keysOf keys) (i : Interceptors)
    (hook : Request → Request)
    (hlater : ∀ r ∈ later, ∀ e, onRequests? r = some e → e.underKey? key = none) :
    (later.foldl Registration.after (i.registerBeforeSend key hook)).beforeSend.MeetsOnce key hook
      keys := by
  rw [beforeSend_foldl_after]
  exact Registry.meetsOnce_foldl_add hkey _ hook (List.forall_mem_filterMap.mpr hlater)

/-- A hook on responses that is registered under one of the keys of a call is met once. -/
theorem meetsOnce_registerOnResponse (hkey : key ∈ Registry.keysOf keys) (i : Interceptors)
    (hook : Response → Response)
    (hlater : ∀ r ∈ later, ∀ e, onResponses? r = some e → e.underKey? key = none) :
    (later.foldl Registration.after (i.registerOnResponse key hook)).onResponse.MeetsOnce key hook
      keys := by
  rw [onResponse_foldl_after]
  exact Registry.meetsOnce_foldl_add hkey _ hook (List.forall_mem_filterMap.mpr hlater)

end Interceptors

end Waybill

namespace Waybill.Configuration

/-! ### The key of a path -/

theorem colon_mem_write (u : Url) : ':' ∈ u.write.toList := by
  simp [Url.write]

theorem slash_mem_endpointText (c : Configuration) (path : String) :
    '/' ∈ (c.endpointText path).toList := by
  simp [endpointText]

theorem endpointKey_of_ok {c : Configuration} {path : String} {u : Url}
    (h : c.endpoint path = .ok u) : c.endpointKey path = u.write := by
  rw [endpointKey, h]

theorem endpointKey_ne_allWord (c : Configuration) (path : String) :
    c.endpointKey path ≠ HookKey.allWord := by
  intro h
  rw [endpointKey] at h
  split at h
  · rename_i u _
    have hcolon := colon_mem_write u
    rw [h] at hcolon
    revert hcolon
    decide
  · have hslash := slash_mem_endpointText c path
    rw [h] at hslash
    revert hslash
    decide

/-- **A path has the key of its endpoint**, never the one for all calls. -/
theorem hookKey_eq_url (c : Configuration) (path : String) :
    c.hookKey (some path) = .url (c.endpointKey path) := by
  have hne : (c.endpointKey path == HookKey.allWord) = false :=
    beq_eq_false_iff_ne.mpr (endpointKey_ne_allWord c path)
  rw [hookKey, HookKey.ofText, hne]
  rfl

theorem withoutLeadingSlashes_append (n : Nat) (path : String) :
    withoutLeadingSlashes (String.ofList (List.replicate n '/') ++ path) =
      withoutLeadingSlashes path := by
  have hslashes : ∀ x ∈ List.replicate n '/', (x == '/') = true := by simp
  rw [withoutLeadingSlashes, withoutLeadingSlashes, String.toList_append, String.toList_ofList,
    List.dropWhile_append_of_pos hslashes]

/-- **Slashes at the start of a path make no difference** to its key. -/
theorem hookKey_leadingSlashes (c : Configuration) (n : Nat) (path : String) :
    c.hookKey (some (String.ofList (List.replicate n '/') ++ path)) = c.hookKey (some path) := by
  have htext : c.endpointText (String.ofList (List.replicate n '/') ++ path) =
      c.endpointText path := by
    rw [endpointText, endpointText, withoutLeadingSlashes_append]
  rw [hookKey_eq_url, hookKey_eq_url, endpointKey, endpointKey, endpoint, endpoint, htext]

/-! ### Meeting the hooks of a path -/

open Registration (onRequests? onResponses?)

/-- Hooks for a path, on requests and on responses, are met exactly once by the calls that are
looked up with certain keys, unless a later registration takes the place of the hook. -/
structure HooksMeet (c : Configuration) (path : String) (keys : LookupKeys) : Prop where
  requests : ∀ i hook (later : List Registration),
    (∀ r ∈ later, ∀ e, onRequests? r = some e → e.underKey? (c.hookKey (some path)) = none) →
    (later.foldl Registration.after (c.registerBeforeSend i (some path) hook)).beforeSend.MeetsOnce
      (c.hookKey (some path)) hook keys
  responses : ∀ i hook (later : List Registration),
    (∀ r ∈ later, ∀ e, onResponses? r = some e → e.underKey? (c.hookKey (some path)) = none) →
    (later.foldl Registration.after (c.registerOnResponse i (some path) hook)).onResponse.MeetsOnce
      (c.hookKey (some path)) hook keys

/-- Calls that are looked up with the key of a path meet its hooks once. -/
theorem hooksMeet_of_mem {c : Configuration} {path : String} {keys : LookupKeys}
    (h : c.hookKey (some path) ∈ Registry.keysOf keys) : c.HooksMeet path keys where
  requests i hook _ hlater := i.meetsOnce_registerBeforeSend h hook hlater
  responses i hook _ hlater := i.meetsOnce_registerOnResponse h hook hlater

theorem hooksMeet_of_resolved {c : Configuration} {path resolved raw : String}
    (h : c.hookKey (some path) = .url resolved) : c.HooksMeet path ⟨resolved, raw⟩ := by
  refine hooksMeet_of_mem ?_
  rw [h, Registry.keysOf]
  simp

theorem hooksMeet_of_raw {c : Configuration} {path resolved raw : String}
    (h : c.hookKey (some path) = .url raw) : c.HooksMeet path ⟨resolved, raw⟩ := by
  refine hooksMeet_of_mem ?_
  rw [h, Registry.keysOf]
  by_cases heq : raw = resolved <;> simp [heq]

end Waybill.Configuration
