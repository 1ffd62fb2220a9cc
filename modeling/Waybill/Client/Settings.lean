import Waybill.Number.Decimal

/-!
# Client settings

How long a client waits and how many connections it keeps. Settings are drafted one by one; what a
draft leaves open has a default. Times are in milliseconds.

## Main definitions

* `Waybill.Settings`, `Waybill.Settings.standard` — settings and their defaults.
* `Waybill.SettingsDraft`, `Waybill.SettingsDraft.complete`.
* `Waybill.durationText` — a time as diagnostics show it.
-/

namespace Waybill

/-- How long a client waits and how many connections it keeps. -/
structure Settings where
  timeout : Nat
  connectTimeout : Nat
  idlePerHost : Nat
  idleTimeout : Nat
deriving DecidableEq, Repr

/-- The settings of a client for which nothing else is said. -/
def Settings.standard : Settings := ⟨30000, 10000, 32, 90000⟩

/-- Settings of which some may be left open. -/
structure SettingsDraft where
  timeout : Option Nat
  connectTimeout : Option Nat
  idlePerHost : Option Nat
  idleTimeout : Option Nat
deriving DecidableEq, Repr

/-- The draft that leaves everything open. -/
def SettingsDraft.blank : SettingsDraft := ⟨none, none, none, none⟩

/-- The settings of a draft, with defaults for what it leaves open. -/
def SettingsDraft.complete (d : SettingsDraft) : Settings :=
  ⟨d.timeout.getD Settings.standard.timeout, d.connectTimeout.getD Settings.standard.connectTimeout,
    d.idlePerHost.getD Settings.standard.idlePerHost,
    d.idleTimeout.getD Settings.standard.idleTimeout⟩

/-- The digits of a fraction in thousandths, without zeros at the end. -/
def fractionText (thousandths : Nat) : String :=
  let digits := (toString (1000 + thousandths)).toList.drop 1
  match (digits.reverse.dropWhile (· == '0')).reverse with
  | [] => ""
  | kept => "." ++ String.ofList kept

/-- A time in its largest unit that is not above it. -/
def durationText (milliseconds : Nat) : String :=
  if milliseconds == 0 then "0ns"
  else if milliseconds < 1000 then s!"{milliseconds}ms"
  else s!"{milliseconds / 1000}" ++ fractionText (milliseconds % 1000) ++ "s"

/-- An optional value as diagnostics show it. -/
def optionText {α : Type} (write : α → String) : Option α → String
  | some a => "Some(" ++ write a ++ ")"
  | none => "None"

/-- Named values in braces, as diagnostics show them. -/
def recordText (name : String) (fields : List (String × String)) : String :=
  name ++ " \x7b " ++ ", ".intercalate (fields.map fun (field, text) => field ++ ": " ++ text) ++
    " \x7d"

/-- Settings as diagnostics show them. -/
def Settings.describe (s : Settings) : String :=
  recordText "ClientConfig" [("timeout", durationText s.timeout),
    ("connect_timeout", durationText s.connectTimeout),
    ("pool_max_idle_per_host", toString s.idlePerHost),
    ("pool_idle_timeout", durationText s.idleTimeout)]

/-- A draft as diagnostics show it. -/
def SettingsDraft.describe (d : SettingsDraft) : String :=
  recordText "ClientConfigBuilder" [("timeout", optionText durationText d.timeout),
    ("connect_timeout", optionText durationText d.connectTimeout),
    ("pool_max_idle_per_host", optionText toString d.idlePerHost),
    ("pool_idle_timeout", optionText durationText d.idleTimeout)]

end Waybill
