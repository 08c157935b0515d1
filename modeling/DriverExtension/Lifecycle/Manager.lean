import DriverExtension.Lifecycle.Delegate

namespace DriverExtension

open Log

/-!
# Managers

A manager submits requests to the system.  Accepting a request only means that it was handed over;
what becomes of it arrives later through its delegate.

* `recorder` keeps the delegates for whoever plays the system, or refuses every request;
* `platform` stands for systems without extensions and refuses every request;
* `scripted` makes given callbacks at once, then accepts or refuses.
-/

/-- Something that requests are submitted to. -/
inductive Manager where
  | recorder (refusal : Option String) (submitted : List Delegate)
  | platform
  | scripted (script : List Callback) (refuses : Bool)
deriving DecidableEq

namespace Manager

/-- The name of a manager in logs. -/
def name : Manager → String
  | .platform => "unsupported"
  | _ => "mock"

/-- The target of records of the platform manager. -/
def platformTarget : String := "dext_installer::backend::unsupported"

/-- The record of a request to a system without extensions. -/
def unavailable (r : Request) : Record :=
  ⟨.warn, platformTarget, s!"Cannot {r.kind} {r.identifier}: system extensions require macOS"⟩

/-- The refusal of a system without extensions. -/
def platformRefusal : Fault :=
  .unsupported "system extensions are only available on macOS (running on linux)"

/-- The delegates that a recorder holds. -/
def submitted : Manager → List Delegate
  | .recorder _ ds => ds
  | _ => []

/-- Performs callbacks in order. -/
def perform (d : Delegate) : List Callback → Channel → Channel × List Record
  | [], c => (c, [])
  | callback :: rest, c =>
    let (_, c, first) := d.call callback c
    let (c, others) := perform d rest c
    (c, first ++ others)

/-- Submits a request by its delegate.  Returns whether it was accepted, the manager and the channel
afterwards, and the records. -/
def submit (m : Manager) (d : Delegate) (c : Channel) :
    Except Fault Unit × Manager × Channel × List Record :=
  match m with
  | .recorder (some reason) _ => (.error (.submission reason), m, c, [])
  | .recorder none ds => (.ok (), .recorder none (ds ++ [d]), c, [])
  | .platform => (.error platformRefusal, m, c, [unavailable d.request])
  | .scripted script refuses =>
    let (c, records) := perform d script c
    (if refuses then .error (.submission "refused") else .ok (), m, c, records)

end Manager
end DriverExtension
