import GridAuthz.Membership.Chain
import GridAuthz.Validation.Checks

/-!
# Validating the memberships of a chain

A validator goes through the attribute certificates that a chain carries and gives one result
for each, in order (`Validator.results`). The chain itself is judged by a chain validator, which
is asked only if there are attribute certificates.

Listeners hear of every result. The chain validator may belong to the validator, which then
disposes of it when it shuts down.
-/

namespace GridAuthz

/-- The result for one attribute certificate. -/
structure ValidationResult where
  /-- What the attribute certificate says, unless it is malformed. -/
  membership : Option Membership
  /-- Why it is rejected. -/
  rejections : List Rejection
  deriving DecidableEq

namespace ValidationResult

/-- The attribute certificate is well formed, and nothing speaks against it. -/
def isValid (r : ValidationResult) : Bool := r.membership.isSome && r.rejections.isEmpty

/-- What a valid attribute certificate says. -/
def valid? (r : ValidationResult) : Option Membership :=
  if r.isValid then r.membership else none

/-- The result for a malformed attribute certificate. -/
def ofFault (fault : Membership.Fault) : ValidationResult :=
  ⟨none, [⟨.malformed, [fault.message]⟩]⟩

/-- The result for one that is well formed, after checking it. -/
def ofCheck (m : Membership) (checked : CheckResult) : ValidationResult :=
  match checked with
  | .ok () => ⟨some m, []⟩
  | .error rejections => ⟨some m, rejections⟩

end ValidationResult

/-- A validator. -/
structure Validator where
  /-- The settings. -/
  settings : ValidatorSettings
  /-- What judges chains. -/
  chainValidator : ChainValidator

namespace Validator

/-- The result for what was read from an attribute certificate, given a check of those that are
well formed. -/
def resultOf (check : Membership → CheckResult) :
    Except Membership.Fault Membership → ValidationResult
  | .error fault => .ofFault fault
  | .ok m => .ofCheck m (check m)

/-- The check of an attribute certificate when there is a verdict on its chain. -/
def checkIn (v : Validator) (trust : TrustSnapshot) (chain : List Certificate)
    (now : Duration) (verdict : Except ChainError ValidatedChain) (m : Membership) :
    CheckResult :=
  match verdict with
  | .error error => .error [⟨.chain, [error.message]⟩]
  | .ok validated =>
    m.check v.settings v.chainValidator trust chain validated.endEntity now

/-- The results for the attribute certificates of a chain, leaf first. When the chain validator
breaks off, there are none, but the reason. -/
def results (v : Validator) (trust : TrustSnapshot) (chain : List Certificate)
    (now : Duration) : Except String (List ValidationResult) :=
  match Membership.readChain chain with
  | .error error => .ok [⟨none, [⟨.malformed, [error.message]⟩]⟩]
  | .ok [] => .ok []
  | .ok (r :: rs) =>
    match v.chainValidator chain now with
    | .aborted reason => .error reason
    | .rejected error =>
      .ok ((r :: rs).map (resultOf (v.checkIn trust chain now (.error error))))
    | .accepted validated =>
      .ok ((r :: rs).map (resultOf (v.checkIn trust chain now (.ok validated))))

/-- What the valid attribute certificates of a chain say. -/
def accepted (v : Validator) (trust : TrustSnapshot) (chain : List Certificate)
    (now : Duration) : Except String (List Membership) :=
  (v.results trust chain now).map (·.filterMap ValidationResult.valid?)

end Validator

/-! ### Listeners and shutting down -/

/-- Who hears of which result: every listener of each, in the order in which they were
registered. -/
def notifications {Listener : Type} (listeners : List Listener)
    (results : List ValidationResult) : List (Listener × ValidationResult) :=
  results.flatMap fun result => listeners.map (·, result)

/-- Whether the chain validator has been disposed of. -/
structure Disposal where
  /-- The chain validator belongs to the validator. -/
  owned : Bool
  /-- The validator has been shut down. -/
  shutDown : Bool := false
  /-- How often the chain validator has been disposed of. -/
  count : Nat := 0
  deriving DecidableEq

namespace Disposal

/-- Shuts down. Only the first time has an effect, and it disposes only of a chain validator of
one's own. -/
def shutdown (d : Disposal) : Disposal :=
  if d.shutDown then d
  else { d with shutDown := true, count := if d.owned then d.count + 1 else d.count }

end Disposal

end GridAuthz
