import ServiceClause.Remote.Call

/-!
# Scripted endpoints

An endpoint that answers by rules: a call is answered by the first rule that fits its text and is
not used up.

## Main definitions

* `ServiceClause.ScriptRule` — a rule.
* `ServiceClause.Script` — the rules that are left.
* `ServiceClause.Script.service` — the endpoint.
-/

set_option autoImplicit false

namespace ServiceClause

/-- Whether `part` occurs in `text`. -/
def occursIn (part : List Char) : List Char → Bool
  | [] => part.isEmpty
  | c :: text => part.isPrefixOf (c :: text) || occursIn part text

/-- A rule of a scripted endpoint. -/
structure ScriptRule where
  /-- The text that has to occur in the query. -/
  fragment : String
  /-- How often the rule may still be used. -/
  uses? : Option Nat
  /-- How long the answer takes. -/
  delay : Duration
  /-- The answer to a query for rows. -/
  rows : Outcome Solutions
  /-- The answer to a query for a truth value. -/
  truth : Outcome Bool

/-- Whether a rule answers a query. -/
def ScriptRule.fits (rule : ScriptRule) (query : String) : Bool :=
  rule.uses? != some 0 && occursIn rule.fragment.toList query.toList

/-- The rules of a scripted endpoint, the first ones before the later ones. -/
abbrev Script := List ScriptRule

namespace Script

/-- The rule that answers a query, and the rules after it has been used. -/
def take (query : String) : Script → Option ScriptRule × Script
  | [] => (none, [])
  | rule :: rest =>
    if rule.fits query then (some rule, { rule with uses? := rule.uses?.map (· - 1) } :: rest)
    else ((take query rest).1, rule :: (take query rest).2)

/-- The endpoint that follows the rules. A call that no rule fits gets no rows, or no. -/
def service : Service Script where
  select call script :=
    ((match (take call.query script).1 with
      | some rule => ⟨rule.delay, rule.rows⟩
      | none => .now (.ok .empty)), (take call.query script).2)
  ask call script :=
    ((match (take call.query script).1 with
      | some rule => ⟨rule.delay, rule.truth⟩
      | none => .now (.ok false)), (take call.query script).2)

end Script

end ServiceClause
