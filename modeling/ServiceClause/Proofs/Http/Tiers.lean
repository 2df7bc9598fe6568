import ServiceClause.Proofs.Batch.Transparency
import ServiceClause.Proofs.Batch.Silencing
import ServiceClause.Proofs.Http.Requests

/-!
# Replies decide how a batch goes on

A batch of several rows is sent to an endpoint in one request. The reply to it decides what comes
next: an answer is joined to the rows, a rejected query is reported, an endpoint that cannot be
reached is given up, and after any other failure the rows are sent one by one.

## Main definitions

* `ServiceClause.Http.Verdict`, `ServiceClause.Http.Reply.verdict` — what a reply to a query for rows
  amounts to.
* `ServiceClause.Http.OneByOne` — the requests of rows that are sent one by one.
* `ServiceClause.Http.GoesOn` — how a batch goes on after a reply.
* `ServiceClause.Http.Client.FollowsReplies` — the requests and the outcome of a batch.

## Main statements

* `ServiceClause.Http.Client.tells_interpret` — the verdict tells the outcome of a call.
* `ServiceClause.Http.Client.oneByOne_retryParts` — what a retry sends.
* `ServiceClause.Http.Client.batch_follows_replies` — the replies decide.
-/

set_option autoImplicit false

namespace ServiceClause.Http

/-! ## Verdicts -/

/-- What a reply to a query for rows amounts to. -/
inductive Verdict where
  /-- There is an answer. -/
  | accepted (solutions : Solutions)
  /-- The query is invalid. -/
  | rejected
  /-- Nobody has taken the query. -/
  | unreachable
  /-- The query has not been answered. -/
  | failed

/-- The verdict of a reply. -/
def Reply.verdict : Reply → Verdict
  | .answered status body =>
    if status.isSuccess then
      match Solutions.read body with
      | .ok solutions => .accepted solutions
      | .error _ => .failed
    else if status = .badRequest then .rejected else .failed
  | .refused => .unreachable
  | .dropped | .unanswered => .failed

namespace Verdict

/-- Whether a call with this verdict comes to this outcome. -/
def Tells : Verdict → Outcome Solutions → Prop
  | accepted solutions, outcome => outcome = .ok solutions
  | rejected, outcome => ∃ detail, outcome = .error (.malformedQuery detail)
  | unreachable, outcome => ∃ detail, outcome = .error (.connection detail)
  | failed, outcome => ∃ e, outcome = .error e ∧ e.isMalformed = false ∧ e.isRecoverable = true

/-- Whether no row is sent after a reply to one of several: the query is rejected or, unless failures
are hidden, not answered. -/
def stops (silent : Bool) : Verdict → Bool
  | accepted _ => false
  | rejected => true
  | unreachable | failed => !silent

/-- What a row gives that has been sent alone. -/
def part (d : Descriptor) (rowIndex : Name) (row : Row) : Verdict → RowSequence
  | accepted solutions => ((solutions.toSequence.insert row).strip rowIndex).silentIf d.silent
  | _ => .one row

variable {v : Verdict}

theorem eq_accepted_of_tells {solutions : Solutions} (h : v.Tells (.ok solutions)) :
    v = .accepted solutions := by
  cases v with
  | accepted solutions' =>
    obtain rfl := Except.ok.inj h
    rfl
  | rejected =>
    obtain ⟨_, h⟩ := h
    cases h
  | unreachable =>
    obtain ⟨_, h⟩ := h
    cases h
  | failed =>
    obtain ⟨_, h, _⟩ := h
    cases h

/-- A row whose failure is hidden is followed by the next one and gives itself. -/
theorem stops_of_tells {e : FederationError} (h : v.Tells (.error e)) (d : Descriptor) :
    v.stops d.silent = !d.hides e ∧ ∀ rowIndex row, v.part d rowIndex row = .one row := by
  cases v with
  | accepted solutions => cases h
  | rejected =>
    obtain ⟨detail, h⟩ := h
    obtain rfl := Except.error.inj h
    exact ⟨by simp [stops, Descriptor.hides, FederationError.isMalformed], fun _ _ => rfl⟩
  | unreachable =>
    obtain ⟨detail, h⟩ := h
    obtain rfl := Except.error.inj h
    exact ⟨by simp [stops, Descriptor.hides, FederationError.isMalformed], fun _ _ => rfl⟩
  | failed =>
    obtain ⟨e', h, hmalformed, _⟩ := h
    obtain rfl := Except.error.inj h
    exact ⟨by simp [stops, Descriptor.hides, hmalformed], fun _ _ => rfl⟩

end Verdict

/-- A document that cannot be read is a failure of the endpoint. -/
theorem isQueryExecution_of_read {body : List Symbol} {e : FederationError}
    (h : Solutions.read body = .error e) : ∃ detail, e = .queryExecution detail := by
  rw [Solutions.read, ResultDocument.read] at h
  split at h
  · exact ⟨_, (Except.error.inj h).symm⟩
  · split at h
    · exact ⟨_, (Except.error.inj h).symm⟩
    · next document _ =>
      have hdocument : Solutions.ofDocument document = .error e := h
      rw [Solutions.ofDocument] at hdocument
      split at hdocument
      · cases hdocument
      · cases hdocument
      · cases hdocument
      · exact ⟨_, (Except.error.inj hdocument).symm⟩

/-! ## Calls -/

namespace Client

variable {τ : Type}

/-- The verdict tells the outcome of a call.

**Proof sketch.** One case for each kind of reply. -/
theorem tells_interpret (c : Client τ) (url : Url) (patience : Option Duration) (reply : Reply) :
    reply.verdict.Tells (understand Solutions.read (c.interpret url patience reply)).value := by
  cases reply with
  | refused => exact ⟨_, rfl⟩
  | dropped => exact ⟨_, rfl, rfl, rfl⟩
  | unanswered => exact ⟨_, rfl, rfl, rfl⟩
  | answered status body =>
    unfold Reply.verdict interpret understand Delayed.now
    by_cases hsuccess : status.isSuccess = true
    · simp only [hsuccess, if_true]
      cases hread : Solutions.read body with
      | ok solutions => exact hread
      | error e =>
        obtain ⟨detail, rfl⟩ := isQueryExecution_of_read hread
        exact ⟨_, hread, rfl, rfl⟩
    · simp only [hsuccess, Bool.false_eq_true, if_false]
      by_cases hbad : status = .badRequest
      · simp only [hbad, if_true]
        exact ⟨_, rfl⟩
      · simp only [hbad, if_false]
        exact ⟨_, rfl, rfl, rfl⟩

/-- A client waits no longer than a call allows. -/
theorem within_interpret (c : Client τ) (url : Url) (budget? rest : Option Duration)
    (reply : Reply) :
    (understand Solutions.read (c.interpret url (budget?.or rest) reply)).within budget? =
      understand Solutions.read (c.interpret url (budget?.or rest) reply) := by
  cases reply with
  | answered status body => exact Delayed.within_of_zero rfl budget?
  | refused => exact Delayed.within_of_zero rfl budget?
  | dropped => exact Delayed.within_of_zero rfl budget?
  | unanswered =>
    cases budget? with
    | none => rfl
    | some budget => exact if_neg (Nat.lt_irrefl _)

/-- With a route a call sends one request, and the reply to it tells its outcome. -/
theorem exists_reply {c : Client (τ × List Trip)} {url : Url} {headers : Headers}
    (h : c.route = .ok (url, headers)) (t : Transport τ) (call : Call) :
    ∃ reply outcome c', c'.route = .ok (url, headers) ∧
      c'.carrier.2 = c.carrier.2 ++ [⟨request url headers (withBase call.query call.base?), reply⟩] ∧
      reply.verdict.Tells outcome ∧
      (((service t.transcribing).select call c).1.within call.budget?).value = outcome ∧
      ((service t.transcribing).select call c).2 = c' := by
  let sent := request url headers (withBase call.query call.base?)
  refine ⟨(t.transcribing.send sent c.carrier).1, _,
    c.openedWith headers (t.transcribing.send sent c.carrier).2, route_openedWith h _, rfl,
    tells_interpret c url (call.budget?.or c.config.requestTimeout) _, ?_, ?_⟩
  · show ((understand Solutions.read (c.submit t.transcribing call).1).within call.budget?).value = _
    rw [submit_of_route h, within_interpret]
  · show (c.submit t.transcribing call).2 = _
    rw [submit_of_route h]

/-- Without a route a call fails and sends nothing. -/
theorem select_of_route_error {c : Client τ} {e : FederationError} (h : c.route = .error e)
    (t : Transport τ) (call : Call) :
    (((service t).select call c).1.within call.budget?).value = .error e ∧
      ((service t).select call c).2.carrier = c.carrier := by
  constructor
  · show ((understand Solutions.read (c.submit t call).1).within call.budget?).value = _
    rw [submit_of_route_error h, Delayed.within_of_zero rfl]
    rfl
  · show (c.submit t call).2.carrier = _
    rw [submit_of_route_error h]
    exact carrier_connect c

end Client

/-! ## Rows one by one -/

/-- Rows that are sent one by one, the requests for them with what has come of these, and what the
rows give. Each row is sent once and in its turn, up to a reply that stops them. -/
inductive OneByOne (d : Descriptor) (query : String) (rowIndex : Name) (url : Url)
    (headers : Headers) : List Row → List Trip → List RowSequence → Prop where
  /-- There are no rows left. -/
  | nil : OneByOne d query rowIndex url headers [] [] []
  /-- A row is sent, and then the others. -/
  | onward {row : Row} {rest : List Row} {text : String} {reply : Reply} {trips : List Trip}
    {parts : List RowSequence} (htext : preBind query row d.declared = .ok text)
    (hreply : reply.verdict.stops d.silent = false)
    (hrest : OneByOne d query rowIndex url headers rest trips parts) :
    OneByOne d query rowIndex url headers (row :: rest)
      (⟨Client.request url headers (withBase text d.base?), reply⟩ :: trips)
      (reply.verdict.part d rowIndex row :: parts)
  /-- A row is sent, and no other one after it. -/
  | stopped {row : Row} {rest : List Row} {text : String} {reply : Reply} {e : FederationError}
    (htext : preBind query row d.declared = .ok text)
    (hreply : reply.verdict.stops d.silent = true) (he : reply.verdict.Tells (.error e)) :
    OneByOne d query rowIndex url headers (row :: rest)
      [⟨Client.request url headers (withBase text d.base?), reply⟩] [.failing e]

/-- How a batch goes on after the reply to the query for all of its rows: which requests come later,
and what the outcome is. -/
def GoesOn (config : Config) (d : Descriptor) (url : Url) (headers : Headers) (batch : List Row)
    (reply : Reply) (later : List Trip) (outcome : Outcome RowSequence) : Prop :=
  match reply.verdict with
  | .accepted solutions => later = [] ∧
    outcome = .ok (joinAnswer d batch (relevantNames batch d.declared) config.rowIndex solutions)
  | .rejected => later = [] ∧ ∃ detail, outcome = .error (.malformedQuery detail)
  | .unreachable => later = [] ∧
    if d.silent then outcome = .ok (.ofRows batch) else ∃ detail, outcome = .error (.connection detail)
  | .failed => ∃ parts,
    OneByOne d (togetherQuery d config batch) config.rowIndex url headers batch later parts ∧
      outcome = .ok ((RowSequence.chain parts).silentIf d.silent)

namespace Client

variable {τ : Type}

/-- A retry sends the rows one by one.

**Proof sketch.** Induction on the rows. The client keeps its route, so there is a request for every
row that is tried, and the verdict on the reply says whether the next one is. -/
theorem oneByOne_retryParts (t : Transport τ) (d : Descriptor) {query : String}
    (hpattern : HasPattern query) (rowIndex : Name) {url : Url} {headers : Headers}
    (rows : List Row) {c : Client (τ × List Trip)} (h : c.route = .ok (url, headers)) :
    ∃ trips, ((retryParts d query rowIndex rows).runToEnd (service t.transcribing) c).2.carrier.2 =
        c.carrier.2 ++ trips ∧
      OneByOne d query rowIndex url headers rows trips
        ((retryParts d query rowIndex rows).runToEnd (service t.transcribing) c).1 := by
  induction rows generalizing c with
  | nil => exact ⟨[], (List.append_nil _).symm, .nil⟩
  | cons row rest ih =>
    obtain ⟨text, htext⟩ := exists_preBind hpattern row d.declared
    obtain ⟨reply, outcome, c', hroute, hlog, htells, hvalue, hstate⟩ :=
      exists_reply h t ⟨.select, text, d.base?, none⟩
    have hrun : (evaluateSelect query row d.base? d.declared).runToEnd (service t.transcribing) c =
        (outcome.map fun solutions => solutions.toSequence.insert row, c') := by
      rw [evaluateSelect, htext]
      show (Except.map _ (((service t.transcribing).select _ c).1.within none).value, _) = _
      rw [hvalue, hstate]
    obtain ⟨trips, htrips, hrest⟩ := ih hroute
    have hlater : ((retryParts d query rowIndex rest).runToEnd (service t.transcribing)
        c').2.carrier.2 =
        c.carrier.2 ++ ⟨request url headers (withBase text d.base?), reply⟩ :: trips := by
      rw [htrips, hlog, List.append_assoc]
      rfl
    rw [runToEnd_retryParts_cons, hrun]
    cases outcome with
    | ok solutions =>
      have hverdict := Verdict.eq_accepted_of_tells htells
      have hpart : ((solutions.toSequence.insert row).strip rowIndex).silentIf d.silent =
          reply.verdict.part d rowIndex row := by rw [hverdict]; rfl
      refine ⟨_, hlater, ?_⟩
      simp only [Except.map, hpart]
      exact .onward htext (by rw [hverdict]; rfl) hrest
    | error e =>
      obtain ⟨hstops, hpart⟩ := Verdict.stops_of_tells htells d
      cases hhides : d.hides e with
      | true =>
        simp only [Except.map, hhides, if_true]
        rw [← hpart rowIndex row]
        exact ⟨_, hlater, .onward htext (by rw [hstops, hhides]; rfl) hrest⟩
      | false =>
        simp only [Except.map, hhides, Bool.false_eq_true, if_false]
        exact ⟨_, hlog, .stopped htext (by rw [hstops, hhides]; rfl) htells⟩

/-! ## Main result -/

/-- The requests and the outcome of a batch that has been sent through the client `c`. -/
structure FollowsReplies (c : Client τ) (config : Config) (d : Descriptor) (batch : List Row)
    (trips : List Trip) (outcome : Outcome RowSequence) : Prop where
  /-- A clause that declares the row index is refused. -/
  reserved : config.rowIndex ∈ d.declared →
    trips = [] ∧ outcome = .error (.reservedRowIndex d.endpoint config.rowIndex)
  /-- A client that has been shut down, or that has no headers or no URL to send requests with, sends
  nothing. -/
  unsent : config.rowIndex ∉ d.declared → ∀ e, c.route = .error e →
    trips = [] ∧ outcome = recover d batch e ∧
      (c.connection = .shutDown ∨ (∃ h ∈ c.config.headers, Headers.isSendable h = false) ∨
        isHeaderValue c.config.userAgent = false ∨ ∃ cause, requestUrl c.endpoint = .error cause)
  /-- Otherwise there is a request for the whole batch, and the reply to it decides. -/
  sent : config.rowIndex ∉ d.declared → ∀ url headers, c.route = .ok (url, headers) →
    ∃ text reply later, togetherText d config batch = .ok text ∧
      trips = ⟨request url headers (withBase text d.base?), reply⟩ :: later ∧
      GoesOn config d url headers batch reply later outcome

/-- There is a text for rows whose common values are no blank nodes. -/
theorem exists_togetherText (config : Config) {d : Descriptor} {batch : List Row}
    (hvalues : ∀ row ∈ batch, ∀ n ∈ relevantNames batch d.declared, ∀ value,
      row.get? n = some value → value.isBlankNode = false) :
    ∃ text, togetherText d config batch = .ok text := by
  cases htext : togetherText d config batch with
  | ok text => exact ⟨text, rfl⟩
  | error e =>
    obtain ⟨row, hrow, n, hn, label, hget, _⟩ := batchText_eq_error htext
    have hblank := hvalues row hrow n hn _ hget
    simp [Term.isBlankNode] at hblank

/-- Where a request for the whole batch is sent, the reply to it decides.

**Proof sketch.** The verdict on the reply tells the outcome of the call, and this outcome decides
whether the rows are sent one by one. -/
theorem goesOn_of_route {t : Transport τ} {c after : Client (τ × List Trip)} {config : Config}
    {d : Descriptor} {first second : Row} {rest : List Row} {outcome : Outcome RowSequence}
    (hpattern : HasPattern (togetherQuery d config (first :: second :: rest)))
    (hindex : config.rowIndex ∉ d.declared) {text : String}
    (htext : togetherText d config (first :: second :: rest) = .ok text) {url : Url}
    {headers : Headers} (hroute : c.route = .ok (url, headers))
    (hrun : (evaluateBatch config d (first :: second :: rest)).runToEnd (service t.transcribing) c =
      (outcome, after)) :
    ∃ reply later, after.carrier.2 =
        c.carrier.2 ++ ⟨request url headers (withBase text d.base?), reply⟩ :: later ∧
      GoesOn config d url headers (first :: second :: rest) reply later outcome := by
  obtain ⟨reply, answer, c', hroute', hlog, htells, hanswer, rfl⟩ :=
    exists_reply hroute t (togetherCall d config text)
  refine ⟨reply, ?_⟩
  unfold GoesOn
  cases hverdict : reply.verdict with
  | accepted solutions =>
    rw [hverdict] at htells
    rw [runToEnd_of_answered hindex htext (hanswer.trans htells)] at hrun
    obtain ⟨rfl, rfl⟩ := Prod.mk.inj hrun
    exact ⟨[], hlog, rfl, rfl⟩
  | rejected =>
    rw [hverdict] at htells
    obtain ⟨detail, htells⟩ := htells
    rw [runToEnd_of_failed hindex htext (hanswer.trans htells) rfl] at hrun
    obtain ⟨rfl, rfl⟩ := Prod.mk.inj hrun
    exact ⟨[], hlog, rfl, detail, by simp [recover, Descriptor.hides, FederationError.isMalformed]⟩
  | unreachable =>
    rw [hverdict] at htells
    obtain ⟨detail, htells⟩ := htells
    rw [runToEnd_of_failed hindex htext (hanswer.trans htells) rfl] at hrun
    obtain ⟨rfl, rfl⟩ := Prod.mk.inj hrun
    refine ⟨[], hlog, rfl, ?_⟩
    cases hsilent : d.silent with
    | true => simp [recover, Descriptor.hides, hsilent, FederationError.isMalformed]
    | false => simp [recover, Descriptor.hides, hsilent]
  | failed =>
    rw [hverdict] at htells
    obtain ⟨e, htells, _, he⟩ := htells
    obtain ⟨later, hlater, hparts⟩ :=
      oneByOne_retryParts t d hpattern config.rowIndex (first :: second :: rest) hroute'
    cases hretry : (retryParts d (togetherQuery d config (first :: second :: rest))
        config.rowIndex (first :: second :: rest)).runToEnd (service t.transcribing)
        ((service t.transcribing).select (togetherCall d config text) c).2 with
    | mk parts last =>
      rw [hretry] at hlater hparts
      rw [runToEnd_of_retried hindex htext (hanswer.trans htells) he hretry] at hrun
      obtain ⟨rfl, rfl⟩ := Prod.mk.inj hrun
      refine ⟨later, ?_, parts, hparts, rfl⟩
      rw [hlater, hlog, List.append_assoc]
      rfl

/-- Where no request can be sent, the clause fails without one. -/
theorem recover_of_route_error {t : Transport τ} {c after : Client (τ × List Trip)}
    {config : Config} {d : Descriptor} {first second : Row} {rest : List Row}
    {outcome : Outcome RowSequence} (hindex : config.rowIndex ∉ d.declared) {text : String}
    (htext : togetherText d config (first :: second :: rest) = .ok text) {e : FederationError}
    (hroute : c.route = .error e)
    (hrun : (evaluateBatch config d (first :: second :: rest)).runToEnd (service t.transcribing) c =
      (outcome, after)) :
    after.carrier = c.carrier ∧ outcome = recover d (first :: second :: rest) e := by
  obtain ⟨hanswer, hcarrier⟩ :=
    select_of_route_error hroute t.transcribing (togetherCall d config text)
  rw [runToEnd_of_failed hindex htext hanswer (isRecoverable_of_route hroute)] at hrun
  obtain ⟨rfl, rfl⟩ := Prod.mk.inj hrun
  exact ⟨hcarrier, rfl⟩

/-- **The replies decide.** A batch of several rows whose values can be sent, in queries with a
pattern, makes one request for all rows, if it makes any. An answer to it is joined to the rows; a
query that it rejects is reported; if nobody takes it, the clause fails, or gives the rows as they
are if it hides failures; and in all other cases the rows are sent once more, each once and in its
turn, up to one whose query is rejected or, unless the clause hides failures, not answered.

**Proof sketch.** A client has a route or not, whatever it is asked. Without one the call fails
(`recover_of_route_error`), with one it sends a request (`goesOn_of_route`). -/
theorem batch_follows_replies (t : Transport τ) (c : Client (τ × List Trip)) (config : Config)
    (d : Descriptor) (batch : List Row) (hlength : 2 ≤ batch.length)
    (hvalues : ∀ row ∈ batch, ∀ n ∈ relevantNames batch d.declared, ∀ value,
      row.get? n = some value → value.isBlankNode = false)
    (hpattern : HasPattern (togetherQuery d config batch)) :
    ∃ trips,
      ((evaluateBatch config d batch).runToEnd (service t.transcribing) c).2.carrier.2 =
        c.carrier.2 ++ trips ∧
      FollowsReplies c config d batch trips
        ((evaluateBatch config d batch).runToEnd (service t.transcribing) c).1 := by
  obtain ⟨text, htext⟩ := exists_togetherText config hvalues
  match batch, hlength with
  | first :: second :: rest, _ =>
    cases hrun : (evaluateBatch config d (first :: second :: rest)).runToEnd
        (service t.transcribing) c with
    | mk outcome after =>
    by_cases hindex : config.rowIndex ∈ d.declared
    · rw [evaluateBatch_of_reserved hindex] at hrun
      obtain ⟨rfl, rfl⟩ := Prod.mk.inj hrun
      exact ⟨[], (List.append_nil _).symm, fun _ => ⟨rfl, rfl⟩, fun h => absurd hindex h,
        fun h => absurd hindex h⟩
    · cases hroute : c.route with
      | error e =>
        obtain ⟨hcarrier, houtcome⟩ := recover_of_route_error hindex htext hroute hrun
        refine ⟨[], by rw [hcarrier, List.append_nil], fun h => absurd h hindex, fun _ e' he => ?_,
          fun _ url headers h => ?_⟩
        · obtain rfl := Except.error.inj (hroute.symm.trans he)
          refine ⟨rfl, houtcome, ?_⟩
          rcases route_eq_error hroute with ⟨hended, _⟩ | ⟨_, hheaders⟩ | ⟨cause, hurl, _⟩
          · exact .inl hended
          · rcases configuredHeaders_eq_error_iff.1 ⟨e, hheaders⟩ with hheader | hagent
            · exact .inr (.inl hheader)
            · exact .inr (.inr (.inl hagent))
          · exact .inr (.inr (.inr ⟨cause, hurl⟩))
        · cases hroute.symm.trans h
      | ok route =>
        obtain ⟨url, headers⟩ := route
        obtain ⟨reply, later, hlog, hgoes⟩ := goesOn_of_route hpattern hindex htext hroute hrun
        refine ⟨_, hlog, fun h => absurd h hindex, fun _ e h => ?_, fun _ url' headers' h => ?_⟩
        · cases hroute.symm.trans h
        · cases hroute.symm.trans h
          exact ⟨text, reply, later, htext, rfl, hgoes⟩

/-- A client whose requests get the given replies. -/
def awaiting (replies : List Reply) : Client ((List Reply × List Request) × List Trip) :=
  new "http://example.org/" {} ((replies, []), [])

/-- The gateway fails for the whole batch, the first row is answered, and nobody takes the second. -/
def gatewayReplies : List Reply :=
  [.answered ⟨502⟩ [], .answered ⟨200⟩ (symbolsOf "\x7b\"boolean\": true\x7d"), .refused]

/-- After the failure of the gateway there is a request for each of two rows. -/
theorem gateway_follows_replies :
    ∃ trips : List Trip,
      ((evaluateBatch {} numberClause twoThings).runToEnd (service Transport.scripted.transcribing)
        (awaiting gatewayReplies)).2.carrier.2 = trips ∧ trips.length = 3 ∧
      FollowsReplies (awaiting gatewayReplies) {} numberClause twoThings trips
        ((evaluateBatch {} numberClause twoThings).runToEnd
          (service Transport.scripted.transcribing) (awaiting gatewayReplies)).1 := by
  have hvalues : ∀ row ∈ twoThings, ∀ n ∈ relevantNames twoThings numberClause.declared,
      (row.get? n).all (fun value => !value.isBlankNode) = true := by decide +kernel
  have hlength : ((evaluateBatch {} numberClause twoThings).runToEnd
      (service Transport.scripted.transcribing) (awaiting gatewayReplies)).2.carrier.2.length = 3 := by
    decide +kernel
  obtain ⟨trips, htrips, hfollows⟩ := batch_follows_replies Transport.scripted
    (awaiting gatewayReplies) {} numberClause twoThings (by decide)
    (fun row hrow n hn value hget => by simpa [hget] using hvalues row hrow n hn)
    (by decide +kernel)
  have hsame : (awaiting gatewayReplies).carrier.2 ++ trips = trips := List.nil_append trips
  rw [hsame] at htrips
  exact ⟨trips, htrips, by rw [← htrips, hlength], hfollows⟩

end Client

end ServiceClause.Http
