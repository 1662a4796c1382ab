import GoldFlow.Verified.Assessment

/-! # From the claim to the outcome -/

namespace GoldFlow

open Effect TradeExecutor

variable {executor : TradeExecutor} {role : Role} {command : ExecutionCommand}
  {history later : List PortEvent}

/-! ## Protection -/

variable {request : OrderRequest} {report : ExecutionReport} {state target : TradeState} {reason : String}
  {status : IdempotencyStatus}

theorem ticketOf_matchesReport {symbol : Option String} {positions : List BrokerPosition} {position : BrokerPosition}
    (owned : ∀ ticket, report.brokerTicket = some ticket → TicketOf executor.sha256 history request.fill ticket)
    (answered : Returned history (.broker (.getPositions symbol)) positions) (member : position ∈ positions)
    (matched : executor.matchesReport request report position = true) :
    TicketOf executor.sha256 history request.fill position.ticket := by
  simp only [matchesReport, Bool.or_eq_true, beq_iff_eq] at matched
  obtain (reported | signal) | correlated := matched
  · exact owned _ reported.symm
  · exact .listed answered member rfl (.inl signal)
  · exact .listed answered member rfl (.inr correlated)

theorem keeps_awaitPosition (request : OrderRequest) (report : ExecutionReport) (remaining : Nat) :
    Keeps (Discipline executor role) Excused
      (fun later found => Reads history later ∧ ∀ position, found = some position →
        ∃ positions, Returned later (.broker (.getPositions (some request.symbol))) positions ∧
          position ∈ positions ∧ executor.matchesReport request report position = true)
      (executor.awaitPosition request report remaining) history := by
  induction remaining generalizing history with
  | zero => exact Keeps.pure ⟨Reads.refl _, by simp⟩
  | succ remaining ih =>
    unfold awaitPosition
    have listed : Keeps (Discipline executor role) Excused
        (fun later (result : Except (List BrokerPosition) (List BrokerPosition)) =>
          Reads history later ∧ ∀ position ∈ result.toOption.getD [], ∃ positions,
            Returned later (.broker (.getPositions (some request.symbol))) positions ∧
              position ∈ positions)
        (Program.catching (askBroker (.getPositions (some request.symbol))) PyError.isBroker
          fun _ => []) history := by
      refine keeps_try (.broker (.getPositions (some request.symbol))) trivial
        (fun positions => ?_) fun error _ => ?_
      · exact ⟨(Reads.refl _).snoc fun _ => rfl,
          fun position member => ⟨positions, returned_last _ _, member⟩⟩
      · exact ⟨(Reads.refl _).snoc fun _ => rfl, by simp [Except.toOption]⟩
    refine Keeps.bind listed ?_
    rintro middle result ⟨reads, visible⟩
    cases found : (result.toOption.getD []).find? (executor.matchesReport request report) with
    | some position =>
      refine Keeps.pure ⟨reads, ?_⟩
      rintro _ ⟨⟩
      obtain ⟨positions, answered, member⟩ := visible position (List.mem_of_find?_eq_some found)
      exact ⟨positions, answered, member, List.find?_some found⟩
    | none =>
      refine Keeps.ite (fun _ => Keeps.pure ⟨reads, by simp⟩) fun _ => ?_
      refine keeps_ask_bind trivial fun _ => ?_
      refine Keeps.mono ih ?_
      rintro last outcome ⟨rest, located⟩
      exact ⟨(reads.snoc fun _ => rfl).trans rest, located⟩

/-- `later` extends `history` by reads and protective requests. -/
structure Protects (history later : List PortEvent) : Prop where
  included : history ⊆ later
  working : (progressOf later).working = (progressOf history).working

theorem Reads.protects (reads : Reads history later) : Protects history later :=
  ⟨reads.included, by rw [reads.progress]⟩

/-- If the ticket belongs to the fill, a protected result is confirmed by the broker. -/
structure ProtectionSettled (sha256 : HexDigest) (history : List PortEvent) (fill : Fill)
    (ticket : Option String) (later : List PortEvent) (result : ProtectionResult) : Prop where
  protects : Protects history later
  confirmed : result.isProtected = true →
    (∀ found, ticket = some found → TicketOf sha256 history fill found) →
    ProtectionConfirmed sha256 later fill

theorem MayModify.after (permitted : MayModify role history) (reads : Reads history later) :
    MayModify role later := by
  obtain ⟨known, working, settles⟩ := permitted.resolving
  exact
    { resolving := ⟨known, by rw [reads.progress, working], settles⟩
      first := by rw [reads.progress, permitted.first]
      unclosed := by rw [reads.progress, permitted.unclosed] }

theorem keeps_repairOrClose (permitted : MayModify role history) (request : OrderRequest) (ticket : Option String) :
    Keeps (Discipline executor role) Excused
      (ProtectionSettled executor.sha256 history request.fill ticket)
      (repairOrClose request ticket) history := by
  unfold repairOrClose
  cases usable : ticket.filter (· ≠ "") with
  | none => exact Keeps.pure ⟨(Reads.refl _).protects, by simp⟩
  | some found =>
    have ticketed : ticket = some found := (Option.filter_eq_some_iff.mp usable).1
    -- the one modification; its answer decides whether the position is closed
    have modified : Keeps (Discipline executor role) Excused
        (fun later (result : Except Bool Bool) => history ⊆ later ∧
          progressOf later =
            { progressOf history with modifies := (progressOf history).modifies + 1 } ∧
          (result.toOption.getD false = true → Returned later (.broker
            (.modifyPosition found request.stopLoss (some request.finalTarget))) true))
        (Program.catching
          (askBroker (.modifyPosition found request.stopLoss (some request.finalTarget)))
          PyError.isBroker fun _ => false) history := by
      refine keeps_try
        (.broker (.modifyPosition found request.stopLoss (some request.finalTarget))) permitted
        (fun confirmed => ?_) fun error _ => ?_
      · refine ⟨List.subset_append_left _ _, progressOf_append_singleton _ _, fun repaired => ?_⟩
        have same : confirmed = true := repaired
        rw [same]
        exact returned_last _ _
      · exact ⟨List.subset_append_left _ _, progressOf_append_singleton _ _,
          fun repaired => by simp [Except.toOption] at repaired⟩
    refine Keeps.bind modified ?_
    rintro middle result ⟨included, progress, confirmed⟩
    refine Keeps.ite (fun repaired => ?_) fun unrepaired => ?_
    · refine Keeps.pure ⟨⟨included, by rw [progress]⟩, fun _ owned => ?_⟩
      have target : request.fill.takeProfit = some request.finalTarget := request.fill_takeProfit
      exact .repaired ((owned found ticketed).mono included) (target ▸ confirmed repaired)
    · obtain ⟨known, working, settles⟩ := permitted.resolving
      have closable : MayClose role middle :=
        ⟨⟨known, by rw [progress, working], settles⟩, by rw [progress]; exact permitted.unclosed⟩
      have closed : Keeps (Discipline executor role) Excused
          (fun later (_ : Except String ExecutionReport) => Protects history later)
          (Program.catching (askBroker (.closePosition found none)) PyError.isUnconfirmedClose
            fun _ => "PROTECTION_REPAIR_AND_SAFE_CLOSE_UNCONFIRMED") middle := by
        have protects : ∀ reply, Protects history
            (middle ++ [⟨.broker (.closePosition found none), reply⟩]) := by
          intro reply
          refine ⟨fun _ member => List.mem_append_left _ (included member), ?_⟩
          rw [progressOf_append_singleton, progress]
          rfl
        exact keeps_try (.broker (.closePosition found none)) closable (fun report => protects (.ok report))
          fun error _ => protects (.error error)
      refine Keeps.bind closed ?_
      rintro last outcome protects
      cases outcome with
      | error => exact Keeps.pure ⟨protects, by simp⟩
      | ok =>
        exact Keeps.ite (fun _ => Keeps.pure ⟨protects, by simp⟩)
          fun _ => Keeps.pure ⟨protects, by simp⟩

/-- **A protected result is confirmed by the broker.** -/
theorem keeps_verifyOrRepairProtection (permitted : MayModify role history) (request : OrderRequest)
    (report : ExecutionReport) :
    Keeps (Discipline executor role) Excused
      (ProtectionSettled executor.sha256 history request.fill report.brokerTicket)
      (executor.verifyOrRepairProtection request report) history := by
  unfold verifyOrRepairProtection
  refine Keeps.bind (keeps_awaitPosition request report _) ?_
  rintro middle found ⟨reads, located⟩
  have later_owned : (∀ ticket, report.brokerTicket = some ticket →
      TicketOf executor.sha256 history request.fill ticket) → ∀ ticket,
      report.brokerTicket = some ticket → TicketOf executor.sha256 middle request.fill ticket :=
    fun owned ticket reported => (owned ticket reported).mono reads.included
  have protects : ∀ {last}, Protects middle last → Protects history last := by
    intro last rest
    refine ⟨fun _ member => rest.included (reads.included member), ?_⟩
    rw [rest.working, reads.progress]
  cases found with
  | none =>
    refine Keeps.mono (keeps_repairOrClose (permitted.after reads) request _) ?_
    intro last result settled
    exact ⟨protects settled.protects, fun good owned => settled.confirmed good (later_owned owned)⟩
  | some position =>
    obtain ⟨positions, answered, member, matched⟩ := located position rfl
    refine Keeps.ite (fun protection => ?_) fun _ => ?_
    · refine Keeps.pure ⟨reads.protects, fun _ owned => ?_⟩
      have belongs := ticketOf_matchesReport (later_owned owned) answered member matched
      simp only [isProtectedAs, Bool.and_eq_true, beq_iff_eq] at protection
      exact .observed answered member belongs protection.1
        (protection.2.trans request.fill_takeProfit.symm)
    · -- the repair starts from the ticket of the matched position
      refine Keeps.mono (keeps_repairOrClose (permitted.after reads) request _) ?_
      intro last result settled
      refine ⟨protects settled.protects, fun good owned => settled.confirmed good ?_⟩
      rintro _ ⟨⟩
      exact ticketOf_matchesReport (later_owned owned) answered member matched

/-! ## Settlement -/

theorem transition_fault {error : PyError} (raised : TradeStateMachine.transition state target reason = .error error) :
    error.isFault = true := by
  unfold TradeStateMachine.transition at raised
  split at raised
  · cases raised; rfl
  · split at raised
    · cases raised
    · cases raised; rfl

theorem keeps_transition_bind {β : Type} {concluded : List PortEvent → β → Prop} {next : StateTransition → Py β}
    (rest : ∀ entry, Keeps (Discipline executor role) Excused concluded (next entry) history) :
    Keeps (Discipline executor role) Excused concluded (transition state target reason >>= next) history :=
  Keeps.ofExcept_bind (fun _ raised => excused_of_fault (transition_fault raised))
    fun entry _ => rest entry

structure Marked (history : List PortEvent) (status : IdempotencyStatus) (later : List PortEvent)
    (record : ExecutionRecord) : Prop where
  progress : progressOf later = (progressOf history).know status
  shown : Shown later record

theorem keeps_mark {key : String} {known : Working} (permitted : MayUpdate executor role history key status known)
    (report : Option ExecutionReport) (reason : String) :
    Keeps (Discipline executor role) Excused (Marked history status)
      (executor.mark key status report reason) history := by
  refine keeps_ask_bind trivial fun now => ?_
  have reads : Reads history (history ++ [⟨.clock, .ok now⟩]) := (Reads.refl _).snoc fun _ => rfl
  refine Keeps.mono (keeps_update (permitted.after reads) now report reason) ?_
  intro later record updated
  exact ⟨by rw [updated.progress, reads.progress], updated.shown⟩

/-- The call has sent `request` and has not settled it. -/
structure Sent (history : List PortEvent) (request : OrderRequest) : Prop where
  working : (progressOf history).working = some
    { key := request.idempotencyKey, fill := request.fill, status := .submitted, own := true }
  modifies : (progressOf history).modifies = 0
  closes : (progressOf history).closes = 0

namespace Sent

variable {request : OrderRequest}

theorem mayModify (sent : Sent history request) : MayModify (executing executor command) history :=
  ⟨⟨_, sent.working, ⟨rfl, .inr rfl⟩, .inl rfl⟩, sent.modifies, sent.closes⟩

theorem mayUpdate (executor : TradeExecutor) (command : ExecutionCommand)
    (sent : Sent history request) (protects : Protects history later) {status : IdempotencyStatus}
    (final : status ∈ IdempotencyStatus.submitted.allowed)
    (evidence : status = .succeeded → request.orderType = .market →
      ProtectionConfirmed executor.sha256 later request.fill)
    (untouched : status = .unknown → history = later) :
    MayUpdate executor (executing executor command) later request.idempotencyKey status
      { key := request.idempotencyKey, fill := request.fill, status := .submitted, own := true } where
  working := by rw [protects.working, sent.working]
  key_eq := rfl
  settles := ⟨rfl, .inr rfl⟩
  allowed := final
  evidence := fun succeeded market _ => .inl (evidence succeeded market)
  untouched := fun unknown => untouched unknown ▸ ⟨sent.modifies, sent.closes⟩

end Sent

variable {approved : Approved}

theorem keeps_settleUnknown (sent : Sent history approved.request)
    (transitions : List StateTransition) (error : PyError) :
    Keeps (Discipline executor (executing executor command)) Excused Justified
      (executor.settleUnknown approved transitions error) history := by
  have permitted := sent.mayUpdate executor command (Reads.refl _).protects
    (show .unknown ∈ IdempotencyStatus.submitted.allowed by decide) (by simp) fun _ => rfl
  refine Keeps.bind (keeps_mark permitted none error.text) fun later _ _ => ?_
  refine Keeps.ite (fun _ => ?_) fun _ => ?_
  · apply keeps_transition_bind
    intro failed
    exact Keeps.pure (justified_of_ne (by simp [settled]))
  · apply keeps_transition_bind
    intro failed
    exact Keeps.pure (justified_of_ne (by simp [settled]))

theorem keeps_settleFill (sent : Sent history approved.request)
    (market : approved.request.orderType = .market) (transitions : List StateTransition)
    (answered : Returned history (.broker (.placeMarketOrder approved.request)) report) :
    Keeps (Discipline executor (executing executor command)) Excused Justified
      (executor.settleFill approved transitions report) history := by
  unfold settleFill
  apply keeps_transition_bind
  intro filled
  refine Keeps.bind (keeps_verifyOrRepairProtection sent.mayModify approved.request report) ?_
  rintro later protection ⟨protects, confirmed⟩
  refine Keeps.ite (fun failed => ?_) fun succeeded => ?_
  · have permitted := sent.mayUpdate executor command protects
      (show .protectionFailed ∈ IdempotencyStatus.submitted.allowed by decide) (by simp) (by simp)
    refine Keeps.bind (keeps_mark permitted _ _) fun _ _ _ => ?_
    apply keeps_transition_bind
    intro failed
    exact Keeps.pure (justified_of_ne (by simp [settled]))
  · have permitted := sent.mayUpdate executor command protects
      (show .succeeded ∈ IdempotencyStatus.submitted.allowed by decide)
      (fun _ _ => confirmed (by simpa using succeeded) fun ticket ticketed =>
        .reported rfl answered ticketed) (by simp)
    refine Keeps.bind (keeps_mark permitted _ _) ?_
    intro last record marked
    apply keeps_transition_bind
    intro opened
    refine Keeps.pure fun _ => ?_
    -- the record this call works on is now the succeeded one of this request
    have working : (progressOf last).working = some
        { key := approved.request.idempotencyKey, fill := approved.request.fill
          status := .succeeded, own := true } := by
      rw [marked.progress, Progress.know, protects.working, sent.working]
      rfl
    exact ⟨approved.request, rfl, market, .inl ⟨_, working, rfl, rfl⟩⟩

theorem keeps_settleReport (sent : Sent history approved.request) (transitions : List StateTransition)
    (answered : approved.request.orderType = .market →
      Returned history (.broker (.placeMarketOrder approved.request)) report) :
    Keeps (Discipline executor (executing executor command)) Excused Justified
      (executor.settleReport approved transitions report) history := by
  refine Keeps.ite (fun _ => ?_) fun _ => Keeps.ite (fun market => ?_) fun pending => ?_
  · have permitted := sent.mayUpdate executor command (Reads.refl _).protects
      (show .rejected ∈ IdempotencyStatus.submitted.allowed by decide) (by simp) (by simp)
    refine Keeps.bind (keeps_mark permitted _ _) fun _ _ _ => ?_
    apply keeps_transition_bind
    intro failed
    exact Keeps.pure (justified_of_ne (by simp [settled]))
  · exact keeps_settleFill sent market transitions (answered market)
  · have permitted := sent.mayUpdate executor command (Reads.refl _).protects
      (show .succeeded ∈ IdempotencyStatus.submitted.allowed by decide)
      (fun _ market => absurd market pending) (by simp)
    refine Keeps.bind (keeps_mark permitted _ _) fun _ _ _ => ?_
    exact Keeps.pure (justified_of_ne (by simp [settled]))

/-! ## The send -/

theorem keeps_safeOrderCheck (request : OrderRequest) :
    Keeps (Discipline executor role) Excused
      (fun later check => Reads history later ∧ (check.accepted = true →
        Returned later (.broker (.validateOrder request)) check))
      (safeOrderCheck request) history := by
  have asked : Keeps (Discipline executor role) Excused
      (fun later (result : Except OrderCheckResult OrderCheckResult) => Reads history later ∧
        (∀ check, result = .ok check → Returned later (.broker (.validateOrder request)) check) ∧
        ∀ refusal, result = .error refusal → refusal.accepted = false)
      (Program.catching (askBroker (.validateOrder request)) PyError.isBroker fun error =>
        { accepted := false, reasons := ["BROKER_ORDER_CHECK_ERROR:" ++ error.typeName] })
      history := by
    refine keeps_try (.broker (.validateOrder request)) trivial (fun check => ?_) fun error _ => ?_
    · refine ⟨(Reads.refl _).snoc fun _ => rfl, ?_, by simp⟩
      rintro _ ⟨⟩
      exact returned_last _ _
    · refine ⟨(Reads.refl _).snoc fun _ => rfl, by simp, ?_⟩
      rintro _ ⟨⟩
      rfl
  refine Keeps.bind asked ?_
  rintro later result ⟨reads, checked, refused⟩
  cases result with
  | ok check => exact Keeps.pure ⟨reads, fun _ => checked check rfl⟩
  | error refusal =>
    refine Keeps.pure ⟨reads, fun accepted => ?_⟩
    rw [refused refusal rfl] at accepted
    cases accepted

/-- The call has claimed the key of `request` and changed nothing else. -/
structure JustClaimed (kind : StoreKind) (history : List PortEvent) (request : OrderRequest) :
    Prop where
  won : ClaimWon kind history request
  progress : progressOf history = ({} : Progress).claim request.idempotencyKey request.fill

theorem JustClaimed.mayUpdate (command : ExecutionCommand)
    (claimed : JustClaimed executor.kind history request)
    (next : status ∈ IdempotencyStatus.claimed.allowed) :
    MayUpdate executor (executing executor command) history request.idempotencyKey status
      { key := request.idempotencyKey, fill := request.fill, status := .claimed, own := true } where
  working := by rw [claimed.progress]; rfl
  key_eq := rfl
  settles := ⟨rfl, .inl rfl⟩
  allowed := next
  evidence := fun succeeded => by
    have excluded : IdempotencyStatus.succeeded ∉ IdempotencyStatus.claimed.allowed := by decide
    exact absurd (succeeded ▸ next) excluded
  untouched := fun _ => by rw [claimed.progress]; exact ⟨rfl, rfl⟩

theorem sent_of_place {earlier : List PortEvent} (claimed : JustClaimed executor.kind earlier request)
    (updated : progressOf history = (progressOf earlier).know .submitted) (event : PortEvent)
    (sends : event.1 = .broker (.placeMarketOrder request) ∨ event.1 = .broker (.placePendingOrder request)) :
    Sent (history ++ [event]) request := by
  obtain ⟨op, reply⟩ := event
  have progress : progressOf (history ++ [⟨op, reply⟩]) =
      { progressOf history with sends := (progressOf history).sends + 1 } := by
    rw [progressOf_append_singleton]
    obtain rfl | rfl := sends <;> rfl
  rw [updated, claimed.progress] at progress
  constructor <;> rw [progress] <;> rfl

theorem keeps_send (cleared : Cleared executor command history approved.request)
    (checked : ∃ check, Returned history (.broker (.validateOrder approved.request)) check ∧ check.accepted = true)
    (claimed : JustClaimed executor.kind history approved.request) (transitions : List StateTransition) :
    Keeps (Discipline executor (executing executor command)) Excused Justified
      (executor.send approved transitions) history := by
  unfold send
  apply keeps_transition_bind
  intro pending
  have submitting := claimed.mayUpdate command
    (show .submitted ∈ IdempotencyStatus.claimed.allowed by decide)
  refine Keeps.bind (keeps_update submitting approved.now none "order_send started") ?_
  intro middle record updated
  obtain ⟨check, validated, accepted⟩ := checked
  -- everything `MaySend` asks for is in place
  have permitted : MaySend executor.kind (executing executor command) middle approved.request :=
    { cleared := cleared.mono updated.included
      checked := ⟨check, validated.mono updated.included, accepted⟩
      claimed := claimed.won.mono updated.included
      first := by rw [updated.progress, claimed.progress]; rfl
      submitted := updated.submitted rfl }
  have placed : Keeps (Discipline executor (executing executor command)) Excused
      (fun later (result : Except PyError ExecutionReport) => Sent later approved.request ∧
        ∀ report, result = .ok report → approved.request.orderType = .market →
          Returned later (.broker (.placeMarketOrder approved.request)) report)
      (Program.catching (place approved.request) PyError.isUnconfirmedClose id) middle := by
    unfold place
    split
    next market =>
      refine keeps_try (.broker (.placeMarketOrder approved.request)) permitted
        (fun report => ?_) fun error _ => ?_
      · refine ⟨sent_of_place claimed updated.progress _ (.inl rfl), ?_⟩
        rintro _ ⟨⟩ _
        exact returned_last _ _
      · exact ⟨sent_of_place claimed updated.progress _ (.inl rfl), by simp⟩
    next pending =>
      refine keeps_try (.broker (.placePendingOrder approved.request)) permitted
        (fun report => ?_) fun error _ => ?_
      · exact ⟨sent_of_place claimed updated.progress _ (.inr rfl),
          fun _ _ market => absurd market pending⟩
      · exact ⟨sent_of_place claimed updated.progress _ (.inr rfl), by simp⟩
  refine Keeps.bind placed ?_
  rintro later result ⟨sent, answered⟩
  cases result with
  | error error => exact keeps_settleUnknown sent _ error
  | ok report => exact keeps_settleReport sent _ (answered report rfl)

theorem keeps_submit (fresh : progressOf history = {}) (cleared : Cleared executor command history approved.request) :
    Keeps (Discipline executor (executing executor command)) Excused Justified
      (executor.submit approved) history := by
  unfold submit
  have claimable : MayRead (executing executor command) history approved.request.idempotencyKey :=
    ⟨cleared.about, by rw [fresh]⟩
  refine Keeps.bind (keeps_claim claimable approved.now) ?_
  rintro middle ⟨record, won⟩ answered
  cases won with
  | false => exact Keeps.pure (justified_outcomeFromRecord answered _)
  | true =>
    obtain ⟨included, claim, progress⟩ := answered
    rw [fresh] at progress
    apply keeps_transition_bind
    intro ready
    refine Keeps.bind (keeps_safeOrderCheck approved.request) ?_
    rintro later check ⟨reads, checked⟩
    have claimed : JustClaimed executor.kind later approved.request :=
      ⟨claim.mono reads.included, reads.progress.trans progress⟩
    refine Keeps.ite (fun refused => ?_) fun accepted => ?_
    · have rejecting := claimed.mayUpdate command
        (show .rejected ∈ IdempotencyStatus.claimed.allowed by decide)
      refine Keeps.bind (keeps_update rejecting _ _ _) fun _ _ _ => ?_
      apply keeps_transition_bind
      intro failed
      exact Keeps.pure (justified_of_ne (by simp [settled]))
    · rw [Bool.not_eq_false] at accepted
      refine keeps_send (cleared.mono ?_) ⟨check, checked accepted, accepted⟩ claimed _
      exact fun _ member => reads.included (included member)

/-- **`execute` keeps the discipline of a call.** -/
theorem keeps_execute (executor : TradeExecutor) (command : ExecutionCommand) :
    Keeps (Discipline executor (executing executor command)) Excused Justified (executor.execute command) [] := by
  unfold execute
  refine Keeps.ite (fun _ => Keeps.pure (justified_of_ne (by simp))) fun _ => ?_
  refine Keeps.bind (keeps_assess command rfl) ?_
  intro later result assessed
  cases result with
  | error => exact Keeps.pure assessed
  | ok => exact keeps_submit assessed.1.progress assessed.2

end GoldFlow
