import NodeTopology.Proofs.ConflictRounds
/-!
The calls that an update makes on the cluster once the placement is known, for every policy, every
budget and every order of answers.  Main statement: one write of the updater's copy of the node, and
then, after a lost write and under the policy that tries again, the rounds that the budget allows,
one wait between each two of them; every write holds the labels of the read before it.
-/

namespace NodeTopology

namespace Updater

/-- What follows what the first write came to. -/
def follow (updater : Updater) (name : String) (placement : Placement)
    (first : Except RemoteError Unit) : Run Outside Bool :=
  match first with
  | .ok () => conclude name placement first
  | .error e =>
      if !e.isConflict then conclude name placement first
      else match updater.policy with
        | .ignore => do
            Run.log .warning
              ("Node " ++ name ++ " was modified concurrently; leaving labels as they are")
            return false
        | .fail => conclude name placement first
        | .retry => do
            Run.log .warning
              ("Node " ++ name ++ " was modified concurrently; re-reading and re-applying")
            conclude name placement (← updater.settle name placement)

def writeAndSettle (updater : Updater) (name : String) (placement : Placement) (body : Node) :
    Run Outside Bool := do
  updater.follow name placement (← write name body)

theorem update_eq (updater : Updater) (name : String) :
    updater.update name = (do
      let placement ← updater.resolver.placementOf (some name)
      let body ← labelled updater.node placement
      updater.writeAndSettle name placement body) := by
  rfl

/-- The rounds that follow a first write which came to this. -/
def roundsAfter {α : Type} (updater : Updater) (placement : Placement)
    (first : Except RemoteError α) (outside : Outside) : List ConflictRound :=
  if lostConflict first && updater.policy == .retry then
    conflictRounds placement updater.budget.attempts.toNat outside.reads outside.replaces
  else []

/-- Whether an update succeeds: the first write was accepted, or it was lost and the last of the
rounds was accepted. -/
def succeeds {α : Type} (updater : Updater) (first : Except RemoteError α)
    (rounds : List ConflictRound) : Prop :=
  first.isOk = true ∨ lostConflict first = true ∧ updater.policy = .retry ∧
    ∀ last ∈ rounds.getLast?, last.isAccepted = true

section Settling

variable (updater : Updater) (name : String) (placement : Placement)

/-- A settlement makes the calls of its rounds, and comes to what the last of them comes to. -/
theorem settle_spec (outside : Outside) :
    let rounds :=
      conflictRounds placement updater.budget.attempts.toNat outside.reads outside.replaces
    let settled := updater.settle name placement outside
    settled.trace.callsAndWaits =
        [.slept updater.budget.intervalMs].intercalate (rounds.map (·.calls name placement)) ∧
      settled.result = rounds.getLast?.elim (.ok (.ok ())) (·.ending) := by
  obtain ⟨hcalls, hresult⟩ := attemptsFrom_round name placement updater.budget 1
    updater.budget.attempts.toNat outside
  dsimp only at hcalls hresult ⊢
  generalize conflictRounds placement updater.budget.attempts.toNat outside.reads
    outside.replaces = rounds at hcalls hresult ⊢
  rw [settle, Run.bind_pure_apply, Retry.run]
  refine ⟨hcalls, ?_⟩
  dsimp only
  rw [hresult]
  cases rounds.getLast? with
  | none => rfl
  | some last => cases hending : last.ending <;> simp [hending, Except.map]

theorem conclude_spec (outcome : Except RemoteError Unit) (outside : Outside) :
    let concluded := conclude name placement outcome outside
    concluded.trace.callsAndWaits = [] ∧
      (concluded.result = .ok true ↔ outcome = .ok ()) ∧ concluded.result ≠ .ok false := by
  cases outcome with
  | ok => exact ⟨rfl, iff_of_true rfl rfl, fun hfalse => by cases hfalse⟩
  | error e =>
      exact ⟨rfl, iff_of_false (fun htrue => by cases htrue) (fun htrue => by cases htrue),
        fun hfalse => by cases hfalse⟩

/-- A settlement that is reported makes the calls of its rounds, and succeeds if the last of them
was accepted. -/
theorem conclude_settle_spec (outside : Outside) :
    let rounds :=
      conflictRounds placement updater.budget.attempts.toNat outside.reads outside.replaces
    let outcome := (updater.settle name placement >>= conclude name placement) outside
    outcome.trace.callsAndWaits =
        [.slept updater.budget.intervalMs].intercalate (rounds.map (·.calls name placement)) ∧
      (outcome.result = .ok true ↔ ∀ last ∈ rounds.getLast?, last.isAccepted = true) ∧
      outcome.result ≠ .ok false := by
  obtain ⟨hcalls, hresult⟩ := updater.settle_spec name placement outside
  dsimp only at hcalls hresult ⊢
  generalize conflictRounds placement updater.budget.attempts.toNat outside.reads
    outside.replaces = rounds at hcalls hresult ⊢
  have haccepted : (updater.settle name placement outside).result = .ok (.ok ()) ↔
      ∀ last ∈ rounds.getLast?, last.isAccepted = true := by
    rw [hresult]
    cases rounds.getLast? with
    | none => simp
    | some last => simpa using last.ending_eq_ok_iff
  rcases hrun : updater.settle name placement outside with ⟨result, trace, rest⟩
  rw [hrun] at hcalls haccepted
  cases result with
  | error fault =>
      rw [Run.bind_apply_of_error hrun, ← haccepted]
      exact ⟨hcalls, by simp, by simp⟩
  | ok settled =>
      obtain ⟨hnothing, htrue, hfalse⟩ := conclude_spec name placement settled rest
      rw [Run.bind_apply_of_ok hrun, ← haccepted]
      refine ⟨?_, htrue.trans (by simp), hfalse⟩
      rw [Trace.callsAndWaits_append, hnothing, List.append_nil]
      exact hcalls

/-- What follows the first write makes the calls of the rounds. -/
theorem follow_spec (first : Except RemoteError Unit) (outside : Outside) :
    let rounds := updater.roundsAfter placement first outside
    let outcome := updater.follow name placement first outside
    outcome.trace.callsAndWaits =
        [.slept updater.budget.intervalMs].intercalate (rounds.map (·.calls name placement)) ∧
      (outcome.result = .ok true ↔ updater.succeeds first rounds) ∧
      (outcome.result = .ok false ↔ lostConflict first = true ∧ updater.policy = .ignore) := by
  cases first with
  | ok =>
      obtain ⟨hcalls, htrue, hfalse⟩ := conclude_spec name placement (.ok ()) outside
      refine ⟨hcalls, iff_of_true (htrue.mpr rfl) (Or.inl rfl), iff_of_false hfalse ?_⟩
      rintro ⟨hlost, _⟩
      cases hlost
  | error e =>
      have hlost : lostConflict (.error e : Except RemoteError Unit) = e.isConflict := rfl
      have hrefused : (.error e : Except RemoteError Unit).isOk = false := rfl
      obtain ⟨hcalls, htrue, hfalse⟩ := conclude_spec name placement (.error e) outside
      cases hconflict : e.isConflict with
      | false =>
          simp only [follow, roundsAfter, succeeds, hlost, hrefused, hconflict]
          simpa [hcalls, hfalse] using htrue
      | true =>
          cases hpolicy : updater.policy with
          | ignore =>
              simp only [follow, roundsAfter, succeeds, hlost, hrefused, hconflict, hpolicy]
              refine ⟨rfl, iff_of_false (fun htrue => by cases htrue) ?_,
                iff_of_true rfl (by simp)⟩
              rintro (hok | ⟨_, hretry, _⟩)
              · cases hok
              · cases hretry
          | fail =>
              simp only [follow, roundsAfter, succeeds, hlost, hrefused, hconflict, hpolicy]
              simpa [hcalls, hfalse] using htrue
          | retry =>
              obtain ⟨hsettled, haccepted, hnever⟩ :=
                updater.conclude_settle_spec name placement outside
              simp only [follow, roundsAfter, succeeds, hlost, hrefused, hconflict, hpolicy]
              exact ⟨hsettled, haccepted.trans (by simp), iff_of_false hnever (by simp)⟩

/-- After the first write come the rounds that its answer calls for.  The update ends with true if
the last write of all was accepted, and with false if a lost write is to be left. -/
theorem writeAndSettle_spec (body : Node) (outside : Outside) :
    let answer := outside.replaces.first.answer body
    let rounds := updater.roundsAfter placement answer
      { outside with replaces := outside.replaces.rest }
    let outcome := updater.writeAndSettle name placement body outside
    outcome.trace.callsAndWaits =
        .nodeReplaced name body answer ::
          [.slept updater.budget.intervalMs].intercalate (rounds.map (·.calls name placement)) ∧
      (outcome.result = .ok true ↔ updater.succeeds answer rounds) ∧
      (outcome.result = .ok false ↔ lostConflict answer = true ∧ updater.policy = .ignore) := by
  have hwrite := write_apply name body outside
  dsimp only
  generalize hanswer : outside.replaces.first.answer body = answer at hwrite ⊢
  cases hending : writeEnding answer with
  | error fault =>
      obtain ⟨hrefused, hlost⟩ := writeEnding_eq_error hending
      rw [hending] at hwrite
      rw [writeAndSettle, Run.bind_apply_of_error hwrite]
      simp [roundsAfter, succeeds, hrefused, hlost]
      rfl
  | ok first =>
      obtain ⟨haccepted, hlost⟩ := writeEnding_eq_ok hending
      obtain ⟨hcalls, htrue, hfalse⟩ := updater.follow_spec name placement first
        { outside with replaces := outside.replaces.rest }
      rw [hending] at hwrite
      rw [writeAndSettle, Run.bind_apply_of_ok hwrite]
      have hrounds : updater.roundsAfter placement first
          { outside with replaces := outside.replaces.rest } =
        updater.roundsAfter placement answer
          { outside with replaces := outside.replaces.rest } := by
        rw [roundsAfter, roundsAfter, hlost]
      rw [hrounds] at hcalls htrue
      refine ⟨?_, ?_, ?_⟩
      · rw [Trace.callsAndWaits_append, hcalls]
        rfl
      · rw [htrue, succeeds, succeeds, haccepted, hlost]
      · rw [hfalse, hlost]

/-- The calls of an update are the first write and those of the rounds. -/
theorem clusterCalls_writeAndSettle (body : Node) (outside : Outside) :
    let answer := outside.replaces.first.answer body
    let rounds := updater.roundsAfter placement answer
      { outside with replaces := outside.replaces.rest }
    (updater.writeAndSettle name placement body outside).trace.clusterCalls =
      .nodeReplaced name body answer :: rounds.flatMap (·.calls name placement) := by
  dsimp only
  obtain ⟨hcalls, _, _⟩ := updater.writeAndSettle_spec name placement body outside
  rw [← Trace.clusterCalls_callsAndWaits, hcalls]
  have hrounds := Trace.clusterCalls_intercalate_slept updater.budget.intervalMs
    ((updater.roundsAfter placement (outside.replaces.first.answer body)
      { outside with replaces := outside.replaces.rest }).map (·.calls name placement))
    (by
      intro part hpart
      obtain ⟨round, _, rfl⟩ := List.mem_map.mp hpart
      exact round.clusterCalls_calls name placement)
  exact congrArg _ (hrounds.trans List.flatMap_def.symm)

theorem isLost_of_mem_dropLast_roundsAfter {α : Type} {first : Except RemoteError α}
    {outside : Outside} {round : ConflictRound}
    (hround : round ∈ (updater.roundsAfter placement first outside).dropLast) :
    round.isLost = true := by
  rw [roundsAfter] at hround
  split at hround
  · exact isLost_of_mem_dropLast _ _ _ hround
  · cases hround

/-- With attempts to spare, a write that is to be tried again is followed by a round. -/
theorem roundsAfter_ne_nil_iff {α : Type} (first : Except RemoteError α) (outside : Outside) :
    updater.roundsAfter placement first outside ≠ [] ↔
      lostConflict first = true ∧ updater.policy = .retry ∧ 0 < updater.budget.attempts := by
  rw [roundsAfter, ← and_assoc]
  split
  · next hagain =>
    rw [Bool.and_eq_true, beq_iff_eq] at hagain
    rw [conflictRounds_ne_nil_iff, iff_true_intro hagain, true_and, Int.lt_toNat, Int.ofNat_zero]
  · next hagain =>
    rw [Bool.and_eq_true, beq_iff_eq] at hagain
    simp [hagain]

/-- An accepted write of an update that may try again is the only one of the update and its last
call, and an update that does not succeed leaves none. -/
theorem accepted_writeAndSettle (hattempts : 0 < updater.budget.attempts) (body : Node)
    (outside : Outside) :
    let outcome := updater.writeAndSettle name placement body outside
    (outcome.result = .ok true → outcome.trace.countP Event.isAcceptedWrite = 1 ∧
        ∃ call ∈ outcome.trace.clusterCalls.getLast?, call.isAcceptedWrite = true) ∧
      (outcome.result ≠ .ok true → outcome.trace.countP Event.isAcceptedWrite = 0) := by
  obtain ⟨_, htrue, _⟩ := updater.writeAndSettle_spec name placement body outside
  have hcalls := updater.clusterCalls_writeAndSettle name placement body outside
  dsimp only at htrue hcalls ⊢
  generalize hanswer : outside.replaces.first.answer body = answer at htrue hcalls
  have hlost : ∀ round ∈ (updater.roundsAfter placement answer
      { outside with replaces := outside.replaces.rest }).dropLast, round.isLost = true :=
    fun round hround => updater.isLost_of_mem_dropLast_roundsAfter placement hround
  have hsome := updater.roundsAfter_ne_nil_iff placement answer
    { outside with replaces := outside.replaces.rest }
  generalize updater.roundsAfter placement answer
    { outside with replaces := outside.replaces.rest } = rounds at htrue hcalls hlost hsome
  rw [← Trace.countP_isAcceptedWrite_clusterCalls, hcalls, ne_eq, htrue, List.countP_cons,
    countP_flatMap_calls name placement hlost]
  cases answer with
  | ok kept =>
      have hnone : rounds = [] := by
        by_cases hnone : rounds = []
        · exact hnone
        · exact absurd (hsome.mp hnone).1 Bool.false_ne_true
      subst hnone
      exact ⟨fun _ => ⟨rfl, _, rfl, rfl⟩, fun hfailed => (hfailed (Or.inl rfl)).elim⟩
  | error e =>
      constructor
      · rintro (hok | ⟨hconflict, hretry, hlast⟩)
        · cases hok
        · have hmore := hsome.mpr ⟨hconflict, hretry, hattempts⟩
          have hget := List.getLast?_eq_some_getLast hmore
          have haccepted := hlast _ hget
          obtain ⟨call, hcall, hwrite⟩ := getLast?_flatMap_calls name placement hget haccepted
          refine ⟨by simp [hget, haccepted, Event.isAcceptedWrite], call, ?_, hwrite⟩
          rw [Option.mem_def] at hcall ⊢
          rw [List.getLast?_cons, hcall]
          rfl
      · intro hfailed
        cases hget : rounds.getLast? with
        | none => rfl
        | some last =>
            have hmore : rounds ≠ [] := by
              rintro rfl
              cases hget
            obtain ⟨hconflict, hretry, _⟩ := hsome.mp hmore
            have hrefused : last.isAccepted = false := by
              apply Bool.eq_false_iff.mpr
              intro haccepted
              refine hfailed (Or.inr ⟨hconflict, hretry, ?_⟩)
              intro final hfinal
              rw [hget] at hfinal
              cases hfinal
              exact haccepted
            simp [hrefused, Event.isAcceptedWrite]

/-- An update ends with false after a single write that was lost, and only if lost writes are to be
left. -/
theorem writeAndSettle_left {body : Node} {outside : Outside}
    (hfalse : (updater.writeAndSettle name placement body outside).result = .ok false) :
    updater.policy = .ignore ∧ ∃ e : RemoteError, e.isConflict = true ∧
      (updater.writeAndSettle name placement body outside).trace.clusterCalls =
        [.nodeReplaced name body (.error e)] := by
  obtain ⟨hlost, hpolicy⟩ :=
    (updater.writeAndSettle_spec name placement body outside).2.2.mp hfalse
  have hcalls := updater.clusterCalls_writeAndSettle name placement body outside
  dsimp only at hcalls
  rw [roundsAfter, hpolicy] at hcalls
  cases hanswer : outside.replaces.first.answer body with
  | ok kept =>
      rw [hanswer] at hlost
      cases hlost
  | error e =>
      rw [hanswer] at hlost hcalls
      refine ⟨hpolicy, e, hlost, hcalls.trans ?_⟩
      have hretry : ((ConflictPolicy.ignore == ConflictPolicy.retry) : Bool) = false := rfl
      rw [hretry, Bool.and_false]
      rfl

/-- Every write of an update sends the last node read before it, or else the node that the update
began with, with the labels laid over it. -/
theorem sent_writeAndSettle (metadata : Metadata) (outside : Outside) {before after : Trace}
    {asked : String} {sent : Node} {answer : Except RemoteError (Option Node)}
    (hsplit : (updater.writeAndSettle name placement (metadata.withPlacement placement)
        outside).trace.clusterCalls = before ++ .nodeReplaced asked sent answer :: after) :
    ∃ base, before.nodesRead.getLast?.getD (some ⟨some metadata⟩) = some ⟨some base⟩ ∧
      sent = base.withPlacement placement := by
  have hcalls := updater.clusterCalls_writeAndSettle name placement
    (metadata.withPlacement placement) outside
  dsimp only at hcalls
  rw [hsplit] at hcalls
  rcases before with _ | ⟨first, later⟩
  · -- The first write of all.
    rw [List.nil_append, List.cons.injEq, Event.nodeReplaced.injEq] at hcalls
    exact ⟨metadata, rfl, hcalls.1.2.1⟩
  · rw [List.cons_append, List.cons.injEq] at hcalls
    obtain ⟨hfirst, hlater⟩ := hcalls
    obtain ⟨fresh, hread, hsent⟩ := read_before_write_of_flatMap_calls hlater.symm
    refine ⟨fresh, ?_, hsent⟩
    have hnodes : Trace.nodesRead (first :: later) = Trace.nodesRead later := by
      rw [hfirst]
      rfl
    rw [hnodes, hread]
    rfl

end Settling

section Emits

variable (updater : Updater) (name : String) (placement : Placement)

theorem write_emits (body : Node) : (write name body).Emits (Event.BelongsToUpdate name) := by
  intro outside event hevent
  rw [write_apply, List.mem_singleton] at hevent
  subst hevent
  exact rfl

theorem round_emits : (round name placement).Emits (Event.BelongsToUpdate name) := by
  intro outside event hevent
  rw [(round_apply name placement outside).2.1] at hevent
  exact ConflictRound.belongsToUpdate_of_mem_calls hevent

theorem conclude_emits (outcome : Except RemoteError Unit) :
    (conclude name placement outcome).Emits (Event.BelongsToUpdate name) := by
  cases outcome with
  | error e => exact Run.Emits.throw _
  | ok => exact Run.Emits.bind (Run.Emits.emit trivial) fun _ => Run.Emits.pure _

theorem settle_emits : (updater.settle name placement).Emits (Event.BelongsToUpdate name) :=
  Run.Emits.bind
    (Retry.run_emits (fun _ _ => trivial) (fun _ => trivial) (round_emits name placement))
    fun _ => Run.Emits.pure _

theorem follow_emits (first : Except RemoteError Unit) :
    (updater.follow name placement first).Emits (Event.BelongsToUpdate name) := by
  cases first with
  | ok => exact conclude_emits name placement _
  | error e =>
      rw [follow]
      split
      · exact conclude_emits name placement _
      · split
        · exact Run.Emits.bind (Run.Emits.emit trivial) fun _ => Run.Emits.pure _
        · exact conclude_emits name placement _
        · exact Run.Emits.bind (Run.Emits.emit trivial) fun _ =>
            Run.Emits.bind (updater.settle_emits name placement) (conclude_emits name placement)

theorem writeAndSettle_emits (body : Node) :
    (updater.writeAndSettle name placement body).Emits (Event.BelongsToUpdate name) :=
  Run.Emits.bind (write_emits name body) (updater.follow_emits name placement)

end Emits

section Update

variable {updater : Updater} {name : String} {outside : Outside} {metadata : Metadata}
  {placement : Placement}

/-- With a placement and a node to lay it over, an update goes on to write. -/
theorem update_apply_of_placement (hnode : updater.node = some ⟨some metadata⟩)
    (hplacement : (updater.resolver.placementOf (some name) outside).result = .ok placement) :
    let located := updater.resolver.placementOf (some name) outside
    let written := updater.writeAndSettle name placement (metadata.withPlacement placement)
      located.supply
    updater.update name outside =
      ⟨written.result, located.trace ++ written.trace, written.supply⟩ := by
  rw [update_eq, Run.bind_of_result_ok hplacement, hnode]
  rfl

theorem update_apply_of_no_placement {fault : Fault}
    (hplacement : (updater.resolver.placementOf (some name) outside).result = .error fault) :
    let located := updater.resolver.placementOf (some name) outside
    updater.update name outside = ⟨.error fault, located.trace, located.supply⟩ := by
  rw [update_eq, Run.bind_of_result_error hplacement]

/-- The calls of an update on the cluster, and its waits, are one write of its copy of the node and
then, under the policy that tries again and after a lost write, rounds: they take the answers in
order, a further one coming exactly after a lost one while the budget lasts.  Every write keeps the
labels of the last node read before it, but for the seven. -/
theorem lost_writes_are_settled_in_rounds (hnode : updater.node = some ⟨some metadata⟩)
    (hplacement : (updater.resolver.placementOf (some name) outside).result = .ok placement) :
    let located := updater.resolver.placementOf (some name) outside
    let attempts := updater.budget.attempts
    let first := located.supply.replaces.first.answer (metadata.withPlacement placement)
    ∃ (own : Trace) (rounds : List ConflictRound),
      (updater.update name outside).trace = located.trace ++ own ∧
      own.callsAndWaits =
        .nodeReplaced name (metadata.withPlacement placement) first ::
          [.slept updater.budget.intervalMs].intercalate (rounds.map (·.calls name placement)) ∧
      (rounds ≠ [] ↔ lostConflict first = true ∧ updater.policy = .retry ∧ 0 < attempts) ∧
      (rounds.length : Int) ≤ max attempts 0 ∧
      (∀ i round, rounds[i]? = some round →
        round = .ofAnswers placement (located.supply.reads.answer i)
            (located.supply.replaces.answer (i + 1)) ∧
          (i + 1 < rounds.length ↔ round.isLost = true ∧ (i + 1 : Int) < attempts)) ∧
      ∀ (before after : Trace) (asked : String) (sent : Node)
          (answer : Except RemoteError (Option Node)),
        own = before ++ .nodeReplaced asked sent answer :: after →
        ∃ base, before.nodesRead.getLast?.getD updater.node = some ⟨some base⟩ ∧
          sent = base.withPlacement placement ∧
          sent.Relabels base placement.instanceId placement.region placement.zone := by
  have hupdate := update_apply_of_placement hnode hplacement
  dsimp only at hupdate ⊢
  generalize hsupply : (updater.resolver.placementOf (some name) outside).supply = supply at *
  obtain ⟨hcalls, _, _⟩ := updater.writeAndSettle_spec name placement
    (metadata.withPlacement placement) supply
  refine ⟨_, _, congrArg Outcome.trace hupdate, hcalls,
    updater.roundsAfter_ne_nil_iff placement _ _, ?_, ?_, ?_⟩
  · rw [roundsAfter]
    split
    · have hlength := length_conflictRounds_le placement supply.reads supply.replaces.rest
        updater.budget.attempts.toNat
      dsimp only
      omega
    · rw [List.length_nil]
      omega
  · intro i round hround
    rw [roundsAfter] at hround ⊢
    split at hround
    · next hagain =>
      rw [if_pos hagain]
      obtain ⟨hanswers, hnext⟩ := getElem?_conflictRounds placement supply.reads
        supply.replaces.rest hround
      refine ⟨hanswers, hnext.trans ?_⟩
      rw [Int.lt_toNat]
      simp
    · cases hround
  · intro before after asked sent answer hsplit
    obtain ⟨base, hbase, hsent⟩ := updater.sent_writeAndSettle name placement metadata supply
      (Trace.clusterCalls_of_split hsplit)
    rw [Trace.nodesRead_clusterCalls] at hbase
    refine ⟨base, by rw [hnode, hbase], hsent, ?_⟩
    rw [hsent]
    exact base.withPlacement_relabels placement

/-- One lost write: the other writer's label is read, and kept by the write that is accepted. -/
theorem one_lost_write_is_settled_in_one_round :
    let machine : Instance := ⟨"id-7", "worker", "running", some ⟨"us-south-1", ""⟩, none⟩
    let updater : Updater :=
      ⟨some (.labelled none), ⟨fun _ => pure [machine]⟩, .retry, .forConflicts⟩
    let conflict : RemoteError := .refused (.int 409) (.text "Conflict") .null
    let others : Labels := [("team", "storage")]
    let outside : Outside :=
      ⟨⟨.error conflict, []⟩, ⟨.ok (some (.labelled (some others))), []⟩,
        ⟨.failed conflict, [.kept]⟩⟩
    let placement : Placement := ⟨"id-7", "us-south", "us-south-1"⟩
    let kept := Metadata.withPlacement ⟨some others⟩ placement
    (updater.update "worker" outside).trace.callsAndWaits =
      [.nodeReplaced "worker" (Metadata.withPlacement ⟨none⟩ placement) (.error conflict),
        .nodeRead "worker" (.ok (some (.labelled (some others)))),
        .nodeReplaced "worker" kept (.ok (some kept))] := by
  intro machine updater conflict others outside placement kept
  have hlocated : updater.resolver.placementOf (some "worker") outside =
      ⟨.ok placement, (updater.resolver.placementOf (some "worker") outside).trace, outside⟩ := by
    dsimp +zetaDelta only
    rfl
  obtain ⟨own, rounds, htrace, hcalls, hsome, _, hround, _⟩ :=
    @lost_writes_are_settled_in_rounds updater "worker" outside ⟨none⟩ placement rfl
      (by rw [hlocated])
  rw [hlocated] at htrace hcalls hsome hround
  have hmore : rounds ≠ [] := hsome.mpr ⟨rfl, rfl, by decide⟩
  rcases rounds with _ | ⟨first, later⟩
  · exact absurd rfl hmore
  · obtain ⟨hanswers, hlast⟩ := hround 0 first rfl
    have hfirst : first = .written ⟨some others⟩ (.ok (some kept)) := hanswers
    have hlater : later = [] := by
      cases later with
      | nil => rfl
      | cons second later =>
          have hlost := (hlast.mp (by simp)).1
          rw [hfirst] at hlost
          cases hlost
    subst hfirst hlater
    have hquiet :
        (updater.resolver.placementOf (some "worker") outside).trace.callsAndWaits = [] := by
      dsimp +zetaDelta only
      rfl
    rw [htrace, Trace.callsAndWaits_append, hcalls, hquiet]
    rfl

end Update

end Updater

end NodeTopology
