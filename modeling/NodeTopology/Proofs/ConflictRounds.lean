import NodeTopology.Updater
import NodeTopology.Proofs.ClusterTrace
import NodeTopology.Proofs.LabelOverlay
/-!
How an update settles lost writes.  After a write that lost against another writer come rounds, each
of them a read and, if that gave a node, a write of just this node with the labels laid over it.
Main statement: the calls on the cluster and the waits between them are the first write and these
rounds, a further round coming exactly after a lost one while the budget lasts; so a label that
another writer put on the node is on every later write.
-/

namespace NodeTopology

/-- Whether the answer to a write says that another writer came first. -/
def lostConflict {α : Type} : Except RemoteError α → Bool
  | .ok _ => false
  | .error e => e.isConflict

/-- What a write with this answer comes to: a failure that is none of the cluster's ends the run. -/
def writeEnding : Except RemoteError (Option Node) → Except Fault (Except RemoteError Unit)
  | .ok _ => .ok (.ok ())
  | .error e => if e.isCluster then .ok (.error e) else .error (.escaped e)

theorem RemoteError.isCluster_of_isConflict {e : RemoteError} (hconflict : e.isConflict = true) :
    e.isCluster = true := by
  cases e with
  | refused => rfl
  | _ => cases hconflict

/-- A write that does not end the run comes to its answer, but for the node that came back. -/
theorem writeEnding_eq_ok {answer : Except RemoteError (Option Node)}
    {first : Except RemoteError Unit} (hending : writeEnding answer = .ok first) :
    first.isOk = answer.isOk ∧ lostConflict first = lostConflict answer := by
  cases answer with
  | ok kept =>
      cases hending
      exact ⟨rfl, rfl⟩
  | error e =>
      rw [writeEnding] at hending
      split at hending <;> cases hending
      exact ⟨rfl, rfl⟩

/-- A write that ends the run was neither accepted nor lost to another writer. -/
theorem writeEnding_eq_error {answer : Except RemoteError (Option Node)} {fault : Fault}
    (hending : writeEnding answer = .error fault) :
    answer.isOk = false ∧ lostConflict answer = false := by
  cases answer with
  | ok kept => cases hending
  | error e =>
      refine ⟨rfl, ?_⟩
      apply Bool.eq_false_iff.mpr
      intro hconflict
      rw [writeEnding, if_pos (RemoteError.isCluster_of_isConflict hconflict)] at hending
      cases hending

/-- One round after a lost write, as the cluster saw it. -/
inductive ConflictRound where
  /-- The node could not be read. -/
  | unread (error : RemoteError)
  /-- What was read has no metadata to put labels on. -/
  | bare (fresh : Option Node)
  /-- The node was read, and written with the labels laid over it. -/
  | written (fresh : Metadata) (answer : Except RemoteError (Option Node))

namespace ConflictRound

/-- The round that an answer to a read and a reply to a write make. -/
def ofAnswers (placement : Placement) (read : Except RemoteError (Option Node))
    (reply : ReplaceReply) : ConflictRound :=
  match read with
  | .error e => .unread e
  | .ok none => .bare none
  | .ok (some ⟨none⟩) => .bare (some ⟨none⟩)
  | .ok (some ⟨some fresh⟩) => .written fresh (reply.answer (fresh.withPlacement placement))

def calls (name : String) (placement : Placement) : ConflictRound → Trace
  | unread e => [.nodeRead name (.error e)]
  | bare fresh => [.nodeRead name (.ok fresh)]
  | written fresh answer =>
      [.nodeRead name (.ok (some ⟨some fresh⟩)),
        .nodeReplaced name (fresh.withPlacement placement) answer]

def isLost : ConflictRound → Bool
  | written _ answer => lostConflict answer
  | _ => false

def isAccepted : ConflictRound → Bool
  | written _ (.ok _) => true
  | _ => false

def ending : ConflictRound → Except Fault (Except RemoteError Unit)
  | unread e => if e.isCluster then .ok (.error e) else .error (.escaped e)
  | bare _ => .error (.misuse .noSuchMember)
  | written _ answer => writeEnding answer

theorem callsAndWaits_calls (name : String) (placement : Placement) (round : ConflictRound) :
    (round.calls name placement).callsAndWaits = round.calls name placement := by
  cases round <;> rfl

theorem belongsToUpdate_of_mem_calls {name : String} {placement : Placement}
    {round : ConflictRound} {event : Event} (hevent : event ∈ round.calls name placement) :
    event.BelongsToUpdate name := by
  rcases round with _ | _ | _ <;> simp only [calls, List.mem_cons, List.not_mem_nil, or_false]
    at hevent
  · subst hevent
    exact rfl
  · subst hevent
    exact rfl
  · rcases hevent with rfl | rfl <;> exact rfl

theorem clusterCalls_calls (name : String) (placement : Placement) (round : ConflictRound) :
    (round.calls name placement).clusterCalls = round.calls name placement := by
  cases round <;> rfl

theorem countP_calls (name : String) (placement : Placement) (round : ConflictRound) :
    (round.calls name placement).countP Event.isAcceptedWrite =
      if round.isAccepted then 1 else 0 := by
  rcases round with _ | _ | ⟨_, _ | _⟩ <;> rfl

theorem getLast?_calls_of_isAccepted (name : String) (placement : Placement)
    {round : ConflictRound} (haccepted : round.isAccepted = true) :
    ∃ call ∈ (round.calls name placement).getLast?, call.isAcceptedWrite = true := by
  rcases round with _ | _ | ⟨_, _ | _⟩
  · cases haccepted
  · cases haccepted
  · cases haccepted
  · exact ⟨_, rfl, rfl⟩

theorem isAccepted_eq_false_of_isLost {round : ConflictRound} (hlost : round.isLost = true) :
    round.isAccepted = false := by
  rcases round with _ | _ | ⟨_, _ | _⟩
  · rfl
  · rfl
  · rfl
  · cases hlost

theorem ending_of_isLost {round : ConflictRound} (hlost : round.isLost = true) :
    ∃ e, round.ending = .ok (.error e) := by
  rcases round with _ | _ | ⟨fresh, _ | e⟩
  · cases hlost
  · cases hlost
  · exact ⟨_, if_pos (RemoteError.isCluster_of_isConflict hlost)⟩
  · cases hlost

/-- A round ends well exactly if its write was accepted. -/
theorem ending_eq_ok_iff (round : ConflictRound) :
    round.ending = .ok (.ok ()) ↔ round.isAccepted = true := by
  rcases round with e | _ | ⟨fresh, e | _⟩
  · cases hcluster : e.isCluster <;> simp [ending, isAccepted, hcluster]
  · simp [ending, isAccepted]
  · cases hcluster : e.isCluster <;> simp [ending, writeEnding, isAccepted, hcluster]
  · simp [ending, writeEnding, isAccepted]

end ConflictRound

/-- The rounds that a budget and the answers of the cluster make: each takes an answer to a read and
a reply to a write, and only a lost round is followed by another. -/
def conflictRounds (placement : Placement) :
    Nat → Script (Except RemoteError (Option Node)) → Script ReplaceReply → List ConflictRound
  | 0, _, _ => []
  | n + 1, reads, replies =>
      let round := ConflictRound.ofAnswers placement reads.first replies.first
      round :: if round.isLost then conflictRounds placement n reads.rest replies.rest else []

section Rounds

variable (placement : Placement) (reads : Script (Except RemoteError (Option Node)))
  (replies : Script ReplaceReply)

theorem conflictRounds_ne_nil_iff (n : Nat) :
    conflictRounds placement n reads replies ≠ [] ↔ 0 < n := by
  cases n with
  | zero => simp [conflictRounds]
  | succ n => simp [conflictRounds]

theorem length_conflictRounds_le (n : Nat) :
    (conflictRounds placement n reads replies).length ≤ n := by
  induction n generalizing reads replies with
  | zero => exact Nat.le_refl 0
  | succ n ih =>
      rw [conflictRounds, List.length_cons]
      split
      · exact Nat.succ_le_succ (ih reads.rest replies.rest)
      · simp

/-- The rounds take the answers in order, and a round is followed by another exactly if it was lost
and the budget is not used up. -/
theorem getElem?_conflictRounds {n i : Nat} {round : ConflictRound}
    (hround : (conflictRounds placement n reads replies)[i]? = some round) :
    round = .ofAnswers placement (reads.answer i) (replies.answer i) ∧
      (i + 1 < (conflictRounds placement n reads replies).length ↔
        round.isLost = true ∧ i + 1 < n) := by
  induction i generalizing n reads replies with
  | zero =>
      cases n with
      | zero => simp [conflictRounds] at hround
      | succ n =>
          have hnext := conflictRounds_ne_nil_iff placement reads.rest replies.rest n
          simp only [conflictRounds, List.getElem?_cons_zero, Option.some.injEq] at hround
          refine ⟨hround.symm, ?_⟩
          rw [conflictRounds, List.length_cons, hround]
          cases hlost : round.isLost with
          | false => simp
          | true =>
              rw [← List.length_pos_iff] at hnext
              simp [hnext]
  | succ i ih =>
      cases n with
      | zero => simp [conflictRounds] at hround
      | succ n =>
          rw [conflictRounds] at hround ⊢
          rw [List.getElem?_cons_succ] at hround
          split at hround
          · next hlost =>
            rw [if_pos hlost, List.length_cons]
            obtain ⟨hanswers, hnext⟩ := ih reads.rest replies.rest hround
            refine ⟨hanswers, ?_⟩
            rw [Nat.add_lt_add_iff_right, hnext, Nat.add_lt_add_iff_right]
          · simp at hround

/-- Every round but the last was lost. -/
theorem isLost_of_mem_dropLast {n : Nat} {round : ConflictRound}
    (hround : round ∈ (conflictRounds placement n reads replies).dropLast) :
    round.isLost = true := by
  obtain ⟨i, hi, hround⟩ := List.mem_iff_getElem.mp hround
  rw [List.length_dropLast] at hi
  rw [List.getElem_dropLast] at hround
  have hget := List.getElem?_eq_some_iff.mpr ⟨by omega, hround⟩
  have hnext := (getElem?_conflictRounds placement reads replies hget).2
  exact (hnext.mp (by omega)).1

end Rounds

/-- Rounds of which all but the last were lost hold one accepted write at most: that of the last
round. -/
theorem countP_flatMap_calls (name : String) (placement : Placement)
    {rounds : List ConflictRound} (hlost : ∀ round ∈ rounds.dropLast, round.isLost = true) :
    (rounds.flatMap (·.calls name placement)).countP Event.isAcceptedWrite =
      if rounds.getLast?.any (·.isAccepted) then 1 else 0 := by
  rcases List.eq_nil_or_concat rounds with rfl | ⟨earlier, last, rfl⟩
  · rfl
  · have hearlier :
        (earlier.flatMap (·.calls name placement)).countP Event.isAcceptedWrite = 0 := by
      rw [List.countP_flatMap, List.sum_eq_zero_iff_forall_eq_nat]
      intro count hcount
      obtain ⟨round, hround, rfl⟩ := List.mem_map.mp hcount
      have hround := hlost round (by simpa using hround)
      simp [ConflictRound.countP_calls, ConflictRound.isAccepted_eq_false_of_isLost hround]
    rw [List.concat_eq_append, List.flatMap_append, List.countP_append, hearlier, Nat.zero_add]
    simp [ConflictRound.countP_calls]

/-- The accepted write of the last round is the last call of all. -/
theorem getLast?_flatMap_calls (name : String) (placement : Placement)
    {rounds : List ConflictRound} {last : ConflictRound} (hlast : rounds.getLast? = some last)
    (haccepted : last.isAccepted = true) :
    ∃ call ∈ (rounds.flatMap (·.calls name placement)).getLast?, call.isAcceptedWrite = true := by
  obtain ⟨call, hcall, hwrite⟩ := last.getLast?_calls_of_isAccepted name placement haccepted
  obtain ⟨earlier, rfl⟩ := List.getLast?_eq_some_iff.mp hlast
  refine ⟨call, ?_, hwrite⟩
  rw [Option.mem_def] at hcall ⊢
  simp [hcall]

/-- Every write in a round sends the node that was read right before it, with the labels laid over
it. -/
theorem read_before_write_of_flatMap_calls {name asked : String} {placement : Placement}
    {rounds : List ConflictRound} {sent : Node} {answer : Except RemoteError (Option Node)}
    {before after : Trace}
    (hsplit : rounds.flatMap (·.calls name placement) =
      before ++ .nodeReplaced asked sent answer :: after) :
    ∃ fresh, before.nodesRead.getLast? = some (some ⟨some fresh⟩) ∧
      sent = fresh.withPlacement placement := by
  induction rounds generalizing before with
  | nil => simp at hsplit
  | cons round rounds ih =>
      rw [List.flatMap_cons, List.append_eq_append_iff] at hsplit
      rcases hsplit with ⟨within, rfl, hrest⟩ | ⟨within, hcalls, hrest⟩
      · -- The write belongs to a later round.
        obtain ⟨fresh, hread, hsent⟩ := ih hrest
        exact ⟨fresh, by simp [hread], hsent⟩
      · rcases within with _ | ⟨write, within⟩
        · -- A later round cannot begin with a write.
          obtain ⟨fresh, hread, _⟩ := @ih [] hrest.symm
          cases hread
        · cases hrest
          rcases round with _ | _ | ⟨fresh, reply⟩
          · rcases before with _ | ⟨_, _ | _⟩ <;> cases hcalls
          · rcases before with _ | ⟨_, _ | _⟩ <;> cases hcalls
          · rcases before with _ | ⟨_, _ | ⟨_, _ | _⟩⟩ <;> cases hcalls
            exact ⟨fresh, rfl, rfl⟩

namespace Updater

theorem write_apply (name : String) (node : Node) (outside : Outside) :
    write name node outside =
      ⟨writeEnding (outside.replaces.first.answer node),
        [.nodeReplaced name node (outside.replaces.first.answer node)],
        { outside with replaces := outside.replaces.rest }⟩ := by
  have hcall : Outside.replaceNode name node outside =
      ⟨.ok (outside.replaces.first.answer node),
        [.nodeReplaced name node (outside.replaces.first.answer node)],
        { outside with replaces := outside.replaces.rest }⟩ := rfl
  rw [write, Run.bind_apply_of_ok hcall]
  cases outside.replaces.first.answer node with
  | ok kept => rfl
  | error e => cases hcluster : e.isCluster <;> simp [writeEnding, hcluster]

/-- A round makes the calls of the round that the next answers make, and is the last attempt unless
it was lost. -/
theorem round_apply (name : String) (placement : Placement) (outside : Outside) :
    let expected := ConflictRound.ofAnswers placement outside.reads.first outside.replaces.first
    (round name placement outside).result =
        expected.ending.map (fun outcome => ⟨outcome, !expected.isLost⟩) ∧
      (round name placement outside).trace = expected.calls name placement ∧
      (expected.isLost = true → (round name placement outside).supply =
        { outside with reads := outside.reads.rest, replaces := outside.replaces.rest }) := by
  have hread : Outside.readNode name outside =
      ⟨.ok outside.reads.first, [.nodeRead name outside.reads.first],
        { outside with reads := outside.reads.rest }⟩ := rfl
  rw [round, Run.bind_apply_of_ok hread]
  rcases outside.reads.first with e | _ | ⟨_ | fresh⟩
  · cases hcluster : e.isCluster <;>
      simp [ConflictRound.ofAnswers, ConflictRound.ending, ConflictRound.calls,
        ConflictRound.isLost, hcluster, Except.map, Attempt.failure]
  · exact ⟨rfl, rfl, by simp [ConflictRound.ofAnswers, ConflictRound.isLost]⟩
  · exact ⟨rfl, rfl, by simp [ConflictRound.ofAnswers, ConflictRound.isLost]⟩
  · have hlabelled : labelled (some ⟨some fresh⟩) placement
          { outside with reads := outside.reads.rest } =
        ⟨.ok (fresh.withPlacement placement), [], { outside with reads := outside.reads.rest }⟩ :=
      rfl
    have hwrite := write_apply name (fresh.withPlacement placement)
      { outside with reads := outside.reads.rest }
    dsimp only at hwrite ⊢
    rw [Run.bind_apply_of_ok hlabelled, ConflictRound.ofAnswers, ConflictRound.ending,
      ConflictRound.isLost, ConflictRound.calls]
    cases hanswer : outside.replaces.first.answer (fresh.withPlacement placement) with
    | ok kept =>
        rw [hanswer, writeEnding] at hwrite
        rw [Run.bind_apply_of_ok hwrite]
        exact ⟨rfl, rfl, fun hlost => by cases hlost⟩
    | error e =>
        rw [hanswer, writeEnding] at hwrite
        cases hcluster : e.isCluster with
        | false =>
            rw [hcluster] at hwrite
            rw [Run.bind_apply_of_error hwrite]
            refine ⟨by simp [writeEnding, hcluster, Except.map], rfl, fun hlost => ?_⟩
            have hcaught := RemoteError.isCluster_of_isConflict hlost
            simp [hcluster] at hcaught
        | true =>
            rw [hcluster] at hwrite
            rw [Run.bind_apply_of_ok hwrite]
            exact ⟨by simp [writeEnding, hcluster, Except.map, lostConflict, Attempt.failure], rfl,
              fun _ => rfl⟩

/-- The rounds of a retry: their calls with one wait between each two of them, and what the last of
them comes to.  Without any round there is nothing to come to. -/
theorem attemptsFrom_round (name : String) (placement : Placement) (budget : Budget)
    (number left : Nat) (outside : Outside) :
    let rounds := conflictRounds placement left outside.reads outside.replaces
    let retried :=
      Retry.attemptsFrom RemoteError.text budget (round name placement) number left outside
    retried.trace.callsAndWaits =
        [.slept budget.intervalMs].intercalate (rounds.map (·.calls name placement)) ∧
      retried.result = rounds.getLast?.elim (.ok none) (·.ending.map some) := by
  induction left generalizing number outside with
  | zero => exact ⟨rfl, rfl⟩
  | succ left ih =>
      obtain ⟨hresult, htrace, hsupply⟩ := round_apply name placement outside
      rw [conflictRounds]
      generalize ConflictRound.ofAnswers placement outside.reads.first outside.replaces.first =
        expected at hresult htrace hsupply ⊢
      rcases hrun : round name placement outside with ⟨result, trace, rest⟩
      rw [hrun] at hresult htrace hsupply
      subst htrace
      have hcalls := ConflictRound.callsAndWaits_calls name placement expected
      cases hlost : expected.isLost with
      | false =>
          -- Any end but a lost conflict is the last of the rounds.
          cases hending : expected.ending with
          | error fault =>
              rw [hending] at hresult
              subst hresult
              rw [Retry.attemptsFrom_of_fault hrun]
              refine ⟨hcalls.trans ?_, ?_⟩
              · simp
              · simp [hending, Except.map]
          | ok outcome =>
              rw [hending, hlost] at hresult
              subst hresult
              rw [Retry.attemptsFrom_of_last hrun number left rfl]
              refine ⟨?_, ?_⟩
              · rw [Trace.callsAndWaits_append, hcalls]
                simp
              · simp [hending, Except.map]
      | true =>
          obtain ⟨e, hending⟩ := expected.ending_of_isLost hlost
          rw [hending, hlost] at hresult
          subst hresult
          cases left with
          | zero =>
              rw [Retry.attemptsFrom_of_last hrun number 0 rfl]
              refine ⟨?_, ?_⟩
              · rw [Trace.callsAndWaits_append, hcalls]
                simp [conflictRounds]
              · simp [conflictRounds, hending, Except.map]
          | succ left =>
              have hrest := hsupply hlost
              subst hrest
              obtain ⟨hcallsRest, hresultRest⟩ := ih (number + 1)
                { outside with reads := outside.reads.rest, replaces := outside.replaces.rest }
              have hmore := (conflictRounds_ne_nil_iff placement outside.reads.rest
                outside.replaces.rest (left + 1)).mpr (Nat.succ_pos left)
              rw [Retry.attemptsFrom_of_again hrun number (left + 1) rfl, if_pos rfl]
              refine ⟨?_, ?_⟩
              · rw [Trace.callsAndWaits_append, hcalls, List.map_cons,
                  List.intercalate_cons_of_ne_nil (by simpa using hmore), ← hcallsRest]
                simp
              · rw [List.getLast?_cons_of_ne_nil hmore]
                exact hresultRest

end Updater

end NodeTopology
