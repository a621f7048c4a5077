import ScriptedSql.Proofs.Queue.Verdict

/-!
Contract: queues with and without the expectations of pings, for calls that are none.

Owns:
- the queue that is left when expectations of pings are left out, and what becomes of
  slots;
- the ways in which these expectations show in the verdict on other calls, and that there
  are no further ones;
- the agreement of both queues on a call in which they do not show.

Does not own: when pings are dispatched at all (`Mock.Pings`).
-/

namespace ScriptedSql

namespace Expectation

def isPing (expectation : Expectation) : Bool :=
  expectation.kind == .ping

private theorem refusal?_of_isPing {expectation : Expectation} (isPing : expectation.isPing = true)
    {call : Call} (noPing : call.kind ≠ .ping) (converter : Converter) :
    expectation.refusal? converter call = some .kind := by
  have different : expectation.kind ≠ call.kind := by
    rw [eq_of_beq isPing]
    exact Ne.symm noPing
  rw [refusal?, if_pos different]

theorem not_isPing_of_accepts {expectation : Expectation} {converter : Converter} {call : Call}
    (noPing : call.kind ≠ .ping) (accepts : expectation.accepts converter call = true) :
    expectation.isPing = false := by
  rw [← Bool.not_eq_true]
  intro isPing
  rw [Expectation.accepts, refusal?_of_isPing isPing noPing] at accepts
  contradiction

end Expectation

namespace Queue

/-- What is left of a queue without the expectations of pings. -/
def withoutPings (queue : Queue) : Queue :=
  queue.filter fun expectation => !expectation.isPing

/-- The slot that an expectation gets when those of pings are left out. -/
def rank (queue : Queue) (slot : Nat) : Nat :=
  (withoutPings (queue.take slot)).length

variable {converter : Converter} {call : Call}

/-- The ways in which expectations of pings show in the verdict on another call. -/
inductive PingsShow (converter : Converter) (call : Call) : Queue → Prop where
  /-- They hold back an ordered expectation that would take the call. -/
  | heldBack (before behind : Queue) (expectation : Expectation)
      (heldBack : ∃ other ∈ before, other.isBlocking = true)
      (onlyPings : ∀ other ∈ before, other.isBlocking = true → other.isPing = true)
      (untaken : before.find? (·.takesFreely converter call) = none)
      (blocking : expectation.isBlocking = true)
      (accepts : expectation.accepts converter call = true) :
      PingsShow converter call (before ++ expectation :: behind)
  /-- The call is rejected, and the reason names one of them as the next expectation. -/
  | named (queue : Queue) (ping : Expectation) (refusal : Refusal) (isPing : ping.isPing = true)
      (rejected : queue.verdict converter call = .error (.blocked ping refusal)) :
      PingsShow converter call queue
  /-- The call is rejected, and they are all that is pending. -/
  | counted (queue : Queue) (rejected : queue.verdict converter call = .error .unmatched)
      (onlyPings : ∀ other ∈ queue, other.fulfilled = false → other.isPing = true) :
      PingsShow converter call queue

/-! ## What is left of a queue -/

@[simp]
private theorem withoutPings_append (first second : Queue) :
    withoutPings (first ++ second) = withoutPings first ++ withoutPings second :=
  List.filter_append first second

@[simp]
private theorem withoutPings_cons_of_ping {expectation : Expectation}
    (isPing : expectation.isPing = true) (queue : Queue) :
    withoutPings (expectation :: queue) = withoutPings queue := by
  simp [withoutPings, isPing]

@[simp]
private theorem withoutPings_cons_of_other {expectation : Expectation}
    (other : expectation.isPing = false) (queue : Queue) :
    withoutPings (expectation :: queue) = expectation :: withoutPings queue := by
  simp [withoutPings, other]

private theorem mem_withoutPings_iff {queue : Queue} {expectation : Expectation} :
    expectation ∈ queue.withoutPings ↔ expectation ∈ queue ∧ expectation.isPing = false := by
  rw [withoutPings, List.mem_filter, Bool.not_eq_true']

private theorem find?_withoutPings (noPing : call.kind ≠ .ping) (queue : Queue) :
    queue.withoutPings.find? (·.takesFreely converter call) =
      queue.find? (·.takesFreely converter call) := by
  rw [withoutPings, List.find?_filter]
  congr 1
  funext expectation
  cases isPing : expectation.isPing with
  | false => simp
  | true =>
      have refuses := expectation.refusal?_of_isPing isPing noPing converter
      simp [Expectation.takesFreely, Expectation.accepts, refuses]

private theorem free_withoutPings {queue : Queue}
    (onlyPings : ∀ other ∈ queue, other.isBlocking = true → other.isPing = true) :
    ∀ other ∈ queue.withoutPings, other.isBlocking = false := by
  intro other isLeft
  obtain ⟨isThere, isOther⟩ := mem_withoutPings_iff.mp isLeft
  rw [← Bool.not_eq_true]
  intro blocking
  rw [onlyPings other isThere blocking] at isOther
  contradiction

/-! ## The verdict on what is left -/

/-- A ping that holds back refuses the call, so that only an unordered expectation can take
it. -/
theorem verdict_behind_ping (noPing : call.kind ≠ .ping) {before behind : Queue}
    {ping : Expectation} (free : ∀ other ∈ before, other.isBlocking = false)
    (blocking : ping.isBlocking = true) (isPing : ping.isPing = true) :
    verdict converter call (before ++ ping :: behind) =
      ((before ++ ping :: behind).find? (·.takesFreely converter call)).elim
        (.error (.blocked ping .kind)) .ok := by
  have notPing : ¬ ping.takesFreely converter call = true := by
    rw [Expectation.not_takesFreely_of_isBlocking blocking]
    exact Bool.false_ne_true
  rw [verdict_of_split free blocking, ping.refusal?_of_isPing isPing noPing, List.find?_append,
    List.find?_cons_of_neg notPing]
  cases before.find? (·.takesFreely converter call) <;> rfl

private theorem verdict_withoutPings_of_onlyPings (noPing : call.kind ≠ .ping) {queue : Queue}
    (onlyPings : ∀ other ∈ queue, other.isBlocking = true → other.isPing = true) :
    queue.withoutPings.verdict converter call =
      (queue.find? (·.takesFreely converter call)).elim
        (.error (if queue.withoutPings.all (·.fulfilled) then .exhausted else .unmatched)) .ok := by
  rw [verdict_of_free (free_withoutPings onlyPings), find?_withoutPings noPing]

private theorem verdict_withoutPings_of_split (noPing : call.kind ≠ .ping) {front rest : Queue}
    {next : Expectation}
    (onlyPings : ∀ other ∈ front, other.isBlocking = true → other.isPing = true)
    (blocking : next.isBlocking = true) (isOther : next.isPing = false) :
    (withoutPings (front ++ next :: rest)).verdict converter call =
      (front.find? (·.takesFreely converter call)).elim
        ((next.refusal? converter call).elim (.ok next) fun refusal =>
          (rest.find? (·.takesFreely converter call)).elim
            (.error (.blocked next refusal)) .ok) .ok := by
  rw [withoutPings_append, withoutPings_cons_of_other isOther,
    verdict_of_split (free_withoutPings onlyPings) blocking, find?_withoutPings noPing,
    find?_withoutPings noPing]

/-! ## Pings that do not show -/

private theorem hidden_of_onlyPings (noPing : call.kind ≠ .ping) {queue : Queue}
    (onlyPings : ∀ other ∈ queue, other.isBlocking = true → other.isPing = true)
    (hidden : ¬ queue.PingsShow converter call) :
    queue.withoutPings.verdict converter call = queue.verdict converter call := by
  rw [verdict_withoutPings_of_onlyPings noPing onlyPings]
  rcases queue.split_at_first (·.isBlocking) with free | ⟨before, ping, behind, rfl, free, blocking⟩
  · have verdict : queue.verdict converter call = _ := verdict_of_free free
    rw [verdict]
    cases untaken : queue.find? (·.takesFreely converter call) with
    | some taker => rfl
    | none =>
        rw [untaken] at verdict
        cases allFulfilled : queue.all (·.fulfilled) with
        | true =>
            have allLeft : queue.withoutPings.all (·.fulfilled) = true := by
              rw [List.all_eq_true] at allFulfilled ⊢
              exact fun other isLeft => allFulfilled other (mem_withoutPings_iff.mp isLeft).1
            rw [allLeft]
        | false =>
            rw [allFulfilled] at verdict
            cases allLeft : queue.withoutPings.all (·.fulfilled) with
            | false => rfl
            | true =>
                -- Nothing is pending any more when the pings are left out.
                refine absurd (.counted queue verdict fun other isThere pending => ?_) hidden
                cases isPing : other.isPing with
                | true => rfl
                | false =>
                    have isLeft := mem_withoutPings_iff.mpr ⟨isThere, isPing⟩
                    rw [List.all_eq_true.mp allLeft other isLeft] at pending
                    contradiction
  · have isPing := onlyPings ping (List.mem_append_right before List.mem_cons_self) blocking
    have verdict : verdict converter call (before ++ ping :: behind) = _ :=
      verdict_behind_ping noPing free blocking isPing
    rw [verdict]
    cases untaken : (before ++ ping :: behind).find? (·.takesFreely converter call) with
    | some taker => rfl
    | none =>
        rw [untaken] at verdict
        exact absurd (.named _ ping .kind isPing verdict) hidden

private theorem hidden_of_split (noPing : call.kind ≠ .ping) {front rest : Queue}
    {next : Expectation}
    (onlyPings : ∀ other ∈ front, other.isBlocking = true → other.isPing = true)
    (blocking : next.isBlocking = true) (isOther : next.isPing = false)
    (hidden : ¬ PingsShow converter call (front ++ next :: rest)) :
    (withoutPings (front ++ next :: rest)).verdict converter call =
      verdict converter call (front ++ next :: rest) := by
  rw [verdict_withoutPings_of_split noPing onlyPings blocking isOther]
  rcases front.split_at_first (·.isBlocking) with free |
    ⟨before, ping, behind, rfl, free, pingBlocks⟩
  · rw [verdict_of_split free blocking]
  · have pingThere : ping ∈ before ++ ping :: behind :=
      List.mem_append_right before List.mem_cons_self
    have isPing := onlyPings ping pingThere pingBlocks
    have verdict : verdict converter call (before ++ ping :: (behind ++ next :: rest)) = _ :=
      verdict_behind_ping noPing free pingBlocks isPing
    have notNext : ¬ next.takesFreely converter call = true := by
      rw [Expectation.not_takesFreely_of_isBlocking blocking]
      exact Bool.false_ne_true
    rw [← List.cons_append, ← List.append_assoc, List.find?_append,
      List.find?_cons_of_neg notNext] at verdict
    rw [verdict]
    cases inFront : (before ++ ping :: behind).find? (·.takesFreely converter call) with
    | some taker => rfl
    | none =>
        rw [inFront] at verdict
        cases refused : next.refusal? converter call with
        | none =>
            -- Without the ping in front the next one takes the call.
            have accepts : next.accepts converter call = true := by
              rw [Expectation.accepts, refused]
              rfl
            exact absurd
              (.heldBack _ rest next ⟨ping, pingThere, pingBlocks⟩ onlyPings inFront blocking
                accepts)
              hidden
        | some refusal =>
            cases inRest : rest.find? (·.takesFreely converter call) with
            | some taker => rfl
            | none =>
                rw [inRest] at verdict
                exact absurd (.named _ ping .kind isPing verdict) hidden

/-- Unless expectations of pings show, the verdict on a call that is no ping does not change
when they are left out. -/
theorem verdict_withoutPings_of_hidden (noPing : call.kind ≠ .ping) {queue : Queue}
    (hidden : ¬ queue.PingsShow converter call) :
    queue.withoutPings.verdict converter call = queue.verdict converter call := by
  have pingOf {other : Expectation} (passed : (other.isBlocking && !other.isPing) = false)
      (blocks : other.isBlocking = true) : other.isPing = true := by
    rw [blocks, Bool.true_and, Bool.not_eq_false'] at passed
    exact passed
  rcases queue.split_at_first (fun other => other.isBlocking && !other.isPing) with
    onlyPings | ⟨front, next, rest, rfl, onlyPings, isNext⟩
  · exact hidden_of_onlyPings noPing (fun other isThere => pingOf (onlyPings other isThere)) hidden
  · obtain ⟨blocking, isOther⟩ := Bool.and_eq_true_iff.mp isNext
    rw [Bool.not_eq_true'] at isOther
    exact hidden_of_split noPing (fun other isThere => pingOf (onlyPings other isThere)) blocking
      isOther hidden

/-! ## Pings that show -/

private theorem verdict_withoutPings_of_shows (noPing : call.kind ≠ .ping) {queue : Queue}
    (shows : queue.PingsShow converter call) :
    queue.withoutPings.verdict converter call ≠ queue.verdict converter call := by
  intro same
  cases shows with
  | heldBack before behind expectation heldBack onlyPings untaken blocking accepts =>
      have isOther := expectation.not_isPing_of_accepts noPing accepts
      have accepting : expectation.refusal? converter call = none :=
        Option.isNone_iff_eq_none.mp accepts
      rw [verdict_withoutPings_of_split noPing onlyPings blocking isOther, untaken, accepting]
        at same
      obtain ⟨other, isThere, blocks⟩ := heldBack
      rcases before.split_at_first (·.isBlocking) with free |
        ⟨first, ping, between, rfl, free, pingBlocks⟩
      · rw [free other isThere] at blocks
        contradiction
      · -- Behind the ping only an unordered expectation could have taken the call.
        have isPing := onlyPings ping (List.mem_append_right first List.mem_cons_self) pingBlocks
        rw [List.append_assoc, List.cons_append, verdict_behind_ping noPing free pingBlocks isPing]
          at same
        cases taken : (first ++ ping :: (between ++ expectation :: behind)).find?
            (·.takesFreely converter call) with
        | none =>
            rw [taken] at same
            cases same
        | some taker =>
            rw [taken] at same
            cases same
            have freely := List.find?_some taken
            rw [Expectation.not_takesFreely_of_isBlocking blocking] at freely
            contradiction
  | named _ ping refusal isPing rejected =>
      obtain ⟨isLeft, -⟩ := blocking_of_verdict (same.trans rejected)
      rw [(mem_withoutPings_iff.mp isLeft).2] at isPing
      contradiction
  | counted _ rejected onlyPings =>
      have allFulfilled : ∀ other ∈ queue.withoutPings, other.fulfilled = true := by
        intro other isLeft
        obtain ⟨isThere, isOther⟩ := mem_withoutPings_iff.mp isLeft
        cases pending : other.fulfilled with
        | true => rfl
        | false =>
            rw [onlyPings other isThere pending] at isOther
            contradiction
      have free : ∀ other ∈ queue.withoutPings, other.isBlocking = false := by
        intro other isLeft
        rw [Expectation.isBlocking, allFulfilled other isLeft]
        rfl
      rw [rejected, verdict_of_free free, List.all_eq_true.mpr allFulfilled] at same
      cases taken : queue.withoutPings.find? (·.takesFreely converter call) with
      | none =>
          rw [taken] at same
          cases same
      | some taker =>
          rw [taken] at same
          cases same

/-- Expectations of pings change the verdict on a call that is no ping in the told ways, and in
no other. -/
theorem verdict_withoutPings_iff (noPing : call.kind ≠ .ping) (queue : Queue) :
    queue.withoutPings.verdict converter call = queue.verdict converter call ↔
      ¬ queue.PingsShow converter call := by
  constructor
  · intro same shows
    exact verdict_withoutPings_of_shows noPing shows same
  · exact verdict_withoutPings_of_hidden noPing

/-! ## Slots -/

@[simp]
private theorem rank_zero (queue : Queue) : queue.rank 0 = 0 := by
  simp [rank, withoutPings]

@[simp]
private theorem rank_succ_of_ping {head : Expectation} (isPing : head.isPing = true) (tail : Queue)
    (slot : Nat) : rank (head :: tail) (slot + 1) = rank tail slot := by
  simp [rank, isPing]

@[simp]
private theorem rank_succ_of_other {head : Expectation} (isOther : head.isPing = false)
    (tail : Queue) (slot : Nat) : rank (head :: tail) (slot + 1) = rank tail slot + 1 := by
  simp [rank, isOther]

private theorem take_rank (queue : Queue) (slot : Nat) :
    queue.withoutPings.take (queue.rank slot) = withoutPings (queue.take slot) := by
  have split : queue.withoutPings =
      withoutPings (queue.take slot) ++ withoutPings (queue.drop slot) := by
    rw [← withoutPings_append, List.take_append_drop]
  rw [split, rank, List.take_left]

/-- An expectation that is not of a ping is found at its rank in what is left. -/
theorem getElem?_rank {queue : Queue} {slot : Nat}
    (isOther : ∀ expectation, queue[slot]? = some expectation → expectation.isPing = false) :
    queue.withoutPings[queue.rank slot]? = queue[slot]? := by
  induction queue generalizing slot with
  | nil => rfl
  | cons head tail inductionHypothesis =>
      cases slot with
      | zero =>
          simp [isOther head rfl]
      | succ slot =>
          cases isPing : head.isPing with
          | true => simpa [isPing] using inductionHypothesis isOther
          | false => simpa [isPing] using inductionHypothesis isOther

/-- A change to an expectation that is not of a ping shows at its rank in what is left. -/
theorem withoutPings_modify {change : Expectation → Expectation}
    (same : ∀ expectation, (change expectation).isPing = expectation.isPing) {queue : Queue}
    {slot : Nat}
    (isOther : ∀ expectation, queue[slot]? = some expectation → expectation.isPing = false) :
    withoutPings (queue.modify slot change) =
      queue.withoutPings.modify (queue.rank slot) change := by
  induction queue generalizing slot with
  | nil => simp [withoutPings]
  | cons head tail inductionHypothesis =>
      cases slot with
      | zero =>
          have headOther := isOther head rfl
          have changedOther : (change head).isPing = false := by rw [same, headOther]
          simp [headOther, changedOther]
      | succ slot =>
          have inTail : withoutPings (tail.modify slot change) =
              (withoutPings tail).modify (rank tail slot) change := inductionHypothesis isOther
          cases isPing : head.isPing with
          | true => simp [isPing, inTail]
          | false => simp [isPing, inTail]

/-- A change to an expectation of a ping does not show in what is left. -/
theorem withoutPings_modify_of_ping {change : Expectation → Expectation}
    (same : ∀ expectation, (change expectation).isPing = expectation.isPing) {queue : Queue}
    {slot : Nat}
    (isPing : ∃ expectation, queue[slot]? = some expectation ∧ expectation.isPing = true) :
    withoutPings (queue.modify slot change) = queue.withoutPings := by
  induction queue generalizing slot with
  | nil =>
      obtain ⟨expectation, found, -⟩ := isPing
      contradiction
  | cons head tail inductionHypothesis =>
      cases slot with
      | zero =>
          obtain ⟨expectation, found, isPing⟩ := isPing
          cases found
          have changedPing : (change head).isPing = true := by rw [same, isPing]
          simp [isPing, changedPing]
      | succ slot =>
          have inTail : withoutPings (tail.modify slot change) = withoutPings tail :=
            inductionHypothesis isPing
          cases headPing : head.isPing with
          | true => simp [headPing, inTail]
          | false => simp [headPing, inTail]

/-- The expectation that takes a call has no equal before it. -/
theorem get_not_mem_take {queue : Queue} {slot : Fin queue.length}
    (resolved : queue.resolve converter call = .ok slot) :
    queue.get slot ∉ queue.take slot := by
  intro isBefore
  obtain ⟨candidate, first⟩ := resolve_eq_ok_iff.mp resolved
  obtain ⟨earlier, within, same⟩ := List.mem_iff_getElem.mp isBefore
  have before : earlier < slot := by
    rw [List.length_take] at within
    omega
  rw [List.getElem_take] at same
  refine first ⟨earlier, by omega⟩ before ⟨?_, ?_, ?_⟩
  · rw [List.get_eq_getElem, same]
    exact candidate.pending
  · rw [List.get_eq_getElem, same]
    exact candidate.accepts
  · rw [List.get_eq_getElem, same]
    refine candidate.inTurn.imp_right fun free other isBefore => free other ?_
    exact Nat.lt_trans isBefore before

/-- A call for which the verdict does not change goes to the same expectation, which has got
another slot. -/
theorem resolve_withoutPings (noPing : call.kind ≠ .ping) {queue : Queue}
    (same : queue.withoutPings.verdict converter call = queue.verdict converter call)
    {slot : Fin queue.length} (resolved : queue.resolve converter call = .ok slot) :
    ∃ left : Fin queue.withoutPings.length,
      queue.withoutPings.resolve converter call = .ok left ∧ left.val = queue.rank slot ∧
        queue.withoutPings.get left = queue.get slot := by
  have isOther : (queue.get slot).isPing = false :=
    Expectation.not_isPing_of_accepts noPing (candidate_of_resolve resolved).accepts
  have foundThere : queue[slot.val]? = some (queue.get slot) := List.getElem?_eq_getElem slot.isLt
  have foundLeft : queue.withoutPings[queue.rank slot]? = some (queue.get slot) := by
    rw [getElem?_rank, foundThere]
    intro expectation found
    rw [foundThere] at found
    cases found
    exact isOther
  obtain ⟨rankWithin, atRank⟩ := List.getElem?_eq_some_iff.mp foundLeft
  have isTaker : queue.verdict converter call = .ok (queue.get slot) := by
    rw [verdict, resolved]
    rfl
  rw [isTaker, verdict] at same
  cases resolvedLeft : queue.withoutPings.resolve converter call with
  | error rejection =>
      rw [resolvedLeft] at same
      cases same
  | ok left =>
      rw [resolvedLeft] at same
      have sameTaker : queue.withoutPings.get left = queue.get slot := Except.ok.inj same
      refine ⟨left, rfl, ?_, sameTaker⟩
      -- Neither queue has an equal of the expectation in front of it.
      have notBefore : ¬ left.val < queue.rank slot := by
        intro before
        refine get_not_mem_take resolved (mem_withoutPings_iff.mp ?_).1
        rw [← take_rank, ← sameTaker, List.get_eq_getElem]
        exact List.mem_iff_getElem.mpr ⟨left, by rw [List.length_take]; omega, List.getElem_take⟩
      have notBehind : ¬ queue.rank slot < left.val := by
        intro behind
        refine get_not_mem_take resolvedLeft ?_
        rw [sameTaker, ← atRank]
        exact List.mem_iff_getElem.mpr
          ⟨queue.rank slot, by rw [List.length_take]; omega, List.getElem_take⟩
      omega

end Queue

end ScriptedSql
