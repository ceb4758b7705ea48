import TrainingScheduler.System.Journals

/-!
# Steps of a host

No step of a Worker goes beyond what the Scheduler has told it: hosts stay lawful, and an assignment
whose cleanup was ever sent stays journalled and never regains a deadline.
-/

namespace TrainingScheduler

open Coordinator

variable {envelope : Envelope} {coordinator : Coordinator} {reply : ClaimReply}

section

variable {journal : Journal} {reply : ClaimReply} {conflict : Kind → Bool}

@[simp]
theorem adopt_claim : (journal.adopt reply conflict).claim = journal.claim := by
  unfold Journal.adopt
  split <;> rfl

variable {record : Record}

private theorem mem_adopt (member : record ∈ (journal.adopt reply conflict).records.rows) :
    record ∈ journal.records.rows ∨ ∃ envelope, reply.assignment = some envelope ∧
      record = envelope.record (conflict envelope.kind) := by
  unfold Journal.adopt at member
  split at member
  · exact .inl member
  · rename_i envelope shown
    rcases Table.mem_put.mp member with rfl | ⟨kept, -⟩
    · exact .inr ⟨envelope, shown, rfl⟩
    · exact .inl kept

theorem mem_adopt_of_mem (member : record ∈ journal.records.rows) :
    record ∈ (journal.adopt reply conflict).records.rows ∨ ∃ envelope,
      reply.assignment = some envelope ∧ envelope.assignmentId = record.assignmentId := by
  unfold Journal.adopt
  split
  · exact .inl member
  · rename_i envelope shown
    by_cases same : record.assignmentId = envelope.assignmentId
    · exact .inr ⟨envelope, shown, same.symm⟩
    · exact .inl (Table.mem_put.mpr (.inr ⟨member, same⟩))

theorem adopted_mem (shown : reply.assignment = some envelope) :
    envelope.record (conflict envelope.kind) ∈ (journal.adopt reply conflict).records.rows := by
  unfold Journal.adopt
  rw [shown]
  exact Table.mem_put.mpr (.inl rfl)

theorem exists_adopted (member : record ∈ journal.records.rows) :
    ∃ next ∈ (journal.adopt reply conflict).records.rows,
      next.assignmentId = record.assignmentId := by
  have stored : record ∈ (journal.adopt reply conflict).records.rows ∨ ∃ envelope,
      reply.assignment = some envelope ∧ envelope.assignmentId = record.assignmentId :=
    mem_adopt_of_mem member
  rcases stored with kept | ⟨envelope, shown, same⟩
  · exact ⟨record, kept, rfl⟩
  · exact ⟨_, adopted_mem shown, same⟩

theorem accept_journal (coordinator : Coordinator) (clock : Time) (reply : ClaimReply)
    (sentAt : Time) :
    (coordinator.accept clock reply sentAt).journal =
      (coordinator.journal.adopt reply
        (claimConflict coordinator.journal)).dropClaim := by
  cases shown : reply.assignment <;> simp [accept, Journal.adopt, shown]

theorem accept_deadlines {clock sentAt : Time} {id : UUID} {deadline : Time}
    (held : (coordinator.accept clock reply sentAt).deadlines id = some deadline) :
    coordinator.deadlines id = some deadline ∨ ∃ envelope, reply.assignment = some envelope ∧
      envelope.assignmentId = id ∧
      deadline = leaseDeadline sentAt envelope.leaseSeconds := by
  unfold accept at held
  split at held
  · exact .inl held
  · rename_i envelope shown
    dsimp only at held
    by_cases same : id = envelope.assignmentId
    · subst same
      rw [Function.update_self] at held
      exact .inr ⟨envelope, shown, rfl, (Option.some.inj held).symm⟩
    · rw [Function.update_of_ne same] at held
      exact .inl held

end

section

variable {world : World} {workerId : UUID} {call : Nat} {claim : Claim} {request : Request}
  {reply : ClaimReply}

section

variable (sound : world.AnswersSound) (carries : world.CarriesClaim workerId call claim request)
  (answered : world.calls.Answers call (.claim reply))

include sound carries answered

/-- The assignment in the response to a claim call is a row made for that claim. -/
theorem row_of_answer (shown : reply.assignment = some envelope) :
    ∃ row ∈ world.db.assignments.rows, row.MadeFor workerId claim ∧
      row.fence = envelope.fence ∧ request.sentAt + envelope.leaseSeconds ≤ row.leaseUntil := by
  obtain ⟨carried, rfl, message⟩ := carries
  obtain ⟨other, other_message, row, member, made, fence, bound⟩ :=
    (sound.of_answers carried answered).1 envelope shown
  obtain rfl : claim = other := Message.claim.inj (message.symm.trans other_message)
  exact ⟨row, member, made, fence, bound⟩

theorem tracks_of_adopt {journal : Journal} {conflict : Kind → Bool}
    (tracked : ∀ record ∈ journal.records.rows, world.Tracks workerId record) {record : Record}
    (member : record ∈ (journal.adopt reply conflict).records.rows) :
    world.Tracks workerId record := by
  rcases mem_adopt member with kept | ⟨envelope, shown, rfl⟩
  · exact tracked record kept
  · obtain ⟨row, row_mem, made, fence, -⟩ := row_of_answer sound carries answered shown
    refine ⟨row, row_mem, made.1, fence, ?_⟩
    rintro ⟨⟩

end

end

theorem renew_cases (coordinator : Coordinator) (clock : Time) (assignmentId : UUID)
    (sentAt budget : Time) (sequence : Nat) :
    coordinator.renew clock assignmentId sentAt budget sequence = (false, coordinator) ∨
      coordinator.authoritative clock assignmentId = true ∧
      coordinator.renew clock assignmentId sentAt budget sequence =
        (true, { coordinator with
          deadlines := Function.update coordinator.deadlines assignmentId
            (some (leaseDeadline sentAt budget))
          renewSequences :=
            Function.update coordinator.renewSequences assignmentId sequence }) := by
  unfold renew
  split_ifs with stale late
  · exact .inl rfl
  · exact .inl rfl
  · refine .inr ⟨?_, rfl⟩
    simpa using (not_or.mp stale).2

/-- A decision extends the deadline of an authoritative assignment, or leaves all deadlines. -/
theorem decide_cases (coordinator : Coordinator) (clock sentAt : Time) (sequence : Nat)
    (decision : Decision) :
    coordinator.Keeps noCloses (coordinator.decide clock sentAt sequence decision) ∨
      decision.action = .renew ∧
      coordinator.authoritative clock decision.assignmentId = true ∧
      coordinator.decide clock sentAt sequence decision =
        { coordinator with
          deadlines := Function.update coordinator.deadlines decision.assignmentId
            (some (leaseDeadline sentAt decision.leaseSeconds))
          renewSequences := Function.update coordinator.renewSequences decision.assignmentId
            sequence } := by
  have uncertain := keeps_markUncertain coordinator decision.assignmentId
  have quarantined : coordinator.Keeps noCloses
      { coordinator.markUncertain decision.assignmentId with mode := .cleaning } :=
    ⟨uncertain.records, uncertain.claim, uncertain.instanceId, uncertain.deadlines⟩
  unfold Coordinator.decide
  dsimp only
  rcases renew_cases coordinator clock decision.assignmentId sentAt decision.leaseSeconds
    sequence with refused | ⟨authority, renewed⟩
  · rw [refused, if_neg (by simp)]
    exact .inl quarantined
  · rw [renewed]
    split_ifs with renew
    · exact .inr ⟨renew.1, authority, rfl⟩
    · exact .inl quarantined

theorem deadline_of_authoritative {clock : Time} {assignmentId : UUID} (clock_nonneg : 0 ≤ clock)
    (authority : coordinator.authoritative clock assignmentId = true) :
    ∃ record deadline, coordinator.journal.records.lookup assignmentId = some record ∧
      record.localClean = false ∧ coordinator.deadlines assignmentId = some deadline ∧
      clock < deadline := by
  unfold authoritative at authority
  split at authority
  · cases authority
  · rename_i record found
    simp only [Bool.and_eq_true, Bool.not_eq_true', decide_eq_true_eq] at authority
    obtain ⟨⟨⟨clean, -⟩, -⟩, early⟩ := authority
    cases held : coordinator.deadlines assignmentId with
    | none =>
      rw [held, Option.getD_none] at early
      exact absurd early (not_lt.mpr clock_nonneg)
    | some deadline => exact ⟨record, deadline, found, clean, rfl, by simpa [held] using early⟩

section

variable {coordinator next : Coordinator} {requestId : UUID} {request : Claim}

theorem beginClaim_eq_some (begun : coordinator.beginClaim requestId = (some request, next)) :
    request = coordinator.journal.claim.getD ⟨coordinator.instanceId, requestId⟩ ∧
      request.instanceId = coordinator.instanceId ∧
      next = { coordinator with
        claimPending := true
        journal := { coordinator.journal with claim := some request } } := by
  unfold beginClaim at begun
  dsimp only at begun
  split_ifs at begun with blocked foreign
  · cases begun
  · cases begun
  · cases begun
    exact ⟨rfl, not_not.mp foreign, rfl⟩

theorem beginClaim_eq_none (begun : coordinator.beginClaim requestId = (none, next)) :
    coordinator.Keeps noCloses next := by
  unfold beginClaim at begun
  dsimp only at begun
  split_ifs at begun
  · cases begun
    exact .of_records rfl rfl rfl rfl
  · cases begun
    exact .of_records rfl rfl rfl rfl
  · cases begun

end

variable {closes : UUID → Prop}

section

variable {world after : World} {workerId : UUID} {process next : Process} {message : Option Message}
  {coordinator : Coordinator}

theorem Process.Lawful.of_keeps (lawful : process.Lawful world workerId)
    (keeps : process.coordinator.Keeps closes coordinator) (closed : world.Released closes) :
    { process with coordinator }.Lawful world workerId :=
  { lawful with
    coordinator := lawful.coordinator.of_keeps keeps closed
    main := lawful.main.of_keeps keeps }

/-- The call that a step sends is recorded. -/
def World.Records (world after : World) (workerId : UUID) (message : Option Message) : Prop :=
  ∀ body, message = some body → after.calls.Carries world.calls.next ⟨workerId, world.now, body⟩

theorem MainStep.lawful (sound : world.AnswersSound) (follows : World.Follows world after)
    (sent : world.Records after workerId message)
    (lawful : process.Lawful world workerId) (step : MainStep world process next message) :
    next.Lawful after workerId := by
  have later := lawful.mono follows
  have phase := lawful.main
  cases step with
  | resolve request main pending =>
    rw [main] at phase
    exact { later with main := ⟨phase, request, _, pending, sent _ rfl, rfl, rfl⟩ }
  | unclaimed main pending =>
    rw [main] at phase
    exact { later with main := phase }
  | resolved call reply main answered =>
    rw [main] at phase
    obtain ⟨unset, claim, request, _, carries⟩ := phase
    refine { later with coordinator := Coordinator.Lawful.mono follows ?_, main := unset }
    refine ⟨fun record => ?_, fun id deadline held => ?_, fun claim cleared => ?_⟩
    · exact tracks_of_adopt sound carries answered lawful.coordinator.tracked
    · cases (unset id).symm.trans held
    · cases cleared
  | register gpuType probe preflightReady slots main =>
    rw [main] at phase
    exact { later with main := phase }
  | registered call fences main answered known =>
    rw [main] at phase
    exact { later with main := phase }
  | started main =>
    exact
      { later with
        coordinator := later.coordinator.of_keeps (keeps_available _) fun _ none => none.elim
        main := trivial }
  | beginClaim requestId request coordinator fresh main begun =>
    obtain ⟨chosen, own, rfl⟩ := beginClaim_eq_some begun
    refine
      { later with
        coordinator := Coordinator.Lawful.mono follows
          ⟨lawful.coordinator.tracked, lawful.coordinator.leased, ?_⟩
        main := ⟨request, _, rfl, own, ⟨sent _ rfl, rfl, rfl⟩, le_rfl⟩ }
    rintro claim ⟨⟩ - record member
    cases pending : process.coordinator.journal.claim with
    | some earlier =>
      rw [pending, Option.getD_some] at chosen
      subst chosen
      exact lawful.coordinator.unjournalled _ pending own record member
    | none =>
      rw [pending, Option.getD_none] at chosen
      subst chosen
      obtain ⟨row, row_mem, -, fence, -⟩ := lawful.coordinator.tracked record member
      refine ⟨row, row_mem, congrArg Fence.assignmentId fence, fun made => ?_⟩
      exact fresh row row_mem made.2.2
  | declined requestId coordinator main begun =>
    exact later.of_keeps (beginClaim_eq_none begun) fun _ none => none.elim
  | accepted call sentAt reply main answered =>
    rw [main] at phase
    obtain ⟨claim, request, _, _, carries, order⟩ := phase
    refine { later with coordinator := Coordinator.Lawful.mono follows ?_, main := trivial }
    refine ⟨fun record member => ?_, fun id deadline held => ?_, fun claim cleared => ?_⟩
    · rw [accept_journal] at member
      exact tracks_of_adopt sound carries answered lawful.coordinator.tracked member
    · rcases accept_deadlines held with kept | ⟨envelope, shown, rfl, rfl⟩
      · exact lawful.coordinator.leased id deadline kept
      · obtain ⟨row, row_mem, made, fence, bound⟩ := row_of_answer sound carries answered shown
        refine ⟨row, row_mem, congrArg Fence.assignmentId fence, made.1, ?_⟩
        unfold leaseDeadline
        linarith
    · rw [accept_journal] at cleared
      cases cleared
  | claimFailed call sentAt main =>
    exact
      { later with
        coordinator := later.coordinator.of_keeps (keeps_claimFailed _) fun _ none => none.elim
        main := trivial }

variable {assignmentId : UUID} {sequences : UUID → Nat}

theorem Coordinator.Lawful.renew {offset deadline : Time}
    (lawful : coordinator.Lawful world workerId offset)
    (leased : world.Leased workerId assignmentId (deadline + 5 - offset)) :
    { coordinator with
      deadlines := Function.update coordinator.deadlines assignmentId (some deadline)
      renewSequences := sequences }.Lawful world workerId offset where
  tracked := lawful.tracked
  unjournalled := lawful.unjournalled
  leased id other held := by
    dsimp only at held
    by_cases same : id = assignmentId
    · subst same
      rw [Function.update_self] at held
      cases held
      exact leased
    · rw [Function.update_of_ne same] at held
      exact lawful.leased id other held

/-- Once a deadline is set the main thread is polling, and does not look at deadlines. -/
theorem MainThread.Lawful.renew {main : MainThread} {offset : Time} {deadlines : UUID → Option Time}
    (lawful : main.Lawful world workerId offset coordinator)
    (held : coordinator.deadlines assignmentId ≠ none) :
    main.Lawful world workerId offset
      { coordinator with deadlines, renewSequences := sequences } := by
  cases main with
  | polling => exact trivial
  | claiming call sentAt => exact lawful
  | resolving call => exact absurd (lawful.1 assignmentId) held
  | _ => exact absurd (lawful assignmentId) held

theorem BeatStep.lawful (sound : world.AnswersSound) (follows : World.Follows world after)
    (sent : world.Records after workerId message)
    (lawful : process.Lawful world workerId) (step : BeatStep world process next message) :
    next.Lawful after workerId := by
  have later := lawful.mono follows
  have phase := lawful.beat
  cases step with
  | collect beat =>
    exact { later with beat := add_le_add_left follows.time process.offset }
  | send records sentAt probe preflightReady slots health ssh beat =>
    rw [beat] at phase
    exact { later with beat := ⟨_, sent _ rfl, rfl, phase⟩ }
  | answered call sentAt reply beat answered =>
    rw [beat] at phase
    obtain ⟨request, carried, rfl, order⟩ := phase
    have renewals := sound.of_answers carried answered
    refine { later with beat := fun decision member renew => ?_ }
    exact ((renewals decision member renew).le (by linarith)).mono follows
  | failed call sentAt beat => exact { later with beat := trivial }
  | decide decision rest sentAt sequence beat known =>
    have pending := later.beat
    rw [beat] at pending
    have remaining : (BeatThread.deciding rest sentAt sequence).Lawful after workerId
        process.offset :=
      fun other member => pending other (List.mem_cons_of_mem _ member)
    rcases decide_cases process.coordinator (process.clock world.now) sentAt sequence
      decision with
      keeps | ⟨renew, authority, renewed⟩
    · exact { later.of_keeps keeps fun _ none => none.elim with beat := remaining }
    · rw [renewed]
      obtain ⟨-, deadline, -, -, held, -⟩ := deadline_of_authoritative lawful.clock authority
      have leased := pending decision List.mem_cons_self renew
      exact
        { clock := later.clock
          coordinator := later.coordinator.renew
            (leased.le (by unfold leaseDeadline; linarith))
          main := later.main.renew (Option.ne_none_iff_exists'.mpr ⟨deadline, held⟩)
          beat := remaining }
  | decided decisions sentAt sequence beat => exact { later with beat := trivial }

/-- Upkeep rewrites records in place, and closes one only when its assignment is released. -/
theorem UpkeepStep.keeps (sound : world.AnswersSound)
    (step : UpkeepStep world workerId process coordinator message) :
    ∃ closes, process.coordinator.Keeps closes coordinator ∧ world.Released closes := by
  have quiet {coordinator : Coordinator} (keeps : process.coordinator.Keeps noCloses coordinator) :
      ∃ closes, process.coordinator.Keeps closes coordinator ∧ world.Released closes :=
    ⟨noCloses, keeps, fun _ none => none.elim⟩
  cases step with
  | markClean assignmentId => exact quiet (keeps_markClean _ assignmentId)
  | markUncertain assignmentId => exact quiet (keeps_markUncertain _ assignmentId)
  | annotate assignmentId eventSequence pendingResult resultAccepted runtimeFailureCode =>
    exact quiet (.of_rewritten rfl rfl rfl rfl fun _ _ => ⟨rfl, id, .inl⟩)
  | adjust | sendEvent | sendResult | sendCleanup => exact quiet (.of_records rfl rfl rfl rfl)
  | released call request body carried sender message answered clean =>
    refine ⟨fun id => id = body.assignmentId, .of_rewritten rfl rfl rfl rfl fun _ selected =>
      ⟨rfl, id, fun _ => .inr selected⟩, ?_⟩
    rintro id rfl
    exact sound.of_answers carried answered rfl body message
  | closed call request body exception main carried sender message answered conflict clean =>
    exact absurd conflict (sound.of_answers carried answered body message)

theorem HostStep.lawful {host next : Host} (sound : world.AnswersSound)
    (follows : World.Follows world after) (sent : world.Records after workerId message)
    (lawful : host.Lawful world workerId) (step : HostStep world workerId host next message) :
    next.Lawful after workerId := by
  cases step with
  | boot journal instanceId offset fresh clock =>
    exact Process.Lawful.mono follows
      { clock := clock
        coordinator :=
          { tracked := lawful
            leased := fun _ _ held => by cases held
            unjournalled := fun claim pending own => absurd own (fresh claim pending) }
        main := fun _ => rfl
        beat := trivial }
  | crash process =>
    exact fun record member => (lawful.coordinator.tracked record member).mono follows
  | resolveInterrupted process call reply main answered =>
    have phase := lawful.main
    rw [main] at phase
    obtain ⟨-, claim, request, -, carries⟩ := phase
    exact fun record member =>
      (tracks_of_adopt sound carries answered lawful.coordinator.tracked member).mono follows
  | acceptInterrupted process call sentAt reply main answered =>
    have phase := lawful.main
    rw [main] at phase
    obtain ⟨claim, request, -, -, carries, -⟩ := phase
    exact fun record member =>
      (tracks_of_adopt sound carries answered lawful.coordinator.tracked member).mono follows
  | main process next message step => exact step.lawful sound follows sent lawful
  | beat process next message step => exact step.lawful sound follows sent lawful
  | upkeep process coordinator message step =>
    obtain ⟨closes, keeps, closed⟩ := step.keeps sound
    exact Process.Lawful.mono follows (Process.Lawful.of_keeps lawful keeps closed)

theorem Host.Retires.of_keeps (retires : (Host.up process).Retires assignmentId)
    (keeps : process.coordinator.Keeps closes coordinator) :
    (Host.up { process with coordinator }).Retires assignmentId := by
  obtain ⟨record, member, id_eq, clean⟩ := retires
  obtain ⟨later, later_mem, kept⟩ := keeps.records.exists_after member
  refine ⟨later, later_mem, kept.id_eq.trans id_eq, fun held => kept.clean (clean ?_)⟩
  rwa [keeps.deadlines] at held

theorem unjournalled_of_answer (sound : world.AnswersSound) (lawful : process.Lawful world workerId)
    {call : Nat} {claim : Claim} {request : Request} (pending : process.journal.claim = some claim)
    (own : claim.instanceId = process.coordinator.instanceId)
    (carries : world.CarriesClaim workerId call claim request)
    (answered : world.calls.Answers call (.claim reply)) (shown : reply.assignment = some envelope)
    {record : Record} (member : record ∈ process.journal.records.rows) :
    record.assignmentId ≠ envelope.assignmentId := by
  intro same
  obtain ⟨row, row_mem, made, fence, -⟩ := row_of_answer sound carries answered shown
  obtain ⟨other, other_mem, other_id, not_made⟩ :=
    lawful.coordinator.unjournalled claim pending own record member
  have row_id : row.id = envelope.assignmentId := congrArg Fence.assignmentId fence
  have equal : row = other :=
    world.db.assignments.eq_of_key_eq row_mem other_mem
      (row_id.trans (same.symm.trans other_id.symm))
  exact not_made (equal ▸ made)

theorem MainStep.retires
    (sound : world.AnswersSound)
    (lawful : process.Lawful world workerId) (step : MainStep world process next message)
    (retires : (Host.up process).Retires assignmentId) : (Host.up next).Retires assignmentId := by
  have phase := lawful.main
  cases step with
  | resolved call reply main answered =>
    rw [main] at phase
    obtain ⟨record, member, id_eq, -⟩ := retires
    obtain ⟨later, later_mem, same⟩ := exists_adopted member
    exact ⟨later, later_mem, same.trans id_eq, fun held => absurd (phase.1 _) held⟩
  | started main => exact retires.of_keeps (keeps_available _)
  | beginClaim requestId request coordinator fresh main begun =>
    obtain ⟨-, -, rfl⟩ := beginClaim_eq_some begun
    exact retires
  | declined requestId coordinator main begun => exact retires.of_keeps (beginClaim_eq_none begun)
  | accepted call sentAt reply main answered =>
    rw [main] at phase
    obtain ⟨claim, request, pending, own, carries, _⟩ := phase
    obtain ⟨record, member, rfl, clean⟩ := retires
    have other {envelope : Envelope} (shown : reply.assignment = some envelope) :
        record.assignmentId ≠ envelope.assignmentId :=
      unjournalled_of_answer sound lawful pending own carries answered shown member
    have stored : record ∈ (process.coordinator.accept (process.clock world.now) reply
        sentAt).journal.records.rows := by
      rw [accept_journal]
      rcases mem_adopt_of_mem member with kept | ⟨envelope, shown, same⟩
      · exact kept
      · exact absurd same.symm (other shown)
    refine ⟨record, stored, rfl, fun held => ?_⟩
    obtain ⟨deadline, held⟩ := Option.ne_none_iff_exists'.mp held
    rcases accept_deadlines held with earlier | ⟨envelope, shown, same, -⟩
    · exact clean (Option.ne_none_iff_exists'.mpr ⟨deadline, earlier⟩)
    · exact absurd same.symm (other shown)
  | claimFailed call sentAt main => exact retires.of_keeps (keeps_claimFailed _)
  | _ => exact retires

theorem BeatStep.retires (lawful : process.Lawful world workerId)
    (step : BeatStep world process next message)
    (retires : (Host.up process).Retires assignmentId) : (Host.up next).Retires assignmentId := by
  cases step with
  | decide decision rest sentAt sequence beat known =>
    rcases decide_cases process.coordinator (process.clock world.now) sentAt sequence
      decision with
      keeps | ⟨_, authority, renewed⟩
    · exact retires.of_keeps keeps
    · obtain ⟨-, deadline, -, -, set, -⟩ := deadline_of_authoritative lawful.clock authority
      obtain ⟨record, member, id_eq, clean⟩ := retires
      rw [renewed]
      refine ⟨record, member, id_eq, fun held => clean ?_⟩
      by_cases same : assignmentId = decision.assignmentId
      · exact Option.ne_none_iff_exists'.mpr ⟨deadline, same ▸ set⟩
      · dsimp only at held
        rwa [Function.update_of_ne same] at held
  | _ => exact retires

theorem HostStep.retires {host next : Host}
    (sound : world.AnswersSound)
    (lawful : host.Lawful world workerId) (step : HostStep world workerId host next message)
    (retires : host.Retires assignmentId) : next.Retires assignmentId := by
  cases step with
  | boot journal instanceId offset fresh clock =>
    obtain ⟨record, member, id_eq⟩ := retires
    exact ⟨record, member, id_eq, fun held => absurd rfl held⟩
  | crash process =>
    obtain ⟨record, member, id_eq, -⟩ := retires
    exact ⟨record, member, id_eq⟩
  | resolveInterrupted process call reply main answered =>
    obtain ⟨record, member, id_eq, -⟩ := retires
    obtain ⟨later, later_mem, same⟩ := exists_adopted member
    exact ⟨later, later_mem, same.trans id_eq⟩
  | acceptInterrupted process call sentAt reply main answered =>
    obtain ⟨record, member, id_eq, -⟩ := retires
    obtain ⟨later, later_mem, same⟩ := exists_adopted member
    exact ⟨later, later_mem, same.trans id_eq⟩
  | main process next message step => exact step.retires sound lawful retires
  | beat process next message step => exact step.retires lawful retires
  | upkeep process coordinator message step =>
    obtain ⟨closes, keeps, -⟩ := step.keeps sound
    exact retires.of_keeps keeps

/-- A host sends the cleanup of an assignment only when it is journalled and clean. -/
theorem HostStep.retires_of_cleanup {host next : Host} {body : Cleanup}
    (lawful : host.Lawful world workerId)
    (step : HostStep world workerId host next (some (.cleanup body))) :
    world.Holds workerId body.toFence ∧ next.Retires body.assignmentId := by
  cases step with
  | main process next message step => cases step
  | beat process next message step => cases step
  | upkeep process coordinator message step =>
    cases step with
    | sendCleanup record member clean =>
      have stored := (List.mem_filter.mp member).1
      exact ⟨(lawful.coordinator.tracked record stored).holds, record, stored, rfl, fun _ => clean⟩

end

end TrainingScheduler
