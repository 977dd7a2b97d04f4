import WolfEngine.System.Algorithm.Raft.Srv

/-! # The answers of the raft server

Every handler answers, with the id of its request, and tells success from failure.
What went wrong cannot be read from the code of an error: all codes are moved by
`BASE_ERROR_CODE_RAFT`, past the numbers of `ErrorCode`.
-/

namespace WolfEngine.Verified

open WolfEngine.System.Algorithm WolfRaft

/-! ## Error codes -/

/-- No code that a handler stores is a number of `ErrorCode`. -/
theorem fromI32_baseErrorCode (code : ErrorCode) :
    ErrorCode.fromI32 (Srv.baseErrorCodeRaft + code.toI32) = none := by
  cases code <;> rfl

theorem errorCode_undefined (code : ErrorCode) (msgId msg : String) :
    RaftErrorRes.errorCode ⟨msgId, Srv.baseErrorCodeRaft + code.toI32, msg⟩ =
      .raftUndefinedError := by
  simp [RaftErrorRes.errorCode, fromI32_baseErrorCode]

/-! ## Answers -/

section Answers

variable {OkRes Answer : Type}

/-- The id that a response carries. -/
def echoed (okMsgId : OkRes → String) : Response OkRes → String
  | .okRes res => okMsgId res
  | .errorRes res => res.msgId

/-- What the answer to a request with the id `msgId` should be, when its steps did or did
not succeed, and `failure` is what a failure of them is called. -/
structure Answered (okMsgId : OkRes → String) (msgId : String) (succeeded : Prop)
    (failure : ErrorCode) (result : Except Status (Res OkRes)) : Prop where
  answers : ∃ response, result = .ok ⟨some response⟩
  echoes : ∀ response, result = .ok ⟨some response⟩ → echoed okMsgId response = msgId
  ok_iff : (∃ res, result = .ok ⟨some (.okRes res)⟩) ↔ succeeded
  readable : ∀ res, result = .ok ⟨some (.errorRes res)⟩ → res.errorCode = failure

variable {okMsgId : OkRes → String} {msgId : String} {succeeded : Prop} {failure : ErrorCode}

theorem answered_of_ok {res : OkRes} (echoes : okMsgId res = msgId) (success : succeeded) :
    Answered okMsgId msgId succeeded failure (.ok ⟨some (.okRes res)⟩) where
  answers := ⟨_, rfl⟩
  echoes response same := by
    cases same
    exact echoes
  ok_iff := iff_of_true ⟨res, rfl⟩ success
  readable res same := by cases same

/-- An error answer echoes the request and is no `OkRes`; its code is read as that of
an undefined error. -/
theorem errorRes_answered_iff {code : ErrorCode} {msg : String} (failed : ¬ succeeded) :
    Answered okMsgId msgId succeeded failure (.ok (Srv.errorRes code msgId msg)) ↔
      failure = .raftUndefinedError := by
  constructor
  · intro answered
    have read := answered.readable _ rfl
    rw [errorCode_undefined] at read
    exact read.symm
  · intro undefined_
    refine ⟨⟨_, rfl⟩, ?_, ?_, ?_⟩
    · intro response same
      cases same
      rfl
    · apply iff_of_false _ failed
      intro ⟨res, same⟩
      cases same
    · intro res same
      cases same
      rw [errorCode_undefined, undefined_]

/-- With a failure that has a name, an answer is all that it should be exactly when the
steps succeeded. -/
theorem answered_iff_of_cases {result : Except Status (Res OkRes)}
    (named : failure ≠ .raftUndefinedError)
    (success : succeeded → ∃ res, okMsgId res = msgId ∧ result = .ok ⟨some (.okRes res)⟩)
    (failed : ¬ succeeded → ∃ code msg, result = .ok (Srv.errorRes code msgId msg)) :
    Answered okMsgId msgId succeeded failure result ↔ succeeded := by
  constructor
  · intro answered
    apply Classical.byContradiction
    intro fails
    obtain ⟨code, msg, rfl⟩ := failed fails
    exact named ((errorRes_answered_iff fails).mp answered)
  · intro succeeds
    obtain ⟨res, echoes, rfl⟩ := success succeeds
    exact answered_of_ok echoes succeeds

end Answers

/-! ## The five handlers -/

section Handlers

variable {AppendEntriesRequest RaftMetrics ε α : Type}

def Succeeds (answer : Except ε α) : Prop := ∃ value, answer = .ok value

theorem not_succeeds {answer : Except ε α} (fails : ¬ Succeeds answer) :
    ∃ e, answer = .error e := by
  cases answer with
  | ok value => exact absurd ⟨value, rfl⟩ fails
  | error e => exact ⟨e, rfl⟩

/-- The two steps behind `append_entries`. -/
def AppendEntriesSucceeds (serde : SerdeJson AppendEntriesRequest)
    (raftNode : MemRaft AppendEntriesRequest) (req : RaftAppendEntriesReq) : Prop :=
  ∃ request, grpcAppendEntriesReqToRaftAppendEntriesReq serde req = .ok request ∧
    Succeeds (raftNode.appendEntries request)

/-- What a failure of `append_entries` is called: there is one name for each step. -/
def appendEntriesFailure (serde : SerdeJson AppendEntriesRequest) (req : RaftAppendEntriesReq) :
    ErrorCode :=
  match grpcAppendEntriesReqToRaftAppendEntriesReq serde req with
  | .ok _ => .raftAppendEntriesFailed
  | .error _ => .raftAppendEntriesJsonOfReqIsNotValid

theorem bootstrap_answered_iff (raftNode : MemRaftAdmin RaftMetrics) (req : RaftBootstrapReq) :
    Answered RaftBootstrapOkRes.msgId req.msgId
        (Succeeds (raftNode.initializeWith (Srv.members req.numberOfNodes))) .raftBootstrapFailed
        (Srv.bootstrap raftNode req) ↔
      Succeeds (raftNode.initializeWith (Srv.members req.numberOfNodes)) := by
  apply answered_iff_of_cases (by simp)
  · intro ⟨_, initialized⟩
    exact ⟨⟨req.msgId⟩, rfl, by rw [Srv.bootstrap, initialized]; rfl⟩
  · intro fails
    obtain ⟨e, failed⟩ := not_succeeds fails
    exact ⟨.raftBootstrapFailed, _, by rw [Srv.bootstrap, failed]; rfl⟩

theorem getMetrics_answered_iff (serde : SerdeJson RaftMetrics)
    (raftNode : MemRaftAdmin RaftMetrics) (req : RaftGetMetricsReq) :
    Answered RaftGetMetricsOkRes.msgId req.msgId (Succeeds (serde.toString raftNode.metrics))
        .raftGetMetricsFailed (Srv.getMetrics serde raftNode req) ↔
      Succeeds (serde.toString raftNode.metrics) := by
  apply answered_iff_of_cases (by simp)
  · intro ⟨json, written⟩
    exact ⟨⟨req.msgId, json⟩, rfl, by rw [Srv.getMetrics, written]; rfl⟩
  · intro fails
    obtain ⟨e, failed⟩ := not_succeeds fails
    exact ⟨.raftGetMetricsFailed, _, by rw [Srv.getMetrics, failed]; rfl⟩

/-- The three handlers that pass on what the node answered. -/
theorem answerRes_answered_iff {OkRes Answer : Type} {okMsgId : OkRes → String} {msgId : String}
    {convert : String → Answer → OkRes} {code failure : ErrorCode}
    (echoes : ∀ msgId answer, okMsgId (convert msgId answer) = msgId)
    (named : failure ≠ .raftUndefinedError) (method : String) (answer : Except String Answer) :
    Answered okMsgId msgId (Succeeds answer) failure
        (.ok (Srv.answerRes code msgId method convert answer)) ↔ Succeeds answer := by
  apply answered_iff_of_cases named
  · intro ⟨res, answered⟩
    exact ⟨_, echoes msgId res, by rw [answered]; rfl⟩
  · intro fails
    obtain ⟨e, failed⟩ := not_succeeds fails
    exact ⟨_, _, by rw [failed]; rfl⟩

theorem appendEntries_answered_iff (serde : SerdeJson AppendEntriesRequest)
    (raftNode : MemRaft AppendEntriesRequest) (req : RaftAppendEntriesReq) :
    Answered RaftAppendEntriesOkRes.msgId req.msgId (AppendEntriesSucceeds serde raftNode req)
        (appendEntriesFailure serde req) (.ok (Srv.appendEntries serde raftNode req).1) ↔
      AppendEntriesSucceeds serde raftNode req := by
  cases read : grpcAppendEntriesReqToRaftAppendEntriesReq serde req with
  | ok request =>
    have steps : AppendEntriesSucceeds serde raftNode req ↔
        Succeeds (raftNode.appendEntries request) := by
      simp [AppendEntriesSucceeds, read]
    simp only [steps, appendEntriesFailure, Srv.appendEntries, read]
    exact answerRes_answered_iff (fun _ _ => rfl) (by simp) _ _
  | error e =>
    have fails : ¬ AppendEntriesSucceeds serde raftNode req := by
      simp [AppendEntriesSucceeds, read]
    apply answered_iff_of_cases (by simp [appendEntriesFailure, read])
    · intro succeeds
      exact absurd succeeds fails
    · intro _
      exact ⟨_, _, by simp only [Srv.appendEntries, read]; rfl⟩

end Handlers

/-- Each of the five handlers answers as it should exactly where the steps behind it
succeed. -/
theorem raft_answers_iff (AppendEntriesRequest RaftMetrics : Type)
    (raftNode : MemRaft AppendEntriesRequest) (admin : MemRaftAdmin RaftMetrics)
    (serde : SerdeJson AppendEntriesRequest) (metricsSerde : SerdeJson RaftMetrics) :
    (∀ req, Answered RaftBootstrapOkRes.msgId req.msgId
        (Succeeds (admin.initializeWith (Srv.members req.numberOfNodes))) .raftBootstrapFailed
        (Srv.bootstrap admin req) ↔
      Succeeds (admin.initializeWith (Srv.members req.numberOfNodes))) ∧
    (∀ req, Answered RaftAppendEntriesOkRes.msgId req.msgId
        (AppendEntriesSucceeds serde raftNode req) (appendEntriesFailure serde req)
        (.ok (Srv.appendEntries serde raftNode req).1) ↔
      AppendEntriesSucceeds serde raftNode req) ∧
    (∀ req, Answered RaftInstallSnapshotOkRes.msgId req.msgId
        (Succeeds (raftNode.installSnapshot (grpcInstallSnapshotReqToRaftInstallSnapshotReq req)))
        .raftInstallSnapshotFailed (.ok (Srv.installSnapshot raftNode req).1) ↔
      Succeeds (raftNode.installSnapshot (grpcInstallSnapshotReqToRaftInstallSnapshotReq req))) ∧
    (∀ req, Answered RaftVoteOkRes.msgId req.msgId
        (Succeeds (raftNode.vote (grpcVoteReqToRaftVoteReq req))) .raftVoteFailed
        (.ok (Srv.vote raftNode req).1) ↔
      Succeeds (raftNode.vote (grpcVoteReqToRaftVoteReq req))) ∧
    ∀ req, Answered RaftGetMetricsOkRes.msgId req.msgId
        (Succeeds (metricsSerde.toString admin.metrics)) .raftGetMetricsFailed
        (Srv.getMetrics metricsSerde admin req) ↔
      Succeeds (metricsSerde.toString admin.metrics) := by
  refine ⟨bootstrap_answered_iff admin, appendEntries_answered_iff serde raftNode, ?_, ?_,
    getMetrics_answered_iff metricsSerde admin⟩
  · intro req
    exact answerRes_answered_iff (fun _ _ => rfl) (by simp) _ _
  · intro req
    exact answerRes_answered_iff (fun _ _ => rfl) (by simp) _ _

/-- A node that is initialized already. -/
def initializedNode : MemRaftAdmin Unit where
  initializeWith _ := .error "NotAllowed"
  metrics := ()

/-- The failure of a bootstrap is answered with the code 7001, which is read as an
undefined error. -/
theorem bootstrap_failure_unreadable :
    (∃ msg, Srv.bootstrap initializedNode ⟨"1", 3⟩ =
      .ok ⟨some (.errorRes ⟨"1", 7001, msg⟩)⟩ ∧
      RaftErrorRes.errorCode ⟨"1", 7001, msg⟩ = .raftUndefinedError) ∧
    ¬ Answered RaftBootstrapOkRes.msgId "1"
      (Succeeds (initializedNode.initializeWith (Srv.members 3))) .raftBootstrapFailed
      (Srv.bootstrap initializedNode ⟨"1", 3⟩) := by
  refine ⟨⟨_, rfl, rfl⟩, ?_⟩
  intro answered
  have read := answered.readable _ rfl
  cases read

end WolfEngine.Verified
