import MakerSdk.Session.Guarded

namespace MakerSdk.Session

inductive AuthFlow where
  | maker | vault
deriving DecidableEq

inductive AuthenticationError where
  | transport (error : String)
  | rejected (detail : String)
  | terminated (reason : ManagedWsTerminationReason)
  | signer (error : String)

namespace AuthenticationError

variable (debug : ManagedWsTerminationReason → String)

def text : AuthenticationError → String
  | transport error => error
  | rejected detail => "authentication rejected: " ++ detail
  | terminated reason => "authentication terminated: " ++ debug reason
  | signer error => "challenge signer failed: " ++ error

def result (error : AuthenticationError) : AuthResult :=
  match error with
  | terminated reason => .terminated (error.text debug) reason
  | transport _ | rejected _ | signer _ => .failed (error.text debug)

end AuthenticationError

/-- Where `authenticate` waits: for its `Hello` to be written, the `Welcome`, or the answer to its
last frame. -/
inductive AuthStage where
  | hello
  | welcome
  | vault
  | resuming (pendingChallenge : Option String)
  | starting
  | done (result : Except AuthenticationError Unit)

def AuthStage.isDone : AuthStage → Bool
  | done _ => true
  | _ => false

def AuthStage.isAwaiting : AuthStage → Bool
  | resuming _ | starting => true
  | hello | welcome | vault | done _ => false

/-- What `authenticate` reads; the session loop does not tell the first two from a push. -/
inductive AuthArrival where
  | welcome
  | vaultAuthSuccess
  | message (message : ServerMessage)
  | error (error : String)
  | closed

def AuthArrival.frame : AuthArrival → Option ServerMessage
  | .message frame => some frame
  | _ => none

structure AuthReply where
  signed : Except String Unit
  write : Except String Unit

structure AuthTurn where
  stage : AuthStage
  resumeSessionId : Option String
  wrote : List ClientMessage

section Authenticate

variable (flow : AuthFlow) (reply : AuthReply) (resumeSessionId : Option String)

def authFail (error : AuthenticationError) : AuthTurn :=
  ⟨.done (.error error), resumeSessionId, []⟩

def controlError : ControlFailure → AuthTurn
  | .retry detail => authFail resumeSessionId (.rejected detail)
  | .clearCredentials detail => authFail none (.rejected detail)
  | .terminate reason => authFail resumeSessionId (.terminated reason)

def onControl (stage : AuthStage) (message : ServerMessage) : AuthTurn :=
  match classify message with
  | some failure => controlError resumeSessionId failure
  | none => ⟨stage, resumeSessionId, []⟩

def authSend (message : ClientMessage) (stage : AuthStage) : AuthTurn :=
  match reply.write with
  | .ok () => ⟨stage, resumeSessionId, [message]⟩
  | .error error => ⟨.done (.error (.transport error)), resumeSessionId, [message]⟩

def sendAuthResponse (stage : AuthStage) : AuthTurn :=
  match reply.signed with
  | .ok () => authSend reply resumeSessionId .authChallenge stage
  | .error error => authFail resumeSessionId (.signer error)

def authStart (pendingChallenge : Option String) : AuthTurn :=
  match pendingChallenge with
  | some _ => sendAuthResponse reply resumeSessionId .starting
  | none => authSend reply resumeSessionId .startAuth .starting

def onWelcome : AuthTurn :=
  match flow with
  | .vault => authSend reply resumeSessionId .startVaultAuth .vault
  | .maker =>
    match resumeSessionId with
    | some sessionId => authSend reply resumeSessionId (.resumeAuth sessionId) (.resuming none)
    | none => authStart reply resumeSessionId none

def onResumeAnswer (pendingChallenge : Option String) (message : ServerMessage) : AuthTurn :=
  match message with
  | .authSuccess sessionId => ⟨.done (.ok ()), some sessionId, []⟩
  | .authError reason text =>
    if reason = .sessionExpired then authStart reply none pendingChallenge
    else controlError resumeSessionId (classifyAuthError reason text)
  | .authRequest challenge => ⟨.resuming (some challenge), resumeSessionId, []⟩
  | _ => onControl resumeSessionId (.resuming pendingChallenge) message

def onStartAnswer (message : ServerMessage) : AuthTurn :=
  match message with
  | .authRequest _ => sendAuthResponse reply resumeSessionId .starting
  | .authSuccess sessionId => ⟨.done (.ok ()), some sessionId, []⟩
  | .authError reason text => controlError resumeSessionId (classifyAuthError reason text)
  | _ => onControl resumeSessionId .starting message

def onVaultAnswer (message : ServerMessage) : AuthTurn :=
  match message with
  | .authRequest _ => sendAuthResponse reply resumeSessionId .vault
  | .authSuccess _ =>
    authFail resumeSessionId (.rejected "server answered vault auth with a maker session")
  | .authError reason text => controlError resumeSessionId (classifyAuthError reason text)
  | _ => onControl resumeSessionId .vault message

/-- `authenticate` at what it reads; `none` where it does not read. -/
def AuthStage.read (stage : AuthStage) (arrival : AuthArrival) : Option AuthTurn :=
  match stage, arrival with
  | .hello, _ | .done _, _ => none
  | _, .error error => some (authFail resumeSessionId (.transport error))
  | _, .closed => some (authFail resumeSessionId (.transport "connection closed"))
  | .welcome, .welcome => some (onWelcome flow reply resumeSessionId)
  | .welcome, .message message => some (onControl resumeSessionId .welcome message)
  | .vault, .vaultAuthSuccess => some ⟨.done (.ok ()), resumeSessionId, []⟩
  | .vault, .message message => some (onVaultAnswer reply resumeSessionId message)
  | .resuming pendingChallenge, .message message =>
    some (onResumeAnswer reply resumeSessionId pendingChallenge message)
  | .starting, .message message => some (onStartAnswer reply resumeSessionId message)
  | stage, _ => some ⟨stage, resumeSessionId, []⟩

end Authenticate

def ServerMessage.isSessionExpired : ServerMessage → Bool
  | authError reason _ => reason = .sessionExpired
  | error (.generic code _) => code = .sessionExpired
  | _ => false

def ServerMessage.sessionId : ServerMessage → Option String
  | authSuccess sessionId => some sessionId
  | _ => none

section Stored

variable {flow : AuthFlow} {reply : AuthReply} {resumeSessionId : Option String}
  {stage : AuthStage} {message : ServerMessage} {sessionId : String}

theorem classify_expired (h : message.isSessionExpired = true) :
    ∃ detail, classify message = some (.clearCredentials detail) := by
  cases message with
  | authError reason text =>
    cases of_decide_eq_true h
    exact ⟨_, rfl⟩
  | error error =>
    cases error with
    | generic code text =>
      cases of_decide_eq_true h
      exact ⟨_, rfl⟩
    | _ => cases h
  | _ => cases h

theorem controlError_stored {failure : ControlFailure}
    (h : (controlError resumeSessionId failure).resumeSessionId = some sessionId) :
    resumeSessionId = some sessionId ∧ ∀ detail, failure ≠ .clearCredentials detail := by
  cases failure with
  | retry detail => exact ⟨h, fun _ hclear ↦ by cases hclear⟩
  | clearCredentials detail => cases h
  | terminate reason => exact ⟨h, fun _ hclear ↦ by cases hclear⟩

theorem onControl_stored (stage : AuthStage) (message : ServerMessage)
    (h : (onControl resumeSessionId stage message).resumeSessionId = some sessionId) :
    resumeSessionId = some sessionId ∧ message.isSessionExpired = false := by
  have hexpired : message.isSessionExpired = true →
      ∃ detail, classify message = some (.clearCredentials detail) := classify_expired
  unfold onControl at h
  split at h
  · rename_i failure hclassify
    obtain ⟨hstored, hkept⟩ := controlError_stored h
    refine ⟨hstored, Bool.eq_false_iff.mpr fun htrue ↦ ?_⟩
    obtain ⟨detail, hclear⟩ := hexpired htrue
    exact hkept detail (Option.some_inj.mp (hclassify.symm.trans hclear))
  · rename_i hclassify
    refine ⟨h, Bool.eq_false_iff.mpr fun htrue ↦ ?_⟩
    obtain ⟨detail, hclear⟩ := hexpired htrue
    cases hclassify.symm.trans hclear

theorem authSend_stored {sent : ClientMessage} :
    (authSend reply resumeSessionId sent stage).resumeSessionId = resumeSessionId := by
  unfold authSend
  split <;> rfl

theorem sendAuthResponse_stored :
    (sendAuthResponse reply resumeSessionId stage).resumeSessionId = resumeSessionId := by
  unfold sendAuthResponse
  split
  · exact authSend_stored
  · rfl

variable {pendingChallenge : Option String}

theorem authStart_stored :
    (authStart reply resumeSessionId pendingChallenge).resumeSessionId = resumeSessionId := by
  unfold authStart
  split
  · exact sendAuthResponse_stored
  · exact authSend_stored

theorem onWelcome_stored :
    (onWelcome flow reply resumeSessionId).resumeSessionId = resumeSessionId := by
  unfold onWelcome
  split
  · exact authSend_stored
  · split
    · exact authSend_stored
    · exact authStart_stored

theorem onVaultAnswer_stored
    (h : (onVaultAnswer reply resumeSessionId message).resumeSessionId = some sessionId) :
    resumeSessionId = some sessionId ∧ message.isSessionExpired = false := by
  cases message with
  | authRequest challenge => exact ⟨sendAuthResponse_stored.symm.trans h, rfl⟩
  | authSuccess granted => exact ⟨h, rfl⟩
  | authError reason text => exact onControl_stored .vault (.authError reason text) h
  | _ => exact onControl_stored .vault _ h

theorem onStartAnswer_stored
    (h : (onStartAnswer reply resumeSessionId message).resumeSessionId = some sessionId) :
    message = .authSuccess sessionId ∨ resumeSessionId = some sessionId ∧
      message.isSessionExpired = false ∧ message.sessionId = none := by
  cases message with
  | authRequest challenge => exact .inr ⟨sendAuthResponse_stored.symm.trans h, rfl, rfl⟩
  | authSuccess granted =>
    cases h
    exact .inl rfl
  | authError reason text =>
    obtain ⟨hstored, hexpired⟩ := onControl_stored .starting (.authError reason text) h
    exact .inr ⟨hstored, hexpired, rfl⟩
  | _ =>
    obtain ⟨hstored, hexpired⟩ := onControl_stored .starting _ h
    exact .inr ⟨hstored, hexpired, rfl⟩

theorem onResumeAnswer_stored
    (h : (onResumeAnswer reply resumeSessionId pendingChallenge message).resumeSessionId =
      some sessionId) :
    message = .authSuccess sessionId ∨ resumeSessionId = some sessionId ∧
      message.isSessionExpired = false ∧ message.sessionId = none := by
  cases message with
  | authRequest challenge => exact .inr ⟨h, rfl, rfl⟩
  | authSuccess granted =>
    cases h
    exact .inl rfl
  | authError reason text =>
    dsimp only [onResumeAnswer] at h
    split at h
    · rw [authStart_stored] at h
      cases h
    · obtain ⟨hstored, hexpired⟩ :=
        onControl_stored (.resuming pendingChallenge) (.authError reason text) h
      exact .inr ⟨hstored, hexpired, rfl⟩
  | _ =>
    obtain ⟨hstored, hexpired⟩ := onControl_stored (.resuming pendingChallenge) _ h
    exact .inr ⟨hstored, hexpired, rfl⟩

theorem read_stored {arrival : AuthArrival} {turn : AuthTurn}
    (h : stage.read flow reply resumeSessionId arrival = some turn)
    (hid : turn.resumeSessionId = some sessionId) :
    (stage.isAwaiting = true ∧ arrival.frame = some (.authSuccess sessionId)) ∨
      resumeSessionId = some sessionId ∧ ∀ message, arrival.frame = some message →
        message.isSessionExpired = false ∧
          (stage.isAwaiting = true → message.sessionId = none) := by
  cases arrival with
  | message message =>
    cases stage with
    | hello | done _ => cases h
    | welcome =>
      cases h
      obtain ⟨hstored, hexpired⟩ := onControl_stored .welcome message hid
      refine .inr ⟨hstored, fun _ hframe ↦ ?_⟩
      cases hframe
      exact ⟨hexpired, fun hawaiting ↦ by cases hawaiting⟩
    | vault =>
      cases h
      obtain ⟨hstored, hexpired⟩ := onVaultAnswer_stored hid
      refine .inr ⟨hstored, fun _ hframe ↦ ?_⟩
      cases hframe
      exact ⟨hexpired, fun hawaiting ↦ by cases hawaiting⟩
    | resuming pendingChallenge =>
      cases h
      rcases onResumeAnswer_stored hid with rfl | ⟨hstored, hexpired, hother⟩
      · exact .inl ⟨rfl, rfl⟩
      · refine .inr ⟨hstored, fun _ hframe ↦ ?_⟩
        cases hframe
        exact ⟨hexpired, fun _ ↦ hother⟩
    | starting =>
      cases h
      rcases onStartAnswer_stored hid with rfl | ⟨hstored, hexpired, hother⟩
      · exact .inl ⟨rfl, rfl⟩
      · refine .inr ⟨hstored, fun _ hframe ↦ ?_⟩
        cases hframe
        exact ⟨hexpired, fun _ ↦ hother⟩
  | welcome =>
    cases stage with
    | hello | done _ => cases h
    | welcome =>
      cases h
      exact .inr ⟨onWelcome_stored.symm.trans hid, fun _ hframe ↦ by cases hframe⟩
    | _ =>
      cases h
      exact .inr ⟨hid, fun _ hframe ↦ by cases hframe⟩
  | vaultAuthSuccess | error _ | closed =>
    cases stage with
    | hello | done _ => cases h
    | _ =>
      cases h
      exact .inr ⟨hid, fun _ hframe ↦ by cases hframe⟩

theorem authSend_wrote {sent : ClientMessage} :
    (authSend reply resumeSessionId sent stage).wrote = [sent] := by
  unfold authSend
  split <;> rfl

theorem sendAuthResponse_wrote :
    .resumeAuth sessionId ∉ (sendAuthResponse reply resumeSessionId stage).wrote := by
  unfold sendAuthResponse
  split
  · simp [authSend_wrote]
  · exact List.not_mem_nil

theorem authStart_wrote :
    .resumeAuth sessionId ∉ (authStart reply resumeSessionId pendingChallenge).wrote := by
  unfold authStart
  split
  · exact sendAuthResponse_wrote
  · simp [authSend_wrote]

theorem controlError_wrote {failure : ControlFailure} :
    .resumeAuth sessionId ∉ (controlError resumeSessionId failure).wrote := by
  cases failure <;> exact List.not_mem_nil

theorem onControl_wrote :
    .resumeAuth sessionId ∉ (onControl resumeSessionId stage message).wrote := by
  unfold onControl
  split
  · exact controlError_wrote
  · exact List.not_mem_nil

theorem frame_wrote {turn : AuthTurn}
    (h : stage.read flow reply resumeSessionId (.message message) = some turn) :
    .resumeAuth sessionId ∉ turn.wrote := by
  cases stage with
  | hello | done _ => cases h
  | welcome =>
    cases h
    exact onControl_wrote
  | vault =>
    cases h
    unfold onVaultAnswer
    split
    · exact sendAuthResponse_wrote
    · exact List.not_mem_nil
    · exact controlError_wrote
    · exact onControl_wrote
  | resuming pendingChallenge =>
    cases h
    unfold onResumeAnswer
    split
    · exact List.not_mem_nil
    · split
      · exact authStart_wrote
      · exact controlError_wrote
    · exact List.not_mem_nil
    · exact onControl_wrote
  | starting =>
    cases h
    unfold onStartAnswer
    split
    · exact sendAuthResponse_wrote
    · exact List.not_mem_nil
    · exact controlError_wrote
    · exact onControl_wrote

theorem onWelcome_wrote (h : .resumeAuth sessionId ∈ (onWelcome flow reply resumeSessionId).wrote) :
    (onWelcome flow reply resumeSessionId).wrote = [.resumeAuth sessionId] ∧
      resumeSessionId = some sessionId := by
  unfold onWelcome at h ⊢
  split at h
  · simp [authSend_wrote] at h
  · split at h
    · rw [authSend_wrote, List.mem_singleton] at h
      cases h
      exact ⟨authSend_wrote, rfl⟩
    · exact absurd h authStart_wrote

theorem read_wrote {arrival : AuthArrival} {turn : AuthTurn}
    (h : stage.read flow reply resumeSessionId arrival = some turn)
    (hmem : .resumeAuth sessionId ∈ turn.wrote) :
    arrival.frame = none ∧ turn.wrote = [.resumeAuth sessionId] ∧
      resumeSessionId = some sessionId := by
  cases arrival with
  | message message => exact absurd hmem (frame_wrote h)
  | welcome =>
    refine ⟨rfl, ?_⟩
    cases stage with
    | welcome =>
      cases h
      exact onWelcome_wrote hmem
    | hello | done _ => cases h
    | _ =>
      cases h
      cases hmem
  | vaultAuthSuccess | error _ | closed =>
    cases stage with
    | hello | done _ => cases h
    | _ =>
      cases h
      cases hmem

end Stored

end MakerSdk.Session
