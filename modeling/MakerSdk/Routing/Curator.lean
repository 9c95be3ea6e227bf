import MakerSdk.Base.Traced
import MakerSdk.Routing.Router

namespace MakerSdk.Routing

open Base Base.Bytes Base.Traced Vault Venues

abbrev Signature := FixedBytes 64

/-- The boxed errors of the curator: of the outside, of its own, or a failure behind a confirmed
stage. -/
inductive CuratorError (ε : Type) where
  | other (error : ε)
  | text (message : String)
  | chain (error : VaultChainError)
  | stage (signature : Signature) (source : CuratorError ε)

inductive Outcome where
  | executed (signatures : List Signature)
  | recovered (signature : Signature)

variable {σ ε : Type}

section Quotes

inductive QuoteEvent (ε : Type) where
  | fetched (budget : UInt8) (result : Except (CuratorError ε) Quote)
  | planned (result : Except VaultChainError Plan)

def doesNotFit : VaultChainError := invalid "curator transaction does not fit"

variable (fetch : UInt8 → σ → Except (CuratorError ε) Quote × σ)
  (plan : Quote → σ → Except VaultChainError Plan × σ)

def fitWithin : List UInt8 → Traced σ (QuoteEvent ε) (CuratorError ε) Plan
  | [] => fail (.chain doesNotFit)
  | budget :: budgets => do
    let quote ← act (.fetched budget) (fetch budget)
    let planned ← attempt .planned (plan quote)
    match planned with
    | .ok plan => pure plan
    | .error e =>
      if e = doesNotFit ∧ budget ≠ 12 then fitWithin budgets else fail (.chain e)

def fitWithQuotes : Traced σ (QuoteEvent ε) (CuratorError ε) Plan :=
  fitWithin fetch plan [48, 36, 24, 12]

def budgets (log : List (QuoteEvent ε)) : List UInt8 :=
  log.filterMap fun
    | .fetched budget _ => some budget
    | .planned _ => none

theorem fitWithin_budgets (limits : List UInt8) :
    Ensures (fitWithin fetch plan limits) fun log result ↦
      budgets log <+: limits ∧
        ∀ plan, result = .ok plan → log.getLast? = some (.planned (.ok plan)) := by
  induction limits with
  | nil => exact ensures_fail ⟨List.prefix_rfl, fun _ h ↦ by cases h⟩
  | cons limit limits ih =>
    have hhead : [limit] <+: limit :: limits := List.prefix_append [limit] limits
    refine ensures_act_bind (fun e ↦ ⟨hhead, fun _ h ↦ by cases h⟩) fun quote ↦ ?_
    refine ensures_attempt_bind fun planned ↦ ?_
    cases planned with
    | ok plan =>
      refine ensures_pure ⟨hhead, fun plan' h ↦ ?_⟩
      cases h
      rfl
    | error e =>
      dsimp only
      split
      · refine ih.mono fun log result hlog ↦ ⟨?_, fun plan h ↦ ?_⟩
        · exact List.cons_prefix_cons.mpr ⟨rfl, hlog.1⟩
        · rw [List.getLast?_cons, List.getLast?_cons, hlog.2 plan h]
          rfl
      · exact ensures_fail ⟨hhead, fun _ h ↦ by cases h⟩

theorem fitWithQuotes_budgets : Ensures (fitWithQuotes fetch plan) fun log result ↦
    budgets log <+: [48, 36, 24, 12] ∧
      ∀ plan, result = .ok plan → log.getLast? = some (.planned (.ok plan)) :=
  fitWithin_budgets fetch plan _

end Quotes

/-- The edge to planning and to the network: whatever it answers may depend on a state of its
own. -/
structure Driver (σ ε : Type) where
  refresh : Intent → σ → Except (CuratorError ε) Plan × σ
  sendConfirmed : TxParts → σ → Except (CuratorError ε) Signature × σ

inductive Event (ε : Type) where
  | refreshed (result : Except (CuratorError ε) Plan)
  | sent (tx : TxParts) (result : Except (CuratorError ε) Signature)

abbrev Curation (σ ε α : Type) := Traced σ (Event ε) (CuratorError ε) α

section Model

variable (driver : Driver σ ε) (intent : Intent)

def refresh : Curation σ ε Plan := act .refreshed (driver.refresh intent)

def sendConfirmed (tx : TxParts) : Curation σ ε Signature :=
  act (.sent tx) (driver.sendConfirmed tx)

def complete (stagedLeg : VaultLeg) (expected : VaultStagingAsset × UInt64) :
    Curation σ ε (Signature × Bool) := do
  match ← refresh driver intent with
  | .staged _ _ => fail (.text "confirmed stage did not produce an open slot")
  | .single tx =>
    match tx.kind with
    | .staging .unstage leg asset generation =>
      if (asset, generation) ≠ expected then
        fail (.text "expected full-slot unstage after stage")
      else do
        let completion ← sendConfirmed driver tx
        pure (completion, leg = stagedLeg)
    | _ => fail (.text "expected full-slot unstage after stage")

def singleOutcome (signature : Signature) : VaultSwapKind → Outcome
  | .staging .unstage _ _ _ => .recovered signature
  | _ => .executed [signature]

def execute : Curation σ ε Outcome := do
  let plan ← refresh driver intent
  let signature ← sendConfirmed driver plan.first
  match plan with
  | .single tx => pure (singleOutcome signature tx.kind)
  | .staged stage _ =>
    match stage.kind with
    | .staging _ stagedLeg asset generation => do
      let (completion, rolledBack) ←
        mapError (.stage signature) (complete driver intent stagedLeg (asset, generation))
      pure (if rolledBack then .recovered completion else .executed [signature, completion])
    | _ => fail (.stage signature (.text "expected staging transaction"))

end Model

section Runs

inductive Completes (stagedLeg : VaultLeg) (expected : VaultStagingAsset × UInt64) :
    List (Event ε) → Except (CuratorError ε) (Signature × Bool) → Prop
  | refused (result : Except (CuratorError ε) Plan) (e : CuratorError ε) :
      Completes stagedLeg expected [.refreshed result] (.error e)
  | sent (tx : TxParts) (leg : VaultLeg) (result : Except (CuratorError ε) Signature)
      (hkind : tx.kind = .staging .unstage leg expected.1 expected.2) :
      Completes stagedLeg expected [.refreshed (.ok (.single tx)), .sent tx result]
        (result.map fun completion ↦ (completion, leg = stagedLeg))

inductive Executes : List (Event ε) → Except (CuratorError ε) Outcome → Prop
  | unplanned (e : CuratorError ε) : Executes [.refreshed (.error e)] (.error e)
  | unsent (plan : Plan) (e : CuratorError ε) :
      Executes [.refreshed (.ok plan), .sent plan.first (.error e)] (.error e)
  | single (tx : TxParts) (signature : Signature) :
      Executes [.refreshed (.ok (.single tx)), .sent tx (.ok signature)]
        (.ok (singleOutcome signature tx.kind))
  | unexpected (stage unstage : TxParts) (signature : Signature) (e : CuratorError ε) :
      Executes [.refreshed (.ok (.staged stage unstage)), .sent stage (.ok signature)]
        (.error (.stage signature e))
  | staged (stage unstage : TxParts) (signature : Signature) (step : VaultStagingStep)
      (stagedLeg : VaultLeg) (expected : VaultStagingAsset × UInt64) (log : List (Event ε))
      (result : Except (CuratorError ε) (Signature × Bool))
      (hkind : stage.kind = .staging step stagedLeg expected.1 expected.2)
      (h : Completes stagedLeg expected log result) :
      Executes
        (.refreshed (.ok (.staged stage unstage)) :: .sent stage (.ok signature) :: log)
        ((result.mapError (.stage signature)).map fun completed ↦
          if completed.2 then .recovered completed.1 else .executed [signature, completed.1])

variable (driver : Driver σ ε) (intent : Intent)

theorem complete_completes (stagedLeg : VaultLeg) (expected : VaultStagingAsset × UInt64) :
    Ensures (complete driver intent stagedLeg expected) (Completes stagedLeg expected) := by
  refine ensures_act_bind (fun e ↦ .refused _ e) fun plan ↦ ?_
  cases plan with
  | staged _ _ => exact ensures_fail (.refused _ _)
  | single tx =>
    dsimp only
    split
    · rename_i leg asset generation hkind
      split
      · exact ensures_fail (.refused _ _)
      · rename_i hexpected
        obtain rfl := not_not.mp hexpected
        refine ensures_act_bind (fun e ↦ .sent tx leg (.error e) hkind) fun completion ↦ ?_
        exact ensures_pure (.sent tx leg (.ok completion) hkind)
    · exact ensures_fail (.refused _ _)

theorem execute_executes : Ensures (execute driver intent) Executes := by
  refine ensures_act_bind (fun e ↦ .unplanned e) fun plan ↦ ?_
  refine ensures_act_bind (fun e ↦ .unsent plan e) fun signature ↦ ?_
  cases plan with
  | single tx => exact ensures_pure (.single tx signature)
  | staged stage unstage =>
    dsimp only
    split
    · rename_i step stagedLeg asset generation hkind
      have hcomplete : Ensures
          (mapError (CuratorError.stage signature)
            (complete driver intent stagedLeg (asset, generation)))
          fun log result ↦ ∃ completed, Completes stagedLeg (asset, generation) log completed ∧
            completed.mapError (CuratorError.stage signature) = result :=
        ((complete_completes driver intent stagedLeg (asset, generation)).mono
          fun _ completed h ↦ ⟨completed, h, rfl⟩).mapError
      refine hcomplete.bind (fun log e h ↦ ?_) (fun log completed h ↦ ensures_pure ?_)
      · obtain ⟨result, hresult, he⟩ := h
        cases result with
        | ok completed => cases he
        | error source =>
          cases he
          exact .staged stage unstage signature step stagedLeg (asset, generation) log _ hkind
            hresult
      · obtain ⟨result, hresult, he⟩ := h
        cases result with
        | error source => cases he
        | ok completed' =>
          cases he
          rw [List.append_nil]
          exact .staged stage unstage signature step stagedLeg (asset, generation) log _ hkind
            hresult
    · exact ensures_fail (.unexpected stage unstage signature _)

end Runs

section Log

def sends (log : List (Event ε)) : List (TxParts × Except (CuratorError ε) Signature) :=
  log.filterMap fun
    | .sent tx result => some (tx, result)
    | .refreshed _ => none

section Sends

variable (tx : TxParts) (sent : Except (CuratorError ε) Signature)
  (planned : Except (CuratorError ε) Plan) (log : List (Event ε))

@[simp] theorem sends_nil : sends ([] : List (Event ε)) = [] := rfl

@[simp] theorem sends_refreshed : sends (.refreshed planned :: log) = sends log := rfl

@[simp] theorem sends_sent : sends (.sent tx sent :: log) = (tx, sent) :: sends log := rfl

end Sends

def signatures (log : List (Event ε)) : List Signature :=
  (sends log).filterMap fun entry ↦ entry.2.toOption

/-- The only transaction completed a slot that was open already. -/
def FinishedOpenSlot (log : List (Event ε)) : Prop :=
  ∃ tx signature leg asset generation,
    log = [.refreshed (.ok (.single tx)), .sent tx (.ok signature)] ∧
    tx.kind = .staging .unstage leg asset generation

/-- The completing half paid back into the leg that the stage had spent. -/
def RolledBack (log : List (Event ε)) : Prop :=
  ∃ stage unstage tx signature completion step leg asset generation,
    log = [.refreshed (.ok (.staged stage unstage)), .sent stage (.ok signature),
      .refreshed (.ok (.single tx)), .sent tx (.ok completion)] ∧
    stage.kind = .staging step leg asset generation ∧
    tx.kind = .staging .unstage leg asset generation

def Unexecuted (log : List (Event ε)) : Prop := FinishedOpenSlot log ∨ RolledBack log

def CompletesStage (log : List (Event ε)) (second : TxParts × Except (CuratorError ε) Signature) :
    Prop :=
  ∃ stage unstage signature step leg leg' asset generation,
    log = [.refreshed (.ok (.staged stage unstage)), .sent stage (.ok signature),
      .refreshed (.ok (.single second.1)), .sent second.1 second.2] ∧
    stage.kind = .staging step leg asset generation ∧
    second.1.kind = .staging .unstage leg' asset generation

variable {log : List (Event ε)} {result : Except (CuratorError ε) Outcome}

theorem Executes.length_sends (h : Executes log result) : (sends log).length ≤ 2 := by
  cases h with
  | staged stage unstage signature step leg expected log completed hkind h =>
    cases h with
    | refused => simp
    | sent => simp
  | _ => simp

theorem Executes.second {first second : TxParts × Except (CuratorError ε) Signature}
    (h : Executes log result) (hsends : sends log = [first, second]) :
    CompletesStage log second := by
  cases h with
  | staged stage unstage signature step leg expected log completed hkind h =>
    cases h with
    | refused => cases hsends
    | sent tx leg' sent hkind' =>
      cases hsends
      exact ⟨stage, unstage, signature, step, leg, leg', expected.1, expected.2, rfl, hkind, hkind'⟩
  | _ => cases hsends

theorem Executes.stageError {tx : TxParts} {signature : Signature} {e : CuratorError ε}
    (h : Executes log result) (hresult : result = .error e)
    (hconfirmed : (tx, .ok signature) ∈ sends log) : ∃ source, e = .stage signature source := by
  cases h with
  | unplanned e => simp at hconfirmed
  | unsent plan e => simp at hconfirmed
  | single tx signature => cases hresult
  | unexpected stage unstage signature source =>
    obtain ⟨-, rfl⟩ : tx = stage ∧ _ := by simpa using hconfirmed
    exact ⟨source, (Except.error.inj hresult).symm⟩
  | staged stage unstage signature step leg expected log completed hkind h =>
    cases h with
    | refused planned source =>
      obtain ⟨-, rfl⟩ : tx = stage ∧ _ := by simpa using hconfirmed
      exact ⟨source, (Except.error.inj hresult).symm⟩
    | sent completing leg' sent hkind' =>
      cases sent with
      | ok completion => cases hresult
      | error source =>
        obtain ⟨-, rfl⟩ : tx = stage ∧ _ := by simpa using hconfirmed
        exact ⟨source, (Except.error.inj hresult).symm⟩

theorem Executes.confirmed {outcome : Outcome} (h : Executes log result)
    (hresult : result = .ok outcome) :
    (sends log).map Prod.snd = (signatures log).map .ok := by
  cases h with
  | unplanned e => cases hresult
  | unsent plan e => cases hresult
  | single tx signature => rfl
  | unexpected stage unstage signature source => cases hresult
  | staged stage unstage signature step leg expected log completed hkind h =>
    cases h with
    | refused planned source => cases hresult
    | sent completing leg' sent hkind' =>
      cases sent with
      | error source => cases hresult
      | ok completion => rfl

theorem unexecuted_single {tx : TxParts} {signature : Signature} :
    Unexecuted ([.refreshed (.ok (.single tx)), .sent tx (.ok signature)] : List (Event ε)) ↔
      ∃ leg asset generation, tx.kind = .staging .unstage leg asset generation := by
  constructor
  · rintro (⟨tx', signature', leg, asset, generation, hlog, hkind⟩ |
      ⟨stage, unstage, tx', signature', completion, step, leg, asset, generation, hlog, -⟩)
    · cases hlog
      exact ⟨leg, asset, generation, hkind⟩
    · cases hlog
  · rintro ⟨leg, asset, generation, hkind⟩
    exact .inl ⟨tx, signature, leg, asset, generation, rfl, hkind⟩

theorem unexecuted_staged {stage unstage tx : TxParts} {signature completion : Signature}
    {step : VaultStagingStep} {leg leg' : VaultLeg} {asset : VaultStagingAsset}
    {generation : UInt64} (hstage : stage.kind = .staging step leg asset generation)
    (htx : tx.kind = .staging .unstage leg' asset generation) :
    Unexecuted ([.refreshed (.ok (.staged stage unstage)), .sent stage (.ok signature),
      .refreshed (.ok (.single tx)), .sent tx (.ok completion)] : List (Event ε)) ↔
      leg' = leg := by
  constructor
  · rintro (⟨tx', signature', leg₁, asset₁, generation₁, hlog, -⟩ |
      ⟨stage', unstage', tx', signature', completion', step', leg₁, asset₁, generation₁, hlog,
        hstage', htx'⟩)
    · cases hlog
    · cases hlog
      rw [hstage] at hstage'
      rw [htx] at htx'
      cases hstage'
      cases htx'
      rfl
  · rintro rfl
    exact .inr ⟨stage, unstage, tx, signature, completion, step, leg', asset, generation, rfl,
      hstage, htx⟩

theorem singleOutcome_cases (signature : Signature) (kind : VaultSwapKind) :
    (∃ leg asset generation, kind = .staging .unstage leg asset generation) ∧
        singleOutcome signature kind = .recovered signature ∨
      (¬∃ leg asset generation, kind = .staging .unstage leg asset generation) ∧
        singleOutcome signature kind = .executed [signature] := by
  unfold singleOutcome
  split
  · exact .inl ⟨⟨_, _, _, rfl⟩, rfl⟩
  · rename_i hkind
    refine .inr ⟨?_, rfl⟩
    rintro ⟨leg, asset, generation, rfl⟩
    exact hkind leg asset generation rfl

theorem Executes.outcome {outcome : Outcome} (h : Executes log result)
    (hresult : result = .ok outcome) :
    (Unexecuted log ∧ ∃ signature, (signatures log).getLast? = some signature ∧
        outcome = .recovered signature) ∨
      (¬Unexecuted log ∧ outcome = .executed (signatures log)) := by
  cases h with
  | unplanned e => cases hresult
  | unsent plan e => cases hresult
  | unexpected stage unstage signature source => cases hresult
  | single tx signature =>
    obtain rfl := Except.ok.inj hresult
    rw [unexecuted_single]
    rcases singleOutcome_cases signature tx.kind with ⟨hkind, h⟩ | ⟨hkind, h⟩
    · exact .inl ⟨hkind, signature, rfl, h⟩
    · exact .inr ⟨hkind, h⟩
  | staged stage unstage signature step leg expected log completed hkind h =>
    cases h with
    | refused planned source => cases hresult
    | sent tx leg' sent hkind' =>
      cases sent with
      | error source => cases hresult
      | ok completion =>
        obtain rfl := Except.ok.inj hresult
        rw [unexecuted_staged hkind hkind']
        by_cases hleg : leg' = leg
        · exact .inl ⟨hleg, completion, rfl, if_pos (decide_eq_true hleg)⟩
        · exact .inr ⟨hleg, if_neg (by simpa using hleg)⟩

end Log

/-- One execution strands no stage silently: a second transaction only completes the confirmed
first, and a failure behind a confirmation carries its signature. -/
theorem execute_never_strands (driver : Driver σ ε) (intent : Intent) (s : σ) :
    let log := (execute driver intent s).2.1
    let result := (execute driver intent s).1
    (sends log).length ≤ 2 ∧
    (∀ first second, sends log = [first, second] → CompletesStage log second) ∧
    (∀ tx signature e, (tx, .ok signature) ∈ sends log → result = .error e →
      ∃ source, e = .stage signature source) ∧
    ∀ outcome, result = .ok outcome →
      (sends log).map Prod.snd = (signatures log).map .ok ∧
      ((∃ signature, outcome = .recovered signature) ↔ Unexecuted log) ∧
      (∀ signature, outcome = .recovered signature →
        (signatures log).getLast? = some signature) ∧
      (¬Unexecuted log → outcome = .executed (signatures log)) := by
  intro log result
  have h : Executes log result := execute_executes driver intent s
  refine ⟨h.length_sends, fun first second hsends ↦ h.second hsends,
    fun tx signature e hconfirmed hresult ↦ h.stageError hresult hconfirmed,
    fun outcome hresult ↦ ⟨h.confirmed hresult, ?_⟩⟩
  rcases h.outcome hresult with ⟨hunexecuted, signature, hlast, rfl⟩ | ⟨hexecuted, rfl⟩
  · refine ⟨⟨fun _ ↦ hunexecuted, fun _ ↦ ⟨signature, rfl⟩⟩, fun signature' heq ↦ ?_,
      fun hnot ↦ absurd hunexecuted hnot⟩
    cases heq
    exact hlast
  · refine ⟨⟨?_, fun hunexecuted ↦ absurd hunexecuted hexecuted⟩, (fun _ heq ↦ by cases heq),
      fun _ ↦ rfl⟩
    rintro ⟨signature, heq⟩
    cases heq

section Sample

def sampleHalf (step : VaultStagingStep) (leg : VaultLeg) : TxParts :=
  ⟨[], [], .staging step leg ⟨Solana.keyOfNat 33, Solana.tokenProgramId⟩ 8⟩

def sampleDriver : Driver ℕ Unit where
  refresh _ s :=
    (.ok (if s = 0 then .staged (sampleHalf .stage .main) (sampleHalf .unstage .second)
      else .single (sampleHalf .unstage .second)), s)
  sendConfirmed _ s := (.ok (.ofList 64 [.ofNat s]), s + 1)

theorem execute_never_strands_staged :
    let log := (execute sampleDriver (.buy 10) 0).2.1
    (execute sampleDriver (.buy 10) 0).1 =
        .ok (.executed [.ofList 64 [0], .ofList 64 [1]]) ∧
      CompletesStage log (sampleHalf .unstage .second, .ok (.ofList 64 [1])) ∧
      ¬Unexecuted log := by
  obtain ⟨-, hsecond, -, houtcome⟩ := execute_never_strands sampleDriver (.buy 10) 0
  refine ⟨rfl, hsecond (sampleHalf .stage .main, .ok (.ofList 64 [0])) _ rfl, fun hunexecuted ↦ ?_⟩
  obtain ⟨-, hrecovered, -⟩ := houtcome _ rfl
  obtain ⟨signature, heq⟩ := hrecovered.mpr hunexecuted
  cases heq

end Sample

end MakerSdk.Routing
