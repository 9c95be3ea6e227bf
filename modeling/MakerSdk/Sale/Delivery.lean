import MakerSdk.Sale.Run
import MakerSdk.Session.Fence

namespace MakerSdk.Sale

open Base Quote
open Session (Answer Waiter Call Event ManagedWsConfig System Uuid)

def settle : Answer → Except VaultRequestError Unit
  | .sent result => result.mapError .session
  | .response (.error error) => .error (.transport error)
  | .response (.ok message) => correlated message

/-- A sale and the managed connection it goes through. `tickets` are the calls of the sale on
the handle, each with the frame it sends; the sale waits for the answer to the last of them. -/
structure Joint (ε : Type) where
  session : System
  sale : State ε
  tickets : List (Waiter × Frame)

namespace Joint

/-- A step of the connection or of any other caller, a step of the sale, or the sale taking up
the answer that stands at this position of the history. -/
inductive Label (ε : Type) where
  | session (label : Session.Label)
  | sale (input : Input ε)
  | answer (position : ℕ)

variable {ε : Type}

def start (c : Context) (config : ManagedWsConfig) (now : ℕ) : Joint ε :=
  ⟨.init config, .start c now, []⟩

def callOf (x : Sent) : Call := ⟨.trySendAwaitInEpoch x.epoch, x.frame.message⟩

def advance (config : ManagedWsConfig) (j : Joint ε) (sale : State ε) : Option (Joint ε) :=
  match sale.sent.drop j.sale.sent.length with
  | [] => some { j with sale }
  | x :: _ => (j.session.handleStep config (.call (callOf x))).map fun session ↦
      ⟨session, sale, j.tickets ++ [(j.session.nextTx, x.frame)]⟩

def answerAt (j : Joint ε) (position : ℕ) : Option Answer :=
  match j.tickets.getLast?, j.session.history[position]? with
  | some ticket, some (.answered tx answer) => if tx = ticket.1 then some answer else none
  | _, _ => none

def step (c : Context) (config : ManagedWsConfig) (j : Joint ε) : Label ε → Option (Joint ε)
  | .session label => (j.session.step config label).map fun session ↦ { j with session }
  | .sale (.answer _) => none
  | .sale input => (j.sale.step c input).bind (j.advance config)
  | .answer position => (j.answerAt position).bind fun answer ↦
      (j.sale.step c (.answer (settle answer))).bind (j.advance config)

def Told (j : Joint ε) (error : VaultRequestError) : Prop :=
  ∃ ticket answer, j.tickets.getLast? = some ticket ∧
    .answered ticket.1 answer ∈ j.session.history ∧ settle answer = .error error

structure Sound (c : Context) (j : Joint ε) : Prop where
  session : j.session.ledger.Sound ∧ j.session.Kept
  sale : j.sale.Sound c
  paired : j.tickets.map Prod.snd = j.sale.sent.map Sent.frame
  settled : ∀ sale error, j.sale.phase = .done (.error (.submit sale error)) →
    (∀ x ∈ j.sale.sent, x.frame.isSubmit = false) ∨ j.Told error

end Joint

theorem Context.Unsubmitted.isSubmit {c : Context} {inbox : List SaleMessage} {sent : List Sent}
    (h : c.Unsubmitted inbox sent) : ∀ x ∈ sent, x.frame.isSubmit = false := by
  rcases h with rfl | rfl | ⟨quote, -, acceptId, rfl⟩
  · simp
  · simp [Context.request, Frame.isSubmit]
  · simp [Context.request, Context.accept, Frame.isSubmit]

section Steps

variable {ε : Type} {c : Context} {s t : State ε}

theorem State.receive_sent {message : SaleMessage} : (s.receive c message).sent = s.sent := by
  cases message with
  | other => rfl
  | rfqCreated | quoteReceived =>
    unfold State.receive
    dsimp only
    split <;> rfl
  | sponsoredTxToSign =>
    unfold State.receive
    dsimp only
    split
    · split <;> rfl
    · rfl

theorem State.signSale_sent {quote : QuoteReceivedMessage} {served : ServedSale}
    {writer : Vault.VaultManager} {counterparty : Counterparty} {keeper : Solana.Pubkey}
    {tables : List Solana.AddressLookupTableAccount} {now : SystemTime} :
    (s.signSale c quote served writer counterparty keeper tables now).sent = s.sent := by
  unfold State.signSale
  dsimp only
  split <;> rfl

structure State.Effect (c : Context) (s : State ε) (input : Input ε) (t : State ε) : Prop where
  sent : t.sent = s.sent ∨ ∃ frame, t.sent = s.sent ++ [⟨c.connectionEpoch, frame⟩]
  failure : ∀ sale error, t.phase = .done (.error (.submit sale error)) → t.sent = s.sent ∧
    (s.phase = t.phase ∨ s.phase.early = true ∨
      s.phase = .submitted sale ∧ input = .answer (.error error))

theorem State.Effect.of_early {input : Input ε} (hsent : t.sent = s.sent)
    (hearly : s.phase.early = true) : State.Effect c s input t :=
  ⟨.inl hsent, fun _ _ _ ↦ ⟨hsent, .inr (.inl hearly)⟩⟩

theorem State.Effect.of_sent {input : Input ε} {frame : Frame} {phase : Phase ε}
    (hphase : ∀ result, phase ≠ .done result) : State.Effect c s input (s.send c frame phase) :=
  ⟨.inr ⟨frame, rfl⟩, fun _ _ h ↦ absurd h (hphase _)⟩

theorem State.step_effect {input : Input ε} (ht : s.step c input = some t) :
    State.Effect c s input t := by
  rcases State.step_cases ht with ⟨hearly, result, rfl⟩ | hleads
  · exact .of_early rfl hearly
  cases hleads with
  | tick => exact ⟨.inl rfl, fun _ _ _ ↦ ⟨rfl, .inl rfl⟩⟩
  | request | accept | submit => exact .of_sent fun _ h ↦ by cases h
  | receive h => exact .of_early State.receive_sent (h ▸ rfl)
  | sign h => exact .of_early State.signSale_sent (h ▸ rfl)
  | refused hphase =>
    refine ⟨.inl rfl, fun sale error h ↦ ⟨rfl, .inr (.inr ?_)⟩⟩
    cases h
    exact ⟨hphase, rfl⟩
  | submitted => exact ⟨.inl rfl, fun _ _ h ↦ by cases h⟩
  | requested h | take h | decline h | decide h | accepted h | write h | load h | keep h
  | signed h => exact .of_early rfl (h ▸ rfl)

end Steps

namespace Joint

variable {ε : Type} {c : Context} {config : ManagedWsConfig} {j k : Joint ε}

theorem sound_start (now : ℕ) : (start c config now : Joint ε).Sound c where
  session := ⟨System.init_sound, System.kept_of_phase (fun _ h ↦ by cases h) rfl⟩
  sale := State.sound_start now
  paired := by
    unfold start State.start
    dsimp only
    split <;> rfl
  settled := by
    intro sale error hphase
    refine .inl ?_
    unfold start State.start
    dsimp only
    split <;> exact List.forall_mem_nil _

theorem session_step {label : Session.Label} {t : System}
    (h : j.session.ledger.Sound ∧ j.session.Kept) (ht : j.session.step config label = some t) :
    (t.ledger.Sound ∧ t.Kept) ∧ j.session.history <+: t.history := by
  obtain ⟨hsound, hkept⟩ := h
  have hmoves := System.step_moves hkept hsound ht
  exact ⟨⟨hsound.moves hmoves.moves, hmoves.kept hkept⟩, Session.Ledger.history_prefix hmoves.moves⟩

theorem Sound.session_label {label : Session.Label} (h : j.Sound c)
    (hk : j.step c config (.session label) = some k) : k.Sound c := by
  obtain ⟨t, ht, rfl⟩ := Option.map_eq_some_iff.mp hk
  obtain ⟨hsession, hprefix⟩ := session_step h.session ht
  refine ⟨hsession, h.sale, h.paired, fun sale error hphase ↦ ?_⟩
  refine (h.settled sale error hphase).imp_right ?_
  rintro ⟨ticket, answer, hlast, hanswer, hsettle⟩
  exact ⟨ticket, answer, hlast, hprefix.subset hanswer, hsettle⟩

theorem Sound.advance {input : Input ε} {t : State ε} (h : j.Sound c)
    (ht : j.sale.step c input = some t)
    (hanswer : ∀ error, input = .answer (.error error) → j.Told error)
    (hk : j.advance config t = some k) : k.Sound c := by
  obtain ⟨hsent, hfailure⟩ := State.step_effect ht
  unfold Joint.advance at hk
  rcases hsent with hsame | ⟨frame, hnew⟩
  · rw [hsame, List.drop_length] at hk
    cases hk
    refine ⟨h.session, h.sale.step ht, ?_, fun sale error hphase ↦ ?_⟩
    · rw [h.paired, hsame]
    · obtain ⟨-, hsource⟩ := hfailure sale error hphase
      dsimp only
      rw [hsame]
      rcases hsource with hsame | hearly | ⟨-, hinput⟩
      · exact h.settled sale error (hsame.trans hphase)
      · exact .inl (h.sale.inPhase.unsubmitted hearly).isSubmit
      · exact .inr (hanswer error hinput)
  · rw [hnew, List.drop_left] at hk
    obtain ⟨session, hsession, rfl⟩ := Option.map_eq_some_iff.mp hk
    have hcall : j.session.step config (.handle (.call (callOf ⟨c.connectionEpoch, frame⟩))) =
      some session := hsession
    refine ⟨(session_step h.session hcall).1, h.sale.step ht, ?_, fun sale error hphase ↦ ?_⟩
    · rw [List.map_append, h.paired, hnew, List.map_append]
      rfl
    · have hlength := congrArg List.length (hnew.symm.trans (hfailure sale error hphase).1)
      simp at hlength

theorem answerAt_some {position : ℕ} {answer : Answer} (h : j.answerAt position = some answer) :
    ∃ ticket, j.tickets.getLast? = some ticket ∧ .answered ticket.1 answer ∈ j.session.history := by
  unfold answerAt at h
  split at h
  · rename_i ticket tx answer' hlast hget
    split at h <;> cases h
    rename_i htx
    rw [htx] at hget
    exact ⟨ticket, hlast, List.mem_of_getElem? hget⟩
  · cases h

theorem Sound.step {label : Label ε} (h : j.Sound c) (hk : j.step c config label = some k) :
    k.Sound c := by
  cases label with
  | session label => exact h.session_label hk
  | sale input =>
    cases input with
    | answer => cases hk
    | tick | gate | recv | timeout | take | acceptingResult | writer | counterparty | keeper
    | tables | signedResult =>
      simp only [Joint.step, Option.bind_eq_some_iff] at hk
      obtain ⟨t, ht, hk⟩ := hk
      exact h.advance ht (fun _ hinput ↦ by cases hinput) hk
  | answer position =>
    obtain ⟨answer, hanswer, hk⟩ := Option.bind_eq_some_iff.mp hk
    obtain ⟨t, ht, hk⟩ := Option.bind_eq_some_iff.mp hk
    obtain ⟨ticket, hlast, hmem⟩ := answerAt_some hanswer
    refine h.advance ht (fun error hinput ↦ ⟨ticket, answer, hlast, hmem, ?_⟩) hk
    exact Input.answer.inj hinput

end Joint

theorem settle_notForwarded {answer : Answer} {error : VaultRequestError}
    (h : settle answer = .error error) (hdelivery : error.delivery = some .notForwarded) :
    answer.isRefusal = true ∨
      ∃ requestId text,
        answer = .response (.ok (.requestError requestId (some .notForwarded) text)) := by
  cases answer with
  | sent result =>
    cases result with
    | ok => cases h
    | error cause =>
      cases h
      cases cause <;> first | exact .inl rfl | cases hdelivery
  | response result =>
    cases result with
    | error cause =>
      cases h
      cases cause <;> first | exact .inl rfl | cases hdelivery
    | ok message =>
      cases message
      case requestError requestId delivery text =>
        cases h
        cases hdelivery
        exact .inr ⟨requestId, text, rfl⟩
      case commandAccepted => cases h
      all_goals
        cases h
        cases hdelivery

section Honest

variable {ε : Type} {c : Context} {config : ManagedWsConfig} {j : Joint ε}

theorem Joint.Sound.mem_sent (h : j.Sound c) {ticket : Waiter × Frame} (ht : ticket ∈ j.tickets) :
    ∃ x ∈ j.sale.sent, x.frame = ticket.2 := by
  have hframe := List.mem_map_of_mem (f := Prod.snd) ht
  rw [h.paired] at hframe
  exact List.mem_map.mp hframe

theorem Joint.Sound.submit_error (h : j.Sound c) {error : SaleError ε}
    (hphase : j.sale.phase = .done (.error error)) {ticket : Waiter × Frame}
    (ht : ticket ∈ j.tickets) (hsubmit : ticket.2.isSubmit = true) :
    ∃ sale cause, error = .submit sale cause ∧ j.Told cause := by
  obtain ⟨x, hx, hframe⟩ := h.mem_sent ht
  rw [← hframe] at hsubmit
  have hunsent : ¬ ∀ x ∈ j.sale.sent, x.frame.isSubmit = false := by
    intro hnone
    rw [hnone x hx] at hsubmit
    cases hsubmit
  have hsale := h.sale.inPhase
  unfold State.InPhase at hsale
  rw [hphase] at hsale
  rcases hsale with hsent | ⟨-, ⟨_, hresult⟩ | ⟨sale, cause, hresult⟩⟩
  · exact absurd hsent.isSubmit hunsent
  · cases hresult
  · cases hresult
    exact ⟨sale, cause, rfl, (h.settled sale cause hphase).resolve_left hunsent⟩

theorem Joint.Sound.submit_last (h : j.Sound c) {ticket : Waiter × Frame} (ht : ticket ∈ j.tickets)
    (hsubmit : ticket.2.isSubmit = true) : j.tickets.getLast? = some ticket := by
  obtain ⟨x, hx, hframe⟩ := h.mem_sent ht
  rcases h.sale.inPhase.sent with hsent | ⟨_, before, _, _, _, haccepted, hsent, -⟩
  · rw [← hframe, hsent.isSubmit x hx] at hsubmit
    cases hsubmit
  · have hpaired := h.paired
    rw [hsent, List.map_append] at hpaired
    obtain ⟨first, last, htickets, hfirst, hlast⟩ := List.map_eq_append_iff.mp hpaired
    obtain ⟨final, rfl, -⟩ := List.map_eq_singleton_iff.mp hlast
    rw [htickets] at ht ⊢
    rcases List.mem_append.mp ht with ht | ht
    · have hbefore : ticket.2 ∈ before.map Sent.frame := by
        rw [← hfirst]
        exact List.mem_map_of_mem ht
      obtain ⟨y, hy, hframe⟩ := List.mem_map.mp hbefore
      have hunsubmitted : c.Unsubmitted j.sale.inbox before := .inr (.inr ⟨_, haccepted⟩)
      rw [← hframe, hunsubmitted.isSubmit y hy] at hsubmit
      cases hsubmit
    · rw [List.mem_singleton.mp ht, List.getLast?_concat]

/-- Delivery reports are honest: what is reported as not forwarded, or as failed with nothing in
flight, has put no frame into any lane. -/
theorem delivery_honest {now : ℕ} {labels : List (Joint.Label ε)}
    (h : Runs.run (Joint.step c config) (Joint.start c config now) labels = some j) :
    (∀ tx answer error, .answered tx answer ∈ j.session.history → settle answer = .error error →
      error.delivery = some .notForwarded → (∀ message, answer ≠ .response (.ok message)) →
        ∀ epoch, .enqueued tx epoch ∉ j.session.history) ∧
    ∀ error, j.sale.phase = .done (.error error) → error.inFlight = none →
      ∀ ticket ∈ j.tickets, ticket.2.isSubmit = true →
        (∀ epoch, .enqueued ticket.1 epoch ∉ j.session.history) ∨
          ∃ requestId text, .answered ticket.1 (.response (.ok
            (.requestError requestId (some .notForwarded) text))) ∈ j.session.history := by
  have hsound := Runs.run_invariant (fun _ _ _ ↦ Joint.Sound.step) (Joint.sound_start now) h
  have hfollows := hsound.session.1.follows
  refine ⟨fun tx answer error hanswer hsettle hdelivery hserver epoch ↦ ?_,
    fun error hphase hflight ticket hticket hsubmit ↦ ?_⟩
  · rcases settle_notForwarded hsettle hdelivery with hrefusal | ⟨requestId, text, hresponse⟩
    · exact Session.refused_not_enqueued hfollows hanswer hrefusal
    · exact absurd hresponse (hserver _)
  · obtain ⟨sale, cause, rfl, last, answer, hlast, hanswer, hsettle⟩ :=
      hsound.submit_error hphase hticket hsubmit
    obtain rfl : last = ticket :=
      Option.some.inj (hlast.symm.trans (hsound.submit_last hticket hsubmit))
    have hdelivery : cause.delivery = some .notForwarded := by
      by_contra hne
      rw [SaleError.inFlight, if_pos hne] at hflight
      cases hflight
    rcases settle_notForwarded hsettle hdelivery with hrefusal | ⟨requestId, text, rfl⟩
    · exact .inl fun epoch ↦ Session.refused_not_enqueued hfollows hanswer hrefusal
    · exact .inr ⟨requestId, text, hanswer⟩

end Honest

/-- The sample sale, with a connection that is lost between the signature and the
submission. -/
def refusedRun : List (Joint.Label Empty) :=
  let inbound (message : SaleMessage) : Joint.Label Empty := .sale (.recv (.ok ⟨1, message⟩))
  let accepted (id : Uuid) : Joint.Label Empty :=
    .session (.branch (.read (.message (.commandAccepted id))))
  [.session (.task .connect), .session (.task (.authenticate .authenticated)),
    .session (.task (.establish .ready)),
    .sale (.gate true 0), .session (.branch .command), accepted 1, .answer 11,
    inbound (.rfqCreated (some 1) 9), inbound (.quoteReceived sampleFill), .sale (.take (.ok true)),
    .sale (.acceptingResult (.ok ())),
    .sale (.gate true 2), .session (.branch .command), accepted 2, .answer 15,
    inbound (.sponsoredTxToSign ⟨⟨Served.Sale.orderId, Served.Sale.text⟩, 300, ⟨2000000000⟩⟩),
    .sale (.writer (.ok Served.Sale.writer)),
    .sale (.counterparty (.ok none) (.ok ⟨Served.Sale.makerOwner, Served.Sale.quoteSigner⟩)),
    .sale (.keeper (.ok Served.Sale.keeper)),
    .sale (.tables (.ok Served.Sale.tables) ⟨1000000000⟩), .sale (.signedResult (.ok ())),
    .session (.branch (.read .closed)), .sale (.gate true 3), .answer 18]

/-- The lengths of the texts that `serde_json` writes for the sale's messages and for a ping. -/
def saleTextLen : Session.ClientMessage → Option ℕ
  | .rfqRequest _ => some 249
  | .acceptQuote _ => some 264
  | .submitSignedSponsoredTx _ => some 1196
  | .ping => some 15
  | _ => none

def saleConfig : Session.ManagedWsConfig := .new saleTextLen

def State.failedQuietly {ε : Type} (s : State ε) : Bool :=
  match s.phase with
  | .done (.error error) => error.inFlight.isNone
  | _ => false

theorem delivery_honest_refused :
    ∃ j error ticket, Runs.run (Joint.step sampleContext saleConfig)
        (Joint.start sampleContext saleConfig 0) refusedRun = some j ∧
      j.sale.phase = .done (.error error) ∧ error.inFlight = none ∧ ticket ∈ j.tickets ∧
      ticket.2.isSubmit = true ∧
      ((∀ epoch, .enqueued ticket.1 epoch ∉ j.session.history) ∨
        ∃ requestId text, .answered ticket.1 (.response (.ok
          (.requestError requestId (some .notForwarded) text))) ∈ j.session.history) := by
  have hrun : (Runs.run (Joint.step sampleContext saleConfig)
      (Joint.start sampleContext saleConfig 0) refusedRun).any
        (fun j ↦ j.sale.failedQuietly && j.tickets.any fun ticket ↦ ticket.2.isSubmit) = true := by
    decide +kernel
  obtain ⟨j, hj, hfailed⟩ := Option.any_eq_true _ _ |>.mp hrun
  obtain ⟨hquiet, hsubmit⟩ := Bool.and_eq_true_iff.mp hfailed
  obtain ⟨ticket, hticket, hsubmit⟩ := List.any_eq_true.mp hsubmit
  unfold State.failedQuietly at hquiet
  split at hquiet
  · rename_i error hphase
    have hflight := Option.isNone_iff_eq_none.mp hquiet
    exact ⟨j, error, ticket, hj, hphase, hflight, hticket, hsubmit,
      (delivery_honest hj).2 error hphase hflight ticket hticket hsubmit⟩
  · cases hquiet

end MakerSdk.Sale
