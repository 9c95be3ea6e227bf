import MakerSdk.Session.Reconcile

namespace MakerSdk.Session

open Base Paging

def Arrival.heard : Arrival → Option ServerMessage
  | message frame _ => some frame
  | error _ | closed => none

structure SnapshotRead (asked : List GetSubscriptionsMessage) (told : List SubscriptionsMessage) :
    Prop where
  ids : asked.map GetSubscriptionsMessage.requestId = told.map SubscriptionsMessage.requestId
  readToEnd : ReadToEnd (asked.map GetSubscriptionsMessage.cursor)
    (told.map SubscriptionsMessage.nextCursor)

structure SnapshotFollowed (asked : List GetSubscriptionsMessage)
    (told : List SubscriptionsMessage) (request : GetSubscriptionsMessage) (seen : List String) :
    Prop where
  ids : asked.map GetSubscriptionsMessage.requestId =
    told.map SubscriptionsMessage.requestId ++ [request.requestId]
  followed : Followed (asked.map GetSubscriptionsMessage.cursor)
    (told.map SubscriptionsMessage.nextCursor) seen

structure Heard (heard : List ServerMessage) (answered : List (ReadRequest × Option String))
    (snapshotTold : List SubscriptionsMessage) : Prop where
  pages : (answered.map fun entry ↦
    ServerMessage.page entry.1.variant entry.1.requestId entry.2).Sublist heard
  snapshot : (snapshotTold.map ServerMessage.subscriptions).Sublist heard

namespace Barrier

def Fresh (b : Barrier) : Prop :=
  b.issued = [] ∧ b.answered = [] ∧ b.continuations = fun _ ↦ .new

def Failed (b : Barrier) : Prop := ∃ failure, b.stage = .done (.error failure)

def Snapshot (env : Establish) (b : Barrier) : Prop :=
  env.endpoint = .quote → SnapshotRead b.snapshotAsked b.snapshotTold

def AtStage (env : Establish) (b : Barrier) : Prop :=
  match b.stage with
  | .snapshot request =>
    b.Fresh ∧ SnapshotFollowed b.snapshotAsked b.snapshotTold request b.continuation.seen
  | .unsubscribing _ _ | .subscribing _ => b.Fresh ∧ b.Snapshot env
  | .reconciling => b.Snapshot env ∧ b.Reads env
  | .done (.ok _) => b.Snapshot env ∧ b.Reads env ∧ b.pending = []
  | .done (.error _) => True

def Sound (env : Establish) (heard : List ServerMessage) (b : Barrier) : Prop :=
  b.Failed ∨ Heard heard b.answered b.snapshotTold ∧ b.AtStage env

variable {env : Establish} {b : Barrier} {heard : List ServerMessage} {write : Option String}
  {request : ReadRequest} {rest pages : List ReadRequest} {nextCursor : Option String}
  {continuations : ReadVariant → Continuation} {drawn : ℕ}

theorem Sound.mono {heard' : List ServerMessage} (h : b.Sound env heard)
    (hs : heard.Sublist heard') : b.Sound env heard' :=
  h.imp_right fun hb ↦ ⟨⟨hb.1.pages.trans hs, hb.1.snapshot.trans hs⟩, hb.2⟩

theorem sound_fail {failure : SessionFailure} : (b.fail failure).Sound env heard :=
  .inl ⟨failure, rfl⟩

theorem Sound.send (h : b.Sound env heard) : (b.send write).Sound env heard := by
  cases write with
  | none => exact h
  | some text => exact sound_fail

section Stages

variable (hheard : Heard heard b.answered b.snapshotTold)

include hheard

theorem sound_enterReads (hfresh : b.Fresh) (hsnapshot : b.Snapshot env) :
    (b.enterReads env write).Sound env heard := by
  obtain ⟨hissued, hanswered, hseen⟩ := hfresh
  have hreads : Reads env { b with
      stage := .reconciling
      step := .reads
      pending := env.reads b.drawn
      drawn := b.drawn + (env.reads b.drawn).length
      issued := b.issued ++ env.reads b.drawn } :=
    .start rfl (by rw [hissued, List.nil_append]) hanswered hseen
  exact Sound.send (.inr ⟨hheard, hsnapshot, hreads⟩)

theorem sound_recover {recovery : SubscriptionRecovery} (hfresh : b.Fresh)
    (hsnapshot : b.Snapshot env) : (b.recover env recovery write).Sound env heard := by
  unfold recover
  split
  · exact Sound.send (.inr ⟨hheard, hfresh, hsnapshot⟩)
  · exact Sound.send (.inr ⟨hheard, hfresh, hsnapshot⟩)
  · exact sound_enterReads hheard hfresh hsnapshot

theorem sound_takeSnapshot {request : GetSubscriptionsMessage} {data : SubscriptionsMessage}
    (hfresh : b.Fresh) (hid : data.requestId = request.requestId)
    (h : SnapshotFollowed b.snapshotAsked b.snapshotTold request b.continuation.seen) :
    (b.takeSnapshot env request data write).Sound env (heard ++ [.subscriptions data]) := by
  have hheard' : Heard (heard ++ [.subscriptions data]) b.answered (b.snapshotTold ++ [data]) := by
    refine ⟨hheard.pages.trans (List.sublist_append_left _ _), ?_⟩
    rw [List.map_append]
    exact hheard.snapshot.append_right _
  have hids : b.snapshotAsked.map GetSubscriptionsMessage.requestId =
      (b.snapshotTold ++ [data]).map SubscriptionsMessage.requestId := by
    rw [h.ids, List.map_append, List.map_singleton, hid]
  have htold : (b.snapshotTold ++ [data]).map SubscriptionsMessage.nextCursor =
      b.snapshotTold.map SubscriptionsMessage.nextCursor ++ [data.nextCursor] := List.map_append
  unfold takeSnapshot
  dsimp only
  cases hcursor : data.nextCursor with
  | none =>
    apply sound_recover (by exact hheard') (by exact hfresh)
    refine fun _ ↦ ⟨hids, ?_⟩
    rw [htold, hcursor]
    exact h.followed.readToEnd
  | some id =>
    split
    · exact sound_fail
    · rename_i hadvance
      obtain ⟨-, hnone, -⟩ := advance_ok.mp hadvance
      cases hnone
    · rename_i cursor continuation hadvance
      refine Sound.send (.inr ⟨hheard', hfresh, ?_, ?_⟩)
      · rw [List.map_append, hids]
        rfl
      · rw [List.map_append, htold, hcursor]
        exact h.followed.advance hadvance

end Stages

theorem sound_start : (start env write).Sound env heard := by
  have hheard : Heard heard [] [] := ⟨List.nil_sublist _, List.nil_sublist _⟩
  have hfresh : (new env).Fresh := ⟨rfl, rfl, rfl⟩
  unfold start
  split
  · exact Sound.send (.inr ⟨hheard, hfresh, rfl, followed_start⟩)
  · rename_i hdata
    exact sound_enterReads hheard hfresh fun hquote ↦ by cases hdata.symm.trans hquote
  · rename_i hvault
    have hsnapshot : (new env).Snapshot env := fun hquote ↦ by cases hvault.symm.trans hquote
    unfold startVault
    dsimp only
    split
    · exact sound_recover (by exact hheard) (by exact hfresh) (by exact hsnapshot)
    · exact Sound.send (.inr ⟨hheard, hfresh, hsnapshot⟩)

theorem summary_of_variant {query : Query} (h : query.variant = .mmSummary) :
    query = .mmSummary := by
  cases query with
  | mmSummary => rfl
  | _ => cases h

theorem Reads.takePage (h : b.Reads env) (hperm : b.pending.Perm (request :: rest))
    (hpages : env.reconciliationPages b.drawn request nextCursor b.continuations =
      .ok (pages, continuations)) :
    (b.taken request rest (pages.filter fun page ↦ !skips env request page) nextCursor
      continuations drawn).Reads env := by
  unfold Establish.reconciliationPages at hpages
  split at hpages
  · rename_i hquery
    have hsummary : request.variant = .mmSummary := congrArg Query.variant hquery
    cases hpages
    by_cases hsome : nextCursor.isSome = true
    · have hcompletion : completion = (env.summaryReads b.drawn).map ReadRequest.variant := rfl
      rw [if_pos hsome]
      refine h.takeSummary hperm hsummary firstPages_summaryReads.filter ?_
      rw [if_pos hsome, Establish.missing, hcompletion, List.filter_map]
      exact congrArg _ (List.filter_congr fun page _ ↦ by simp [skips, hsummary])
    · rw [if_neg hsome]
      exact h.takeSummary hperm hsummary (.of_first List.nodup_nil fun _ h ↦ by cases h)
        (if_neg hsome).symm
  · rename_i hquery
    have hlist : request.variant ≠ .mmSummary := mt summary_of_variant hquery
    split at hpages
    · cases hpages
    · rename_i hadvance
      cases hpages
      rw [List.filter_eq_self.mpr fun page _ ↦ by simp [skips, hlist]]
      exact h.takeList hperm hlist hadvance rfl

theorem sound_takePage (hheard : Heard heard b.answered b.snapshotTold)
    (hsnapshot : b.Snapshot env) (h : b.Reads env) (hperm : b.pending.Perm (request :: rest)) :
    (b.takePage env request rest nextCursor write).Sound env
      (heard ++ [.page request.variant request.requestId nextCursor]) := by
  unfold takePage
  split
  · exact sound_fail
  · rename_i pages continuations hpages
    extract_lets next taken
    have hreads : taken.Reads env := h.takePage hperm hpages
    have hheard' : Heard (heard ++ [.page request.variant request.requestId nextCursor])
        taken.answered taken.snapshotTold := by
      refine ⟨?_, hheard.snapshot.trans (List.sublist_append_left _ _)⟩
      simp only [taken, Barrier.taken, List.map_append]
      exact hheard.pages.append_right _
    have hstage : taken.AtStage env := by
      by_cases hdone : rest ++ next = []
      · have hdone' : taken.stage = .done (.ok ()) := if_pos hdone
        rw [AtStage, hdone']
        exact ⟨hsnapshot, hreads, hdone⟩
      · have hmore : taken.stage = .reconciling := if_neg hdone
        rw [AtStage, hmore]
        exact ⟨hsnapshot, hreads⟩
    have hsound : taken.Sound env _ := .inr ⟨hheard', hstage⟩
    split
    · exact hsound
    · exact hsound.send

theorem sound_handle {message : ServerMessage} (hheard : Heard heard b.answered b.snapshotTold)
    (hstage : b.AtStage env) : (b.handle env message write).Sound env (heard ++ [message]) := by
  have hstay : b.Sound env (heard ++ [message]) :=
    Sound.mono (.inr ⟨hheard, hstage⟩) (List.sublist_append_left _ _)
  have hheard' : Heard (heard ++ [message]) b.answered b.snapshotTold :=
    ⟨hheard.pages.trans (List.sublist_append_left _ _),
      hheard.snapshot.trans (List.sublist_append_left _ _)⟩
  unfold handle
  split
  · rename_i request data hs
    rw [AtStage, hs] at hstage
    split
    · rename_i hid
      exact sound_takeSnapshot hheard hstage.1 hid hstage.2
    · exact hstay
  · rename_i hs
    rw [AtStage, hs] at hstage
    split
    · exact sound_recover hheard' hstage.1 hstage.2
    · exact hstay
  · rename_i hs
    rw [AtStage, hs] at hstage
    split
    · exact sound_enterReads hheard' hstage.1 hstage.2
    · exact hstay
  · split
    · exact sound_fail
    · exact hstay
  · split
    · exact sound_fail
    · exact hstay
  · split
    · exact sound_fail
    · exact hstay
  · rename_i hs
    rw [AtStage, hs] at hstage
    unfold reconcile
    split
    · split
      · exact sound_fail
      · exact hstay
    · rename_i variant id nextCursor
      split
      · exact hstay
      · rename_i request hfind
        have hanswers : request.answeredBy variant id = true := List.find?_some hfind
        obtain ⟨rfl, rfl⟩ := of_decide_eq_true hanswers
        exact sound_takePage hheard hstage.1 hstage.2 (Lists.perm_find?_eraseP hfind)
    · exact hstay
  · exact hstay

theorem read_done {result : Except SessionFailure Unit} {arrival : Arrival}
    (h : b.stage = .done result) : b.read env arrival = b := by
  unfold read
  rw [h]

theorem Sound.read (h : b.Sound env heard) (arrival : Arrival) :
    (b.read env arrival).Sound env (heard ++ arrival.heard.toList) := by
  rcases h with ⟨failure, hfailed⟩ | ⟨hheard, hstage⟩
  · rw [read_done hfailed]
    exact .inl ⟨failure, hfailed⟩
  · unfold Barrier.read
    split
    · exact Sound.mono (.inr ⟨hheard, hstage⟩) (List.sublist_append_left _ _)
    · cases arrival with
      | error text => exact sound_fail
      | closed => exact sound_fail
      | message message write =>
        dsimp only
        split
        · exact sound_fail
        · exact sound_handle hheard hstage

/-- A frame that readiness must not survive: a pending read is refused, or a page of a list or of
the snapshot names no page or one that was named before. -/
inductive Poison (b : Barrier) : ServerMessage → Prop
  | refused {request : ReadRequest} {delivery : Option Delivery} {error : String}
      (hstage : b.stage = .reconciling) (hm : request ∈ b.pending) :
      Poison b (.requestError request.requestId delivery error)
  | page {request : ReadRequest} {cursor : String} (hstage : b.stage = .reconciling)
      (hm : request ∈ b.pending) (hlist : request.variant ≠ .mmSummary)
      (hcursor : cursor = "" ∨ some cursor ∈ b.told request.variant) :
      Poison b (.page request.variant request.requestId (some cursor))
  | snapshotRefused {request : GetSubscriptionsMessage} {delivery : Option Delivery}
      {error : String} (hstage : b.stage = .snapshot request) :
      Poison b (.requestError request.requestId delivery error)
  | snapshotPage {request : GetSubscriptionsMessage} {data : SubscriptionsMessage}
      {cursor : String} (hstage : b.stage = .snapshot request)
      (hid : data.requestId = request.requestId) (hnext : data.nextCursor = some cursor)
      (hcursor : cursor = "" ∨ some cursor ∈ b.snapshotTold.map SubscriptionsMessage.nextCursor) :
      Poison b (.subscriptions data)

theorem failed_fail {failure : SessionFailure} : (b.fail failure).Failed := ⟨failure, rfl⟩

theorem advance_repeated {asked : List Cursor} {told : List (Option String)} {cursor : String}
    {continuation : Continuation} (h : Followed asked told continuation.seen)
    (hcursor : cursor = "" ∨ some cursor ∈ told) :
    continuation.advance (some cursor) = .error .invalidPage := by
  apply advance_error.mpr
  rw [h.told] at hcursor
  simpa using hcursor

theorem Poison.handle {message : ServerMessage} (hp : b.Poison message) (h : b.AtStage env) :
    (b.handle env message write).Failed := by
  cases hp with
  | @refused request _ _ hs hm =>
    have hany : (b.pending.any fun read ↦ read.requestId = request.requestId) = true :=
      List.any_eq_true.mpr ⟨request, hm, decide_eq_true rfl⟩
    simp only [Barrier.handle, hs, reconcile, hany, if_true]
    exact failed_fail
  | @page request cursor hs hm hlist hcursor =>
    rw [AtStage, hs] at h
    have hfollowed := (h.2.track _ hlist).followed ⟨request, hm, rfl⟩
    simp only [Barrier.handle, hs, reconcile]
    split
    · rename_i hnone
      exact absurd (decide_eq_true ⟨rfl, rfl⟩) (List.find?_eq_none.mp hnone request hm)
    · rename_i answered hfind
      have hanswers : answered.answeredBy request.variant request.requestId = true :=
        List.find?_some hfind
      obtain ⟨hvariant, -⟩ := of_decide_eq_true hanswers
      have hpages : env.reconciliationPages b.drawn answered (some cursor) b.continuations =
          .error (.retryable InvalidPage.invalidPage.text) := by
        unfold Establish.reconciliationPages
        split
        · rename_i hquery
          exact absurd (hvariant.symm.trans (congrArg Query.variant hquery)) hlist
        · rw [hvariant, advance_repeated hfollowed hcursor]
      rw [takePage, hpages]
      exact failed_fail
  | snapshotRefused hs =>
    simp only [Barrier.handle, hs, if_true]
    exact failed_fail
  | @snapshotPage request data cursor hs hid hnext hcursor =>
    rw [AtStage, hs] at h
    simp only [Barrier.handle, hs, hid, if_true]
    unfold takeSnapshot
    dsimp only
    rw [hnext, advance_repeated h.2.followed hcursor]
    exact failed_fail

theorem Poison.read {message : ServerMessage} (hp : b.Poison message) (h : b.Sound env heard) :
    (b.read env (.message message write)).Failed := by
  rcases h with ⟨failure, hfailed⟩ | ⟨-, hstage⟩
  · rw [read_done hfailed]
    exact ⟨failure, hfailed⟩
  · have hhandle : (b.handle env message write).Failed := hp.handle hstage
    unfold Barrier.read
    split
    · rename_i hdone
      cases hp with
      | refused hs | page hs | snapshotRefused hs | snapshotPage hs => cases hs.symm.trans hdone
    · dsimp only
      split
      · exact failed_fail
      · exact hhandle

theorem Failed.foldl {arrivals : List Arrival} (h : b.Failed) :
    (arrivals.foldl (Barrier.read env) b).Failed := by
  induction arrivals with
  | nil => exact h
  | cons arrival arrivals ih =>
    obtain ⟨failure, hfailed⟩ := h
    rw [List.foldl_cons, read_done hfailed]
    exact ih

end Barrier

namespace Transcript

def hear (transcript : Transcript) (arrival : Arrival) : Transcript :=
  { transcript with arrivals := transcript.arrivals ++ [arrival] }

def heard (transcript : Transcript) : List ServerMessage :=
  transcript.arrivals.filterMap Arrival.heard

theorem sound (transcript : Transcript) :
    transcript.barrier.Sound transcript.env transcript.heard := by
  obtain ⟨env, write, arrivals⟩ := transcript
  induction arrivals using List.reverseRecOn with
  | nil => exact Barrier.sound_start
  | append_singleton arrivals arrival ih =>
    have hread := ih.read arrival
    unfold barrier heard at *
    rw [List.foldl_append, List.filterMap_append]
    cases arrival <;> exact hread

/-- What a connection has read back when it becomes ready: each read was answered on it, each list
was read to its end, and no frame was read that readiness must not survive. -/
structure Reconciled (transcript : Transcript) : Prop where
  snapshot : transcript.env.endpoint = .quote →
    SnapshotRead transcript.barrier.snapshotAsked transcript.barrier.snapshotTold
  answered : transcript.barrier.issued.Perm (transcript.barrier.answered.map Prod.fst)
  heard : Heard transcript.heard transcript.barrier.answered transcript.barrier.snapshotTold
  started : ∀ variant ∈ transcript.env.readVariants, transcript.barrier.asked variant ≠ []
  lists : ∀ variant, variant ≠ .mmSummary → transcript.barrier.asked variant ≠ [] →
    ReadToEnd (transcript.barrier.asked variant) (transcript.barrier.told variant)
  summary : ∀ cursor, some cursor ∈ transcript.barrier.told .mmSummary → ∀ variant ∈ completion,
    ReadToEnd (transcript.barrier.asked variant) (transcript.barrier.told variant)
  live : ∀ request ∈ transcript.barrier.issued, request.query = request.variant.live
  once : ∀ variant, (transcript.barrier.asked variant).Nodup
  snapshotOnce : transcript.env.endpoint = .quote →
    (transcript.barrier.snapshotAsked.map GetSubscriptionsMessage.cursor).Nodup
  clean : ∀ before message write after,
    transcript.arrivals = before ++ .message message write :: after →
      ¬({ transcript with arrivals := before } : Transcript).barrier.Poison message

variable {transcript : Transcript}

theorem not_poison {before after : List Arrival} {message : ServerMessage} {write : Option String}
    (h : transcript.arrivals = before ++ .message message write :: after)
    (hdone : ¬transcript.barrier.Failed) :
    ¬({ transcript with arrivals := before } : Transcript).barrier.Poison message := by
  intro hp
  have hfailed : (({ transcript with arrivals := before } : Transcript).barrier.read transcript.env
      (.message message write)).Failed :=
    hp.read (sound { transcript with arrivals := before })
  apply hdone
  rw [barrier, h, List.foldl_append, List.foldl_cons]
  exact hfailed.foldl

theorem reconciled (hdone : transcript.barrier.stage = .done (.ok ())) :
    transcript.Reconciled := by
  have hnot : ¬transcript.barrier.Failed := by
    rintro ⟨_, hfailed⟩
    cases hdone.symm.trans hfailed
  obtain ⟨hheard, hstage⟩ := transcript.sound.resolve_left hnot
  rw [Barrier.AtStage, hdone] at hstage
  obtain ⟨hsnapshot, hreads, hpending⟩ := hstage
  have hidle : ∀ variant, ¬transcript.barrier.awaits variant := by
    rintro variant ⟨request, hm, -⟩
    rw [hpending] at hm
    cases hm
  have hlists : ∀ variant, variant ≠ .mmSummary → transcript.barrier.asked variant ≠ [] →
      ReadToEnd (transcript.barrier.asked variant) (transcript.barrier.told variant) :=
    fun variant hlist ↦ (hreads.track variant hlist).readToEnd (hidle variant)
  refine ⟨hsnapshot, ?_, hheard, hreads.started, hlists, fun cursor hm variant hv ↦ ?_, hreads.live,
    fun variant ↦ ?_, fun hquote ↦ ?_, fun before message write after h ↦ not_poison h hnot⟩
  · have hall := hreads.account
    rwa [hpending, List.append_nil] at hall
  · have hlist : variant ≠ .mmSummary := fun heq ↦ absurd (heq ▸ hv) (by decide)
    cases hreads.summary with
    | unasked _ _ ht => exact absurd (ht ▸ hm) List.not_mem_nil
    | waiting _ ht => exact absurd (ht ▸ hm) List.not_mem_nil
    | answered _ ht _ hnext =>
      obtain rfl := List.mem_singleton.mp (ht ▸ hm)
      exact hlists variant hlist (hnext rfl variant hv)
  · by_cases hlist : variant = .mmSummary
    · subst hlist
      cases hreads.summary with
      | unasked ha => exact ha ▸ List.nodup_nil
      | waiting ha => exact ha ▸ List.nodup_singleton _
      | answered ha => exact ha ▸ List.nodup_singleton _
    · by_cases hasked : transcript.barrier.asked variant = []
      · exact hasked ▸ List.nodup_nil
      · obtain ⟨_, _, -, hfollowed⟩ := hlists variant hlist hasked
        exact hfollowed.asked_nodup
  · obtain ⟨_, _, -, hfollowed⟩ := (hsnapshot hquote).readToEnd
    exact hfollowed.asked_nodup

end Transcript

end MakerSdk.Session
