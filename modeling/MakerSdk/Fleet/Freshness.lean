import MakerSdk.Base.Checks
import MakerSdk.Base.Runs
import MakerSdk.Fleet.Session

namespace MakerSdk.Fleet

open Base.Checks Base.Refresh Base.Runs Relation

section View

variable {config : Config} {fleet fleet' : VaultFleet} {feed feed' : Feed}

def VaultFleet.viewOf (fleet : VaultFleet) (feed : Feed) : State Notice FleetListing where
  live := true
  inFlight := feed.listing.map Listing.id
  wanted := feed.wanted
  scheduled := feed.relistAt.isSome
  next := fleet.listings
  history := fleet.history

/-- A fleet as a refresher of its listing. -/
def VaultFleet.view (fleet : VaultFleet) : State Notice FleetListing :=
  match fleet.phase with
  | .connecting _ => ⟨true, none, false, false, fleet.listings, fleet.history⟩
  | .live feed => fleet.viewOf feed
  | .sleeping _ => ⟨false, none, false, false, fleet.listings, fleet.history⟩

def VaultFleet.Shows (fleet : VaultFleet) : Prop :=
  fleet.published = (shown fleet.history).getD .pending

theorem history_view : fleet.view.history = fleet.history := by
  unfold VaultFleet.view
  split <;> rfl

theorem viewOf_heard {silentAt : Session.Instant} :
    fleet.viewOf (feed.heard silentAt) = fleet.viewOf feed := by
  unfold Feed.heard
  split <;> rfl

theorem isFailed_publish {now retry : Session.Instant} {listed : Listed} :
    (publish now listed retry).2.isSome = (publish now listed retry).1.isFailed := by
  unfold publish
  split <;> rfl

theorem nextEvent_listed {now : Session.Instant} {listed : Listed}
    (h : feed.nextEvent now = some (.listed listed)) : ∃ listing, feed.listing = some listing := by
  unfold Feed.nextEvent at h
  split at h
  · cases h
  · split at h
    · rename_i hflight
      obtain ⟨listing, hlisting, -⟩ := Option.bind_eq_some_iff.mp hflight
      exact ⟨listing, hlisting⟩
    · split at h
      · cases h
      · split at h
        · cases h
        · split at h <;> cases h

theorem nextEvent_relist {now : Session.Instant} (h : feed.nextEvent now = some .relist) :
    feed.relistAt.isSome = true := by
  unfold Feed.nextEvent at h
  split at h
  · cases h
  · split at h
    · cases h
    · split at h
      · rename_i hdue
        cases hrelist : feed.relistAt with
        | none =>
          rw [hrelist] at hdue
          cases hdue
        | some instant => rfl
      · split at h
        · cases h
        · split at h <;> cases h

theorem onMessage_view {turn : Turn} {message : ServerMessage}
    (h : fleet.onMessage config feed turn message = some (.ok (fleet', feed'))) :
    fleet'.published = fleet.published ∧
      (fleet'.viewOf feed' = fleet.viewOf feed ∨ ∃ notice, fleet'.viewOf feed' =
        { fleet.viewOf feed with
          wanted := true
          history := fleet.history ++ [.noticed notice] }) := by
  have hheard : fleet.viewOf feed = fleet.viewOf (feed.heard (fleet.time + config.bound * 2)) :=
    viewOf_heard.symm
  rw [hheard]
  cases message with
  | authRequest challenge =>
    obtain ⟨valid, -, h⟩ := Option.map_eq_some_iff.mp h
    obtain ⟨_, -, h⟩ := bind_ok.mp h
    obtain ⟨_, -, h⟩ := bind_ok.mp h
    cases h
    exact ⟨rfl, .inl rfl⟩
  | authSuccess =>
    obtain ⟨_, -, h⟩ := bind_ok.mp (Option.some_inj.mp h)
    cases h
    exact ⟨rfl, .inl rfl⟩
  | subscribeAck requestId =>
    unfold VaultFleet.onMessage at h
    dsimp only at h
    split at h
    · cases h
      exact ⟨rfl, .inr ⟨.acknowledged, rfl⟩⟩
    · cases h
      exact ⟨rfl, .inl rfl⟩
  | vaultCatalogChanged =>
    cases h
    exact ⟨rfl, .inr ⟨.changed, rfl⟩⟩
  | requestError requestId error =>
    unfold VaultFleet.onMessage at h
    dsimp only at h
    split at h
    · cases h
    · cases h
      exact ⟨rfl, .inl rfl⟩
  | versionMismatch _ | authError _ => cases h
  | welcome _ | error _ | other _ =>
    cases h
    exact ⟨rfl, .inl rfl⟩

theorem onEvent_moves {turn : Turn} {event : Event} (hshows : fleet.Shows)
    (hevent : feed.nextEvent fleet.time = some event)
    (h : fleet.onEvent config feed turn event = some (.ok (fleet', feed'))) :
    fleet'.Shows ∧
      ReflTransGen (Move FleetListing.isFailed) (fleet.viewOf feed) (fleet'.viewOf feed') := by
  cases event with
  | socket message =>
    rcases message with _ | _ | message
    · cases h
    · cases h
    · obtain ⟨hpublished, hview⟩ := onMessage_view h
      rcases hview with hview | ⟨notice, hview⟩
      · have hhistory : fleet'.history = fleet.history := congrArg State.history hview
        refine ⟨?_, ?_⟩
        · rw [VaultFleet.Shows, hpublished, hhistory]
          exact hshows
        · rw [hview]
          exact .refl
      · have hhistory : fleet'.history = fleet.history ++ [.noticed notice] :=
          congrArg State.history hview
        refine ⟨?_, ?_⟩
        · rw [VaultFleet.Shows, hpublished, hhistory, shown_concat rfl]
          exact hshows
        · rw [hview]
          exact .single (.notice notice rfl)
  | listed listed =>
    obtain ⟨listing, hlisting⟩ := nextEvent_listed hevent
    cases h
    refine ⟨?_, .single ?_⟩
    · rw [VaultFleet.Shows, shown_published, Option.getD_some]
    · have hid : (fleet.viewOf feed).inFlight = some listing.id := by
        rw [VaultFleet.viewOf, hlisting, Option.map_some]
      have hmove : Move FleetListing.isFailed (fleet.viewOf feed) _ :=
        .finish listing.id (publish fleet.time listed config.retry).1 rfl hid
      rw [← isFailed_publish] at hmove
      rw [hlisting]
      exact hmove
  | relist =>
    have hrelist := nextEvent_relist hevent
    cases h
    exact ⟨hshows, .single (.retry rfl hrelist)⟩
  | probe =>
    obtain ⟨_, -, h⟩ := bind_ok.mp (Option.some_inj.mp h)
    cases h
    exact ⟨hshows, .refl⟩
  | silent => cases h

theorem resume_moves (hshows : fleet.Shows) :
    (fleet.resume config feed).Shows ∧ ReflTransGen (Move FleetListing.isFailed)
      (fleet.viewOf feed) (fleet.resume config feed).view := by
  unfold VaultFleet.resume
  split
  · rename_i hstart
    have hnone : (fleet.viewOf feed).inFlight = none := by
      rw [VaultFleet.viewOf, Option.isNone_iff_eq_none.mp hstart.2, Option.map_none]
    refine ⟨?_, .single (.start rfl hstart.1 hnone)⟩
    rw [VaultFleet.Shows, shown_concat rfl]
    exact hshows
  · exact ⟨hshows, .refl⟩

theorem follow_moves {s : State Notice FleetListing} {error : String} (hlive : s.live = true)
    (hnext : s.next = fleet.listings) (hhistory : s.history = fleet.history) :
    (fleet.follow s.inFlight error).Shows ∧ ReflTransGen (Move FleetListing.isFailed) s
      (fleet.follow s.inFlight error).view := by
  constructor
  · rw [VaultFleet.Shows, VaultFleet.follow, List.append_cons, shown_published, Option.getD_some]
  · have hmove : Move FleetListing.isFailed s _ :=
      .stop (.failed ("catalog feed: " ++ error)) hlive rfl
    rw [hnext, hhistory] at hmove
    exact .single hmove

theorem view_live (h : fleet.phase = .live feed) : fleet.view = fleet.viewOf feed := by
  rw [VaultFleet.view, h]

theorem turn_moves {turn : Turn} (hshows : fleet.Shows)
    (h : fleet.turn config feed turn = some fleet') :
    fleet'.Shows ∧ ReflTransGen (Move FleetListing.isFailed) (fleet.viewOf feed) fleet'.view := by
  obtain ⟨event, hevent, h⟩ := Option.bind_eq_some_iff.mp h
  obtain ⟨outcome, houtcome, h⟩ := Option.bind_eq_some_iff.mp h
  rcases outcome with error | ⟨next, feed'⟩
  · cases h
    exact follow_moves (s := fleet.viewOf feed) rfl rfl rfl
  · cases h
    obtain ⟨hshows, hmoves⟩ := onEvent_moves hshows hevent houtcome
    have hresumed := @resume_moves config (next.pass turn.took) feed' hshows
    exact ⟨hresumed.1, hmoves.trans hresumed.2⟩

theorem step_moves {label : Label} (hshows : fleet.Shows)
    (h : fleet.step config label = some fleet') :
    fleet'.Shows ∧ ReflTransGen (Move FleetListing.isFailed) fleet.view fleet'.view := by
  cases label with
  | opened opening =>
    dsimp only [VaultFleet.step] at h
    split at h
    · rename_i silentAt hphase
      have hview : fleet.view = ⟨true, none, false, false, fleet.listings, fleet.history⟩ := by
        rw [VaultFleet.view, hphase]
      rw [hview]
      split at h
      · cases h
        exact resume_moves hshows
      · cases h
        exact follow_moves (s := ⟨true, none, false, false, fleet.listings, fleet.history⟩)
          rfl rfl rfl
    · cases h
  | arrive message =>
    dsimp only [VaultFleet.step] at h
    split at h
    · rename_i feed hphase
      cases h
      rw [view_live hphase]
      exact ⟨hshows, .refl⟩
    · cases h
  | answer answer =>
    dsimp only [VaultFleet.step] at h
    split at h
    · rename_i feed hphase
      obtain ⟨listing, hlisting, h⟩ := Option.bind_eq_some_iff.mp h
      split at h
      · cases h
        refine ⟨hshows, ?_⟩
        rw [view_live hphase, VaultFleet.viewOf, hlisting]
        exact .refl
      · cases h
    · cases h
  | turn turn =>
    dsimp only [VaultFleet.step] at h
    split at h
    · rename_i feed hphase
      rw [view_live hphase]
      exact turn_moves hshows h
    · cases h
  | wake =>
    dsimp only [VaultFleet.step] at h
    split at h
    · rename_i wakeAt hphase
      split at h
      · cases h
        have hview : fleet.view = ⟨false, none, false, false, fleet.listings, fleet.history⟩ := by
          rw [VaultFleet.view, hphase]
        rw [hview]
        refine ⟨?_, .single (.begin rfl)⟩
        rw [VaultFleet.Shows, shown_concat rfl]
        exact hshows
      · cases h
    · cases h
  | tick =>
    cases h
    exact ⟨hshows, .refl⟩

end View

section Runs

variable {config : Config} {fleet : VaultFleet}

def Feed.isQuiescent (feed : Feed) : Bool :=
  feed.listing.isNone && !feed.wanted && feed.relistAt.isNone

structure VaultFleet.Current (fleet : VaultFleet) : Prop where
  shown : fleet.published = (shown fleet.history).getD .pending
  fresh : ∀ feed pdas, fleet.phase = .live feed → feed.isQuiescent = true →
    fleet.published = .listed pdas → Fresh fleet.history (.listed pdas)
  retried : ∀ before id reason after,
    fleet.history = before ++ .published (some id) (.failed reason) :: after →
    (∃ entry ∈ after, entry.isAnswer = true) ∨
      ∃ feed, fleet.phase = .live feed ∧ (feed.wanted = true ∨ feed.relistAt.isSome = true)
  ended : ∀ before inFlight after, fleet.history = before ++ .ended inFlight :: after →
    (∃ reason rest, after = .published none (.failed reason) :: rest) ∧
      ∀ id, inFlight = some id → ∀ listing, .published (some id) listing ∉ fleet.history

theorem run_moves {labels : List Label}
    (h : run (VaultFleet.step config) (.init config) labels = some fleet) :
    fleet.Shows ∧ Invariant FleetListing.isFailed fleet.view := by
  have hinit : (VaultFleet.init config).Shows ∧
      Invariant FleetListing.isFailed (VaultFleet.init config).view :=
    ⟨rfl, invariant_nil.begin rfl⟩
  refine run_invariant (I := fun fleet ↦ fleet.Shows ∧ Invariant FleetListing.isFailed fleet.view)
    (fun fleet label fleet' hfleet hstep ↦ ?_) hinit h
  obtain ⟨hshows, hmoves⟩ := step_moves hfleet.1 hstep
  exact ⟨hshows, hfleet.2.moves hmoves⟩

theorem exists_failed {listing : FleetListing} (h : listing.isFailed = true) :
    ∃ reason, listing = .failed reason := by
  cases listing with
  | failed reason => exact ⟨reason, rfl⟩
  | pending | listed _ => cases h

theorem VaultFleet.Shows.shown_eq (hshows : fleet.Shows) {pdas : Finset String}
    (hlisted : fleet.published = .listed pdas) : shown fleet.history = some (.listed pdas) := by
  rw [VaultFleet.Shows, hlisted] at hshows
  cases hlast : shown fleet.history with
  | none =>
    rw [hlast] at hshows
    cases hshows
  | some listing =>
    rw [hlast] at hshows
    exact congrArg some hshows.symm

theorem exists_feed (h : fleet.view.wanted = true ∨ fleet.view.scheduled = true) :
    ∃ feed, fleet.phase = .live feed ∧ (feed.wanted = true ∨ feed.relistAt.isSome = true) := by
  unfold VaultFleet.view at h
  split at h
  · rcases h with h | h <;> cases h
  · rename_i feed hphase
    exact ⟨feed, hphase, h⟩
  · rcases h with h | h <;> cases h

/-- Over every interleaving of frames, answers, failures and timers, the published listing of a
quiescent feed is of a fetch started after every notice of the session. -/
theorem fleet_current {labels : List Label}
    (h : run (VaultFleet.step config) (.init config) labels = some fleet) : fleet.Current := by
  obtain ⟨hshows, hinv⟩ := run_moves h
  refine ⟨hshows, ?_, ?_, ?_⟩
  · intro feed pdas hphase hquiescent hlisted
    rw [view_live hphase] at hinv
    simp only [Feed.isQuiescent, Bool.and_eq_true, Bool.not_eq_true', Option.isNone_iff_eq_none]
      at hquiescent
    obtain ⟨⟨hnone, hwanted⟩, -⟩ := hquiescent
    rcases (hinv.fresh _ (hshows.shown_eq hlisted) rfl).2 with hbusy | hbusy | hfresh
    · cases hwanted.symm.trans hbusy
    · simp [VaultFleet.viewOf, hnone] at hbusy
    · exact hfresh
  · intro before id reason after hsplit
    by_cases hanswer : ∃ entry ∈ after, entry.isAnswer = true
    · exact .inl hanswer
    · have howing : Owing FleetListing.isFailed fleet.view.history := by
        rw [history_view]
        refine ⟨before, id, .failed reason, after, hsplit, rfl, fun entry hmem ↦ ?_⟩
        exact Bool.eq_false_iff.mpr fun htrue ↦ hanswer ⟨entry, hmem, htrue⟩
      exact .inr (exists_feed (hinv.owed howing).2)
  · intro before inFlight after hsplit
    rw [← history_view] at hsplit
    obtain ⟨value, rest, hafter, hfailed⟩ := hinv.ends before inFlight after hsplit
    obtain ⟨reason, rfl⟩ := exists_failed hfailed
    refine ⟨⟨reason, rest, hafter⟩, ?_⟩
    rintro id rfl listing
    rw [← history_view]
    exact hinv.unpublished (by rw [hsplit]; simp) listing

end Runs

namespace Sample

def config : Config :=
  ⟨2, 1, "2", Solana.ascii "FVen3X669xLzsi6N2V91DoiyzHzg1uAgqiT8jZ9nS96Z", .standard,
    fun _ ↦ ""⟩

def done : Option (Except String Unit) := some (.ok ())

def subscribe : List Label :=
  [.opened ⟨0, done, done, some (some (.ok (.welcome "2"))), done, 7⟩,
    .arrive (some (.ok (.subscribeAck 7))), .turn ⟨0, done⟩]

/-- A change is heard of while the first listing is under way, the second listing fails, and the
third answers. -/
def labels : List Label :=
  subscribe ++
    [.arrive (some (.ok .vaultCatalogChanged)), .turn ⟨0, done⟩, .answer (.ok [⟨"old"⟩]),
      .turn ⟨0, done⟩, .answer (.error "refused"), .turn ⟨0, done⟩, .tick, .turn ⟨0, done⟩,
      .answer (.ok [⟨"new"⟩]), .turn ⟨0, done⟩]

end Sample

theorem fleet_current_relisted : ∃ fleet feed,
    run (VaultFleet.step Sample.config) (.init Sample.config) Sample.labels = some fleet ∧
    fleet.phase = .live feed ∧ feed.isQuiescent = true ∧ fleet.published = .listed {"new"} ∧
    Fresh fleet.history (.listed {"new"}) := by
  obtain ⟨fleet, feed, hrun, hphase, hquiescent, hlisted⟩ : ∃ fleet feed,
      run (VaultFleet.step Sample.config) (.init Sample.config) Sample.labels = some fleet ∧
      fleet.phase = .live feed ∧ feed.isQuiescent = true ∧ fleet.published = .listed {"new"} :=
    ⟨_, _, rfl, rfl, rfl, rfl⟩
  exact ⟨fleet, feed, hrun, hphase, hquiescent, hlisted,
    (fleet_current hrun).fresh feed _ hphase hquiescent hlisted⟩

end MakerSdk.Fleet
