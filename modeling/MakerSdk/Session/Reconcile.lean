import MakerSdk.Base.Lists
import MakerSdk.Session.Ready

namespace MakerSdk.Session

open Base Paging

def ReadVariant.live : ReadVariant → Query
  | mmSummary => .mmSummary
  | activeRfqs => .activeRfqs
  | myQuotes => .myQuotes .live
  | myActiveRfqs => .myActiveRfqs
  | makerPositions => .makerPositions livePositions
  | positions => .positions livePositions
  | myCaps => .myCaps
  | marketsForMaker => .marketsForMaker allMarkets
  | tokens => .tokens

def completion : List ReadVariant :=
  [.makerPositions, .myQuotes, .myCaps, .marketsForMaker, .tokens]

namespace Barrier

variable (b : Barrier) (variant : ReadVariant)

def asked : List Cursor :=
  (b.issued.filter fun request ↦ request.variant = variant).map ReadRequest.cursor

def told : List (Option String) :=
  (b.answered.filter fun entry ↦ entry.1.variant = variant).map Prod.snd

def awaits : Prop := ∃ request ∈ b.pending, request.variant = variant

/-- A list is untouched, or its pages are being followed, or it was read to its end. -/
inductive Track : Prop
  | idle (hasked : b.asked variant = []) (htold : b.told variant = []) (hawaits : ¬b.awaits variant)
      (hseen : b.continuations variant = .new)
  | following (hawaits : b.awaits variant)
      (h : Followed (b.asked variant) (b.told variant) (b.continuations variant).seen)
  | ended (hawaits : ¬b.awaits variant) (h : ReadToEnd (b.asked variant) (b.told variant))

end Barrier

def Establish.readVariants (env : Establish) : List ReadVariant :=
  match env.endpoint with
  | .quote => [.activeRfqs, .myQuotes]
  | .data => [.mmSummary]
  | .vault =>
    [.myActiveRfqs, .positions] ++
      if env.vault.any VaultDelegatePermissions.canMaker then [.mmSummary, .activeRfqs, .myQuotes]
      else []

def Establish.missing (env : Establish) : List ReadVariant :=
  completion.filter fun variant ↦ !(variant = .myQuotes ∧ env.endpoint ≠ .data : Bool)

inductive Barrier.Summary (env : Establish) (b : Barrier) : Prop
  | unasked (hasked : b.asked .mmSummary = []) (hawaits : ¬b.awaits .mmSummary)
      (htold : b.told .mmSummary = [])
  | waiting (hasked : b.asked .mmSummary = [.start]) (htold : b.told .mmSummary = [])
      (hidle : ∀ variant ∈ env.missing, b.asked variant = [])
      (hquotes : env.endpoint ≠ .data → b.asked .myQuotes ≠ [])
  | answered {nextCursor : Option String} (hasked : b.asked .mmSummary = [.start])
      (htold : b.told .mmSummary = [nextCursor]) (hawaits : ¬b.awaits .mmSummary)
      (hnext : nextCursor.isSome = true → ∀ variant ∈ completion, b.asked variant ≠ [])

structure Barrier.Reads (env : Establish) (b : Barrier) : Prop where
  nodup : (b.pending.map ReadRequest.variant).Nodup
  track : ∀ variant, variant ≠ .mmSummary → b.Track variant
  summary : b.Summary env
  account : b.issued.Perm (b.answered.map Prod.fst ++ b.pending)
  live : ∀ request ∈ b.issued, request.query = request.variant.live
  started : ∀ variant ∈ env.readVariants, b.asked variant ≠ []

structure FirstPages (reads : List ReadRequest) : Prop where
  nodup : (reads.map ReadRequest.variant).Nodup
  cursor : ∀ request ∈ reads, request.cursor = .start
  live : ∀ request ∈ reads, request.query = request.variant.live

section Pages

variable {reads : List ReadRequest} {variant : ReadVariant} {env : Establish} {drawn : ℕ}

theorem FirstPages.asked (h : FirstPages reads) (hv : variant ∈ reads.map ReadRequest.variant) :
    (reads.filter fun request ↦ request.variant = variant).map ReadRequest.cursor = [.start] := by
  obtain ⟨request, hm, rfl⟩ := List.mem_map.mp hv
  rw [Lists.filter_eq_singleton h.nodup hm, List.map_singleton, h.cursor request hm]

theorem filter_variant_nil (hv : variant ∉ reads.map ReadRequest.variant) :
    (reads.filter fun request ↦ request.variant = variant) = [] := by
  rw [List.filter_eq_nil_iff]
  intro request hm heq
  exact hv (of_decide_eq_true heq ▸ List.mem_map_of_mem hm)

theorem live_variant : variant.live.variant = variant := by
  cases variant <;> rfl

theorem FirstPages.of_first (hnodup : (reads.map ReadRequest.variant).Nodup)
    (h : ∀ request ∈ reads, ∃ variant id, request = .first (ReadVariant.live variant) id) :
    FirstPages reads := by
  refine ⟨hnodup, fun request hm ↦ ?_, fun request hm ↦ ?_⟩
  · obtain ⟨variant, id, rfl⟩ := h request hm
    rfl
  · obtain ⟨variant, id, rfl⟩ := h request hm
    exact congrArg ReadVariant.live live_variant.symm

theorem reads_variants : (env.reads drawn).map ReadRequest.variant = env.readVariants := by
  unfold Establish.reads Establish.readVariants
  cases env.endpoint with
  | quote | data => rfl
  | vault =>
    dsimp only
    split <;> rfl

theorem readVariants_nodup : env.readVariants.Nodup := by
  unfold Establish.readVariants
  split
  · decide
  · decide
  · split <;> decide

theorem summary_readVariants (h : .mmSummary ∈ env.readVariants) :
    (∀ variant ∈ env.missing, variant ∉ env.readVariants) ∧
      (env.endpoint ≠ .data → .myQuotes ∈ env.readVariants) := by
  revert h
  unfold Establish.readVariants Establish.missing
  cases env.endpoint with
  | quote =>
    dsimp only
    exact fun h ↦ absurd h (by decide)
  | data =>
    dsimp only
    exact fun _ ↦ by decide
  | vault =>
    dsimp only
    split
    · exact fun _ ↦ by decide
    · exact fun h ↦ absurd h (by decide)

theorem firstPages_reads : FirstPages (env.reads drawn) := by
  refine .of_first (reads_variants ▸ readVariants_nodup) ?_
  have hquotes : ∀ n, ∀ request ∈ env.quoteReads n, ∃ variant id,
      request = .first (ReadVariant.live variant) id :=
    fun n ↦ List.forall_mem_cons.mpr ⟨⟨.activeRfqs, _, rfl⟩,
      List.forall_mem_singleton.mpr ⟨.myQuotes, _, rfl⟩⟩
  unfold Establish.reads
  split
  · exact hquotes drawn
  · exact List.forall_mem_singleton.mpr ⟨.mmSummary, _, rfl⟩
  · refine List.forall_mem_append.mpr ⟨List.forall_mem_cons.mpr ⟨⟨.myActiveRfqs, _, rfl⟩,
      List.forall_mem_singleton.mpr ⟨.positions, _, rfl⟩⟩, ?_⟩
    split
    · exact List.forall_mem_cons.mpr ⟨⟨.mmSummary, _, rfl⟩, hquotes _⟩
    · exact fun _ h ↦ by cases h

theorem firstPages_summaryReads : FirstPages (env.summaryReads drawn) := by
  refine .of_first (show completion.Nodup by decide) ?_
  simp only [Establish.summaryReads, List.forall_mem_cons]
  exact ⟨⟨.makerPositions, _, rfl⟩, ⟨.myQuotes, _, rfl⟩, ⟨.myCaps, _, rfl⟩,
    ⟨.marketsForMaker, _, rfl⟩, ⟨.tokens, _, rfl⟩, fun _ h ↦ by cases h⟩

theorem FirstPages.filter {p : ReadRequest → Bool} (h : FirstPages reads) :
    FirstPages (reads.filter p) :=
  ⟨h.nodup.sublist (List.filter_sublist.map _), fun request hm ↦
    h.cursor request (List.mem_of_mem_filter hm), fun request hm ↦
    h.live request (List.mem_of_mem_filter hm)⟩

end Pages

namespace Barrier

variable {env : Establish} {b b' : Barrier} {variant : ReadVariant} {request : ReadRequest}
  {rest next : List ReadRequest} {nextCursor : Option String}
  {continuations : ReadVariant → Continuation} {drawn : ℕ}

theorem Track.frame (h : b.Track variant) (hasked : b'.asked variant = b.asked variant)
    (htold : b'.told variant = b.told variant) (hawaits : b'.awaits variant ↔ b.awaits variant)
    (hseen : b'.continuations variant = b.continuations variant) : b'.Track variant := by
  cases h with
  | idle ha ht hw hs =>
    exact .idle (hasked.trans ha) (htold.trans ht) (mt hawaits.mp hw) (hseen.trans hs)
  | following hw h => exact .following (hawaits.mpr hw) (by rwa [hasked, htold, hseen])
  | ended hw h => exact .ended (mt hawaits.mp hw) (by rwa [hasked, htold])

theorem Track.followed (h : b.Track variant) (hawaits : b.awaits variant) :
    Followed (b.asked variant) (b.told variant) (b.continuations variant).seen := by
  cases h with
  | idle _ _ hw => exact absurd hawaits hw
  | following _ h => exact h
  | ended hw => exact absurd hawaits hw

theorem Track.idle_of_asked (h : b.Track variant) (hasked : b.asked variant = []) :
    b.told variant = [] ∧ ¬b.awaits variant ∧ b.continuations variant = .new := by
  cases h with
  | idle _ ht hw hs => exact ⟨ht, hw, hs⟩
  | following _ h =>
    rw [h.asked] at hasked
    cases hasked
  | ended _ h =>
    obtain ⟨_, _, -, h⟩ := h
    rw [h.asked] at hasked
    cases hasked

theorem Track.readToEnd (h : b.Track variant) (hawaits : ¬b.awaits variant)
    (hasked : b.asked variant ≠ []) : ReadToEnd (b.asked variant) (b.told variant) := by
  cases h with
  | idle ha => exact absurd ha hasked
  | following hw => exact absurd hw hawaits
  | ended _ h => exact h

theorem asked_taken : (b.taken request rest next nextCursor continuations drawn).asked variant =
    b.asked variant ++
      (next.filter fun request ↦ request.variant = variant).map ReadRequest.cursor := by
  rw [asked, taken, List.filter_append, List.map_append]
  rfl

theorem asked_taken_other (h : variant ∉ next.map ReadRequest.variant) :
    (b.taken request rest next nextCursor continuations drawn).asked variant = b.asked variant := by
  rw [asked_taken, filter_variant_nil h, List.map_nil, List.append_nil]

theorem asked_taken_ne_nil (h : b.asked variant ≠ []) :
    (b.taken request rest next nextCursor continuations drawn).asked variant ≠ [] := by
  rw [asked_taken]
  exact List.append_ne_nil_of_left_ne_nil h _

theorem told_taken_self :
    (b.taken request rest next nextCursor continuations drawn).told request.variant =
      b.told request.variant ++ [nextCursor] := by
  rw [told, taken, List.filter_append, List.map_append, List.filter_cons_of_pos (by simp)]
  rfl

theorem told_taken_other (h : variant ≠ request.variant) :
    (b.taken request rest next nextCursor continuations drawn).told variant = b.told variant := by
  have hnone : [(request, nextCursor)].filter (fun entry ↦ entry.1.variant = variant) = [] := by
    rw [List.filter_cons_of_neg (by simpa using h.symm), List.filter_nil]
  rw [told, taken, List.filter_append, hnone, List.append_nil]
  rfl

theorem awaits_taken (hnodup : (b.pending.map ReadRequest.variant).Nodup)
    (hperm : b.pending.Perm (request :: rest)) :
    (b.taken request rest next nextCursor continuations drawn).awaits variant ↔
      b.awaits variant ∧ variant ≠ request.variant ∨ variant ∈ next.map ReadRequest.variant := by
  have hfresh : request.variant ∉ rest.map ReadRequest.variant :=
    (List.nodup_cons.mp ((hperm.map _).nodup_iff.mp hnodup)).1
  constructor
  · rintro ⟨r, hr, rfl⟩
    rcases List.mem_append.mp hr with hr | hr
    · refine .inl ⟨⟨r, hperm.mem_iff.mpr (List.mem_cons_of_mem _ hr), rfl⟩, fun heq ↦ ?_⟩
      exact hfresh (heq ▸ List.mem_map_of_mem hr)
    · exact .inr (List.mem_map_of_mem hr)
  · rintro (⟨⟨r, hr, rfl⟩, hne⟩ | hnext)
    · rcases List.mem_cons.mp (hperm.mem_iff.mp hr) with rfl | hr
      · exact absurd rfl hne
      · exact ⟨r, List.mem_append_left _ hr, rfl⟩
    · obtain ⟨r, hr, rfl⟩ := List.mem_map.mp hnext
      exact ⟨r, List.mem_append_right _ hr, rfl⟩

theorem awaits_taken_other (hnodup : (b.pending.map ReadRequest.variant).Nodup)
    (hperm : b.pending.Perm (request :: rest)) (hne : variant ≠ request.variant)
    (h : variant ∉ next.map ReadRequest.variant) :
    (b.taken request rest next nextCursor continuations drawn).awaits variant ↔
      b.awaits variant := by
  rw [awaits_taken hnodup hperm]
  exact ⟨fun hw ↦ (hw.resolve_right h).1, fun hw ↦ .inl ⟨hw, hne⟩⟩

theorem Reads.start (hpending : b.pending = env.reads drawn) (hissued : b.issued = env.reads drawn)
    (hanswered : b.answered = []) (hseen : b.continuations = fun _ ↦ .new) : b.Reads env := by
  have hfirst : FirstPages (env.reads drawn) := firstPages_reads
  have hreads : (env.reads drawn).map ReadRequest.variant = env.readVariants := reads_variants
  have htold : ∀ variant, b.told variant = [] := fun variant ↦ by rw [told, hanswered]; rfl
  have hasked : ∀ variant ∈ env.readVariants, b.asked variant = [.start] := by
    intro variant hv
    rw [asked, hissued, hfirst.asked (hreads ▸ hv)]
  have hunasked : ∀ variant ∉ env.readVariants, b.asked variant = [] := by
    intro variant hv
    rw [asked, hissued, filter_variant_nil (hreads ▸ hv)]
    rfl
  have hawaits : ∀ variant, b.awaits variant ↔ variant ∈ env.readVariants := by
    intro variant
    rw [awaits, hpending, ← hreads, List.mem_map]
  refine ⟨?_, fun variant hv ↦ ?_, ?_, ?_, ?_, fun variant hv ↦ ?_⟩
  · rw [hpending]
    exact hfirst.nodup
  · by_cases hm : variant ∈ env.readVariants
    · refine .following ((hawaits variant).mpr hm) ?_
      rw [hasked variant hm, htold, hseen]
      exact followed_start
    · exact .idle (hunasked variant hm) (htold variant) (mt (hawaits variant).mp hm) (by rw [hseen])
  · by_cases hm : .mmSummary ∈ env.readVariants
    · have hothers := summary_readVariants hm
      refine .waiting (hasked _ hm) (htold _)
        (fun variant hv ↦ hunasked variant (hothers.1 variant hv)) fun hdata ↦ ?_
      rw [hasked _ (hothers.2 hdata)]
      exact List.cons_ne_nil _ _
    · exact .unasked (hunasked _ hm) (mt (hawaits _).mp hm) (htold _)
  · rw [hissued, hanswered, hpending]
    rfl
  · rw [hissued]
    exact hfirst.live
  · rw [hasked variant hv]
    exact List.cons_ne_nil _ _

theorem Reads.answered_mem (h : b.Reads env) (hperm : b.pending.Perm (request :: rest)) :
    request ∈ b.pending ∧ request ∈ b.issued := by
  have hm : request ∈ b.pending := hperm.mem_iff.mpr List.mem_cons_self
  exact ⟨hm, h.account.mem_iff.mpr (List.mem_append_right _ hm)⟩

theorem Reads.taken (h : b.Reads env) (hperm : b.pending.Perm (request :: rest))
    (hnodup : (next.map ReadRequest.variant).Nodup)
    (hfresh : ∀ variant ∈ next.map ReadRequest.variant,
      b.awaits variant → variant = request.variant)
    (hlive : ∀ page ∈ next, page.query = page.variant.live)
    (htrack : ∀ variant, variant ≠ .mmSummary →
      (b.taken request rest next nextCursor continuations drawn).Track variant)
    (hsummary : (b.taken request rest next nextCursor continuations drawn).Summary env) :
    (b.taken request rest next nextCursor continuations drawn).Reads env := by
  have hvariants := List.nodup_cons.mp ((hperm.map ReadRequest.variant).nodup_iff.mp h.nodup)
  refine ⟨?_, htrack, hsummary, ?_, ?_, fun variant hv ↦ ?_⟩
  · refine List.map_append ▸ hvariants.2.append hnodup fun variant hr hn ↦ hvariants.1 ?_
    obtain ⟨page, hp, rfl⟩ := List.mem_map.mp hr
    rwa [← hfresh _ hn ⟨page, hperm.mem_iff.mpr (List.mem_cons_of_mem _ hp), rfl⟩]
  · have hissued : (b.issued ++ next).Perm ((b.answered.map Prod.fst ++ request :: rest) ++ next) :=
      (h.account.trans (hperm.append_left _)).append_right next
    simpa [Barrier.taken] using hissued
  · exact List.forall_mem_append.mpr ⟨h.live, hlive⟩
  · exact asked_taken_ne_nil (h.started variant hv)

theorem Reads.takeSummary (h : b.Reads env) (hperm : b.pending.Perm (request :: rest))
    (hsummary : request.variant = .mmSummary) (hnext : FirstPages next)
    (hvariants : next.map ReadRequest.variant = if nextCursor.isSome then env.missing else []) :
    (b.taken request rest next nextCursor b.continuations drawn).Reads env := by
  -- The summary is awaited, so nothing that it may leave out has been asked for yet.
  have hawaits : b.awaits .mmSummary := ⟨request, (h.answered_mem hperm).1, hsummary⟩
  obtain ⟨hasked, htold, hidle, hquotes⟩ : b.asked .mmSummary = [.start] ∧
      b.told .mmSummary = [] ∧ (∀ variant ∈ env.missing, b.asked variant = []) ∧
      (env.endpoint ≠ .data → b.asked .myQuotes ≠ []) := by
    cases h.summary with
    | unasked _ hw => exact absurd hawaits hw
    | waiting ha ht hi hq => exact ⟨ha, ht, hi, hq⟩
    | answered _ _ hw => exact absurd hawaits hw
  have hmissing : ∀ variant ∈ next.map ReadRequest.variant, variant ∈ env.missing := by
    intro variant hv
    rw [hvariants] at hv
    split at hv
    · exact hv
    · cases hv
  have hlist : ∀ variant ∈ next.map ReadRequest.variant, variant ≠ .mmSummary := by
    rintro variant hv rfl
    exact absurd (List.mem_of_mem_filter (hmissing _ hv)) (by decide)
  have hstarted : ∀ variant ∈ next.map ReadRequest.variant, b.asked variant = [] ∧
      b.told variant = [] ∧ ¬b.awaits variant ∧ b.continuations variant = .new := by
    intro variant hv
    have hnone := hidle variant (hmissing variant hv)
    exact ⟨hnone, (h.track variant (hlist variant hv)).idle_of_asked hnone⟩
  refine h.taken hperm hnext.nodup (fun variant hv hw ↦ absurd hw (hstarted variant hv).2.2.1)
    hnext.live (fun variant hv ↦ ?_) ?_
  · by_cases hm : variant ∈ next.map ReadRequest.variant
    · obtain ⟨ha, ht, -, hs⟩ := hstarted variant hm
      refine .following ((awaits_taken h.nodup hperm).mpr (.inr hm)) ?_
      rw [asked_taken, told_taken_other (hsummary ▸ hv), hnext.asked hm, ha, ht]
      exact (congrArg (Followed _ _) (congrArg Continuation.seen hs)).mpr followed_start
    · exact (h.track variant hv).frame (asked_taken_other hm) (told_taken_other (hsummary ▸ hv))
        (awaits_taken_other h.nodup hperm (hsummary ▸ hv) hm) rfl
  · have hnot : .mmSummary ∉ next.map ReadRequest.variant := fun hm ↦ hlist _ hm rfl
    refine .answered ?_ (show _ = [nextCursor] from ?_) ?_ fun hsome variant hv ↦ ?_
    · exact (asked_taken_other hnot).trans hasked
    · rw [← hsummary, told_taken_self, hsummary, htold]
      rfl
    · rw [awaits_taken h.nodup hperm]
      exact not_or.mpr ⟨fun hw ↦ hw.2 hsummary.symm, hnot⟩
    · by_cases hskip : variant = .myQuotes ∧ env.endpoint ≠ .data
      · exact asked_taken_ne_nil (hskip.1 ▸ hquotes hskip.2)
      · have hm : variant ∈ next.map ReadRequest.variant := by
          rw [hvariants, if_pos hsome]
          exact List.mem_filter.mpr ⟨hv, by simp only [hskip, decide_false, Bool.not_false]⟩
        rw [asked_taken, hnext.asked hm]
        exact List.append_ne_nil_of_right_ne_nil _ (List.cons_ne_nil _ _)

theorem Reads.takeList {cursor : Option Cursor} {continuation : Continuation} {id : Uuid}
    (h : b.Reads env) (hperm : b.pending.Perm (request :: rest))
    (hlist : request.variant ≠ .mmSummary)
    (hadvance : (b.continuations request.variant).advance nextCursor = .ok (cursor, continuation))
    (hnext : next = (cursor.map fun cursor ↦ { request with requestId := id, cursor }).toList) :
    (b.taken request rest next nextCursor
      (Function.update b.continuations request.variant continuation) drawn).Reads env := by
  obtain ⟨hpending, hissued⟩ := h.answered_mem hperm
  have hfollowed := (h.track _ hlist).followed ⟨request, hpending, rfl⟩
  have hsame : ∀ page ∈ next, page.query = request.query := by
    intro page hp
    rw [hnext, Option.mem_toList, Option.map_eq_some_iff] at hp
    obtain ⟨_, -, rfl⟩ := hp
    rfl
  have honly : ∀ variant ∈ next.map ReadRequest.variant, variant = request.variant := by
    intro variant hv
    obtain ⟨page, hp, rfl⟩ := List.mem_map.mp hv
    exact congrArg Query.variant (hsame page hp)
  have hother : ∀ variant, variant ≠ request.variant → variant ∉ next.map ReadRequest.variant :=
    fun variant ↦ mt (honly variant)
  refine h.taken hperm ?_ (fun variant hv _ ↦ honly variant hv) ?_ (fun variant hv ↦ ?_) ?_
  · rw [hnext]
    cases cursor with
    | none => exact List.nodup_nil
    | some _ => exact List.nodup_singleton _
  · intro page hp
    have hvariant : page.variant = request.variant := congrArg Query.variant (hsame page hp)
    rw [hsame page hp, hvariant]
    exact h.live request hissued
  · by_cases hself : variant = request.variant
    · subst hself
      cases nextCursor with
      | none =>
        cases hadvance
        subst hnext
        refine .ended ?_ ?_
        · rw [awaits_taken h.nodup hperm]
          exact not_or.mpr ⟨fun hw ↦ hw.2 rfl, List.not_mem_nil⟩
        · rw [asked_taken_other List.not_mem_nil, told_taken_self]
          exact hfollowed.readToEnd
      | some told =>
        obtain ⟨-, rfl, -⟩ := advance_ok.mp hadvance
        subst hnext
        refine .following ?_ ?_
        · rw [awaits_taken h.nodup hperm]
          exact .inr List.mem_cons_self
        · rw [asked_taken, told_taken_self, Option.map_some, Option.toList_some,
            List.filter_cons_of_pos (by exact decide_eq_true rfl)]
          exact (congrArg (Followed _ _) (congrArg Continuation.seen
            (Function.update_self ..))).mpr (hfollowed.advance hadvance)
    · exact (h.track variant hv).frame (asked_taken_other (hother variant hself))
        (told_taken_other hself) (awaits_taken_other h.nodup hperm hself (hother variant hself))
        (Function.update_of_ne hself _ _)
  · have hne := hlist.symm
    cases h.summary with
    | unasked ha hw ht =>
      exact .unasked ((asked_taken_other (hother _ hne)).trans ha)
        (mt (awaits_taken_other h.nodup hperm hne (hother _ hne)).mp hw)
        ((told_taken_other hne).trans ht)
    | waiting ha ht hidle hquotes =>
      refine .waiting ((asked_taken_other (hother _ hne)).trans ha)
        ((told_taken_other hne).trans ht) (fun variant hv ↦ ?_)
        fun hdata ↦ asked_taken_ne_nil (hquotes hdata)
      -- The list whose page was answered had been asked for, so it is none of those left out.
      have hdifferent : variant ≠ request.variant := by
        rintro rfl
        have hnone := hidle _ hv
        rw [hfollowed.asked] at hnone
        cases hnone
      exact (asked_taken_other (hother _ hdifferent)).trans (hidle variant hv)
    | answered ha ht hw hnextCursor =>
      exact .answered ((asked_taken_other (hother _ hne)).trans ha)
        ((told_taken_other hne).trans ht)
        (mt (awaits_taken_other h.nodup hperm hne (hother _ hne)).mp hw)
        fun hsome variant hv ↦ asked_taken_ne_nil (hnextCursor hsome variant hv)

end Barrier

end MakerSdk.Session
