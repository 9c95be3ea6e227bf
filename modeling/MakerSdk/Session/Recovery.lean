import MakerSdk.Session.Subscriptions

namespace MakerSdk.Session

open Solana

def SubscriptionChange.acknowledgement : SubscriptionChange → ServerMessage
  | subscribe data => .subscribeAck data.requestId
  | unsubscribe data => .unsubscribeAck data.requestId
  | addChannels data | removeChannels data => .subscriptionUpdated data.requestId
  | addMints data | removeMints data => .subscriptionUpdated data.requestId

namespace DesiredSubscriptions

def acknowledge (desired : DesiredSubscriptions) (change : SubscriptionChange) :
    DesiredSubscriptions :=
  (desired.begin change).resolve change.acknowledgement

def reached (initial : Option SubscribeData) (changes : List SubscriptionChange) :
    DesiredSubscriptions :=
  changes.foldl acknowledge (fromInitial initial)

theorem acknowledge_current (desired : DesiredSubscriptions) (change : SubscriptionChange) :
    (desired.acknowledge change).current = desired.current.apply change := by
  cases change <;> simp [acknowledge, begin, resolve, SubscriptionChange.acknowledgement,
    SubscriptionChange.requestId]

theorem apply_products (set : SubscriptionSet) (change : SubscriptionChange) :
    (set.apply change).products.isSome = true ↔
      set.products.isSome = true ∨ ∃ data, change = .subscribe data := by
  cases change <;> simp [SubscriptionSet.apply, SubscriptionSet.applySubscribe,
    SubscriptionSet.removeChannels, SubscriptionSet.addMints, SubscriptionSet.removeMints,
    SubscriptionSet.addChannels]

theorem foldl_products {desired : DesiredSubscriptions} {changes : List SubscriptionChange} :
    (changes.foldl acknowledge desired).current.products.isSome = true ↔
      desired.current.products.isSome = true ∨ ∃ data, .subscribe data ∈ changes := by
  induction changes generalizing desired with
  | nil => simp
  | cons change changes ih =>
    rw [List.foldl_cons, ih, acknowledge_current, apply_products, or_assoc]
    refine or_congr_right ?_
    rw [← exists_or]
    refine exists_congr fun data ↦ ?_
    rw [List.mem_cons, @eq_comm _ change]

theorem reached_products {initial : Option SubscribeData} {changes : List SubscriptionChange} :
    (reached initial changes).current.products.isSome = true ↔
      initial.isSome = true ∨ ∃ data, .subscribe data ∈ changes := by
  rw [reached, foldl_products]
  cases initial <;> simp [fromInitial, SubscriptionSet.empty, SubscriptionSet.applySubscribe]

end DesiredSubscriptions

structure ServerSubscriptions where
  products : Option ProductSet
  channels : Finset WsChannel
  underlyingMints : Finset Pubkey
  quoteMints : Finset Pubkey

namespace ServerSubscriptions

/-- The server reports what it holds; products are not part of the snapshot. -/
def Reports (server : ServerSubscriptions) (actual : SubscriptionsMessage) : Prop :=
  server.channels = actual.channels.toFinset ∧
    server.underlyingMints = actual.underlyingMints.toFinset ∧
      server.quoteMints = actual.quoteMints.toFinset

def unsubscribe (server : ServerSubscriptions) (data : ChannelsData) : ServerSubscriptions :=
  { server with channels := server.channels \ data.channels.toFinset }

def subscribe (server : ServerSubscriptions) (scope : SubscribeScope) : ServerSubscriptions where
  products := some scope.products
  channels := server.channels ∪ scope.channels
  underlyingMints := scope.underlyingMints
  quoteMints := scope.quoteMints

def recover (server : ServerSubscriptions) (recovery : SubscriptionRecovery) :
    ServerSubscriptions :=
  let unsubscribed := recovery.unsubscribe.elim server server.unsubscribe
  recovery.subscribe.elim unsubscribed unsubscribed.subscribe

variable {server : ServerSubscriptions} {actual : SubscriptionsMessage}
  {desired : DesiredSubscriptions} {unsubscribeId subscribeId : Uuid}

/-- The server holds what the target asks for; without a channel its scopes do not matter. -/
def Meets (server : ServerSubscriptions) (target : SubscriptionSet) : Prop :=
  server.channels = target.channels ∧ (target.channels.Nonempty →
    server.underlyingMints = target.underlyingMints ∧ server.quoteMints = target.quoteMints)

theorem unsubscribed_channels (h : server.Reports actual) :
    ((desired.recovery actual unsubscribeId subscribeId).unsubscribe.elim server
      server.unsubscribe).channels = server.channels ∩ desired.current.channels := by
  have hextra : server.channels \ (actual.channels.filter
      (· ∉ desired.current.channels)).toFinset = server.channels ∩ desired.current.channels := by
    rw [h.1]
    ext channel
    simp only [Finset.mem_sdiff, Finset.mem_inter, List.mem_toFinset, List.mem_filter]
    grind
  unfold DesiredSubscriptions.recovery
  dsimp only
  split
  · rename_i hnone
    rw [← hextra, hnone]
    simp
  · exact hextra

/-- Without products a recovery only takes channels away: it needs a server that already holds
the rest of the target. -/
theorem meets_recover_iff (h : server.Reports actual) :
    (server.recover (desired.recovery actual unsubscribeId subscribeId)).Meets desired.current ↔
      desired.current.products.isSome = true ∨ desired.current.channels = ∅ ∨
        desired.current.channels ⊆ server.channels ∧
          server.underlyingMints = desired.current.underlyingMints ∧
            server.quoteMints = desired.current.quoteMints := by
  have hchannels := @unsubscribed_channels server actual desired unsubscribeId subscribeId h
  cases hp : desired.current.products with
  | none =>
    have hsub : (desired.recovery actual unsubscribeId subscribeId).subscribe = none := by
      simp [DesiredSubscriptions.recovery, hp]
    have hmints : ((desired.recovery actual unsubscribeId subscribeId).unsubscribe.elim server
        server.unsubscribe).underlyingMints = server.underlyingMints ∧
          ((desired.recovery actual unsubscribeId subscribeId).unsubscribe.elim server
            server.unsubscribe).quoteMints = server.quoteMints := by
      cases (desired.recovery actual unsubscribeId subscribeId).unsubscribe <;> exact ⟨rfl, rfl⟩
    simp only [Meets, recover, hsub, Option.elim_none, hchannels, hmints.1, hmints.2,
      Option.isSome_none, Bool.false_eq_true, false_or, Finset.inter_eq_right,
      Finset.nonempty_iff_ne_empty]
    constructor
    · rintro ⟨hheld, hscopes⟩
      by_cases hempty : desired.current.channels = ∅
      · exact .inl hempty
      · exact .inr ⟨hheld, hscopes hempty⟩
    · rintro (hempty | ⟨hheld, hscopes⟩)
      · exact ⟨by simp [hempty], fun hne ↦ absurd hempty hne⟩
      · exact ⟨hheld, fun _ ↦ hscopes⟩
  | some products =>
    have hsub : (desired.recovery actual unsubscribeId subscribeId).subscribe =
        some ⟨products, subscribeId, desired.current.channels, desired.current.underlyingMints,
          desired.current.quoteMints⟩ := by
      simp [DesiredSubscriptions.recovery, hp]
    refine iff_of_true ⟨?_, fun _ ↦ ?_⟩ (.inl rfl)
    · simp only [recover, hsub, Option.elim_some, subscribe, hchannels]
      exact Finset.union_eq_right.mpr Finset.inter_subset_right
    · simp only [recover, hsub, Option.elim_some, subscribe, and_self]

def empty : ServerSubscriptions := ⟨none, ∅, ∅, ∅⟩

end ServerSubscriptions

open DesiredSubscriptions ServerSubscriptions

/-- A recovery brings every server to the target exactly if the target names products, that is,
if a `Subscribe` is among the changes or configured at the start, or if it has no channel. -/
theorem recovery_converges {initial : Option SubscribeData} {changes : List SubscriptionChange} :
    (∀ server actual unsubscribeId subscribeId, ServerSubscriptions.Reports server actual →
      (server.recover ((reached initial changes).recovery actual unsubscribeId subscribeId)).Meets
        (reached initial changes).current) ↔
      (initial.isSome = true ∨ ∃ data, .subscribe data ∈ changes) ∨
        (reached initial changes).current.channels = ∅ := by
  rw [← reached_products]
  constructor
  · intro h
    -- A server that holds nothing is brought to the target by a `Subscribe` only.
    have hnone : ServerSubscriptions.empty.Reports ⟨0, none, [], [], []⟩ := ⟨rfl, rfl, rfl⟩
    rcases (meets_recover_iff hnone).mp (h _ _ 0 0 hnone) with hsome | hempty | ⟨hheld, -⟩
    · exact .inl hsome
    · exact .inr hempty
    · exact .inr (Finset.subset_empty.mp hheld)
  · intro h server actual unsubscribeId subscribeId hreports
    exact (meets_recover_iff hreports).mpr (h.imp_right .inl)

theorem recovery_converges_subscribe :
    (ServerSubscriptions.empty.recover ((DesiredSubscriptions.reached none
      [.subscribe ⟨31, 1, [.rfqs], [], []⟩, .addChannels ⟨2, [.trades]⟩]).recovery
        ⟨3, none, [], [], []⟩ 4 5)).Meets ⟨some 31, {.rfqs, .trades}, ∅, ∅⟩ := by
  have h := (@recovery_converges none
    [.subscribe ⟨31, 1, [.rfqs], [], []⟩, .addChannels ⟨2, [.trades]⟩]).mpr
      (.inl (.inr ⟨_, List.mem_cons_self⟩))
  exact h .empty ⟨3, none, [], [], []⟩ 4 5 ⟨rfl, rfl, rfl⟩

/-- A channel added without any `Subscribe` is in the target, but a recovery on a new connection
asks for nothing. -/
theorem recovery_without_products :
    ServerSubscriptions.empty.Reports ⟨3, none, [], [], []⟩ ∧
      (DesiredSubscriptions.reached none [.addChannels ⟨1, [.rfqs]⟩]).current.channels = {.rfqs} ∧
      (ServerSubscriptions.empty.recover ((DesiredSubscriptions.reached none
        [.addChannels ⟨1, [.rfqs]⟩]).recovery ⟨3, none, [], [], []⟩ 4 5)).channels = ∅ := by
  refine ⟨⟨rfl, rfl, rfl⟩, ?_, ?_⟩ <;> decide

end MakerSdk.Session
