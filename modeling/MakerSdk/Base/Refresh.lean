import Mathlib.Data.List.Induction
import Mathlib.Logic.Relation
import Mathlib.Tactic.Common

namespace MakerSdk.Base.Refresh

variable {ν ρ : Type}

/-- What happens to a refresher: a session begins or ends, with the fetch it leaves, a notice says
that the value has changed, a fetch is started, and a value is published, of a fetch or of none. -/
inductive Entry (ν ρ : Type) where
  | began
  | noticed (notice : ν)
  | started (id : ℕ)
  | published (id : Option ℕ) (value : ρ)
  | ended (inFlight : Option ℕ)

namespace Entry

def isBoundary : Entry ν ρ → Bool
  | began | ended _ => true
  | _ => false

def isNotice : Entry ν ρ → Bool
  | noticed _ => true
  | _ => false

def isAnswer : Entry ν ρ → Bool
  | started _ | ended _ => true
  | _ => false

def value : Entry ν ρ → Option ρ
  | published _ value => some value
  | _ => none

def settles : Entry ν ρ → Option ℕ
  | published id _ => id
  | ended inFlight => inFlight
  | _ => none

end Entry

/-- A refresher fetches one value at a time; `wanted` asks for another fetch once that is over. -/
structure State (ν ρ : Type) where
  live : Bool
  inFlight : Option ℕ
  wanted : Bool
  scheduled : Bool
  next : ℕ
  history : List (Entry ν ρ)

inductive Move (failed : ρ → Bool) : State ν ρ → State ν ρ → Prop
  | begin {s : State ν ρ} (hlive : s.live = false) :
    Move failed s ⟨true, none, false, false, s.next, s.history ++ [.began]⟩
  | notice {s : State ν ρ} (notice : ν) (hlive : s.live = true) :
    Move failed s { s with wanted := true, history := s.history ++ [.noticed notice] }
  | retry {s : State ν ρ} (hlive : s.live = true) (h : s.scheduled = true) :
    Move failed s { s with wanted := true }
  | start {s : State ν ρ} (hlive : s.live = true) (hwanted : s.wanted = true)
    (hnone : s.inFlight = none) :
    Move failed s ⟨true, some s.next, false, false, s.next + 1, s.history ++ [.started s.next]⟩
  | finish {s : State ν ρ} (id : ℕ) (value : ρ) (hlive : s.live = true)
    (hid : s.inFlight = some id) :
    Move failed s { s with
      inFlight := none
      scheduled := failed value
      history := s.history ++ [.published (some id) value] }
  | stop {s : State ν ρ} (value : ρ) (hlive : s.live = true) (hvalue : failed value = true) :
    Move failed s ⟨false, none, false, false, s.next,
      s.history ++ [.ended s.inFlight, .published none value]⟩

def shown (history : List (Entry ν ρ)) : Option ρ := (history.filterMap Entry.value).getLast?

def settled (history : List (Entry ν ρ)) : List ℕ := history.filterMap Entry.settles

/-- A fetch was started and every later entry is admitted by `P`. -/
def Since (history : List (Entry ν ρ)) (id : ℕ) (P : Entry ν ρ → Prop) : Prop :=
  ∃ before since, history = before ++ .started id :: since ∧ ∀ entry ∈ since, P entry

/-- The value last published is that of a fetch with neither a notice nor an end of the session
after its start. -/
def Fresh (history : List (Entry ν ρ)) (value : ρ) : Prop :=
  ∃ id before between after,
    history = before ++ .started id :: between ++ .published (some id) value :: after ∧
    (∀ entry ∈ between ++ after, entry.isBoundary = false ∧ entry.isNotice = false) ∧
    ∀ entry ∈ after, entry.value = none

def Owing (failed : ρ → Bool) (history : List (Entry ν ρ)) : Prop :=
  ∃ before id value after, history = before ++ .published (some id) value :: after ∧
    failed value = true ∧ ∀ entry ∈ after, entry.isAnswer = false

def Ends (failed : ρ → Bool) (history : List (Entry ν ρ)) : Prop :=
  ∀ before inFlight after, history = before ++ .ended inFlight :: after →
    ∃ value rest, after = .published none value :: rest ∧ failed value = true

section Histories

variable {failed : ρ → Bool} {history : List (Entry ν ρ)} {entry : Entry ν ρ} {id : ℕ} {v : ρ}
  {P Q : Entry ν ρ → Prop}

theorem shown_published {id : Option ℕ} : shown (history ++ [.published id v]) = some v := by
  simp [shown, Entry.value]

theorem shown_concat (h : entry.value = none) : shown (history ++ [entry]) = shown history := by
  simp [shown, h]

theorem settled_concat :
    settled (history ++ [entry]) = settled history ++ entry.settles.toList := by
  cases h : entry.settles <;> simp [settled, h]

theorem Since.mono (h : Since history id P) (himp : ∀ entry, P entry → Q entry) :
    Since history id Q := by
  obtain ⟨before, since, hhistory, hsince⟩ := h
  exact ⟨before, since, hhistory, fun entry hmem ↦ himp entry (hsince entry hmem)⟩

theorem Since.concat (h : Since history id P) (hentry : P entry) :
    Since (history ++ [entry]) id P := by
  obtain ⟨before, since, rfl, hsince⟩ := h
  refine ⟨before, since ++ [entry], by simp, fun other hmem ↦ ?_⟩
  rcases List.mem_append.mp hmem with hmem | hmem
  · exact hsince other hmem
  · rw [List.mem_singleton.mp hmem]
    exact hentry

theorem since_started : Since (history ++ [.started id]) id P :=
  ⟨history, [], rfl, fun _ hmem ↦ by cases hmem⟩

theorem Since.fresh (h : Since history id fun entry ↦
    entry.isBoundary = false ∧ entry.isNotice = false) :
    Fresh (history ++ [.published (some id) v]) v := by
  obtain ⟨before, since, rfl, hsince⟩ := h
  refine ⟨id, before, since, [], by simp, ?_, fun _ hmem ↦ by cases hmem⟩
  simpa using hsince

theorem owing_concat (h : Owing failed (history ++ [entry])) :
    (∃ id v, entry = .published (some id) v ∧ failed v = true) ∨
      Owing failed history ∧ entry.isAnswer = false := by
  obtain ⟨before, id, v, after, hhistory, hv, hafter⟩ := h
  rcases List.eq_nil_or_concat after with rfl | ⟨after, last, rfl⟩
  · obtain ⟨-, hentry⟩ := List.append_inj' hhistory rfl
    exact .inl ⟨id, v, List.singleton_inj.mp hentry, hv⟩
  · rw [List.concat_eq_append] at hhistory hafter
    rw [← List.cons_append, ← List.append_assoc] at hhistory
    obtain ⟨rfl, hentry⟩ := List.append_inj' hhistory rfl
    cases hentry
    exact .inr ⟨⟨before, id, v, after, rfl, hv, fun other hmem ↦ hafter other (by simp [hmem])⟩,
      hafter entry (by simp)⟩

theorem Ends.append {more : List (Entry ν ρ)} (h : Ends failed history) (hmore : Ends failed more) :
    Ends failed (history ++ more) := by
  intro before inFlight after hsplit
  rcases List.append_eq_append_iff.mp hsplit with ⟨front, rfl, hrest⟩ | ⟨front, rfl, hrest⟩
  · exact hmore front inFlight after hrest
  · cases front with
    | nil => exact hmore [] inFlight after hrest.symm
    | cons first front =>
      cases hrest
      obtain ⟨value, rest, rfl, hvalue⟩ := h before inFlight front rfl
      exact ⟨value, rest ++ more, rfl, hvalue⟩

theorem ends_singleton (h : entry.isBoundary = false ∨ entry = .began) : Ends failed [entry] := by
  intro before inFlight after hsplit
  rcases List.append_eq_cons_iff.mp hsplit.symm with ⟨rfl, hrest⟩ | ⟨front, rfl, hrest⟩
  · cases hrest
    rcases h with h | h <;> cases h
  · simp at hrest

theorem ends_stop {inFlight : Option ℕ} (h : failed v = true) :
    Ends failed ([.ended inFlight, .published none v] : List (Entry ν ρ)) := by
  intro before other after hsplit
  rcases List.append_eq_cons_iff.mp hsplit.symm with ⟨rfl, hrest⟩ | ⟨front, rfl, hrest⟩
  · cases hrest
    exact ⟨v, [], rfl, h⟩
  · exact ends_singleton (.inl rfl) front other after hrest

end Histories

structure Invariant (failed : ρ → Bool) (s : State ν ρ) : Prop where
  single : ∀ id, s.inFlight = some id →
    s.scheduled = false ∧ id < s.next ∧ id ∉ settled s.history
  since : ∀ id, s.inFlight = some id → Since s.history id fun entry ↦
    entry.isBoundary = false ∧ (s.wanted = false → entry.isNotice = false)
  bounded : ∀ id ∈ settled s.history, id < s.next
  nodup : (settled s.history).Nodup
  fresh : ∀ v, shown s.history = some v → failed v = false → s.live = true ∧
    (s.wanted = true ∨ s.inFlight.isSome = true ∨ Fresh s.history v)
  owed : Owing failed s.history → s.live = true ∧ (s.wanted = true ∨ s.scheduled = true)
  ends : Ends failed s.history

theorem invariant_nil {failed : ρ → Bool} :
    Invariant failed (⟨false, none, false, false, 0, []⟩ : State ν ρ) where
  single _ hid := by cases hid
  since _ hid := by cases hid
  bounded _ hmem := by cases hmem
  nodup := List.nodup_nil
  fresh _ hv := by cases hv
  owed howing := by
    obtain ⟨before, _, _, _, hnil, -⟩ := howing
    simp at hnil
  ends _ _ _ hsplit := by simp at hsplit

namespace Invariant

variable {failed : ρ → Bool} {s t : State ν ρ}

theorem settle (h : Invariant failed s) : (settled s.history ++ s.inFlight.toList).Nodup ∧
    ∀ id ∈ settled s.history ++ s.inFlight.toList, id < s.next := by
  cases hid : s.inFlight with
  | none => simpa using ⟨h.nodup, h.bounded⟩
  | some id =>
    obtain ⟨-, hlt, hnot⟩ := h.single id hid
    refine ⟨List.nodup_append.mpr ⟨h.nodup, by simp, ?_⟩, fun other hmem ↦ ?_⟩
    · intro other hmem same hsame
      rw [List.mem_singleton.mp hsame]
      rintro rfl
      exact hnot hmem
    · rcases List.mem_append.mp hmem with hmem | hmem
      · exact h.bounded other hmem
      · rw [List.mem_singleton.mp hmem]
        exact hlt

theorem begin (h : Invariant failed s) (hlive : s.live = false) :
    Invariant failed ⟨true, none, false, false, s.next, s.history ++ [.began]⟩ where
  single _ hid := by cases hid
  since _ hid := by cases hid
  bounded := by simpa [settled_concat, Entry.settles] using h.bounded
  nodup := by simpa [settled_concat, Entry.settles] using h.nodup
  fresh v hv hgood := by
    rw [shown_concat rfl] at hv
    have := (h.fresh v hv hgood).1
    rw [hlive] at this
    cases this
  owed howing := by
    rcases owing_concat howing with ⟨_, _, hentry, -⟩ | ⟨howing, -⟩
    · cases hentry
    · have := (h.owed howing).1
      rw [hlive] at this
      cases this
  ends := h.ends.append (ends_singleton (.inr rfl))

theorem notice (h : Invariant failed s) (notice : ν) (hlive : s.live = true) :
    Invariant failed { s with wanted := true, history := s.history ++ [.noticed notice] } where
  single id hid := by simpa [settled_concat, Entry.settles] using h.single id hid
  since id hid := by
    have hsince := (h.since id hid).mono fun _ hentry ↦ hentry.1
    exact (hsince.concat rfl).mono fun entry hentry ↦ ⟨hentry, fun hwanted ↦ by cases hwanted⟩
  bounded := by simpa [settled_concat, Entry.settles] using h.bounded
  nodup := by simpa [settled_concat, Entry.settles] using h.nodup
  fresh _ _ _ := ⟨hlive, .inl rfl⟩
  owed _ := ⟨hlive, .inl rfl⟩
  ends := h.ends.append (ends_singleton (.inl rfl))

theorem retry (h : Invariant failed s) (hlive : s.live = true) (hscheduled : s.scheduled = true) :
    Invariant failed { s with wanted := true } where
  single := h.single
  since id hid := by
    have := (h.single id hid).1
    rw [hscheduled] at this
    cases this
  bounded := h.bounded
  nodup := h.nodup
  fresh _ _ _ := ⟨hlive, .inl rfl⟩
  owed _ := ⟨hlive, .inl rfl⟩
  ends := h.ends

theorem start (h : Invariant failed s) :
    Invariant failed ⟨true, some s.next, false, false, s.next + 1,
      s.history ++ [.started s.next]⟩ where
  single id hid := by
    cases hid
    have hnot : s.next ∉ settled s.history := fun hmem ↦ Nat.lt_irrefl _ (h.bounded _ hmem)
    simpa [settled_concat, Entry.settles] using hnot
  since id hid := by
    cases hid
    exact since_started
  bounded id hid := by
    apply Nat.lt_succ_of_lt
    exact h.bounded id (by simpa [settled_concat, Entry.settles] using hid)
  nodup := by simpa [settled_concat, Entry.settles] using h.nodup
  fresh _ _ _ := ⟨rfl, .inr (.inl rfl)⟩
  owed howing := by
    rcases owing_concat howing with ⟨_, _, hentry, -⟩ | ⟨-, hanswer⟩
    · cases hentry
    · cases hanswer
  ends := h.ends.append (ends_singleton (.inl rfl))

theorem finish (h : Invariant failed s) {id : ℕ} (value : ρ) (hlive : s.live = true)
    (hid : s.inFlight = some id) :
    Invariant failed { s with
      inFlight := none
      scheduled := failed value
      history := s.history ++ [.published (some id) value] } where
  single _ hid := by cases hid
  since _ hid := by cases hid
  bounded := by simpa [settled_concat, Entry.settles, hid] using h.settle.2
  nodup := by simpa [settled_concat, Entry.settles, hid] using h.settle.1
  fresh v hv hgood := by
    rw [shown_published] at hv
    cases hv
    refine ⟨hlive, ?_⟩
    cases hwanted : s.wanted with
    | true => exact .inl rfl
    | false =>
      refine .inr (.inr ((h.since id hid).mono fun entry hentry ↦ ?_).fresh)
      exact ⟨hentry.1, hentry.2 hwanted⟩
  owed howing := by
    rcases owing_concat howing with ⟨_, _, hentry, hbad⟩ | ⟨howing, -⟩
    · cases hentry
      exact ⟨hlive, .inr (by simp [hbad])⟩
    · refine ⟨hlive, (h.owed howing).2.imp_right fun hscheduled ↦ ?_⟩
      rw [(h.single id hid).1] at hscheduled
      cases hscheduled
  ends := h.ends.append (ends_singleton (.inl rfl))

theorem stop (h : Invariant failed s) {value : ρ} (hvalue : failed value = true) :
    Invariant failed ⟨false, none, false, false, s.next,
      s.history ++ [.ended s.inFlight, .published none value]⟩ := by
  have hsettled : settled (s.history ++ [.ended s.inFlight, .published none value]) =
      settled s.history ++ s.inFlight.toList := by
    rw [List.append_cons, settled_concat, settled_concat]
    exact List.append_nil _
  refine ⟨fun _ hid ↦ (by cases hid), fun _ hid ↦ (by cases hid), ?_, ?_, ?_, ?_,
    h.ends.append (ends_stop hvalue)⟩
  · rw [hsettled]
    exact h.settle.2
  · rw [hsettled]
    exact h.settle.1
  · intro v hv hgood
    rw [List.append_cons, shown_published] at hv
    cases hv
    rw [hvalue] at hgood
    cases hgood
  · intro howing
    rw [List.append_cons] at howing
    rcases owing_concat howing with ⟨_, _, hentry, -⟩ | ⟨howing, -⟩
    · cases hentry
    · rcases owing_concat howing with ⟨_, _, hentry, -⟩ | ⟨-, hanswer⟩
      · cases hentry
      · cases hanswer

theorem move (h : Invariant failed s) (hmove : Move failed s t) : Invariant failed t := by
  cases hmove with
  | begin hlive => exact h.begin hlive
  | notice notice hlive => exact h.notice notice hlive
  | retry hlive hscheduled => exact h.retry hlive hscheduled
  | start hlive hwanted hnone => exact h.start
  | finish id value hlive hid => exact h.finish value hlive hid
  | stop value hlive hvalue => exact h.stop hvalue

theorem moves (h : Invariant failed s) (hmoves : Relation.ReflTransGen (Move failed) s t) :
    Invariant failed t := by
  induction hmoves with
  | refl => exact h
  | tail _ hmove ih => exact ih.move hmove

theorem unpublished (h : Invariant failed s) {id : ℕ} (hended : .ended (some id) ∈ s.history)
    (value : ρ) : .published (some id) value ∉ s.history := by
  intro hpublished
  obtain ⟨before, after, hhistory⟩ := List.append_of_mem hended
  have hsettles : (Entry.ended (some id) : Entry ν ρ).settles = some id := rfl
  have hnodup := h.nodup
  rw [hhistory, settled, List.filterMap_append, List.filterMap_cons_some hsettles] at hnodup
  obtain ⟨hbefore, hafter⟩ : id ∉ settled before ∧ id ∉ settled after := by
    obtain ⟨-, hcons, hdisjoint⟩ := List.nodup_append.mp hnodup
    exact ⟨fun hmem ↦ hdisjoint id hmem id List.mem_cons_self rfl, (List.nodup_cons.mp hcons).1⟩
  rw [hhistory] at hpublished
  rcases List.mem_append.mp hpublished with hmem | hmem
  · exact hbefore (List.mem_filterMap.mpr ⟨_, hmem, rfl⟩)
  · rcases List.mem_cons.mp hmem with hsame | hmem
    · cases hsame
    · exact hafter (List.mem_filterMap.mpr ⟨_, hmem, rfl⟩)

end Invariant

end MakerSdk.Base.Refresh
