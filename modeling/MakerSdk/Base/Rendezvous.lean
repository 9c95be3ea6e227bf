import Mathlib.Data.List.AList
import Mathlib.Tactic.Common

namespace MakerSdk.Base.Rendezvous

variable {κ α β : Type} [DecidableEq κ]

/-- Two kinds of events that belong together by a key and come in any order. -/
inductive Arrival (κ α β : Type) where
  | left (key : κ) (value : α)
  | right (key : κ) (value : β)

def Arrival.key : Arrival κ α β → κ
  | left key _ | right key _ => key

structure Desk (κ α β : Type) where
  lefts : AList fun _ : κ ↦ α
  rights : AList fun _ : κ ↦ β

namespace Desk

variable {d : Desk κ α β} {history between : List (Arrival κ α β)} {x : Arrival κ α β}
  {key : κ} {a : α} {b : β}

def empty : Desk κ α β := ⟨∅, ∅⟩

/-- An arrival meets its counterpart, or waits for it in the place of an earlier one. -/
def arrive (d : Desk κ α β) : Arrival κ α β → Desk κ α β × Option (α × β)
  | .left key a =>
    match d.rights.lookup key with
    | some b => ({ d with rights := d.rights.erase key }, some (a, b))
    | none => ({ d with lefts := d.lefts.insert key a }, none)
  | .right key b =>
    match d.lefts.lookup key with
    | some a => ({ d with lefts := d.lefts.erase key }, some (a, b))
    | none => ({ d with rights := d.rights.insert key b }, none)

def arriveAll (d : Desk κ α β) (arrivals : List (Arrival κ α β)) : Desk κ α β :=
  arrivals.foldl (fun d x ↦ (d.arrive x).1) d

structure Kept (d : Desk κ α β) (history : List (Arrival κ α β)) : Prop where
  lefts : ∀ key a, d.lefts.lookup key = some a → .left key a ∈ history
  rights : ∀ key b, d.rights.lookup key = some b → .right key b ∈ history

theorem kept_empty : (empty : Desk κ α β).Kept [] :=
  ⟨(fun _ _ h ↦ by cases h), fun _ _ h ↦ by cases h⟩

theorem lookup_erase_some {γ : Type} {m : AList fun _ : κ ↦ γ} {key' : κ} {c : γ}
    (h : (m.erase key').lookup key = some c) : m.lookup key = some c := by
  by_cases hkey : key = key'
  · rw [hkey, AList.lookup_erase] at h
    cases h
  · rwa [AList.lookup_erase_ne hkey] at h

theorem lookup_insert_some {γ : Type} {m : AList fun _ : κ ↦ γ} {key' : κ} {c c' : γ}
    (h : (m.insert key' c').lookup key = some c) :
    key = key' ∧ c = c' ∨ m.lookup key = some c := by
  by_cases hkey : key = key'
  · subst hkey
    rw [AList.lookup_insert] at h
    exact .inl ⟨rfl, (Option.some.inj h).symm⟩
  · rw [AList.lookup_insert_ne hkey] at h
    exact .inr h

theorem Kept.arrive (h : d.Kept history) : (d.arrive x).1.Kept (history ++ [x]) := by
  have hold : d.Kept (history ++ [x]) :=
    ⟨fun _ _ ha ↦ List.mem_append_left _ (h.lefts _ _ ha),
      fun _ _ hb ↦ List.mem_append_left _ (h.rights _ _ hb)⟩
  cases x with
  | left key' a' =>
    simp only [Desk.arrive]
    split
    · exact ⟨hold.lefts, fun key b hb ↦ hold.rights key b (lookup_erase_some hb)⟩
    · refine ⟨fun key a ha ↦ ?_, hold.rights⟩
      rcases lookup_insert_some ha with ⟨rfl, rfl⟩ | ha
      · exact List.mem_concat_self
      · exact hold.lefts key a ha
  | right key' b' =>
    simp only [Desk.arrive]
    split
    · exact ⟨fun key a ha ↦ hold.lefts key a (lookup_erase_some ha), hold.rights⟩
    · refine ⟨hold.lefts, fun key b hb ↦ ?_⟩
      rcases lookup_insert_some hb with ⟨rfl, rfl⟩ | hb
      · exact List.mem_concat_self
      · exact hold.rights key b hb

theorem Kept.met (h : d.Kept history) (hmet : (d.arrive x).2 = some (a, b)) :
    ∃ key, .left key a ∈ history ++ [x] ∧ .right key b ∈ history ++ [x] := by
  cases x with
  | left key a' =>
    simp only [Desk.arrive] at hmet
    split at hmet <;> cases hmet
    exact ⟨key, List.mem_concat_self, List.mem_append_left _ (h.rights key b ‹_›)⟩
  | right key b' =>
    simp only [Desk.arrive] at hmet
    split at hmet <;> cases hmet
    exact ⟨key, List.mem_append_left _ (h.lefts key a ‹_›), List.mem_concat_self⟩

structure Waits (d : Desk κ α β) (key : κ) (b : β) : Prop where
  lefts : d.lefts.lookup key = none
  rights : d.rights.lookup key = some b

theorem waits_arrive (h : d.lefts.lookup key = none) :
    (d.arrive (.right key b)).1.Waits key b := by
  simp only [arrive, h]
  exact ⟨h, AList.lookup_insert _⟩

theorem Waits.arrive_of_ne (h : d.Waits key b) (hx : x.key ≠ key) :
    (d.arrive x).1.Waits key b := by
  cases x with
  | left key' a' =>
    simp only [Desk.arrive]
    split
    · exact ⟨h.lefts, (AList.lookup_erase_ne (Ne.symm hx)).trans h.rights⟩
    · exact ⟨(AList.lookup_insert_ne (Ne.symm hx)).trans h.lefts, h.rights⟩
  | right key' b' =>
    simp only [Desk.arrive]
    split
    · exact ⟨(AList.lookup_erase_ne (Ne.symm hx)).trans h.lefts, h.rights⟩
    · exact ⟨h.lefts, (AList.lookup_insert_ne (Ne.symm hx)).trans h.rights⟩

theorem Waits.met (h : d.Waits key b) : (d.arrive (.left key a)).2 = some (a, b) := by
  simp only [Desk.arrive, h.rights]

def latest (key : κ) (b : β) (arrivals : List (Arrival κ α β)) : β :=
  arrivals.foldl (fun b x ↦
    match x with
    | .left _ _ => b
    | .right key' b' => if key' = key then b' else b) b

theorem Waits.arriveAll (h : d.Waits key b) (hbetween : ∀ a, .left key a ∉ between) :
    (d.arriveAll between).Waits key (latest key b between) := by
  induction between generalizing d b with
  | nil => exact h
  | cons x between ih =>
    have hrest (a : α) : .left key a ∉ between := fun ha ↦
      hbetween a (List.mem_cons_of_mem _ ha)
    cases x with
    | left key' a' =>
      have hne : key' ≠ key := by
        rintro rfl
        exact hbetween a' List.mem_cons_self
      exact ih (h.arrive_of_ne hne) hrest
    | right key' b' =>
      simp only [latest, List.foldl_cons]
      split
      · subst key'
        exact ih (waits_arrive h.lefts) hrest
      · exact ih (h.arrive_of_ne ‹_›) hrest

/-- A right that comes first, or the last one in its place, meets the next left of its key. -/
theorem early_meets (hd : d.lefts.lookup key = none) (hbetween : ∀ a, .left key a ∉ between) :
    (((d.arrive (.right key b)).1.arriveAll between).arrive (.left key a)).2 =
      some (a, latest key b between) :=
  ((waits_arrive hd).arriveAll hbetween).met

end Desk

end MakerSdk.Base.Rendezvous
