import Mathlib.Data.List.Forall2
import Mathlib.Data.List.Nodup
import Mathlib.Tactic.Common

namespace MakerSdk.Base.Lists

variable {α β σ : Type}

theorem exists_forall₂ {R : α → β → Prop} {l : List α} (h : ∀ a ∈ l, ∃ b, R a b) :
    ∃ l', List.Forall₂ R l l' := by
  induction l with
  | nil => exact ⟨[], .nil⟩
  | cons a l ih =>
    obtain ⟨b, hb⟩ := h a List.mem_cons_self
    obtain ⟨bs, hbs⟩ := ih (fun a' ha' ↦ h a' (List.mem_cons_of_mem a ha'))
    exact ⟨b :: bs, .cons hb hbs⟩

theorem exists_of_forall₂ {R : α → β → Prop} {l : List α} {l' : List β}
    (h : List.Forall₂ R l l') {b : β} (hb : b ∈ l') : ∃ a ∈ l, R a b := by
  induction h with
  | nil => simp at hb
  | cons hr _ ih =>
    rcases List.mem_cons.mp hb with rfl | hb
    · exact ⟨_, List.mem_cons_self, hr⟩
    · obtain ⟨a, ha, hab⟩ := ih hb
      exact ⟨a, List.mem_cons_of_mem _ ha, hab⟩

theorem getElem?_of_forall₂ {R : α → β → Prop} {l : List α} {l' : List β}
    (h : List.Forall₂ R l l') {i : ℕ} {b : β} (hb : l'[i]? = some b) :
    ∃ a, l[i]? = some a ∧ R a b := by
  induction h generalizing i with
  | nil => simp at hb
  | cons hr _ ih =>
    cases i with
    | zero =>
      obtain rfl := Option.some.inj hb
      exact ⟨_, rfl, hr⟩
    | succ i => exact ih hb

theorem forall₂_filterMap {f : α → Option β} {l : List α} (h : ∀ a ∈ l, (f a).isSome) :
    List.Forall₂ (fun a b ↦ f a = some b) l (l.filterMap f) := by
  induction l with
  | nil => exact .nil
  | cons a l ih =>
    obtain ⟨ha, hl⟩ := List.forall_mem_cons.mp h
    obtain ⟨b, hb⟩ := Option.isSome_iff_exists.mp ha
    rw [List.filterMap_cons_some hb]
    exact .cons hb (ih hl)

theorem map_eq_map_iff_forall₂ {γ : Type} {f : α → γ} {g : β → γ} {l : List α} {l' : List β} :
    l.map f = l'.map g ↔ List.Forall₂ (fun a b ↦ f a = g b) l l' := by
  rw [← List.forall₂_eq_eq_eq, List.forall₂_map_left_iff, List.forall₂_map_right_iff]

theorem append_cons_inj {a : α} {l₁ l₂ r₁ r₂ : List α} (h₁ : a ∉ r₁) (h₂ : a ∉ r₂)
    (h : l₁ ++ a :: r₁ = l₂ ++ a :: r₂) : l₁ = l₂ ∧ r₁ = r₂ := by
  rcases List.append_eq_append_iff.mp h with ⟨m, rfl, hm⟩ | ⟨m, rfl, hm⟩
  · cases m with
    | nil => exact ⟨by simp, (List.cons.inj hm).2⟩
    | cons b m => exact absurd ((List.cons.inj hm).2 ▸ by simp : a ∈ r₁) h₁
  · cases m with
    | nil => exact ⟨by simp, (List.cons.inj hm).2.symm⟩
    | cons b m => exact absurd ((List.cons.inj hm).2 ▸ by simp : a ∈ r₂) h₂

theorem findIdx?_congr {p q : α → Bool} {l : List α} (h : ∀ a ∈ l, p a = q a) :
    l.findIdx? p = l.findIdx? q := by
  induction l with
  | nil => rfl
  | cons a l ih =>
    rw [List.findIdx?_cons, List.findIdx?_cons, h a List.mem_cons_self,
      ih fun b hb ↦ h b (List.mem_cons_of_mem a hb)]

theorem perm_find?_eraseP {p : α → Bool} {a : α} {l : List α} (h : l.find? p = some a) :
    l.Perm (a :: l.eraseP p) := by
  induction l with
  | nil => cases h
  | cons b l ih =>
    by_cases hb : p b = true
    · rw [List.find?_cons_of_pos hb] at h
      cases h
      rw [List.eraseP_cons_of_pos hb]
    · rw [List.find?_cons_of_neg hb] at h
      rw [List.eraseP_cons_of_neg hb]
      exact ((ih h).cons b).trans (.swap a b _)

theorem filter_eq_singleton [DecidableEq β] {f : α → β} {a : α} {l : List α}
    (hl : (l.map f).Nodup) (ha : a ∈ l) : l.filter (fun b ↦ f b = f a) = [a] := by
  induction l with
  | nil => cases ha
  | cons b l ih =>
    obtain ⟨hb, hl⟩ := List.nodup_cons.mp hl
    rcases List.mem_cons.mp ha with rfl | ha
    · rw [List.filter_cons_of_pos (by simp), List.filter_eq_nil_iff.mpr]
      intro c hc
      rw [decide_eq_true_iff]
      intro heq
      exact hb (heq ▸ List.mem_map_of_mem hc)
    · have hne : ¬f b = f a := fun heq ↦ hb (heq ▸ List.mem_map_of_mem ha)
      rw [List.filter_cons_of_neg (by simpa using hne)]
      exact ih hl ha

theorem foldl_iff {step : σ → α → σ} {P : σ → Prop} {Q : α → Prop}
    (h : ∀ s a, P (step s a) ↔ P s ∨ Q a) (s : σ) (l : List α) :
    P (l.foldl step s) ↔ P s ∨ ∃ a ∈ l, Q a := by
  induction l generalizing s with
  | nil => simp
  | cons a l ih =>
    rw [List.foldl_cons, ih, h, or_assoc]
    simp

section Upsert

variable {κ : Type} [DecidableEq κ]

/-- `a` is merged into the first element of its key, or put at the end. -/
def upsert (key : α → κ) (merge : α → α → α) : List α → α → List α
  | [], a => [a]
  | b :: l, a => if key b = key a then merge b a :: l else b :: upsert key merge l a

variable {key : α → κ} {merge : α → α → α} {rows : α → List β}

theorem perm_flatMap_upsert (h : ∀ b a, key b = key a → (rows (merge b a)).Perm (rows b ++ rows a))
    (l : List α) (a : α) :
    ((upsert key merge l a).flatMap rows).Perm (l.flatMap rows ++ rows a) := by
  induction l with
  | nil => simp [upsert]
  | cons b l ih =>
    rw [upsert, List.flatMap_cons, List.append_assoc]
    split
    · rename_i hkey
      have hrest : (rows a ++ l.flatMap rows).Perm (l.flatMap rows ++ rows a) :=
        List.perm_append_comm
      rw [List.flatMap_cons]
      refine ((h b a hkey).append_right _).trans ?_
      rw [List.append_assoc]
      exact hrest.append_left _
    · rw [List.flatMap_cons]
      exact ih.append_left _

theorem perm_flatMap_foldl_upsert
    (h : ∀ b a, key b = key a → (rows (merge b a)).Perm (rows b ++ rows a)) (l l' : List α) :
    ((l'.foldl (upsert key merge) l).flatMap rows).Perm (l.flatMap rows ++ l'.flatMap rows) := by
  induction l' generalizing l with
  | nil => simp
  | cons a l' ih =>
    rw [List.foldl_cons, List.flatMap_cons, ← List.append_assoc]
    exact (ih _).trans ((perm_flatMap_upsert h l a).append_right _)

end Upsert

section Updates

variable {updates : List (ℕ × α)} {l : List α} {index : ℕ} {value : α}

theorem length_foldl_set : (updates.foldl (fun l u ↦ l.set u.1 u.2) l).length = l.length := by
  induction updates generalizing l with
  | nil => rfl
  | cons u updates ih => exact ih.trans (List.length_set ..)

theorem getElem?_foldl_set_of_notMem (h : index ∉ updates.map Prod.fst) :
    (updates.foldl (fun l u ↦ l.set u.1 u.2) l)[index]? = l[index]? := by
  induction updates generalizing l with
  | nil => rfl
  | cons u updates ih =>
    obtain ⟨hne, hrest⟩ := not_or.mp (List.mem_cons.not.mp h)
    exact (ih hrest).trans (List.getElem?_set_ne (Ne.symm hne))

theorem getElem?_foldl_set (hnodup : (updates.map Prod.fst).Nodup) (h : (index, value) ∈ updates)
    (hlt : index < l.length) :
    (updates.foldl (fun l u ↦ l.set u.1 u.2) l)[index]? = some value := by
  induction updates generalizing l with
  | nil => cases h
  | cons u updates ih =>
    obtain ⟨hfresh, hnodup⟩ := List.nodup_cons.mp hnodup
    rcases List.mem_cons.mp h with rfl | h
    · exact (getElem?_foldl_set_of_notMem hfresh).trans (List.getElem?_set_self hlt)
    · exact ih hnodup h (Nat.lt_of_lt_of_eq hlt (List.length_set ..).symm)

end Updates

end MakerSdk.Base.Lists
