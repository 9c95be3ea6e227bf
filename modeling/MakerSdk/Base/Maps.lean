import Mathlib.Data.List.AList

namespace MakerSdk.Base.Maps

variable {α : Type} [DecidableEq α] {β : α → Type}

theorem lookup_foldl_erase {keys : List α} {m : AList β} {a : α} :
    (keys.foldl (fun m key ↦ m.erase key) m).lookup a = if a ∈ keys then none else m.lookup a := by
  induction keys generalizing m with
  | nil => simp
  | cons key keys ih =>
    rw [List.foldl_cons, ih]
    by_cases ha : a = key
    · subst ha
      simp
    · simp [ha, AList.lookup_erase_ne ha]

theorem lookup_foldl_insert {γ : Type} {keys : List α} {m : AList (fun _ : α ↦ γ)} {c : γ} {a : α} :
    (keys.foldl (fun m key ↦ m.insert key c) m).lookup a =
      if a ∈ keys then some c else m.lookup a := by
  induction keys generalizing m with
  | nil => simp
  | cons key keys ih =>
    rw [List.foldl_cons, ih]
    by_cases ha : a = key
    · subst ha
      simp
    · simp [ha, AList.lookup_insert_ne ha]

theorem entries_erase_perm {m : AList β} {a : α} {b : β a} (h : m.lookup a = some b) :
    m.entries.Perm (⟨a, b⟩ :: (m.erase a).entries) := by
  have hmem : ⟨a, b⟩ ∈ m.entries := AList.mem_lookup_iff.mp h
  obtain ⟨c, l₁, l₂, -, hl, hk⟩ := List.exists_of_kerase (List.mem_keys_of_mem hmem)
  have hc : m.lookup a = some c := AList.mem_lookup_iff.mpr (hl ▸ by simp)
  cases h.symm.trans hc
  change m.entries.Perm (⟨a, b⟩ :: List.kerase a m.entries)
  rw [hk, hl]
  exact List.perm_middle

end MakerSdk.Base.Maps
