import MakerSdk.Paging
import Mathlib.Data.Finset.Card

namespace MakerSdk.Paging

variable {T ε : Type}

/-- A list that is read page by page: what `fetch_all` is called with. The server may answer by
all that it was asked before. -/
structure Pages (T ε : Type) where
  load : List Cursor → Cursor → Except ε T
  next : T → Option String
  append : T → T → T
  invalidPage : InvalidPage → ε

structure Fetched (T ε : Type) where
  asked : List Cursor
  pages : List T
  result : Except ε T

namespace Pages

/-- The loop of `fetch_all`; `none` where the fuel ends before it. -/
def follow (p : Pages T ε) :
    ℕ → Continuation → List Cursor → List T → T → Option (Fetched T ε)
  | 0, _, _, _, _ => none
  | fuel + 1, continuation, asked, pages, all =>
    match continuation.advance (p.next all) with
    | .error error => some ⟨asked, pages, .error (p.invalidPage error)⟩
    | .ok (none, _) => some ⟨asked, pages, .ok all⟩
    | .ok (some cursor, continuation) =>
      match p.load asked cursor with
      | .error error => some ⟨asked ++ [cursor], pages, .error error⟩
      | .ok page =>
        p.follow fuel continuation (asked ++ [cursor]) (pages ++ [page]) (p.append all page)

def fetchAll (p : Pages T ε) (fuel : ℕ) : Option (Fetched T ε) :=
  match p.load [] .start with
  | .error error => some ⟨[.start], [], .error error⟩
  | .ok all => p.follow fuel .new [.start] [all] all

def Answered (p : Pages T ε) (asked : List Cursor) (pages : List T) : Prop :=
  ∀ (k : ℕ) page, pages[k]? = some page →
    ∃ cursor, asked[k]? = some cursor ∧ p.load (asked.take k) cursor = .ok page

def Names (p : Pages T ε) (ids : Finset String) : Prop :=
  ∀ asked cursor page id, p.load asked cursor = .ok page → p.next page = some id → id ∈ ids

/-- The whole list or an error; `Combined` is what a result is of the pages. -/
structure Whole (p : Pages T ε) (Combined : List T → T → Prop) : Prop where
  answered : ∀ fuel out, p.fetchAll fuel = some out → p.Answered out.asked out.pages
  once : ∀ fuel out, p.fetchAll fuel = some out → out.asked.Nodup
  whole : ∀ fuel out all, p.fetchAll fuel = some out → out.result = .ok all →
    ReadToEnd out.asked (out.pages.map p.next) ∧ Combined out.pages all
  failing : ∀ fuel out (k : ℕ) cursor error, p.fetchAll fuel = some out →
    out.asked[k]? = some cursor → p.load (out.asked.take k) cursor = .error error →
    out.result = .error error
  invalid : ∀ fuel out (k : ℕ) id, p.fetchAll fuel = some out →
    (out.pages.map p.next)[k]? = some (some id) →
    id = "" ∨ some id ∈ (out.pages.map p.next).take k →
    out.result = .error (p.invalidPage .invalidPage)
  terminates : ∀ ids, p.Names ids → ∃ out, out.asked.length ≤ ids.card + 1 ∧
    ∀ fuel, ids.card < fuel → p.fetchAll fuel = some out

structure Lawful (p : Pages T ε) (Combined : List T → T → Prop) : Prop where
  next_append : ∀ all page, p.next (p.append all page) = p.next page
  combined_one : ∀ page, Combined [page] page
  combined_append : ∀ pages all page, Combined pages all →
    Combined (pages ++ [page]) (p.append all page)

end Pages

section Chains

variable {asked : List Cursor} {told : List (Option String)} {ids : List String}
  {continuation next : Continuation} {named : Option String} {cursor : Cursor}

theorem advance_last (h : continuation.advance named = .ok (none, next)) : named = none := by
  cases named with
  | none => rfl
  | some id =>
    obtain ⟨-, hcursor, -⟩ := advance_ok.mp h
    cases hcursor

theorem Followed.advance_named (h : Followed asked told continuation.seen)
    (ha : continuation.advance named = .ok (some cursor, next)) :
    Followed (asked ++ [cursor]) (told ++ [named]) next.seen := by
  cases named with
  | none => cases ha
  | some id => exact h.advance ha

theorem advance_seen (h : continuation.advance named = .ok (some cursor, next)) :
    next.seen.length = continuation.seen.length + 1 := by
  cases named with
  | none => cases h
  | some id =>
    obtain ⟨-, -, rfl⟩ := advance_ok.mp h
    exact List.length_append

theorem Followed.length (h : Followed asked told ids) : asked.length = told.length + 1 := by
  rw [h.asked, h.told, List.length_cons, List.length_map, List.length_map]

theorem Followed.fresh (h : Followed asked told ids) {k : ℕ} {id : String}
    (hk : told[k]? = some (some id)) : ¬ (id = "" ∨ some id ∈ told.take k) := by
  rw [h.told, List.getElem?_map, Option.map_eq_some_iff] at hk
  obtain ⟨id', hid, hk⟩ := hk
  obtain rfl := Option.some.inj hk
  rw [h.told, ← List.map_take, List.mem_map_of_injective (Option.some_injective _)]
  rintro (rfl | hmem)
  · exact h.named (List.mem_of_getElem? hid)
  · have hdrop : id' ∈ ids.drop k := by
      apply List.mem_of_getElem? (i := 0)
      rwa [List.getElem?_drop]
    exact List.disjoint_take_drop h.nodup (Nat.le_refl k) hmem hdrop

end Chains

namespace Pages

variable {p : Pages T ε} {Combined : List T → T → Prop} {fuel : ℕ} {continuation : Continuation}
  {asked : List Cursor} {pages : List T} {all : T} {out : Fetched T ε}

theorem Answered.append {cursors : List Cursor} (h : p.Answered asked pages)
    (hlength : pages.length ≤ asked.length) : p.Answered (asked ++ cursors) pages := by
  intro k page hk
  obtain ⟨cursor, hcursor, hload⟩ := h k page hk
  have hlt := (List.getElem?_eq_some_iff.mp hk).1
  refine ⟨cursor, ?_, ?_⟩
  · rw [List.getElem?_append_left (by omega), hcursor]
  · rwa [List.take_append_of_le_length (by omega)]

variable {cursor : Cursor}

theorem Answered.concat {page : T} (h : p.Answered asked pages)
    (hlength : pages.length = asked.length) (hload : p.load asked cursor = .ok page) :
    p.Answered (asked ++ [cursor]) (pages ++ [page]) := by
  intro k page' hk
  by_cases hlt : k < pages.length
  · rw [List.getElem?_append_left hlt] at hk
    exact h.append (Nat.le_of_eq hlength) k page' hk
  · obtain rfl : k = pages.length := by
      have := (List.getElem?_eq_some_iff.mp hk).1
      rw [List.length_append, List.length_singleton] at this
      omega
    rw [List.getElem?_concat_length] at hk
    obtain rfl := Option.some.inj hk
    refine ⟨cursor, ?_, ?_⟩
    · rw [hlength, List.getElem?_concat_length]
    · rwa [hlength, List.take_left]

structure Reading (p : Pages T ε) (Combined : List T → T → Prop) (ids : List String)
    (asked : List Cursor) (pages : List T) (all : T) : Prop where
  answered : p.Answered asked pages
  followed : ∃ told, pages.map p.next = told ++ [p.next all] ∧ Followed asked told ids
  combined : Combined pages all

theorem Reading.length {ids : List String} (h : p.Reading Combined ids asked pages all) :
    pages.length = asked.length := by
  obtain ⟨told, htold, hfollowed⟩ := h.followed
  have := congrArg List.length htold
  rw [List.length_map, List.length_append, List.length_singleton] at this
  rw [this, hfollowed.length]

theorem answered_nil : p.Answered asked [] := fun _ _ hk ↦ by cases hk

theorem reading_start (hp : p.Lawful Combined) (h : p.load [] .start = .ok all) :
    p.Reading Combined Continuation.new.seen [.start] [all] all := by
  have hnone : p.Answered [] [] := answered_nil
  exact ⟨hnone.concat rfl h, ⟨[], rfl, followed_start⟩, hp.combined_one all⟩

theorem Reading.step {page : T} {next : Continuation} (hp : p.Lawful Combined)
    (h : p.Reading Combined continuation.seen asked pages all)
    (hadvance : continuation.advance (p.next all) = .ok (some cursor, next))
    (hload : p.load asked cursor = .ok page) :
    p.Reading Combined next.seen (asked ++ [cursor]) (pages ++ [page]) (p.append all page) := by
  obtain ⟨told, htold, hfollowed⟩ := h.followed
  refine ⟨h.answered.concat h.length hload,
    ⟨told ++ [p.next all], ?_, hfollowed.advance_named hadvance⟩,
    hp.combined_append pages all page h.combined⟩
  rw [List.map_append, htold, hp.next_append]
  rfl

inductive Ended (p : Pages T ε) (Combined : List T → T → Prop) : Fetched T ε → Prop
  | done {ids asked pages all} (reading : p.Reading Combined ids asked pages all)
      (last : p.next all = none) : Ended p Combined ⟨asked, pages, .ok all⟩
  | invalid {ids asked pages all} (reading : p.Reading Combined ids asked pages all) :
      Ended p Combined ⟨asked, pages, .error (p.invalidPage .invalidPage)⟩
  | failed {ids asked cursor pages error} (answered : p.Answered asked pages)
      (load : p.load asked cursor = .error error)
      (followed : Followed (asked ++ [cursor]) (pages.map p.next) ids) :
      Ended p Combined ⟨asked ++ [cursor], pages, .error error⟩

theorem ended_follow (hp : p.Lawful Combined)
    (h : p.Reading Combined continuation.seen asked pages all)
    (hout : p.follow fuel continuation asked pages all = some out) : p.Ended Combined out := by
  induction fuel generalizing continuation asked pages all with
  | zero => cases hout
  | succ fuel ih =>
    rw [follow] at hout
    split at hout
    · rename_i error _
      cases hout
      cases error
      exact .invalid h
    · rename_i hadvance
      cases hout
      exact .done h (advance_last hadvance)
    · rename_i cursor next hadvance
      split at hout
      · rename_i error hload
        cases hout
        obtain ⟨told, htold, hfollowed⟩ := h.followed
        exact .failed h.answered hload (htold ▸ hfollowed.advance_named hadvance)
      · rename_i page hload
        exact ih (h.step hp hadvance hload) hout

theorem ended_fetchAll (hp : p.Lawful Combined) (h : p.fetchAll fuel = some out) :
    p.Ended Combined out := by
  rw [fetchAll] at h
  split at h
  · rename_i error hload
    cases h
    exact .failed answered_nil hload followed_start
  · rename_i all hload
    exact ended_follow hp (reading_start hp hload) h

theorem Ended.answered (h : p.Ended Combined out) : p.Answered out.asked out.pages := by
  cases h with
  | done reading => exact reading.answered
  | invalid reading => exact reading.answered
  | failed answered load followed =>
    have hlength := followed.length
    rw [List.length_append, List.length_map, List.length_singleton] at hlength
    exact answered.append (by omega)

theorem Ended.once (h : p.Ended Combined out) : out.asked.Nodup := by
  cases h with
  | done reading | invalid reading =>
    obtain ⟨told, -, hfollowed⟩ := reading.followed
    exact hfollowed.asked_nodup
  | failed answered load followed => exact followed.asked_nodup

theorem Ended.whole (h : p.Ended Combined out) (hout : out.result = .ok all) :
    ReadToEnd out.asked (out.pages.map p.next) ∧ Combined out.pages all := by
  cases h with
  | done reading last =>
    obtain rfl := Except.ok.inj hout
    obtain ⟨told, htold, hfollowed⟩ := reading.followed
    rw [last] at htold
    exact ⟨⟨told, _, htold, hfollowed⟩, reading.combined⟩
  | invalid | failed => cases hout

theorem Answered.load_ne {k : ℕ} {error : ε} (h : p.Answered asked pages) (hk : k < pages.length)
    (hcursor : asked[k]? = some cursor) :
    p.load (asked.take k) cursor ≠ .error error := by
  intro hload
  obtain ⟨cursor', hcursor', hload'⟩ := h k _ (List.getElem?_eq_getElem hk)
  rw [hcursor] at hcursor'
  cases hcursor'
  rw [hload] at hload'
  cases hload'

theorem Reading.load_ne {ids : List String} {k : ℕ} {error : ε}
    (h : p.Reading Combined ids asked pages all) (hcursor : asked[k]? = some cursor) :
    p.load (asked.take k) cursor ≠ .error error :=
  h.answered.load_ne (h.length ▸ (List.getElem?_eq_some_iff.mp hcursor).1) hcursor

theorem Ended.failing {k : ℕ} {error : ε} (h : p.Ended Combined out)
    (hcursor : out.asked[k]? = some cursor)
    (hload : p.load (out.asked.take k) cursor = .error error) : out.result = .error error := by
  have hanswered := h.answered
  cases h with
  | done reading | invalid reading => exact absurd hload (reading.load_ne hcursor)
  | @failed ids asked last pages error' answered load followed =>
    have hlength := followed.length
    rw [List.length_append, List.length_map, List.length_singleton] at hlength
    by_cases hlt : k < pages.length
    · exact absurd hload (hanswered.load_ne hlt hcursor)
    · obtain rfl : k = asked.length := by
        have := (List.getElem?_eq_some_iff.mp hcursor).1
        rw [List.length_append, List.length_singleton] at this
        omega
      rw [List.getElem?_concat_length] at hcursor
      obtain rfl := Option.some.inj hcursor
      rw [List.take_left] at hload
      exact load.symm.trans hload

theorem Ended.invalid_page {k : ℕ} {id : String} (h : p.Ended Combined out)
    (hk : (out.pages.map p.next)[k]? = some (some id))
    (hid : id = "" ∨ some id ∈ (out.pages.map p.next).take k) :
    out.result = .error (p.invalidPage .invalidPage) := by
  cases h with
  | done reading last =>
    obtain ⟨told, htold, hfollowed⟩ := reading.followed
    rw [htold, last] at hk hid
    have hlt : k < told.length := by
      by_contra hge
      rw [List.getElem?_append_right (Nat.le_of_not_lt hge)] at hk
      obtain ⟨_, hk⟩ := List.mem_singleton.mp (List.mem_of_getElem? hk)
    rw [List.getElem?_append_left hlt] at hk
    rw [List.take_append_of_le_length (Nat.le_of_lt hlt)] at hid
    exact absurd hid (hfollowed.fresh hk)
  | invalid => rfl
  | failed answered load followed => exact absurd hid (followed.fresh hk)

theorem follow_mono {more : ℕ} (h : p.follow fuel continuation asked pages all = some out) :
    p.follow (fuel + more) continuation asked pages all = some out := by
  induction fuel generalizing continuation asked pages all with
  | zero => cases h
  | succ fuel ih =>
    rw [Nat.add_right_comm]
    rw [follow] at h ⊢
    split at h
    · exact h
    · exact h
    · split at h
      · exact h
      · exact ih h

variable {ids : Finset String}

theorem Answered.length_le {seen : List String} {told : List (Option String)} {asked' : List Cursor}
    (hanswered : p.Answered asked pages) (hnames : p.Names ids)
    (hfollowed : Followed asked' told seen) (htold : told ⊆ pages.map p.next) :
    seen.length ≤ ids.card := by
  rw [← List.toFinset_card_of_nodup hfollowed.nodup]
  apply Finset.card_le_card
  intro id hid
  have hmem : some id ∈ pages.map p.next := by
    apply htold
    rw [hfollowed.told]
    exact List.mem_map_of_mem (List.mem_toFinset.mp hid)
  obtain ⟨page, hpage, hnext⟩ := List.mem_map.mp hmem
  obtain ⟨k, hk⟩ := List.mem_iff_getElem?.mp hpage
  obtain ⟨cursor, -, hload⟩ := hanswered k page hk
  exact hnames _ cursor page id hload hnext

theorem Reading.length_le {seen : List String} (hnames : p.Names ids)
    (h : p.Reading Combined seen asked pages all) : seen.length ≤ ids.card := by
  obtain ⟨told, htold, hfollowed⟩ := h.followed
  exact h.answered.length_le hnames hfollowed (htold ▸ List.subset_append_left _ _)

theorem follow_terminates (hp : p.Lawful Combined) (hnames : p.Names ids)
    (h : p.Reading Combined continuation.seen asked pages all)
    (hfuel : ids.card < fuel + continuation.seen.length) :
    ∃ out, p.follow fuel continuation asked pages all = some out := by
  induction fuel generalizing continuation asked pages all with
  | zero =>
    have := h.length_le hnames
    omega
  | succ fuel ih =>
    rw [follow]
    split
    · exact ⟨_, rfl⟩
    · exact ⟨_, rfl⟩
    · rename_i cursor next hadvance
      split
      · exact ⟨_, rfl⟩
      · rename_i page hload
        have hnext := advance_seen hadvance
        exact ih (h.step hp hadvance hload) (by omega)

theorem Ended.length_le (hnames : p.Names ids) (h : p.Ended Combined out) :
    out.asked.length ≤ ids.card + 1 := by
  cases h with
  | done reading | invalid reading =>
    have hseen := reading.length_le hnames
    obtain ⟨told, -, hfollowed⟩ := reading.followed
    rw [hfollowed.asked, List.length_cons, List.length_map]
    omega
  | failed answered load followed =>
    have hseen := answered.length_le hnames followed (List.Subset.refl _)
    rw [followed.asked, List.length_cons, List.length_map]
    omega

theorem fetchAll_terminates (hp : p.Lawful Combined) (hnames : p.Names ids) :
    ∃ out, ∀ fuel, ids.card < fuel → p.fetchAll fuel = some out := by
  cases hload : p.load [] .start with
  | error error =>
    refine ⟨⟨[.start], [], .error error⟩, fun fuel _ ↦ ?_⟩
    simp only [fetchAll, hload]
  | ok all =>
    have hreading := reading_start hp hload
    obtain ⟨out, hout⟩ := follow_terminates hp hnames hreading (Nat.lt_succ_self ids.card)
    refine ⟨out, fun fuel hfuel ↦ ?_⟩
    obtain ⟨more, rfl⟩ := Nat.exists_eq_add_of_le hfuel
    simp only [fetchAll, hload]
    exact follow_mono hout

theorem Lawful.whole (hp : p.Lawful Combined) : p.Whole Combined where
  answered _ _ h := (ended_fetchAll hp h).answered
  once _ _ h := (ended_fetchAll hp h).once
  whole _ _ _ h hout := (ended_fetchAll hp h).whole hout
  failing _ _ _ _ _ h hcursor hload := (ended_fetchAll hp h).failing hcursor hload
  invalid _ _ _ _ h hk hid := (ended_fetchAll hp h).invalid_page hk hid
  terminates ids hnames := by
    obtain ⟨out, hout⟩ := fetchAll_terminates hp hnames
    have hended := ended_fetchAll hp (hout (ids.card + 1) (Nat.lt_succ_self _))
    exact ⟨out, hended.length_le hnames, hout⟩

end Pages

end MakerSdk.Paging
