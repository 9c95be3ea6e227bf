import Mathlib.Data.List.Nodup
import Mathlib.Tactic.Common

namespace MakerSdk.Paging

/-- Where a page starts: at the first row, or after the row the server named. -/
inductive Cursor where
  | start
  | after (id : String)
deriving DecidableEq

inductive InvalidPage where
  | invalidPage
deriving DecidableEq

def InvalidPage.text : InvalidPage → String
  | invalidPage => "page returned an empty or repeated continuation"

structure Continuation where
  seen : List String

namespace Continuation

def new : Continuation := ⟨[]⟩

def advance (continuation : Continuation) :
    Option String → Except InvalidPage (Option Cursor × Continuation)
  | none => .ok (none, continuation)
  | some id =>
    if id = "" ∨ id ∈ continuation.seen then .error .invalidPage
    else .ok (some (.after id), ⟨continuation.seen ++ [id]⟩)

end Continuation

/-- The pages of a list have been asked for one after the other, each where the page before it
said: `asked` are the cursors of the requests, `told` is what the answers named. -/
structure Followed (asked : List Cursor) (told : List (Option String)) (ids : List String) :
    Prop where
  asked : asked = .start :: ids.map .after
  told : told = ids.map some
  nodup : ids.Nodup
  named : "" ∉ ids

def ReadToEnd (asked : List Cursor) (told : List (Option String)) : Prop :=
  ∃ pages ids, told = pages ++ [none] ∧ Followed asked pages ids

section Chains

variable {asked : List Cursor} {told : List (Option String)} {continuation next : Continuation}

theorem followed_start : Followed [.start] [] [] :=
  ⟨rfl, rfl, List.nodup_nil, List.not_mem_nil⟩

theorem advance_ok {id : String} {cursor : Option Cursor} :
    continuation.advance (some id) = .ok (cursor, next) ↔
      (id ≠ "" ∧ id ∉ continuation.seen) ∧ some (.after id) = cursor ∧
        ⟨continuation.seen ++ [id]⟩ = next := by
  simp only [Continuation.advance]
  by_cases h : id = "" ∨ id ∈ continuation.seen
  · rw [if_pos h]
    exact ⟨(fun h ↦ by cases h), fun hok ↦ absurd h (not_or.mpr hok.1)⟩
  · rw [if_neg h, Except.ok.injEq, Prod.mk.injEq]
    exact ⟨fun hok ↦ ⟨not_or.mp h, hok⟩, fun hok ↦ hok.2⟩

theorem advance_error {id : String} {error : InvalidPage} :
    continuation.advance (some id) = .error error ↔ id = "" ∨ id ∈ continuation.seen := by
  simp only [Continuation.advance]
  by_cases h : id = "" ∨ id ∈ continuation.seen
  · rw [if_pos h]
    exact ⟨fun _ ↦ h, fun _ ↦ by cases error; rfl⟩
  · rw [if_neg h]
    exact ⟨(fun h ↦ by cases h), fun hid ↦ absurd hid h⟩

theorem Followed.advance {id : String} {cursor : Cursor}
    (h : Followed asked told continuation.seen)
    (ha : continuation.advance (some id) = .ok (some cursor, next)) :
    Followed (asked ++ [cursor]) (told ++ [some id]) next.seen := by
  obtain ⟨⟨hempty, hfresh⟩, hcursor, rfl⟩ := advance_ok.mp ha
  cases hcursor
  refine ⟨?_, ?_, ?_, ?_⟩
  · rw [h.asked, List.map_append]
    rfl
  · rw [h.told, List.map_append]
    rfl
  · exact h.nodup.append (List.nodup_singleton id) (by simpa using hfresh)
  · intro hm
    rcases List.mem_append.mp hm with hm | hm
    · exact h.named hm
    · exact hempty (List.mem_singleton.mp hm).symm

theorem Followed.readToEnd (h : Followed asked told continuation.seen) :
    ReadToEnd asked (told ++ [none]) :=
  ⟨told, continuation.seen, rfl, h⟩

theorem Followed.asked_nodup {ids : List String} (h : Followed asked told ids) : asked.Nodup := by
  have hafter : (ids.map Cursor.after).Nodup :=
    h.nodup.map fun _ _ heq ↦ Cursor.after.inj heq
  rw [h.asked]
  exact List.nodup_cons.mpr ⟨by simp, hafter⟩

end Chains

end MakerSdk.Paging
