import Mathlib.Algebra.Group.Nat.Defs
import Mathlib.Data.List.Nodup
import Mathlib.Logic.Function.Basic
import MakerSdk.Base.Runs

namespace MakerSdk.Quote

open Base.Runs

structure NonceError where
  text : String
deriving DecidableEq

namespace Nonces

/-- Where a thread stands in a call. `counts` tells the `init` inside `next_u64` from a call of
`init` itself. -/
inductive Place where
  | idle
  | loading
  | checking (counts : Bool)
  | drawing (counts : Bool)
  | exchanging (counts : Bool) (entropy : UInt64)
  | reloading
  | adding (base : UInt64)

structure Thread where
  place : Place
  seen : UInt64

end Nonces

open Nonces

/-- The two atomics, the threads that share them, and what their calls have returned: a nonce from
`next_u64`, nothing from `init`. -/
structure AtomicNonceGenerator where
  counter : UInt64
  entropyBase : UInt64
  threads : ℕ → Thread
  returned : List (ℕ × Except NonceError (Option UInt64))

namespace Nonces

/-- One atomic access, or the operating system's answer to a draw. A relaxed load that is not
`fresh` reads the value its thread has seen before. -/
inductive Act where
  | init
  | nextU64
  | load (fresh : Bool)
  | draw (entropy : Except String UInt64)
  | exchange
  | fetchAdd

end Nonces

namespace AtomicNonceGenerator

def new : AtomicNonceGenerator := ⟨1, 0, fun _ ↦ ⟨.idle, 0⟩, []⟩

def nonces (s : AtomicNonceGenerator) : List UInt64 :=
  s.returned.filterMap fun entry ↦ entry.2.toOption.join

def move (s : AtomicNonceGenerator) (thread : ℕ) (moved : Thread) : AtomicNonceGenerator :=
  { s with threads := Function.update s.threads thread moved }

def finish (s : AtomicNonceGenerator) (thread : ℕ) (seen : UInt64)
    (result : Except NonceError (Option UInt64)) : AtomicNonceGenerator :=
  { s.move thread ⟨.idle, seen⟩ with returned := s.returned ++ [(thread, result)] }

/-- `init` returns, to its caller or to the rest of `next_u64`. -/
def initialised (s : AtomicNonceGenerator) (thread : ℕ) (counts : Bool) (seen : UInt64) :
    AtomicNonceGenerator :=
  if counts then s.move thread ⟨.reloading, seen⟩ else s.finish thread seen (.ok none)

def loaded (s : AtomicNonceGenerator) (thread : ℕ) (fresh : Bool) : UInt64 :=
  if fresh then s.entropyBase else (s.threads thread).seen

def step (s : AtomicNonceGenerator) (label : ℕ × Act) : Option AtomicNonceGenerator :=
  let thread := label.1
  let seen := (s.threads thread).seen
  match (s.threads thread).place, label.2 with
  | .idle, .init => some (s.move thread ⟨.checking false, seen⟩)
  | .idle, .nextU64 => some (s.move thread ⟨.loading, seen⟩)
  | .loading, .load fresh =>
    let base := s.loaded thread fresh
    some (s.move thread (if base = 0 then ⟨.checking true, base⟩ else ⟨.adding base, base⟩))
  | .checking counts, .load fresh =>
    let base := s.loaded thread fresh
    some (if base = 0 then s.move thread ⟨.drawing counts, base⟩
      else s.initialised thread counts base)
  | .drawing counts, .draw (.ok entropy) => some (s.move thread ⟨.exchanging counts entropy, seen⟩)
  | .drawing _, .draw (.error e) =>
    some (s.finish thread seen (.error ⟨"OsRng unavailable: " ++ e⟩))
  | .exchanging counts entropy, .exchange =>
    let base := if s.entropyBase = 0 then entropy else s.entropyBase
    some ({ s with entropyBase := base }.initialised thread counts base)
  | .reloading, .load fresh =>
    let base := s.loaded thread fresh
    some (s.move thread ⟨.adding base, base⟩)
  | .adding base, .fetchAdd =>
    some ({ s with counter := s.counter + 1 }.finish thread seen (.ok (some (base + s.counter))))
  | _, _ => none

end AtomicNonceGenerator

namespace Nonces

def after (base : UInt64) (n : ℕ) : List UInt64 :=
  (List.range n).map fun k ↦ base + UInt64.ofNat (k + 1)

theorem after_succ (base : UInt64) (n : ℕ) :
    after base (n + 1) = after base n ++ [base + UInt64.ofNat (n + 1)] := by
  rw [after, List.range_succ, List.map_append]
  rfl

theorem nodup_after {base : UInt64} {n : ℕ} (h : n ≤ 2 ^ 64) : (after base n).Nodup := by
  apply List.Nodup.map_on _ List.nodup_range
  intro k hk k' hk' heq
  have hk := List.mem_range.mp hk
  have hk' := List.mem_range.mp hk'
  have hsucc := congrArg UInt64.toNat (UInt64.add_right_inj _ |>.mp heq)
  rw [UInt64.toNat_ofNat', UInt64.toNat_ofNat'] at hsucc
  omega

def Thread.Sound (base : UInt64) (thread : Thread) : Prop :=
  (thread.seen = 0 ∨ thread.seen = base) ∧
    match thread.place with
    | .idle | .loading | .checking _ => True
    | .drawing _ => thread.seen = 0
    | .exchanging _ entropy => thread.seen = 0 ∧ entropy ≠ 0
    | .reloading => thread.seen = base ∧ base ≠ 0
    | .adding b => b = base ∧ thread.seen = base ∧ base ≠ 0

def FirstFails (before : List (ℕ × Except NonceError (Option UInt64)))
    (entry : ℕ × Except NonceError (Option UInt64)) : Prop :=
  ∀ e, entry.2 = .error e → ∀ result, (entry.1, .ok result) ∉ before

end Nonces

namespace AtomicNonceGenerator

/-- The nonces so far count up from one base, which every thread that has got past `init` knows. -/
structure Sound (s : AtomicNonceGenerator) : Prop where
  counter : s.counter = UInt64.ofNat (s.nonces.length + 1)
  nonces_eq : s.nonces = after s.entropyBase s.nonces.length
  based : s.nonces ≠ [] → s.entropyBase ≠ 0
  threads : ∀ thread, (s.threads thread).Sound s.entropyBase
  succeeded : ∀ thread result, (thread, .ok result) ∈ s.returned → (s.threads thread).seen ≠ 0
  failed : Justified FirstFails s.returned

variable {s t : AtomicNonceGenerator} {thread : ℕ}

theorem sound_new : new.Sound where
  counter := rfl
  nonces_eq := rfl
  based h := absurd rfl h
  threads _ := ⟨.inl rfl, trivial⟩
  succeeded _ _ h := absurd h List.not_mem_nil
  failed := justified_nil

theorem seen_move {moved : Thread} {other : ℕ} (h : (s.threads thread).seen ≠ 0 → moved.seen ≠ 0)
    (hseen : (s.threads other).seen ≠ 0) : ((s.move thread moved).threads other).seen ≠ 0 := by
  rcases eq_or_ne other thread with rfl | hne
  · simpa [move] using h hseen
  · simpa [move, hne] using hseen

theorem threads_move {moved : Thread} (h : s.Sound) (hmoved : moved.Sound s.entropyBase)
    (other : ℕ) : ((s.move thread moved).threads other).Sound s.entropyBase := by
  rcases eq_or_ne other thread with rfl | hne
  · simpa [move] using hmoved
  · simpa [move, hne] using h.threads other

theorem Sound.move {moved : Thread} (h : s.Sound) (hmoved : moved.Sound s.entropyBase)
    (hseen : (s.threads thread).seen ≠ 0 → moved.seen ≠ 0) : (s.move thread moved).Sound where
  counter := h.counter
  nonces_eq := h.nonces_eq
  based := h.based
  threads := threads_move h hmoved
  succeeded other result hmem := seen_move hseen (h.succeeded other result hmem)
  failed := h.failed

theorem nonces_finish {seen : UInt64} {result : Except NonceError (Option UInt64)} :
    (s.finish thread seen result).nonces = s.nonces ++ result.toOption.join.toList := by
  rcases result with e | _ | nonce <;> simp [nonces, finish, move, Except.toOption]

theorem Sound.finish {seen : UInt64} {result : Except NonceError (Option UInt64)} (h : s.Sound)
    (hnone : result.toOption.join = none) (hbase : seen = 0 ∨ seen = s.entropyBase)
    (hseen : (s.threads thread).seen ≠ 0 → seen ≠ 0) (hok : result.isOk = true → seen ≠ 0)
    (herror : ∀ e, result = .error e → (s.threads thread).seen = 0) :
    (s.finish thread seen result).Sound := by
  have hmoved : (s.move thread ⟨.idle, seen⟩).Sound := h.move ⟨hbase, trivial⟩ hseen
  have hnonces : (s.finish thread seen result).nonces = s.nonces := by
    rw [nonces_finish, hnone, Option.toList_none, List.append_nil]
  refine ⟨?_, ?_, ?_, hmoved.threads, ?_, ?_⟩
  · rw [hnonces]
    exact h.counter
  · rw [hnonces]
    exact h.nonces_eq
  · rw [hnonces]
    exact h.based
  · intro other result' hmem
    rcases List.mem_append.mp hmem with hmem | hmem
    · exact hmoved.succeeded other result' hmem
    · cases List.mem_singleton.mp hmem
      simpa [AtomicNonceGenerator.finish, AtomicNonceGenerator.move] using hok rfl
  · refine justified_concat.mpr ⟨h.failed, fun e he result' hmem ↦ ?_⟩
    exact h.succeeded thread result' hmem (herror e he)

theorem Sound.initialised {counts : Bool} (h : s.Sound) (hbase : s.entropyBase ≠ 0) :
    (s.initialised thread counts s.entropyBase).Sound := by
  cases counts with
  | true => exact h.move ⟨.inr rfl, rfl, hbase⟩ fun _ ↦ hbase
  | false =>
    exact h.finish rfl (.inr rfl) (fun _ ↦ hbase) (fun _ ↦ hbase) fun _ he ↦ by cases he

/-- The first exchange: nobody has a nonce, nobody is past `init`. -/
theorem Sound.exchanged {entropy : UInt64} (h : s.Sound) (hzero : s.entropyBase = 0)
    (hentropy : entropy ≠ 0) : { s with entropyBase := entropy }.Sound := by
  have hempty : s.nonces = [] := by
    by_contra hne
    exact h.based hne hzero
  refine ⟨h.counter, ?_, fun _ ↦ hentropy, fun other ↦ ?_, h.succeeded, h.failed⟩
  · change s.nonces = after entropy s.nonces.length
    rw [hempty]
    rfl
  · obtain ⟨hseen, hplace⟩ := h.threads other
    rw [hzero, or_self] at hseen
    refine ⟨.inl hseen, ?_⟩
    cases hat : (s.threads other).place with
    | idle | loading | checking => trivial
    | drawing => exact hseen
    | exchanging =>
      simp only [hat] at hplace ⊢
      exact hplace
    | reloading =>
      simp only [hat] at hplace
      exact absurd hzero hplace.2
    | adding =>
      simp only [hat] at hplace
      exact absurd hzero hplace.2.2

theorem Sound.counted (h : s.Sound) (hbase : s.entropyBase ≠ 0) :
    ({ s with counter := s.counter + 1 }.finish thread s.entropyBase
      (.ok (some (s.entropyBase + s.counter)))).Sound := by
  set counted : AtomicNonceGenerator := { s with counter := s.counter + 1 }
  have hnonces : (counted.finish thread s.entropyBase
      (.ok (some (s.entropyBase + s.counter)))).nonces =
        s.nonces ++ [s.entropyBase + s.counter] := nonces_finish
  have hmoved : (s.move thread ⟨.idle, s.entropyBase⟩).Sound :=
    h.move ⟨.inr rfl, trivial⟩ fun _ ↦ hbase
  refine ⟨?_, ?_, fun _ ↦ hbase, hmoved.threads, ?_, ?_⟩
  · rw [hnonces, List.length_append, List.length_singleton]
    change s.counter + 1 = _
    rw [h.counter, UInt64.ofNat_add (_ + 1)]
    rfl
  · change _ = after s.entropyBase _
    rw [hnonces, List.length_append, List.length_singleton, after_succ, ← h.nonces_eq, h.counter]
  · intro other result hmem
    rcases List.mem_append.mp hmem with hmem | hmem
    · exact hmoved.succeeded other result hmem
    · cases List.mem_singleton.mp hmem
      simpa [AtomicNonceGenerator.finish, AtomicNonceGenerator.move, counted] using hbase
  · exact justified_concat.mpr ⟨h.failed, fun _ he ↦ by cases he⟩

theorem loaded_cases (h : s.Sound) (fresh : Bool) :
    (s.loaded thread fresh = 0 ∨ s.loaded thread fresh = s.entropyBase) ∧
      (s.loaded thread fresh = 0 → (s.threads thread).seen = 0) := by
  have hseen := (h.threads thread).1
  cases fresh with
  | false => exact ⟨hseen, id⟩
  | true =>
    refine ⟨.inr rfl, fun hzero ↦ ?_⟩
    change s.entropyBase = 0 at hzero
    rwa [hzero, or_self] at hseen

theorem sound_step {label : ℕ × Act} (h : s.Sound) (hdraw : label.2 ≠ .draw (.ok 0))
    (ht : s.step label = some t) : t.Sound := by
  obtain ⟨thread, act⟩ := label
  have hthread := h.threads thread
  simp only [step] at ht
  split at ht
  · -- `init` is called
    cases ht
    exact h.move ⟨hthread.1, trivial⟩ id
  · -- `next_u64` is called
    cases ht
    exact h.move ⟨hthread.1, trivial⟩ id
  · -- its first load
    rename_i fresh hplace
    cases ht
    obtain ⟨hloaded, hzero⟩ := loaded_cases h fresh
    by_cases hbase : s.loaded thread fresh = 0
    · rw [if_pos hbase]
      exact h.move ⟨.inl hbase, trivial⟩ fun hseen ↦ absurd (hzero hbase) hseen
    · rw [if_neg hbase]
      have heq := hloaded.resolve_left hbase
      exact h.move ⟨.inr heq, heq, heq, heq ▸ hbase⟩ fun _ ↦ hbase
  · -- the load of `init`
    rename_i counts fresh hplace
    cases ht
    obtain ⟨hloaded, hzero⟩ := loaded_cases h fresh
    by_cases hbase : s.loaded thread fresh = 0
    · rw [if_pos hbase]
      exact h.move ⟨.inl hbase, hbase⟩ fun hseen ↦ absurd (hzero hbase) hseen
    · rw [if_neg hbase, hloaded.resolve_left hbase]
      exact h.initialised (hloaded.resolve_left hbase ▸ hbase)
  · -- entropy is drawn
    rename_i counts entropy hplace
    cases ht
    have hseen : (s.threads thread).seen = 0 := by
      have hsound := hthread.2
      rwa [hplace] at hsound
    have hentropy : entropy ≠ 0 := by
      rintro rfl
      exact hdraw rfl
    exact h.move ⟨.inl hseen, hseen, hentropy⟩ fun hne ↦ absurd hseen hne
  · -- the draw fails
    rename_i counts e hplace
    cases ht
    have hseen : (s.threads thread).seen = 0 := by
      have hsound := hthread.2
      rwa [hplace] at hsound
    exact h.finish rfl (.inl hseen) id (fun hok ↦ by cases hok) fun _ _ ↦ hseen
  · -- the exchange
    rename_i counts entropy hplace
    cases ht
    have hentropy : entropy ≠ 0 := by
      have hsound := hthread.2
      rw [hplace] at hsound
      exact hsound.2
    by_cases hbase : s.entropyBase = 0
    · rw [if_pos hbase]
      exact (h.exchanged hbase hentropy).initialised hentropy
    · rw [if_neg hbase]
      exact h.initialised hbase
  · -- the load after `init`
    rename_i fresh hplace
    cases ht
    obtain ⟨hseen, hbase⟩ : (s.threads thread).seen = s.entropyBase ∧ s.entropyBase ≠ 0 := by
      have hsound := hthread.2
      rwa [hplace] at hsound
    have heq : s.loaded thread fresh = s.entropyBase := by
      cases fresh with
      | false => exact hseen
      | true => rfl
    rw [heq]
    exact h.move ⟨.inr rfl, rfl, rfl, hbase⟩ fun _ ↦ hbase
  · -- the counter is bumped
    rename_i base hplace
    cases ht
    obtain ⟨rfl, hseen, hbase⟩ :
        base = s.entropyBase ∧ (s.threads thread).seen = s.entropyBase ∧ s.entropyBase ≠ 0 := by
      have hsound := hthread.2
      rwa [hplace] at hsound
    rw [hseen]
    exact h.counted hbase
  · cases ht

/-- Whatever the interleaving of the threads and however stale their relaxed loads, as long as the
operating system never draws zero, no two of the first `2 ^ 64` nonces are equal. -/
theorem nonces_distinct {labels : List (ℕ × Act)} (h : run step new labels = some s)
    (hdraws : ∀ thread, (thread, .draw (.ok 0)) ∉ labels) :
    (∃ base, s.nonces = after base s.nonces.length) ∧
    (s.nonces.length ≤ 2 ^ 64 → s.nonces.Nodup) ∧
    ∀ before thread e later, s.returned = before ++ (thread, .error e) :: later →
      ∀ result, (thread, .ok result) ∉ before := by
  have hsound : s.Sound := by
    refine run_invariant_along (Q := fun _ label ↦ label.2 ≠ .draw (.ok 0))
      (fun _ _ _ hdraw hs ht ↦ sound_step hs hdraw ht) sound_new (along_of_mem ?_) h
    rintro ⟨thread, act⟩ hmem _ rfl
    exact hdraws thread hmem
  refine ⟨⟨s.entropyBase, hsound.nonces_eq⟩, fun hlength ↦ ?_, ?_⟩
  · rw [hsound.nonces_eq]
    exact nodup_after hlength
  · intro before thread e later hreturned
    exact hsound.failed before _ later hreturned e rfl

/-- Two threads race through `init`; the one that loses the exchange takes the first number. -/
def sampleRace : List (ℕ × Act) := [(0, .nextU64), (1, .nextU64), (0, .load true), (1, .load true),
  (0, .load true), (1, .load true), (0, .draw (.ok 40)), (1, .draw (.ok 7)), (1, .exchange),
  (0, .exchange), (0, .load false), (0, .fetchAdd), (1, .load true), (1, .fetchAdd)]

theorem nonces_distinct_race :
    ∃ s, run step new sampleRace = some s ∧ s.nonces = [8, 9] ∧ s.nonces.Nodup := by
  have hrun : ((run step new sampleRace).map nonces) = some [8, 9] := by decide
  obtain ⟨s, hs, hnonces⟩ := Option.map_eq_some_iff.mp hrun
  refine ⟨s, hs, hnonces, (nonces_distinct hs ?_).2.1 ?_⟩
  · simp [sampleRace]
  · rw [hnonces]
    decide

end AtomicNonceGenerator

end MakerSdk.Quote
