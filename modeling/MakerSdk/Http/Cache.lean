import MakerSdk.Base.Runs
import Mathlib.Data.List.Basic
import Mathlib.Logic.Function.Basic

namespace MakerSdk.Http

open Base Base.Runs

structure Cached where
  etag : String
  body : List UInt8
deriving DecidableEq

structure Response where
  status : ℕ
  etag : Option String
  body : List UInt8

def Response.isSuccess (response : Response) : Bool :=
  200 ≤ response.status ∧ response.status < 300

def notModified : ℕ := 304

inductive HttpError (ε : Type) where
  | request
  | status (status : ℕ) (body : List UInt8)
  | decode (error : ε)

/-- How far a `get` has come: it waits for the head of a response, has it under way, waits for the
body, or has returned, with the response it returned on. -/
inductive Progress (ε α : Type) where
  | sent
  | answered (response : Response)
  | reading (response : Response)
  | returned (response : Option Response) (result : Except (HttpError ε) α)

/-- A call of `get`; `entry` is what the cache held when the request was made, of which the
request carries the ETag. -/
structure Get (ε α : Type) where
  path : String
  entry : Option Cached
  progress : Progress ε α

def Get.ifNoneMatch {ε α : Type} (get : Get ε α) : Option String := get.entry.map Cached.etag

structure Client (ε α : Type) where
  current : String → Option Cached
  cache : String → Option Cached
  gets : List (Get ε α)

inductive Label where
  | publish (path : String) (content : Cached)
  | start (path : String)
  | answer (index : ℕ) (response : Response)
  | head (index : ℕ)
  | body (index : ℕ)
  | fail (index : ℕ)

section Steps

variable {ε α : Type} (decode : List UInt8 → Except ε α)

def Get.onHead (cache : String → Option Cached) (get : Get ε α) (response : Response) :
    Get ε α :=
  match if response.status = notModified then cache get.path else none with
  | some cached =>
    { get with progress := .returned (some response) ((decode cached.body).mapError .decode) }
  | none => { get with progress := .reading response }

def Get.onBody (cache : String → Option Cached) (get : Get ε α) (response : Response) :
    (String → Option Cached) × Except (HttpError ε) α :=
  if ¬response.isSuccess then (cache, .error (.status response.status response.body))
  else
    match decode response.body with
    | .error error => (cache, .error (.decode error))
    | .ok value =>
      match response.etag with
      | some etag => (Function.update cache get.path (some ⟨etag, response.body⟩), .ok value)
      | none => (cache, .ok value)

/-- The server says that nothing was modified only to the ETag of what it has. -/
def Client.mayAnswer (s : Client ε α) (get : Get ε α) (response : Response) : Bool :=
  response.status ≠ notModified ∨
    (get.ifNoneMatch.isSome ∧ (s.current get.path).map Cached.etag = get.ifNoneMatch)

def Client.set (s : Client ε α) (index : ℕ) (get : Get ε α) : Client ε α :=
  { s with gets := s.gets.set index get }

def Client.step (s : Client ε α) : Label → Option (Client ε α)
  | .publish path content =>
    some { s with current := Function.update s.current path (some content) }
  | .start path => some { s with gets := s.gets ++ [⟨path, s.cache path, .sent⟩] }
  | .answer index response =>
    s.gets[index]?.bind fun get ↦
      match get.progress with
      | .sent =>
        if s.mayAnswer get response then
          some (s.set index { get with progress := .answered response })
        else none
      | _ => none
  | .head index =>
    s.gets[index]?.bind fun get ↦
      match get.progress with
      | .answered response => some (s.set index (get.onHead decode s.cache response))
      | _ => none
  | .body index =>
    s.gets[index]?.bind fun get ↦
      match get.progress with
      | .reading response =>
        let read := get.onBody decode s.cache response
        some ({ s with cache := read.1 }.set index
          { get with progress := .returned (some response) read.2 })
      | _ => none
  | .fail index =>
    s.gets[index]?.bind fun get ↦
      match get.progress with
      | .returned .. => none
      | _ => some (s.set index { get with progress := .returned none (.error .request) })

def Client.init (current : String → Option Cached) : Client ε α := ⟨current, fun _ ↦ none, []⟩

def Response.stored (response : Response) : Option Cached :=
  if response.isSuccess ∧ (decode response.body).isOk then
    response.etag.map (⟨·, response.body⟩)
  else none

/-- A call that was answered with a 304 and is yet to read the cache for it. -/
def Get.isRevalidated (get : Get ε α) : Bool :=
  match get.progress with
  | .answered response => response.status = notModified
  | _ => false

/-- When a 304 comes, the cache holds the entry that the call has sent the ETag of, and no other is
stored for the path before the call reads it. -/
def Client.undisturbed (s : Client ε α) : Label → Bool
  | .answer index response =>
    s.gets[index]?.all fun get ↦
      decide (response.status = notModified → s.cache get.path = get.entry)
  | .body index =>
    s.gets[index]?.all fun get ↦
      match get.progress with
      | .reading response =>
        (response.stored decode).all fun content ↦ s.gets.all fun other ↦
          decide (other.isRevalidated = true → other.path = get.path →
            other.entry = some content)
      | _ => true
  | _ => true

end Steps

section Validated

variable {ε α : Type} {decode : List UInt8 → Except ε α} {s t : Client ε α}
  {cache cache' : String → Option Cached} {get : Get ε α}

theorem onBody_cache {response : Response} :
    (get.onBody decode cache response).1 =
      (response.stored decode).elim cache (Function.update cache get.path ∘ some) := by
  unfold Get.onBody Response.stored
  by_cases hs : response.isSuccess = true
  · cases hd : decode response.body with
    | error error => simp [hs, Except.isOk, Except.toBool]
    | ok value => cases response.etag <;> simp [hs, Except.isOk, Except.toBool]
  · simp [hs]

theorem kept_onBody {response : Response} {path : String} {entry : Option Cached}
    (hkept : cache path = entry)
    (hsame : ∀ content, response.stored decode = some content → path = get.path →
      entry = some content) :
    (get.onBody decode cache response).1 path = entry := by
  rw [onBody_cache]
  cases hstored : response.stored decode with
  | none => exact hkept
  | some content =>
    rw [Option.elim_some, Function.comp_apply]
    by_cases hpath : path = get.path
    · rw [hsame content hstored hpath, hpath, Function.update_self]
    · rw [Function.update_of_ne hpath, hkept]

/-- What is known of a call: a 304 answers an ETag, whose entry is there until the call reads it,
and one that has returned on a 304 has returned that entry's body. -/
structure Get.Validated (decode : List UInt8 → Except ε α) (cache : String → Option Cached)
    (get : Get ε α) : Prop where
  kept : get.isRevalidated = true → get.entry.isSome = true ∧ cache get.path = get.entry
  reading : ∀ response, get.progress = .reading response → response.status ≠ notModified
  returned : ∀ response result, get.progress = .returned (some response) result →
    response.status = notModified →
      ∃ entry, get.entry = some entry ∧ result = (decode entry.body).mapError .decode

theorem Get.Validated.of_cache (h : get.Validated decode cache)
    (hcache : get.isRevalidated = true → cache' get.path = get.entry) :
    get.Validated decode cache' :=
  ⟨fun hwaits ↦ ⟨(h.kept hwaits).1, hcache hwaits⟩, h.reading, h.returned⟩

theorem validated_failed : (Get.mk get.path get.entry
    (.returned none (.error .request))).Validated decode cache :=
  ⟨fun h ↦ (by cases h), fun _ h ↦ (by cases h), fun _ _ h ↦ (by cases h)⟩

theorem Get.Validated.onHead {response : Response} (h : get.Validated decode cache)
    (hprogress : get.progress = .answered response) :
    (get.onHead decode cache response).Validated decode cache := by
  by_cases hs : response.status = notModified
  · obtain ⟨hsome, hcache⟩ := h.kept (by simp [Get.isRevalidated, hprogress, hs])
    obtain ⟨entry, hentry⟩ := Option.isSome_iff_exists.mp hsome
    rw [Get.onHead, if_pos hs, hcache.trans hentry]
    refine ⟨fun h ↦ (by cases h), fun _ h ↦ (by cases h), ?_⟩
    intro _ _ hreturned _
    cases hreturned
    exact ⟨entry, hentry, rfl⟩
  · rw [Get.onHead, if_neg hs]
    refine ⟨fun h ↦ (by cases h), ?_, fun _ _ h ↦ (by cases h)⟩
    intro _ hreading
    cases hreading
    exact hs

theorem Get.Validated.onBody {response : Response} {result : Except (HttpError ε) α}
    (h : get.Validated decode cache) (hprogress : get.progress = .reading response) :
    (Get.mk get.path get.entry (.returned (some response) result)).Validated decode cache' := by
  refine ⟨fun h ↦ (by cases h), fun _ h ↦ (by cases h), ?_⟩
  intro _ _ hreturned hs
  cases hreturned
  exact absurd hs (h.reading response hprogress)

theorem validated_set {index : ℕ} {gets : List (Get ε α)}
    (h : ∀ get ∈ gets, get.Validated decode cache) (hget : get.Validated decode cache) :
    ∀ other ∈ gets.set index get, other.Validated decode cache := by
  intro other hmem
  rcases List.mem_or_eq_of_mem_set hmem with hmem | rfl
  · exact h other hmem
  · exact hget

theorem validated_step {label : Label} (hq : s.undisturbed decode label = true)
    (h : ∀ get ∈ s.gets, get.Validated decode s.cache) (ht : s.step decode label = some t) :
    ∀ get ∈ t.gets, get.Validated decode t.cache := by
  cases label with
  | publish path content =>
    cases ht
    exact h
  | start path =>
    cases ht
    intro get hmem
    rcases List.mem_append.mp hmem with hmem | hmem
    · exact h get hmem
    · rw [List.mem_singleton.mp hmem]
      exact ⟨fun h ↦ (by cases h), fun _ h ↦ (by cases h), fun _ _ h ↦ (by cases h)⟩
  | answer index response =>
    obtain ⟨get, hget, ht⟩ := Option.bind_eq_some_iff.mp ht
    split at ht
    · split at ht
      · rename_i hmay
        cases ht
        refine validated_set h ⟨fun hwaits ↦ ?_, fun _ h ↦ (by cases h), fun _ _ h ↦ (by cases h)⟩
        have hs : response.status = notModified := of_decide_eq_true hwaits
        simp only [Client.undisturbed, hget, Option.all_some, decide_eq_true_eq] at hq
        rcases of_decide_eq_true hmay with hother | ⟨hsent, -⟩
        · exact absurd hs hother
        · exact ⟨by simpa [Get.ifNoneMatch] using hsent, hq hs⟩
      · cases ht
    · cases ht
  | head index =>
    obtain ⟨get, hget, ht⟩ := Option.bind_eq_some_iff.mp ht
    split at ht
    · rename_i response hprogress
      cases ht
      exact validated_set h ((h get (List.mem_of_getElem? hget)).onHead hprogress)
    · cases ht
  | body index =>
    obtain ⟨get, hget, ht⟩ := Option.bind_eq_some_iff.mp ht
    dsimp only at ht
    split at ht
    · rename_i response hprogress
      cases ht
      refine validated_set (fun other hmem ↦ ?_)
        ((h get (List.mem_of_getElem? hget)).onBody hprogress)
      refine (h other hmem).of_cache fun hwaits ↦ ?_
      refine kept_onBody ((h other hmem).kept hwaits).2 fun content hstored hpath ↦ ?_
      simp only [Client.undisturbed, hget, Option.all_some, hprogress, hstored, List.all_eq_true,
        decide_eq_true_eq] at hq
      exact hq other hmem hwaits hpath
    · cases ht
  | fail index =>
    obtain ⟨get, hget, ht⟩ := Option.bind_eq_some_iff.mp ht
    split at ht
    · cases ht
    · cases ht
      exact validated_set h validated_failed

end Validated

/-- A `get` that returns on a 304 returns the body of the entry it has sent the ETag of, in every
run in which the cache holds that entry when the 304 comes and until the call has read it. -/
theorem notModified_returns_validated {ε α : Type} {decode : List UInt8 → Except ε α}
    {current : String → Option Cached} {labels : List Label} {s : Client ε α}
    (h : run (Client.step decode) (.init current) labels = some s)
    (hq : Along (Client.step decode) (fun s label ↦ s.undisturbed decode label = true)
      (.init current) labels) :
    ∀ get ∈ s.gets, ∀ response result, get.progress = .returned (some response) result →
      response.status = notModified →
        ∃ entry, get.entry = some entry ∧ result = (decode entry.body).mapError .decode := by
  have hinit : ∀ get ∈ (Client.init current : Client ε α).gets,
      get.Validated decode (Client.init current : Client ε α).cache := fun _ hmem ↦ by cases hmem
  have hvalid := run_invariant_along (I := fun s ↦ ∀ get ∈ s.gets, get.Validated decode s.cache)
    (fun _ _ _ hq hs ht ↦ validated_step hq hs ht) hinit hq h
  exact fun get hmem response result hreturned hs ↦
    (hvalid get hmem).returned response result hreturned hs

namespace Sample

def decode (body : List UInt8) : Except Unit (List UInt8) := .ok body

def path : String := "/api/v1/venue"

def old : Cached := ⟨"v1", [1]⟩

def new : Cached := ⟨"v2", [2]⟩

def current : String → Option Cached := fun _ ↦ some old

def full (content : Cached) : Response := ⟨200, some content.etag, content.body⟩

def unchanged : Response := ⟨304, some new.etag, []⟩

/-- Three calls: the first is answered with the old content, the second with the new, and the
third with a 304 to the new ETag. -/
def calls : List Label :=
  [.start path, .answer 0 (full old), .head 0, .publish path new, .start path,
    .answer 1 (full new), .head 1, .body 1, .start path, .answer 2 unchanged]

end Sample

section Samples

open Sample

theorem notModified_returns_validated_new :
    ∃ (s : Client Unit (List UInt8)) (get : Get Unit (List UInt8)),
      run (Client.step decode) (.init current) (calls ++ [.head 2, .body 0]) = some s ∧
      s.gets[2]? = some get ∧ get.entry = some new ∧
      get.progress = .returned (some unchanged) (.ok new.body) := by
  obtain ⟨s, get, hs, hget, hentry, result, hreturned⟩ :
      ∃ (s : Client Unit (List UInt8)) (get : Get Unit (List UInt8)),
        run (Client.step decode) (.init current) (calls ++ [.head 2, .body 0]) = some s ∧
        s.gets[2]? = some get ∧ get.entry = some new ∧
        ∃ result, get.progress = .returned (some unchanged) result :=
    ⟨_, _, rfl, rfl, rfl, _, rfl⟩
  have hq : Along (Client.step decode) (fun s label ↦ s.undisturbed decode label = true)
      (.init current : Client Unit (List UInt8)) (calls ++ [.head 2, .body 0]) :=
    along_of_check (by decide +kernel)
  obtain ⟨entry, hsame, hresult⟩ := notModified_returns_validated hs hq get
    (List.mem_of_getElem? hget) unchanged result hreturned rfl
  cases hentry.symm.trans hsame
  exact ⟨s, get, hs, hget, hentry, by rw [hreturned, hresult]; rfl⟩

/-- The first response is stored late, between the 304 and the second look at the cache: the third
call returns a body that the server had replaced before the call was made. -/
theorem notModified_returns_stale :
    ∃ (s : Client Unit (List UInt8)) (get : Get Unit (List UInt8)),
      run (Client.step decode) (.init current) (calls ++ [.body 0, .head 2]) = some s ∧
      s.gets[2]? = some get ∧ get.entry = some new ∧
      get.progress = .returned (some unchanged) (.ok old.body) :=
  ⟨_, _, rfl, rfl, rfl, rfl⟩

end Samples

end MakerSdk.Http
