import MakerSdk.Served.Message
import Mathlib.Logic.Function.Basic

namespace MakerSdk.Served

open Base.Bytes Base.Checks Base.Lists Solana Vault

abbrev FlagMap := Pubkey → Option Flags

def addAccount (flags : FlagMap) (account : AccountMeta) : FlagMap :=
  let entry := (flags account.pubkey).getD ⟨false, false⟩
  Function.update flags account.pubkey
    (some ⟨entry.signer || account.isSigner, entry.writable || account.isWritable⟩)

def addInstruction (flags : FlagMap) (ix : Instruction) : FlagMap :=
  ix.accounts.foldl addAccount
    (Function.update flags ix.programId (some ((flags ix.programId).getD ⟨false, false⟩)))

def expectedFlags (payer : Pubkey) (expected : List Instruction) : FlagMap :=
  expected.foldl addInstruction (Function.update (fun _ ↦ none) payer (some ⟨true, true⟩))

def matchAccounts (flags : FlagMap) (index : ℕ) :
    ℕ → List AccountMeta → List AccountMeta → Except VaultIntentError Unit
  | position, found :: served, wanted :: expected => do
    let wantedFlags := (flags wanted.pubkey).getD ⟨wanted.isSigner, wanted.isWritable⟩
    refuse (found.pubkey ≠ wanted.pubkey ∨ found.isSigner ≠ wantedFlags.signer ∨
        found.isWritable ≠ wantedFlags.writable)
      (.account index position wanted.pubkey wantedFlags.signer wantedFlags.writable
        found.pubkey found.isSigner found.isWritable)
    matchAccounts flags index (position + 1) served expected
  | _, _, _ => pure ()

def firstDifference (served expected : List UInt8) : ℕ :=
  ((served.zip expected).findIdx? (fun pair ↦ pair.1 ≠ pair.2)).getD
    (min served.length expected.length)

def matchInstructions (flags : FlagMap) :
    ℕ → List Instruction → List Instruction → Except VaultIntentError Unit
  | index, served :: rest, wanted :: expected => do
    refuse (served.programId ≠ wanted.programId) (.program index wanted.programId served.programId)
    refuse (served.accounts.length ≠ wanted.accounts.length)
      (.accountCount index wanted.accounts.length served.accounts.length)
    matchAccounts flags index 0 served.accounts wanted.accounts
    refuse (served.data ≠ wanted.data) (.data index (firstDifference served.data wanted.data))
    matchInstructions flags (index + 1) rest expected
  | _, _, _ => pure ()

def matchKeys (flags : FlagMap) : List (Pubkey × Flags) → Except VaultIntentError Unit
  | [] => pure ()
  | (key, found) :: keys =>
    match flags key with
    | none => .error (.unexpectedAccount key)
    | some wanted => do
      refuse (found.signer ∧ ¬ wanted.signer) (.unexpectedSigner key)
      refuse (found ≠ wanted) (.privilege key wanted.writable found.writable)
      matchKeys flags keys

def requirePayer (payer : Pubkey) (keys : List (Pubkey × Flags)) : Except VaultIntentError Unit :=
  match keys.head? with
  | some (found, _) => refuse (found ≠ payer) (.feePayer payer found)
  | none => pure ()

def ServedMessage.matches (served : ServedMessage) (payer : Pubkey) (expected : List Instruction) :
    Except VaultIntentError VerifiedTransaction := do
  let flags := expectedFlags payer expected
  requirePayer payer served.keys
  refuse (served.instructions.length ≠ expected.length)
    (.instructionCount expected.length served.instructions.length)
  matchInstructions flags 0 served.instructions expected
  matchKeys flags served.keys
  pure served.transaction

def Used (payer : Pubkey) (expected : List Instruction) (key : Pubkey) : Prop :=
  key = payer ∨ ∃ ix ∈ expected, ix.programId = key ∨ ∃ account ∈ ix.accounts, account.pubkey = key

instance (payer : Pubkey) (expected : List Instruction) (key : Pubkey) :
    Decidable (Used payer expected key) :=
  inferInstanceAs (Decidable (_ ∨ _))

def unionFlags (payer : Pubkey) (expected : List Instruction) (key : Pubkey) : Flags :=
  ⟨key = payer ∨ ∃ ix ∈ expected, ∃ account ∈ ix.accounts,
      account.pubkey = key ∧ account.isSigner = true,
    key = payer ∨ ∃ ix ∈ expected, ∃ account ∈ ix.accounts,
      account.pubkey = key ∧ account.isWritable = true⟩

/-- A served transaction is the expected one: same payer, same instructions in program, data
and ordered keys, no other key, and exactly the privileges the instructions ask for. -/
structure Matches (payer : Pubkey) (expected : List Instruction) (served : ServedMessage) :
    Prop where
  feePayer : ∀ key ∈ served.keys.head?, key.1 = payer
  instructions : served.instructions.map Instruction.outline = expected.map Instruction.outline
  used : ∀ key ∈ served.keys, Used payer expected key.1
  flags : ∀ key ∈ served.keys, key.2 = unionFlags payer expected key.1

section Union

variable (flags : FlagMap) (key : Pubkey)

theorem addAccount_isSome (account : AccountMeta) :
    (addAccount flags account key).isSome = true ↔
      (flags key).isSome = true ∨ account.pubkey = key := by
  by_cases h : key = account.pubkey
  · simp [addAccount, h]
  · simp [addAccount, Function.update_of_ne h, Ne.symm h]

theorem addAccount_any {field : Flags → Bool} {asked : AccountMeta → Bool}
    (hfield : ∀ f : Flags, ∀ a : AccountMeta, field ⟨f.signer || a.isSigner,
      f.writable || a.isWritable⟩ = (field f || asked a)) (hnone : field ⟨false, false⟩ = false)
    (account : AccountMeta) : (addAccount flags account key).any field = true ↔
      (flags key).any field = true ∨ account.pubkey = key ∧ asked account = true := by
  by_cases h : key = account.pubkey
  · subst h
    have hnew := hfield ⟨false, false⟩ account
    simp only [hnone, Bool.false_or] at hnew
    cases hf : flags account.pubkey <;> simp [addAccount, hf, hfield, hnew]
  · simp [addAccount, Function.update_of_ne h, Ne.symm h]

theorem update_program_isSome (program : Pubkey) :
    (Function.update flags program (some ((flags program).getD ⟨false, false⟩)) key).isSome = true ↔
      (flags key).isSome = true ∨ program = key := by
  by_cases h : key = program
  · simp [h]
  · simp [Function.update_of_ne h, Ne.symm h]

theorem update_program_any {field : Flags → Bool} (hnone : field ⟨false, false⟩ = false)
    (program : Pubkey) :
    (Function.update flags program (some ((flags program).getD ⟨false, false⟩)) key).any field =
      (flags key).any field := by
  by_cases h : key = program
  · subst h
    cases hf : flags key <;> simp [hnone]
  · simp [Function.update_of_ne h]

theorem addInstruction_isSome (ix : Instruction) :
    (addInstruction flags ix key).isSome = true ↔ (flags key).isSome = true ∨
      (ix.programId = key ∨ ∃ account ∈ ix.accounts, account.pubkey = key) := by
  have h := foldl_iff (P := fun F : FlagMap ↦ (F key).isSome = true)
    (fun F a ↦ addAccount_isSome F key a)
  rw [addInstruction, h, update_program_isSome, or_assoc]

theorem addInstruction_any {field : Flags → Bool} {asked : AccountMeta → Bool}
    (hfield : ∀ f : Flags, ∀ a : AccountMeta, field ⟨f.signer || a.isSigner,
      f.writable || a.isWritable⟩ = (field f || asked a)) (hnone : field ⟨false, false⟩ = false)
    (ix : Instruction) : (addInstruction flags ix key).any field = true ↔
      (flags key).any field = true ∨
        ∃ account ∈ ix.accounts, account.pubkey = key ∧ asked account = true := by
  have h := foldl_iff (P := fun F : FlagMap ↦ (F key).any field = true)
    (fun F a ↦ addAccount_any F key hfield hnone a)
  rw [addInstruction, h, update_program_any flags key hnone]

end Union

variable {expected : List Instruction} {payer : Pubkey}

theorem expectedFlags_isSome {key : Pubkey} :
    (expectedFlags payer expected key).isSome = true ↔ Used payer expected key := by
  have hfold := foldl_iff (P := fun F : FlagMap ↦ (F key).isSome = true)
    (fun F ix ↦ addInstruction_isSome F key ix)
  rw [expectedFlags, hfold, Used]
  by_cases h : key = payer
  · simp [h]
  · simp [h]

theorem expectedFlags_any (payer : Pubkey) (expected : List Instruction) (key : Pubkey)
    (field : Flags → Bool) (asked : AccountMeta → Bool)
    (hfield : ∀ f : Flags, ∀ a : AccountMeta, field ⟨f.signer || a.isSigner,
      f.writable || a.isWritable⟩ = (field f || asked a)) (hnone : field ⟨false, false⟩ = false)
    (hall : field ⟨true, true⟩ = true) :
    (expectedFlags payer expected key).any field = true ↔ key = payer ∨
      ∃ ix ∈ expected, ∃ account ∈ ix.accounts, account.pubkey = key ∧ asked account = true := by
  have hfold := foldl_iff (P := fun F : FlagMap ↦ (F key).any field = true)
    (fun F ix ↦ addInstruction_any F key hfield hnone ix)
  rw [expectedFlags, hfold]
  by_cases h : key = payer
  · simp [h, hall]
  · simp [h]

theorem expectedFlags_eq_some {key : Pubkey} {f : Flags} :
    expectedFlags payer expected key = some f ↔
      Used payer expected key ∧ f = unionFlags payer expected key := by
  rw [← expectedFlags_isSome]
  have hs := expectedFlags_any payer expected key Flags.signer AccountMeta.isSigner
    (fun _ _ ↦ rfl) rfl rfl
  have hw := expectedFlags_any payer expected key Flags.writable AccountMeta.isWritable
    (fun _ _ ↦ rfl) rfl rfl
  cases he : expectedFlags payer expected key with
  | none => simp
  | some g =>
    rw [he, Option.any_some] at hs hw
    have hg : g = unionFlags payer expected key := by
      simp only [unionFlags, ← hs, ← hw, Bool.decide_eq_true]
    simp [hg, eq_comm]

theorem matchAccounts_ok {flags : FlagMap} {index : ℕ} {served expected : List AccountMeta}
    (hlen : served.length = expected.length) (position : ℕ) :
    matchAccounts flags index position served expected = .ok () ↔
      List.Forall₂ (fun s e ↦ s.pubkey = e.pubkey ∧ (⟨s.isSigner, s.isWritable⟩ : Flags) =
        (flags e.pubkey).getD ⟨e.isSigner, e.isWritable⟩) served expected := by
  induction served generalizing expected position with
  | nil =>
    obtain rfl := List.eq_nil_of_length_eq_zero hlen.symm
    simp [matchAccounts]
  | cons s served ih =>
    cases expected with
    | nil => simp at hlen
    | cons e expected =>
      simp only [matchAccounts, bind_ok, refuse_ok, exists_const, List.forall₂_cons,
        ih (Nat.succ.inj hlen)]
      cases (flags e.pubkey).getD ⟨e.isSigner, e.isWritable⟩
      simp only [ne_eq, not_or, not_not, Flags.mk.injEq]

theorem matchInstructions_ok {flags : FlagMap} {served expected : List Instruction}
    (hlen : served.length = expected.length) (index : ℕ) :
    matchInstructions flags index served expected = .ok () ↔
      List.Forall₂ (fun s e ↦ s.programId = e.programId ∧ s.data = e.data ∧
        List.Forall₂ (fun s e ↦ s.pubkey = e.pubkey ∧ (⟨s.isSigner, s.isWritable⟩ : Flags) =
          (flags e.pubkey).getD ⟨e.isSigner, e.isWritable⟩) s.accounts e.accounts)
        served expected := by
  induction served generalizing expected index with
  | nil =>
    obtain rfl := List.eq_nil_of_length_eq_zero hlen.symm
    simp [matchInstructions]
  | cons s served ih =>
    cases expected with
    | nil => simp at hlen
    | cons e expected =>
      simp only [matchInstructions, bind_ok, refuse_ok, exists_const, List.forall₂_cons,
        ih (Nat.succ.inj hlen), ne_eq, not_not]
      constructor
      · rintro ⟨hp, hl, _, ha, hd, hrest⟩
        exact ⟨⟨hp, hd, (matchAccounts_ok hl 0).mp ha⟩, hrest⟩
      · rintro ⟨⟨hp, hd, ha⟩, hrest⟩
        exact ⟨hp, ha.length_eq, (), (matchAccounts_ok ha.length_eq 0).mpr ha, hd, hrest⟩

variable {keys : List (Pubkey × Flags)}

theorem matchKeys_ok {flags : FlagMap} :
    matchKeys flags keys = .ok () ↔ ∀ key ∈ keys, flags key.1 = some key.2 := by
  induction keys with
  | nil => simp [matchKeys]
  | cons key keys ih =>
    obtain ⟨key, found⟩ := key
    cases hf : flags key with
    | none => simp [matchKeys, hf]
    | some wanted =>
      simp only [matchKeys, hf, bind_ok, refuse_ok, exists_const, ih, List.forall_mem_cons,
        Option.some.injEq, ne_eq, not_not]
      constructor
      · rintro ⟨-, rfl, h⟩
        exact ⟨rfl, h⟩
      · rintro ⟨rfl, h⟩
        exact ⟨by simp, rfl, h⟩

theorem requirePayer_ok :
    requirePayer payer keys = .ok () ↔ ∀ key ∈ keys.head?, key.1 = payer := by
  cases keys with
  | nil => simp [requirePayer]
  | cons key keys => simp [requirePayer]

variable {served : ServedMessage}

theorem matches_ok {transaction : VerifiedTransaction}
    (hres : ∀ ix ∈ served.instructions, ∀ account ∈ ix.accounts,
      (account.pubkey, ⟨account.isSigner, account.isWritable⟩) ∈ served.keys) :
    served.matches payer expected = .ok transaction ↔
      Matches payer expected served ∧ transaction = served.transaction := by
  simp only [ServedMessage.matches, bind_ok, refuse_ok, exists_const, pure_ok, ne_eq, not_not]
  constructor
  · rintro ⟨_, hp, hl, _, hi, _, hk, rfl⟩
    have hkeys := fun key hkey ↦ expectedFlags_eq_some.mp (matchKeys_ok.mp hk key hkey)
    refine ⟨⟨requirePayer_ok.mp hp, ?_, fun key hkey ↦ (hkeys key hkey).1,
      fun key hkey ↦ (hkeys key hkey).2⟩, rfl⟩
    refine map_eq_map_iff_forall₂.mpr (((matchInstructions_ok hl 0).mp hi).imp ?_)
    intro s e h
    have hkeys : s.accounts.map (fun account ↦ some account.pubkey) =
        e.accounts.map (fun account ↦ some account.pubkey) :=
      map_eq_map_iff_forall₂.mpr (h.2.2.imp (fun _ _ h ↦ congrArg some h.1))
    rw [Instruction.outline, Instruction.outline, h.1, h.2.1, hkeys]
  · rintro ⟨hm, rfl⟩
    have hkeys : ∀ key ∈ served.keys, expectedFlags payer expected key.1 = some key.2 :=
      fun key hkey ↦ expectedFlags_eq_some.mpr ⟨hm.used key hkey, hm.flags key hkey⟩
    have hforall := map_eq_map_iff_forall₂.mp hm.instructions
    have hl := hforall.length_eq
    refine ⟨(), requirePayer_ok.mpr hm.feePayer, hl, (), (matchInstructions_ok hl 0).mpr ?_, (),
      matchKeys_ok.mpr hkeys, rfl⟩
    refine ((List.forall₂_and_left _ _).mpr ⟨hres, hforall⟩).imp ?_
    rintro s e ⟨hs, houtline⟩
    simp only [Instruction.outline, Prod.mk.injEq, Option.some.injEq] at houtline
    obtain ⟨hprogram, haccounts, hdata⟩ := houtline
    refine ⟨hprogram, hdata, ((List.forall₂_and_left _ _).mpr
      ⟨hs, map_eq_map_iff_forall₂.mp haccounts⟩).imp ?_⟩
    rintro a b ⟨ha, hab⟩
    have hab' := Option.some.inj hab
    exact ⟨hab', by rw [← hab', hkeys _ ha]; rfl⟩

variable {tables : List AddressLookupTableAccount} {t : Transaction}

theorem Resolved.account_mem (h : Resolved tables t served) :
    ∀ ix ∈ served.instructions, ∀ account ∈ ix.accounts,
      (account.pubkey, ⟨account.isSigner, account.isWritable⟩) ∈ served.keys := by
  intro ix hix account haccount
  obtain ⟨c, -, hc⟩ := exists_of_forall₂ h.instructions hix
  obtain ⟨i, -, hi⟩ := exists_of_forall₂ hc.accounts haccount
  exact List.mem_of_getElem? hi

theorem decode_account_mem {P : Platform} {text : String}
    (h : ServedMessage.decode P text tables = .ok served) :
    ∀ ix ∈ served.instructions, ∀ account ∈ ix.accounts,
      (account.pubkey, ⟨account.isSigner, account.isWritable⟩) ∈ served.keys := by
  obtain ⟨_, _, _, _, _, hres, _⟩ := ServedMessage.decode_ok.mp h
  exact hres.account_mem

theorem Resolves.outline_eq {c : CompiledInstruction} {ix : Instruction} (h : c.Resolves keys ix) :
    c.outline keys = ix.outline := by
  have haccounts : c.accounts.map (fun i ↦ keys[i.toNat]?.map Prod.fst) =
      ix.accounts.map (fun account ↦ some account.pubkey) :=
    map_eq_map_iff_forall₂.mpr (h.accounts.imp (fun i account hi ↦ by simp [hi]))
  rw [CompiledInstruction.outline, Instruction.outline, h.program, haccounts, h.data]

theorem map_outline_eq {cs : List CompiledInstruction} {ixs : List Instruction}
    (h : List.Forall₂ (CompiledInstruction.Resolves keys) cs ixs) :
    cs.map (CompiledInstruction.outline keys) = ixs.map Instruction.outline :=
  map_eq_map_iff_forall₂.mpr (h.imp (fun _ _ hr ↦ Resolves.outline_eq hr))

theorem exists_head_loadedKeys (tables : List AddressLookupTableAccount) (h : t.HeaderValid) :
    ∃ key, t.staticKeys.head? = some key ∧
      (t.loadedKeys tables).head? = some (key, t.staticFlags 0) := by
  have hkeys := h.keys
  have hpayer := h.payer
  cases hs : t.staticKeys with
  | nil =>
    rw [hs, List.length_nil] at hkeys
    omega
  | cons key keys => exact ⟨key, rfl, by simp [Transaction.loadedKeys, hs]⟩

theorem Resolved.matches_iff (h : Resolved tables t served) (hh : t.HeaderValid) :
    Matches payer expected served ↔ t.staticKeys.head? = some payer ∧
      t.instructions.map (CompiledInstruction.outline (t.loadedKeys tables)) =
        expected.map Instruction.outline ∧
        (∀ key ∈ t.loadedKeys tables, Used payer expected key.1) ∧
          ∀ key ∈ t.loadedKeys tables, key.2 = unionFlags payer expected key.1 := by
  obtain ⟨key, hkey, hhead⟩ := exists_head_loadedKeys tables hh
  have hpayer : (∀ key ∈ served.keys.head?, key.1 = payer) ↔ t.staticKeys.head? = some payer := by
    rw [h.keys, hhead, hkey]
    simp
  have hix := h.instructions
  rw [h.keys] at hix
  rw [map_outline_eq hix, ← hpayer, ← h.keys]
  constructor
  · intro hm
    exact ⟨hm.feePayer, hm.instructions, hm.used, hm.flags⟩
  · rintro ⟨h₁, h₂, h₃, h₄⟩
    exact ⟨h₁, h₂, h₃, h₄⟩

theorem mem_loadedKeys_signer (tables : List AddressLookupTableAccount) {key : Pubkey}
    (h : key ∈ t.staticKeys.take t.requiredSigners.toNat) :
    ∃ flags, (key, flags) ∈ t.loadedKeys tables ∧ flags.signer = true := by
  obtain ⟨i, hi⟩ := List.mem_iff_getElem?.mp h
  have hlt : i < t.requiredSigners.toNat := by
    by_contra hnot
    rw [List.getElem?_eq_none (by rw [List.length_take]; omega)] at hi
    cases hi
  rw [List.getElem?_take_of_lt hlt] at hi
  refine ⟨t.staticFlags i, List.mem_append_left _ ?_, by simp [Transaction.staticFlags, hlt]⟩
  exact List.mem_iff_getElem?.mpr ⟨i, by simp [hi]⟩

theorem Resolved.signers_eq (h : Resolved tables t served) (hh : t.HeaderValid)
    (hm : Matches payer expected served)
    (hsigners : ∀ ix ∈ expected, ∀ account ∈ ix.accounts, account.isSigner = true →
      account.pubkey = payer) : served.transaction.signers = [payer] := by
  rw [h.signers]
  have hall : ∀ key ∈ t.staticKeys.take t.requiredSigners.toNat, key = payer := by
    intro key hkey
    obtain ⟨flags, hmem, hsigner⟩ := mem_loadedKeys_signer tables hkey
    rw [← h.keys] at hmem
    obtain rfl : flags = unionFlags payer expected key := hm.flags _ hmem
    rw [unionFlags, decide_eq_true_eq] at hsigner
    rcases hsigner with hpayer | ⟨ix, hix, account, haccount, rfl, hs⟩
    · exact hpayer
    · exact hsigners ix hix account haccount hs
  have hnodup : (t.staticKeys.take t.requiredSigners.toNat).Nodup := by
    have hdistinct := h.distinct
    rw [h.keys, Transaction.loadedKeys, List.map_append] at hdistinct
    have hstatic := (List.nodup_append.mp hdistinct).1
    have hmap : (t.staticKeys.mapIdx (fun i key ↦ (key, t.staticFlags i))).map Prod.fst =
        t.staticKeys := by
      apply List.ext_getElem?
      intro i
      cases hi : t.staticKeys[i]? <;> simp [hi]
    rw [hmap] at hstatic
    exact hstatic.sublist (List.take_sublist _ _)
  have hlen : (t.staticKeys.take t.requiredSigners.toNat).length = t.requiredSigners.toNat := by
    have := hh.keys
    rw [List.length_take]
    omega
  rw [List.eq_replicate_of_mem hall, List.nodup_replicate, hlen] at hnodup
  have hpos := hh.payer
  rw [List.eq_replicate_of_mem hall, hlen, show t.requiredSigners.toNat = 1 by omega]
  rfl

theorem Matches.getElem?_eq (h : Matches payer expected served) {i : ℕ} {ix : Instruction}
    (hix : expected[i]? = some ix) (haccounts : ix.accounts = []) :
    served.instructions[i]? = some ix := by
  obtain ⟨s, hs, heq⟩ := getElem?_of_forall₂ (map_eq_map_iff_forall₂.mp h.instructions) hix
  obtain ⟨program, accounts, data⟩ := s
  obtain ⟨program', accounts', data'⟩ := ix
  simp only at haccounts
  subst haccounts
  simp only [Instruction.outline, List.map_nil, Prod.mk.injEq, Option.some.injEq,
    List.map_eq_nil_iff] at heq
  obtain ⟨rfl, rfl, rfl⟩ := heq
  exact hs

end MakerSdk.Served
