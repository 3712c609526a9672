import Mathlib.Data.List.DropRight
import TokenSigner.MacSigner
import TokenSigner.Proofs.Digest

namespace TokenSigner.MacSigner

inductive Call where
  | update (data : Bytes)
  | sign
  | reset
  deriving DecidableEq, Repr

def perform (mac : Mac) : Call → Action MacSigner (Option Bytes)
  | .update data => do
    update data
    return none
  | .sign => some <$> sign mac
  | .reset => do
    reset
    return none

abbrev Record := List (Call × Except Error (Option Bytes))

namespace Record

def sinceReset (record : Record) : Record := record.rtakeWhile (·.1 ≠ .reset)

def taken : Call × Except Error (Option Bytes) → Bytes
  | (.update data, .ok _) => data
  | _ => []

def accepted (record : Record) : Bytes := record.sinceReset.flatMap taken

def Signed (record : Record) : Prop := ∃ entry ∈ record.sinceReset, entry.1 = .sign

variable {record : Record} {call : Call} {answer : Except Error (Option Bytes)}

theorem sinceReset_snoc_reset : sinceReset (record ++ [(.reset, answer)]) = [] := by
  simp [sinceReset]

theorem sinceReset_snoc (h : call ≠ .reset) :
    sinceReset (record ++ [(call, answer)]) = record.sinceReset ++ [(call, answer)] := by
  simp [sinceReset, h]

theorem accepted_snoc (h : call ≠ .reset) :
    accepted (record ++ [(call, answer)]) = record.accepted ++ taken (call, answer) := by
  simp [accepted, sinceReset_snoc h]

theorem signed_snoc (h : call ≠ .reset) :
    Signed (record ++ [(call, answer)]) ↔ record.Signed ∨ call = .sign := by
  simp [Signed, sinceReset_snoc h, or_and_right, exists_or]

end Record

def course (mac : Mac) (signer : MacSigner) : List Call → Record × MacSigner
  | [] => ([], signer)
  | call :: rest =>
    let (answer, next) := (perform mac call).run signer
    let (record, last) := next.course mac rest
    ((call, answer) :: record, last)

variable {mac : Mac} {digest : Digest} {key data : Bytes} {record : Record} {signer : MacSigner}

def Active (signer : MacSigner) : Prop :=
  signer.stage = .initialized ∨ signer.stage = .accumulating

theorem run_update (h : signer.Active) :
    (update data).run signer =
      (.ok (), { signer with fed := signer.fed ++ data, stage := .accumulating }) := by
  have hcheck : signer.stage.checkUpdate = .ok () := by
    rcases h with h | h <;> rw [h] <;> rfl
  simp [update, Action.run_bind, hcheck]

theorem run_sign (h : signer.Active) :
    (sign mac).run signer =
      (.ok (mac signer.digest signer.key signer.fed), { signer with stage := .finalized }) := by
  have hcheck : signer.stage.checkFinish = .ok () := by
    rcases h with h | h <;> rw [h] <;> rfl
  simp [sign, Action.run_bind, hcheck, Except.map]

theorem run_reset (signer : MacSigner) :
    reset.run signer = (.ok (), { signer with fed := [], stage := .initialized }) := rfl

theorem run_perform_finalized (mac : Mac) {call : Call} (h : signer.stage = .finalized)
    (hcall : call ≠ .reset) :
    ∃ e, e.kind = .illegalState ∧ (perform mac call).run signer = (.error e, signer) := by
  cases call with
  | update data =>
    refine ⟨.updateAfterEnd, rfl, ?_⟩
    simp [perform, update, Action.run_bind, h, Stage.checkUpdate]
  | sign =>
    refine ⟨.finishTwice, rfl, ?_⟩
    simp [perform, sign, Action.run_bind, h, Stage.checkFinish]
  | reset => exact absurd rfl hcall

structure Follows (digest : Digest) (key : Bytes) (record : Record) (signer : MacSigner) :
    Prop where
  digest_eq : signer.digest = digest
  key_eq : signer.key = key
  fed_eq : signer.fed = record.accepted
  signed : record.Signed → signer.stage = .finalized
  unsigned : ¬record.Signed → signer.Active

theorem follows_reset (h : Follows digest key record signer)
    {answer : Except Error (Option Bytes)} :
    Follows digest key (record ++ [(.reset, answer)])
      { signer with fed := [], stage := .initialized } where
  digest_eq := h.digest_eq
  key_eq := h.key_eq
  fed_eq := by simp [Record.accepted, Record.sinceReset_snoc_reset]
  signed hsigned := by simp [Record.Signed, Record.sinceReset_snoc_reset] at hsigned
  unsigned _ := Or.inl rfl

theorem follows_refused (h : Follows digest key record signer) (hsigned : record.Signed)
    {call : Call} (hcall : call ≠ .reset) (e : Error) :
    Follows digest key (record ++ [(call, .error e)]) signer where
  digest_eq := h.digest_eq
  key_eq := h.key_eq
  fed_eq := by
    rw [Record.accepted_snoc hcall, h.fed_eq]
    cases call <;> simp [Record.taken]
  signed _ := h.signed hsigned
  unsigned hunsigned := by
    rw [Record.signed_snoc hcall] at hunsigned
    exact absurd (Or.inl hsigned) hunsigned

theorem follows_update (h : Follows digest key record signer) (hunsigned : ¬record.Signed) :
    Follows digest key (record ++ [(.update data, .ok none)])
      { signer with fed := signer.fed ++ data, stage := .accumulating } where
  digest_eq := h.digest_eq
  key_eq := h.key_eq
  fed_eq := by
    rw [Record.accepted_snoc (by simp), h.fed_eq]
    rfl
  signed hsigned := by
    rw [Record.signed_snoc (by simp)] at hsigned
    simp [hunsigned] at hsigned
  unsigned _ := Or.inr rfl

theorem follows_sign (h : Follows digest key record signer) (code : Bytes) :
    Follows digest key (record ++ [(.sign, .ok (some code))])
      { signer with stage := .finalized } where
  digest_eq := h.digest_eq
  key_eq := h.key_eq
  fed_eq := by
    rw [Record.accepted_snoc (by simp), h.fed_eq]
    simp [Record.taken]
  signed _ := rfl
  unsigned hunsigned := by
    rw [Record.signed_snoc (by simp)] at hunsigned
    simp at hunsigned

theorem follows_perform (mac : Mac) (h : Follows digest key record signer) (call : Call) :
    Follows digest key (record ++ [(call, ((perform mac call).run signer).1)])
      ((perform mac call).run signer).2 := by
  by_cases hreset : call = .reset
  · subst hreset
    exact follows_reset h
  · by_cases hsigned : record.Signed
    · obtain ⟨e, -, hrun⟩ := run_perform_finalized mac (h.signed hsigned) hreset
      rw [hrun]
      exact follows_refused h hsigned hreset e
    · have hactive := h.unsigned hsigned
      cases call with
      | update data =>
        rw [perform, Action.run_bind_ok (run_update hactive)]
        exact follows_update h hsigned
      | sign =>
        rw [perform, Action.run_map, run_sign hactive]
        exact follows_sign h _
      | reset => exact absurd rfl hreset

theorem follows_course (mac : Mac) (h : Follows digest key record signer) (calls : List Call) :
    Follows digest key (record ++ (signer.course mac calls).1) (signer.course mac calls).2 := by
  induction calls generalizing record signer with
  | nil => simpa [course] using h
  | cons call rest ih => simpa [course] using ih (follows_perform mac h call)

theorem course_append (mac : Mac) (signer : MacSigner) (calls more : List Call) :
    signer.course mac (calls ++ more) =
      ((signer.course mac calls).1 ++ ((signer.course mac calls).2.course mac more).1,
        ((signer.course mac calls).2.course mac more).2) := by
  induction calls generalizing signer with
  | nil => simp [course]
  | cons call rest ih => simp [course, ih]

theorem codes_what_was_accepted (mac : Mac) (digest : Digest) {key : Bytes} (hkey : key ≠ [])
    (hlength : ∀ message, (mac digest key message).length = digest.length) :
    ∃ signer, start digest key = .ok signer ∧ ∀ calls,
      let record := (signer.course mac calls).1
      let after := (signer.course mac calls).2
      (after.Active ↔ ¬record.Signed) ∧
      (after.Active →
        (sign mac).run after =
          (.ok (mac digest key record.accepted), { after with stage := .finalized }) ∧
        (mac digest key record.accepted).length = after.length ∧
        ∀ data, ∃ fed, (update data).run after = (.ok (), fed)) ∧
      (record.Signed → ∀ call, call ≠ .reset →
        ∃ e, e.kind = .illegalState ∧ (perform mac call).run after = (.error e, after)) ∧
      reset.run after = (.ok (), signer) ∧
      ∀ more, signer.course mac (calls ++ .reset :: more) =
        (record ++ (.reset, .ok none) :: (signer.course mac more).1,
          (signer.course mac more).2) := by
  have hstart : start digest key = .ok ⟨digest, key, [], .initialized⟩ := if_neg hkey
  refine ⟨_, hstart, fun calls => ?_⟩
  generalize hnew : (⟨digest, key, [], .initialized⟩ : MacSigner) = signer
  intro record after
  have hinitial : Follows digest key [] signer := by
    subst hnew
    exact ⟨rfl, rfl, rfl, by simp [Record.Signed, Record.sinceReset], fun _ => Or.inl rfl⟩
  have hfollows : Follows digest key record after := follows_course mac hinitial calls
  have hactive : after.Active ↔ ¬record.Signed := by
    refine ⟨fun hactive hsigned => ?_, hfollows.unsigned⟩
    simp [Active, hfollows.signed hsigned] at hactive
  have hreset : reset.run after = (.ok (), signer) := by
    rw [run_reset, hfollows.digest_eq, hfollows.key_eq, hnew]
  refine ⟨hactive, fun hactive => ⟨?_, ?_, fun data => ⟨_, run_update hactive⟩⟩, ?_, hreset, ?_⟩
  · rw [run_sign hactive, hfollows.digest_eq, hfollows.key_eq, hfollows.fed_eq]
  · rw [hlength, length, hfollows.digest_eq]
  · exact fun hsigned call hcall => run_perform_finalized mac (hfollows.signed hsigned) hcall
  · intro more
    have hrun : (perform mac .reset).run after = (.ok none, signer) := Action.run_bind_ok hreset _
    rw [course_append]
    simp only [course]
    rw [hrun]

theorem codes_what_was_accepted_after_a_reset :
    ([7] : Bytes) ≠ [] ∧
      (∀ message, (Digest.hmac .sha256 [7] message).length = Digest.sha256.length) ∧
      ∃ signer, start .sha256 [7] = .ok signer ∧
        ((sign Digest.hmac).run (signer.course Digest.hmac
          [.update [9], .sign, .update [8], .reset, .update [1], .update [2, 3]]).2).1 =
          .ok (Digest.sha256.hmac [7] [1, 2, 3]) := by
  have hkey : ([7] : Bytes) ≠ [] := by decide
  have hlength := Digest.length_hmac .sha256 [7]
  obtain ⟨signer, hstart, h⟩ := codes_what_was_accepted Digest.hmac .sha256 hkey hlength
  obtain ⟨hactive, hsign, -⟩ := h
    [.update [9], .sign, .update [8], .reset, .update [1], .update [2, 3]]
  cases hstart
  refine ⟨hkey, hlength, _, rfl, ?_⟩
  rw [(hsign (Or.inr rfl)).1]
  rfl

end TokenSigner.MacSigner
