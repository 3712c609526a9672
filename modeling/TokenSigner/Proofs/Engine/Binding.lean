import TokenSigner.Engine.Call
import TokenSigner.Proofs.Action

namespace TokenSigner.Engine

open TokenSigner.Action (Keeps)

variable {Q : KeyHandle → Prop} {hashing : Digest.Hashing}

def Bound (Q : KeyHandle → Prop) (engine : Engine) : Prop :=
  ∀ key, engine.key = some key → Q key

theorem keeps_initSign {key : KeyHandle} (hkey : Q key) :
    Keeps (Bound Q) (initSign hashing key) := by
  refine .get_bind fun engine _ => .bind (.ofExcept _) fun _ => .bind (.ofExcept _) fun _ => ?_
  intro _ _ bound hbound
  cases hbound
  exact hkey

theorem keeps_update (data : Bytes) : Keeps (Bound Q) (update hashing data) := by
  refine .get_bind fun engine hengine => .bind (.ofExcept _) fun _ => ?_
  cases engine.running with
  | none => exact .throw _
  | some running => exact .bind (.ofExcept _) fun _ => fun _ _ => hengine

theorem keeps_setParameters (parameters : PssParameters) :
    Keeps (Bound Q) (setParameters hashing parameters) := by
  refine .get_bind fun engine hengine => ?_
  have hset (after : Engine) (hkey : after.key = engine.key) :
      Keeps (Bound Q) (set after : Action Engine PUnit) := by
    intro _ _ key hbound
    exact hengine key (hkey ▸ hbound)
  have hreplace : Keeps (Bound Q) (replaceParameters hashing parameters engine) := by
    refine .bind (hset _ rfl) fun _ => .ite (fun _ => ?_) fun _ => .pure _
    exact .bind (.ofExcept _) fun _ => hset _ rfl
  cases engine.scheme with
  | pkcs1 | ecdsa => exact .throw _
  | pss fixed =>
    -- What follows a refusal is not reached.
    refine .ite (fun _ _ hbound => hbound) fun _ => ?_
    cases fixed with
    | none => exact hreplace
    | some digest => exact .ite (fun _ _ hbound => hbound) fun _ => hreplace

theorem keeps_finish : Keeps (Bound Q) (finish hashing) := by
  refine .get_bind fun engine hengine => .bind (.ofExcept _) fun _ => .bind ?_ fun _ => ?_
  · exact fun _ _ => hengine
  · split
    · exact .throw _
    · exact .throw _
    · exact .bind (.ofExcept _) fun _ => .pure _

theorem keeps_order : Keeps (Bound Q) (order hashing) := by
  refine .bind keeps_finish fun found => .get_bind fun engine _ => ?_
  obtain ⟨key, hash⟩ := found
  dsimp only
  split
  · exact .pure _
  · exact .bind (.ofExcept _) fun _ => .pure _
  · exact .pure _

theorem keeps_orderEncoding : Keeps (Bound Q) (orderEncoding hashing) := by
  refine .get_bind fun engine _ => ?_
  split
  · exact .throw _
  · exact .throw _
  · refine .bind keeps_finish fun found => .get_bind fun engine _ => ?_
    exact .bind (.ofExcept _) fun _ => .pure _

theorem key_of_finish {engine after : Engine} {key : KeyHandle} {hash : Bytes}
    (h : (finish hashing).run engine = (.ok (key, hash), after)) : engine.key = some key := by
  unfold finish at h
  rw [Action.run_get_bind, Action.run_ofExcept_bind_eq_ok] at h
  obtain ⟨-, -, hrest⟩ := h
  obtain ⟨-, ended, -, hanswer⟩ := Action.run_bind_eq_ok.mp hrest
  split at hanswer
  · cases hanswer
  · cases hanswer
  · next hkey =>
    rw [Action.run_ofExcept_bind_eq_ok] at hanswer
    obtain ⟨_, -, hfinished⟩ := hanswer
    cases hfinished
    exact hkey

theorem key_of_order {engine after : Engine} {order : Order}
    (h : (Engine.order hashing).run engine = (.ok order, after)) : engine.key = some order.key := by
  unfold Engine.order at h
  obtain ⟨⟨key, hash⟩, ended, hfinish, hrest⟩ := Action.run_bind_eq_ok.mp h
  rw [key_of_finish hfinish]
  rw [Action.run_get_bind] at hrest
  split at hrest
  · cases hrest
    rfl
  · rw [Action.run_ofExcept_bind_eq_ok] at hrest
    obtain ⟨parameters, -, hanswer⟩ := hrest
    cases hanswer
    rfl
  · cases hrest
    rfl

theorem key_of_orderEncoding {engine after : Engine} {key : KeyHandle}
    {parameters : PssParameters} {hash : Bytes}
    (h : (orderEncoding hashing).run engine = (.ok (key, parameters, hash), after)) :
    engine.key = some key := by
  unfold orderEncoding at h
  rw [Action.run_get_bind] at h
  split at h
  · cases h
  · cases h
  · obtain ⟨⟨bound, digest⟩, ended, hfinish, hrest⟩ := Action.run_bind_eq_ok.mp h
    rw [Action.run_get_bind, Action.run_ofExcept_bind_eq_ok] at hrest
    obtain ⟨current, -, hanswer⟩ := hrest
    cases hanswer
    exact key_of_finish hfinish

end TokenSigner.Engine
