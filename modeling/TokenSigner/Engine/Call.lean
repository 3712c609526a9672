import TokenSigner.Engine
import TokenSigner.TokenModule

namespace TokenSigner.Engine

inductive Call where
  | initSign (key : KeyHandle)
  | setParameters (parameters : PssParameters)
  | update (data : Bytes)
  | sign
  | encodePss
  | initVerify (key : KeyHandle)
  | verify (signature : Bytes)
  deriving DecidableEq, Repr

variable {δ ς α : Type}

abbrev Beside (δ ς : Type) := Action (Engine × TokenModule ς × Site δ ς)

def alone (step : Action Engine Unit) : Beside δ ς (Option Bytes) := do
  step.on Prod.fst fun engine (_, tokens) => (engine, tokens)
  return none

def ending (finish : Action Engine α) (slot : α → SlotIdentifier)
    (work : α → ManagedSlot.Work δ ς Bytes) : Beside δ ς (Option Bytes) := do
  let order ← finish.on Prod.fst fun engine (_, tokens) => (engine, tokens)
  some <$> (TokenModule.on (·.slot (slot order)) (work order)).on Prod.snd
    fun tokens (engine, _) => (engine, tokens)

def perform (hashing : Digest.Hashing) (device : Device δ ς) (config : ModuleConfig) :
    Call → Beside δ ς (Option Bytes)
  | .initSign key => alone (initSign hashing key)
  | .setParameters parameters => alone (setParameters hashing parameters)
  | .update data => alone (update hashing data)
  | .sign => ending (order hashing) (·.key.slot) (·.sign device config)
  | .encodePss => ending (orderEncoding hashing) (·.1.slot) fun (key, parameters, hash) =>
    (·.bytes) <$> key.encodePss parameters hash
  | .initVerify _ | .verify _ => alone verify

end TokenSigner.Engine
