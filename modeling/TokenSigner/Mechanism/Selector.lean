import TokenSigner.Error
import TokenSigner.Literal

namespace TokenSigner.Mechanism

inductive Selector where
  | all
  | code (mechanism : Mechanism)
  deriving DecidableEq, Repr

def select? (token : String) : Option Selector :=
  let word := Text.normalize token
  if word = "ALL".toList then some .all
  else if "CKM_".toList.isPrefixOf word then (ofName? (String.ofList word)).map .code
  else match Literal.parse? true word with
    | some code => some (.code code)
    | none => (ofName? (String.ofList ("CKM_".toList ++ word))).map .code

def resolve (token : String) : Except Error Selector :=
  match select? token with
  | some selector => .ok selector
  | none => .error (.unknownMechanism token)

def resolveCode (token : String) : Except Error Mechanism :=
  match resolve token with
  | .ok (.code mechanism) => .ok mechanism
  | .ok .all => .error (.manyMechanisms token)
  | .error e => .error e

end TokenSigner.Mechanism
