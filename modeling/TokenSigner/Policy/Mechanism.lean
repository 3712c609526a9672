import TokenSigner.Slot.Filter

namespace TokenSigner

inductive Grant where
  | all
  | only (mechanisms : List Mechanism)

def Grant.contains (grant : Grant) (mechanism : Mechanism) : Bool :=
  match grant with
  | .all => true
  | .only mechanisms => mechanisms.elem mechanism

structure MechanismRule where
  slots : List SlotFilter
  grant : Grant

abbrev MechanismPolicy := List MechanismRule

def MechanismPolicy.allows (policy : MechanismPolicy) (slot : SlotIdentifier)
    (mechanism : Mechanism) : Bool :=
  policy.any fun rule => SlotFilters.cover rule.slots slot && rule.grant.contains mechanism

end TokenSigner
